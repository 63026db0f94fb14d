import PlanCode.Text.Replace

/-!
# Laws of replacing

What replacing all occurrences of a pattern does at the start of a text: an
occurrence is replaced, and a character that begins no occurrence stays.

* `replaceAll_pattern`: an occurrence at the start.
* `replaceAll_cons`: no occurrence at the start.
* `replaceAll_singleton`: a single character is replaced in every place by itself.
* `mem_replaceAll`: where the characters of the result come from.
-/
namespace PlanCode.Text

theorem replaceFrom_skip (pat rep x s : List Char) :
    replaceFrom pat rep x.length (x ++ s) = replaceFrom pat rep 0 s := by
  induction x with
  | nil => rfl
  | cons c x ih => simpa [replaceFrom] using ih

theorem replaceAll_append_of_not_mem {p : Char} {pat rep l : List Char} (h : p ∉ l)
    (s : List Char) : replaceAll (p :: pat) rep (l ++ s) = l ++ replaceAll (p :: pat) rep s := by
  unfold replaceAll
  induction l with
  | nil => rfl
  | cons c l ih =>
    rw [List.mem_cons, not_or] at h
    have hp : (p == c) = false := by simpa using h.1
    simp [replaceFrom, List.isPrefixOf, hp, ih h.2]

theorem replaceAll_pattern (p : Char) (pat rep s : List Char) :
    replaceAll (p :: pat) rep (p :: pat ++ s) = rep ++ replaceAll (p :: pat) rep s := by
  have hp : (p :: pat).isPrefixOf (p :: (pat ++ s)) = true := by simp [List.isPrefixOf]
  unfold replaceAll
  rw [List.cons_append, replaceFrom, if_pos hp]
  simp [replaceFrom_skip]

theorem replaceAll_cons {pat : List Char} {c : Char} {s : List Char} (h : ¬ pat <+: c :: s)
    (rep : List Char) : replaceAll pat rep (c :: s) = c :: replaceAll pat rep s := by
  unfold replaceAll
  rw [replaceFrom, if_neg (by rwa [List.isPrefixOf_iff_prefix])]

theorem replaceAll_singleton (c : Char) (rep s : List Char) :
    replaceAll [c] rep s = s.flatMap fun d => if d = c then rep else [d] := by
  induction s with
  | nil => rfl
  | cons d s ih =>
    rw [List.flatMap_cons, ← ih]
    by_cases hd : d = c
    · rw [if_pos hd, hd]
      exact replaceAll_pattern c [] rep s
    · rw [if_neg hd]
      exact replaceAll_cons (by simpa using Ne.symm hd) rep

/-- Replacing puts nothing into a text but the replacement. -/
theorem mem_replaceAll {pat rep s : List Char} {c : Char} (h : c ∈ replaceAll pat rep s) :
    c ∈ rep ∨ c ∈ s := by
  unfold replaceAll at h
  generalize 0 = skip at h
  induction s generalizing skip with
  | nil => simp [replaceFrom] at h
  | cons d s ih =>
    have later : ∀ skip, c ∈ replaceFrom pat rep skip s → c ∈ rep ∨ c ∈ d :: s := fun skip hc =>
      (ih skip hc).imp_right (List.mem_cons_of_mem d)
    cases skip with
    | succ skip => exact later skip h
    | zero =>
      rw [replaceFrom] at h
      split at h
      · rw [List.mem_append] at h
        rcases h with h | h
        · exact Or.inl h
        · exact later _ h
      · rw [List.mem_cons] at h
        rcases h with rfl | h
        · exact Or.inr (List.mem_cons_self ..)
        · exact later 0 h

end PlanCode.Text
