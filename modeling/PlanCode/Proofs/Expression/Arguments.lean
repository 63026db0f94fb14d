import PlanCode.Profile.Expression

/-!
# Arguments of a function call, told apart

A function call is read back from left to right: a comma behind a backslash
belongs to an argument, every other comma ends one. The backslash itself is not
escaped, so an argument that ends in one is read together with the argument behind
it, and the backslash as the escape of the comma between them.

* `readArguments_joined`: the arguments that are read back.
* `merged_eq_self_iff`: when they are the arguments that were given.
* `call_eq_call_iff`: which arguments have the same call.
-/
namespace PlanCode.Expression

/-- The arguments between the commas of a call. -/
def joined (arguments : List (List Char)) : List Char :=
  [','].intercalate (arguments.map escapeCommas)

/-- A character in front of the first argument. -/
def prepend (c : Char) : List (List Char) → List (List Char)
  | [] => [[c]]
  | a :: rest => (c :: a) :: rest

def readArguments : List Char → List (List Char)
  | [] => [[]]
  | '\\' :: ',' :: s => prepend ',' (readArguments s)
  | c :: s => if c = ',' then [] :: readArguments s else prepend c (readArguments s)

/-- An argument in front of others; one that ends in a backslash goes into the first of them. -/
def merge (a : List Char) : List (List Char) → List (List Char)
  | [] => [a]
  | b :: rest =>
    if a.getLast? = some '\\' then (a.dropLast ++ ',' :: b) :: rest else a :: b :: rest

/-- The arguments, each but the last one that ends in a backslash merged with the next. -/
def merged (arguments : List (List Char)) : List (List Char) := arguments.foldr merge []

theorem merge_ne_nil (a : List Char) (rest : List (List Char)) : merge a rest ≠ [] := by
  cases rest with
  | nil => simp [merge]
  | cons b rest =>
    rw [merge]
    split <;> simp

/-! ## Reading back -/

theorem merge_cons {c : Char} {a : List Char} {rest : List (List Char)} (hr : rest ≠ [])
    (h : c ≠ '\\' ∨ a ≠ []) : merge (c :: a) rest = prepend c (merge a rest) := by
  cases rest with
  | nil => exact absurd rfl hr
  | cons b rest =>
    cases a with
    | nil =>
      have hc : c ≠ '\\' := h.resolve_right (by simp)
      simp [merge, prepend, hc]
    | cons d a =>
      simp only [merge, List.getLast?_cons_cons, List.dropLast_cons_cons]
      split <;> rfl

theorem readArguments_ne_nil (s : List Char) : readArguments s ≠ [] := by
  have hp : ∀ c (args : List (List Char)), prepend c args ≠ [] := by
    intro c args
    cases args <;> simp [prepend]
  fun_cases readArguments s with
  | case1 => simp
  | case2 s => exact hp _ _
  | case3 s hno => simp
  | case4 c s hno hc => exact hp _ _

theorem readArguments_cons {c : Char} (hc : c ≠ ',') {s : List Char}
    (h : c ≠ '\\' ∨ s.head? ≠ some ',') :
    readArguments (c :: s) = prepend c (readArguments s) := by
  rw [readArguments, if_neg hc]
  rintro t rfl rfl
  simp at h

theorem head?_escapeCommas {a : List Char} (ha : a ≠ []) (t : List Char) :
    (escapeCommas a ++ t).head? ≠ some ',' := by
  cases a with
  | nil => exact absurd rfl ha
  | cons d a =>
    by_cases hd : d = ','
    · simp [escapeCommas, hd]
    · simp [escapeCommas, hd]

/-- A character of an argument is read, unless it is a backslash in front of a comma. -/
theorem readArguments_escaped {c : Char} {a t : List Char}
    (h : c ≠ '\\' ∨ (escapeCommas a ++ t).head? ≠ some ',') :
    readArguments (escapeCommas (c :: a) ++ t) =
      prepend c (readArguments (escapeCommas a ++ t)) := by
  rw [escapeCommas, List.flatMap_cons, List.append_assoc, ← escapeCommas]
  by_cases hc : c = ','
  · subst hc
    rw [if_pos rfl]
    rfl
  · rw [if_neg hc]
    exact readArguments_cons hc h

/-- An argument is read up to the comma behind it. -/
theorem readArguments_escapeCommas (a s : List Char) :
    readArguments (escapeCommas a ++ ',' :: s) = merge a (readArguments s) := by
  obtain ⟨b, rest, hr⟩ := List.exists_cons_of_ne_nil (readArguments_ne_nil s)
  induction a with
  | nil => simp [escapeCommas, readArguments, hr, merge]
  | cons c a ih =>
    by_cases h : c = '\\' ∧ a = []
    · obtain ⟨rfl, rfl⟩ := h
      show prepend ',' (readArguments s) = _
      rw [hr]
      rfl
    · have h : c ≠ '\\' ∨ a ≠ [] := Classical.not_and_iff_not_or_not.1 h
      rw [readArguments_escaped (h.imp_right fun ha => head?_escapeCommas ha _), ih,
        merge_cons (readArguments_ne_nil s) h]

theorem readArguments_last (a : List Char) : readArguments (escapeCommas a) = [a] := by
  rw [← List.append_nil (escapeCommas a)]
  induction a with
  | nil => rfl
  | cons c a ih =>
    have h : (escapeCommas a ++ []).head? ≠ some ',' := by
      cases a with
      | nil => simp [escapeCommas]
      | cons d a => exact head?_escapeCommas (by simp) _
    rw [readArguments_escaped (Or.inr h), ih]
    rfl

theorem joined_cons_cons (a b : List Char) (rest : List (List Char)) :
    joined (a :: b :: rest) = escapeCommas a ++ ',' :: joined (b :: rest) := by
  simp [joined, List.intercalate_cons_cons]

/-- **Reading.** The arguments that a call is read with. -/
theorem readArguments_joined {arguments : List (List Char)} (h : arguments ≠ []) :
    readArguments (joined arguments) = merged arguments := by
  induction arguments with
  | nil => exact absurd rfl h
  | cons a rest ih =>
    cases rest with
    | nil => simpa [joined, merged, merge] using readArguments_last a
    | cons b rest =>
      rw [joined_cons_cons, readArguments_escapeCommas, ih (by simp)]
      rfl

/-! ## Merging -/

theorem merged_eq_nil_iff {arguments : List (List Char)} :
    merged arguments = [] ↔ arguments = [] := by
  cases arguments with
  | nil => simp [merged]
  | cons a rest => simp [merged, merge_ne_nil]

theorem joined_merge (a : List Char) (rest : List (List Char)) :
    joined (merge a rest) = joined (a :: rest) := by
  cases rest with
  | nil => rfl
  | cons b rest =>
    rw [merge]
    split
    · rename_i hl
      obtain ⟨a, rfl⟩ := List.getLast?_eq_some_iff.1 hl
      cases rest <;> simp [joined, escapeCommas, List.intercalate_cons_cons]
    · rfl

/-- Merged arguments are written like those that were merged. -/
theorem joined_merged (arguments : List (List Char)) :
    joined (merged arguments) = joined arguments := by
  induction arguments with
  | nil => rfl
  | cons a rest ih =>
    have hm : merged (a :: rest) = merge a (merged rest) := rfl
    rw [hm, joined_merge]
    cases rest with
    | nil => rfl
    | cons b rest =>
      obtain ⟨b', rest', he⟩ := List.exists_cons_of_ne_nil
        (show merged (b :: rest) ≠ [] by simp [merged_eq_nil_iff])
      rw [he] at ih ⊢
      rw [joined_cons_cons, joined_cons_cons, ih]

/-- No argument but the last one ends in a backslash. -/
def IsSeparate (arguments : List (List Char)) : Prop :=
  ∀ a ∈ arguments.dropLast, a.getLast? ≠ some '\\'

theorem length_merged_le (arguments : List (List Char)) :
    (merged arguments).length ≤ arguments.length := by
  induction arguments with
  | nil => simp [merged]
  | cons a rest ih =>
    have hm : merged (a :: rest) = merge a (merged rest) := rfl
    rw [hm]
    cases he : merged rest with
    | nil => simp [merge]
    | cons b rest' =>
      rw [he] at ih
      rw [merge]
      split
      · simp at ih ⊢
        omega
      · simpa using ih

theorem merged_eq_self_iff {arguments : List (List Char)} :
    merged arguments = arguments ↔ IsSeparate arguments := by
  induction arguments with
  | nil => simp [merged, IsSeparate]
  | cons a rest ih =>
    have hm : merged (a :: rest) = merge a (merged rest) := rfl
    rw [hm]
    cases rest with
    | nil => simp [merged, merge, IsSeparate]
    | cons b rest =>
      have hs : IsSeparate (a :: b :: rest) ↔
          a.getLast? ≠ some '\\' ∧ IsSeparate (b :: rest) := by
        simp [IsSeparate]
      obtain ⟨b', rest', he⟩ := List.exists_cons_of_ne_nil
        (show merged (b :: rest) ≠ [] by simp [merged_eq_nil_iff])
      have hl := length_merged_le (b :: rest)
      rw [hs, ← ih, he, merge]
      rw [he] at hl
      split
      · rename_i ha
        -- a merged list is shorter
        refine iff_of_false ?_ fun h => h.1 ha
        intro h
        have hl' := congrArg List.length h
        simp at hl hl'
        omega
      · rename_i ha
        simp [ha]

/-! ## Calls -/

theorem callChars_eq_iff (name : List Char) (a b : List (List Char)) :
    callChars name a = callChars name b ↔ joined a = joined b := by
  simp [callChars, joined]

theorem call_eq_iff (name : String) (a b : List String) : call name a = call name b ↔
    joined (a.map String.toList) = joined (b.map String.toList) := by
  rw [call, call, String.ofList_inj, callChars_eq_iff]

/-- **Calls.** Two lists of arguments have the same call exactly if they are the same once each
argument that ends in a backslash is merged with the next. There is nothing to merge in a list of
which no argument but the last one ends in a backslash. -/
theorem call_eq_call_iff (name : String) {a b : List String} (ha : a ≠ []) (hb : b ≠ []) :
    (call name a = call name b ↔
        merged (a.map String.toList) = merged (b.map String.toList)) ∧
      (merged (a.map String.toList) = a.map String.toList ↔ IsSeparate (a.map String.toList)) := by
  refine ⟨?_, merged_eq_self_iff⟩
  rw [call_eq_iff]
  constructor
  · intro h
    rw [← readArguments_joined (by simpa using ha), ← readArguments_joined (by simpa using hb), h]
  · intro h
    rw [← joined_merged, h, joined_merged]

/-- A backslash at the end of an argument goes with the comma behind it, here in two ways. -/
theorem call_eq_call_iff_slashes :
    ["x\\", "y,", "z"] ≠ [] ∧ ["x,y\\", "", "z"] ≠ [] ∧
      call "__f" ["x\\", "y,", "z"] = call "__f" ["x,y\\", "", "z"] ∧
      ¬ IsSeparate (["x\\", "y,", "z"].map String.toList) := by
  obtain ⟨hc, hs⟩ := call_eq_call_iff "__f" (show ["x\\", "y,", "z"] ≠ [] by simp)
    (show ["x,y\\", "", "z"] ≠ [] by simp)
  refine ⟨by simp, by simp, hc.2 (by decide), ?_⟩
  rw [← hs]
  decide

/-- Two arguments, of which the first ends in a backslash, have the call of one with a comma. -/
theorem not_call_injective : ¬ ∀ (name : String) (a b : List String), '(' ∉ name.toList →
    ')' ∉ name.toList → a ≠ [] → b ≠ [] → call name a = call name b → a = b := by
  intro h
  have he := h "__f" ["x\\", "y"] ["x,y"] (by decide) (by decide) (by simp) (by simp) (by decide)
  simp at he

end PlanCode.Expression
