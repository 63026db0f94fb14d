/-!
# Replacing parts of a text

Left to right, without overlaps, as lists of characters.

* `replaceAll_of_not_mem`: nothing changes where the pattern's first character is absent.
* `splitOnChar_append_cons`: a text is split behind its first part, then further on.
* `splitOnChar_append_sep`: two texts with a separator between them are split each by itself.
-/
namespace PlanCode.Text

/-- `skip` counts the characters of a replaced occurrence that are still to be passed over. -/
def replaceFrom (pat rep : List Char) : Nat → List Char → List Char
  | _, [] => []
  | skip + 1, _ :: rest => replaceFrom pat rep skip rest
  | 0, c :: rest =>
    if pat.isPrefixOf (c :: rest) then rep ++ replaceFrom pat rep (pat.length - 1) rest
    else c :: replaceFrom pat rep 0 rest

/-- Every occurrence of the pattern replaced; the pattern is not empty. -/
def replaceAll (pat rep s : List Char) : List Char := replaceFrom pat rep 0 s

theorem replaceAll_of_not_mem {p : Char} {pat rep s : List Char} (h : p ∉ s) :
    replaceAll (p :: pat) rep s = s := by
  unfold replaceAll
  induction s with
  | nil => rfl
  | cons c rest ih =>
    simp only [List.mem_cons, not_or] at h
    have : (p == c) = false := by simpa using h.1
    simp [replaceFrom, List.isPrefixOf, this, ih h.2]

/-- The parts of a text between the occurrences of a character; one part when there is none. -/
def splitOnChar (sep : Char) : List Char → List (List Char)
  | [] => [[]]
  | c :: rest =>
    if c = sep then [] :: splitOnChar sep rest
    else match splitOnChar sep rest with
      | [] => [[c]]
      | part :: parts => (c :: part) :: parts

theorem splitOnChar_of_not_mem {sep : Char} {s : List Char} (h : sep ∉ s) :
    splitOnChar sep s = [s] := by
  induction s with
  | nil => rfl
  | cons c rest ih =>
    simp only [List.mem_cons, not_or] at h
    simp [splitOnChar, Ne.symm h.1, ih h.2]

theorem splitOnChar_append_cons {sep : Char} {part : List Char} (h : sep ∉ part)
    (s : List Char) : splitOnChar sep (part ++ sep :: s) = part :: splitOnChar sep s := by
  induction part with
  | nil => simp [splitOnChar]
  | cons c part ih =>
    simp only [List.mem_cons, not_or] at h
    simp [splitOnChar, Ne.symm h.1, ih h.2]

theorem splitOnChar_ne_nil (sep : Char) (s : List Char) : splitOnChar sep s ≠ [] := by
  cases s with
  | nil => simp [splitOnChar]
  | cons c rest =>
    rw [splitOnChar]
    split
    · simp
    · split <;> simp

theorem splitOnChar_append_sep (sep : Char) (s t : List Char) :
    splitOnChar sep (s ++ sep :: t) = splitOnChar sep s ++ splitOnChar sep t := by
  induction s with
  | nil => simp [splitOnChar]
  | cons c s ih =>
    rw [List.cons_append, splitOnChar, splitOnChar, ih]
    split
    · rfl
    · cases h : splitOnChar sep s with
      | nil => exact absurd h (splitOnChar_ne_nil sep s)
      | cons part parts => rfl

/-- A text without separators goes to the first part when it stands in front. -/
theorem splitOnChar_prepend {sep : Char} {p : List Char} (hp : sep ∉ p) (s : List Char) :
    ∃ first rest, splitOnChar sep s = first :: rest ∧
      splitOnChar sep (p ++ s) = (p ++ first) :: rest := by
  induction p with
  | nil =>
    obtain ⟨first, rest, h⟩ := List.exists_cons_of_ne_nil (splitOnChar_ne_nil sep s)
    exact ⟨first, rest, h, h⟩
  | cons c p ih =>
    rw [List.mem_cons, not_or] at hp
    obtain ⟨first, rest, hs, hps⟩ := ih hp.2
    refine ⟨first, rest, hs, ?_⟩
    rw [List.cons_append, splitOnChar, if_neg (Ne.symm hp.1), hps]
    rfl

/-- A text without separators goes to the last part when it stands behind. -/
theorem splitOnChar_concat (sep : Char) (s : List Char) :
    ∃ init last, ∀ t, sep ∉ t → splitOnChar sep (s ++ t) = init ++ [last ++ t] := by
  induction s with
  | nil => exact ⟨[], [], fun t ht => splitOnChar_of_not_mem ht⟩
  | cons c s ih =>
    obtain ⟨init, last, h⟩ := ih
    by_cases hc : c = sep
    · refine ⟨[] :: init, last, fun t ht => ?_⟩
      rw [List.cons_append, splitOnChar, if_pos hc, h t ht, List.cons_append]
    · cases init with
      | nil =>
        refine ⟨[], c :: last, fun t ht => ?_⟩
        rw [List.cons_append, splitOnChar, if_neg hc, h t ht]
        rfl
      | cons part parts =>
        refine ⟨(c :: part) :: parts, last, fun t ht => ?_⟩
        rw [List.cons_append, splitOnChar, if_neg hc, h t ht]
        rfl

theorem splitOnChar_intercalate (sep : Char) {parts : List (List Char)} (h : parts ≠ []) :
    splitOnChar sep ([sep].intercalate parts) = parts.flatMap (splitOnChar sep) := by
  induction parts with
  | nil => exact absurd rfl h
  | cons part parts ih =>
    cases parts with
    | nil => simp
    | cons next parts =>
      rw [List.intercalate_cons_cons, List.append_assoc, List.singleton_append,
        splitOnChar_append_sep, ih (by simp)]
      rfl

/-- Whether one text stands somewhere inside another. -/
def occursIn (pat : List Char) : List Char → Bool
  | [] => pat.isEmpty
  | c :: rest => pat.isPrefixOf (c :: rest) || occursIn pat rest

end PlanCode.Text
