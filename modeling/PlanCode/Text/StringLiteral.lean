/-!
# String literals

A text between double quotes, as Java source holds it. The backslash, the double quote, line feed,
carriage return and tab are escaped; every other character stands for itself.

* `mem_escaped_ne`: no raw line feed or carriage return is left inside a literal.
-/
namespace PlanCode.Text.StringLiteral

def escapedChar (c : Char) : List Char :=
  if c = '\\' || c = '"' then ['\\', c]
  else if c = '\n' then ['\\', 'n']
  else if c = '\r' then ['\\', 'r']
  else if c = '\t' then ['\\', 't']
  else [c]

def escaped (s : List Char) : List Char := s.flatMap escapedChar

/-- The literal of a text, quotes included. -/
def encode (s : List Char) : List Char := '"' :: escaped s ++ ['"']

def ofText (s : String) : String := String.ofList (encode s.toList)

theorem toList_ofText (s : String) : (ofText s).toList = encode s.toList := String.toList_ofList

theorem ofText_ne_empty (s : String) : ofText s ≠ "" := by simp [ofText, encode]

theorem escaped_cons (c : Char) (s : List Char) :
    escaped (c :: s) = escapedChar c ++ escaped s := List.flatMap_cons

theorem mem_escaped_ne {s : List Char} {c : Char} (h : c ∈ escaped s) : c ≠ '\n' ∧ c ≠ '\r' := by
  obtain ⟨d, -, hd⟩ := List.mem_flatMap.1 h
  unfold escapedChar at hd
  split at hd
  · rename_i hc
    simp only [Bool.or_eq_true, decide_eq_true_eq] at hc
    simp only [List.mem_cons, List.not_mem_nil, or_false] at hd
    rcases hd with rfl | rfl
    · decide
    · rcases hc with rfl | rfl <;> decide
  split at hd
  · simp only [List.mem_cons, List.not_mem_nil, or_false] at hd
    rcases hd with rfl | rfl <;> decide
  split at hd
  · simp only [List.mem_cons, List.not_mem_nil, or_false] at hd
    rcases hd with rfl | rfl <;> decide
  split at hd
  · simp only [List.mem_cons, List.not_mem_nil, or_false] at hd
    rcases hd with rfl | rfl <;> decide
  · rename_i h1 h2 _
    simp only [List.mem_cons, List.not_mem_nil, or_false] at hd
    subst hd
    exact ⟨h1, h2⟩

end PlanCode.Text.StringLiteral
