/-!
# Line ends

Text from files ends its lines in several ways. Readers work on text where every
line ends with a line feed alone.

* `normalizeLineEnds_of_not_mem`: text without carriage returns stays as it is.
-/
namespace PlanCode.Text

/-- A carriage return, with a line feed after it or without, becomes a line feed. -/
def normalizeLineEnds : List Char → List Char
  | [] => []
  | '\r' :: '\n' :: rest => '\n' :: normalizeLineEnds rest
  | '\r' :: rest => '\n' :: normalizeLineEnds rest
  | c :: rest => c :: normalizeLineEnds rest

theorem normalizeLineEnds_of_not_mem {s : List Char} (h : '\r' ∉ s) :
    normalizeLineEnds s = s := by
  fun_induction normalizeLineEnds s with
  | case1 => rfl
  | case2 => simp at h
  | case3 => simp at h
  | case4 c rest _ _ ih => rw [ih (fun m => h (List.mem_cons_of_mem _ m))]

end PlanCode.Text
