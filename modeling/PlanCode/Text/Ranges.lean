/-!
# Sets of code points

A set of code points is kept as the increasing list of the points where
membership changes: outside before the first point, inside from there to the
second, outside again from the second to the third, and so on.

* `inPoints_nil`: no points, no members.
* `inPoints_pair`: two points are a half-open interval.
-/
namespace PlanCode.Text

/-- Whether `n` lies inside the set with these points. -/
def inPoints (points : List Nat) (n : Nat) : Bool :=
  (points.takeWhile (· ≤ n)).length % 2 == 1

@[simp] theorem inPoints_nil (n : Nat) : inPoints [] n = false := rfl

theorem inPoints_pair {a b : Nat} (_ : a < b) (n : Nat) :
    inPoints [a, b] n = decide (a ≤ n ∧ n < b) := by
  unfold inPoints
  by_cases ha : a ≤ n
  · by_cases hb : b ≤ n
    · have : ¬ n < b := by omega
      simp [List.takeWhile, ha, hb]
    · have : n < b := by omega
      simp [List.takeWhile, ha, hb, this]
  · simp [List.takeWhile, ha]

end PlanCode.Text
