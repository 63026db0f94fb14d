import Mathlib.Data.List.Chain
import Mathlib.Data.List.TakeWhile
import PlanCode.Text.Ranges

/-!
# Comparing sets of code points

The points of a set, taken in pairs, are the bounds of half-open ranges. One set
lies in another one if each of its ranges lies in a range of the other, which is
found in one pass over both.

* `inRanges_of_inPoints`, `inPoints_of_inRanges`: a set is the union of its ranges.
* `inRanges_without`: taking a number out of ranges takes out nothing else.
* `inPoints_of_covers`: the pass finds that a set lies in another one, but for some numbers.
-/
namespace PlanCode.Text

/-- The half-open ranges of a set with these points. -/
def rangesOf : List Nat → List (Nat × Nat)
  | a :: b :: rest => (a, b) :: rangesOf rest
  | _ => []

/-- A number lies in one of the half-open ranges. -/
def InRanges (ranges : List (Nat × Nat)) (n : Nat) : Prop := ∃ r ∈ ranges, r.1 ≤ n ∧ n < r.2

/-- The ranges without one number. -/
def without (n : Nat) (ranges : List (Nat × Nat)) : List (Nat × Nat) :=
  ranges.flatMap fun r =>
    if r.1 ≤ n ∧ n < r.2 then [(r.1, n), (n + 1, r.2)].filter fun q => decide (q.1 < q.2) else [r]

/-- Whether each of the inner ranges lies in an outer one; both are in increasing order. -/
def covers : (outer inner : List (Nat × Nat)) → Bool
  | [], inner => inner.isEmpty
  | r :: outer, inner => covers outer (inner.dropWhile fun q => decide (r.1 ≤ q.1 ∧ q.2 ≤ r.2))

/-! ## Sets and their ranges -/

theorem inPoints_of_lt {a n : Nat} (h : n < a) (rest : List Nat) :
    inPoints (a :: rest) n = false := by
  simp [inPoints, List.takeWhile, Nat.not_le.2 h]

theorem inPoints_of_range {a b n : Nat} (ha : a ≤ n) (hb : n < b) (rest : List Nat) :
    inPoints (a :: b :: rest) n = true := by
  simp [inPoints, List.takeWhile, ha, Nat.not_le.2 hb]

theorem inPoints_of_le {a b n : Nat} (ha : a ≤ n) (hb : b ≤ n) (rest : List Nat) :
    inPoints (a :: b :: rest) n = inPoints rest n := by
  have hl : ((a :: b :: rest).takeWhile (· ≤ n)).length =
      (rest.takeWhile (· ≤ n)).length + 2 := by
    simp [List.takeWhile, ha, hb]
  rw [inPoints, inPoints, hl, Nat.add_mod_right]

theorem inRanges_cons {r : Nat × Nat} {ranges : List (Nat × Nat)} {n : Nat} :
    InRanges (r :: ranges) n ↔ (r.1 ≤ n ∧ n < r.2) ∨ InRanges ranges n := by
  simp [InRanges]

/-- A set that ends with its last range is the union of its ranges. -/
theorem inRanges_of_inPoints {points : List Nat} (he : points.length % 2 = 0) {n : Nat}
    (h : inPoints points n = true) : InRanges (rangesOf points) n := by
  induction points using rangesOf.induct with
  | case1 a b rest ih =>
    rw [rangesOf, inRanges_cons]
    by_cases ha : a ≤ n
    · by_cases hb : b ≤ n
      · rw [inPoints_of_le ha hb] at h
        refine Or.inr (ih ?_ h)
        simp only [List.length_cons] at he
        omega
      · exact Or.inl ⟨ha, Nat.not_le.1 hb⟩
    · rw [inPoints_of_lt (Nat.not_le.1 ha)] at h
      cases h
  | case2 points hshort =>
    match points, hshort with
    | [], _ => cases h
    | [a], _ => cases he
    | a :: b :: rest, hshort => exact absurd rfl (hshort a b rest)

theorem inPoints_of_inRanges {points : List Nat} (hs : points.IsChain (· < ·)) {n : Nat}
    (h : InRanges (rangesOf points) n) : inPoints points n = true := by
  have hp := List.isChain_iff_pairwise.1 hs
  clear hs
  induction points using rangesOf.induct with
  | case1 a b rest ih =>
    obtain ⟨ha, hp⟩ := List.pairwise_cons.1 hp
    obtain ⟨hb, hp⟩ := List.pairwise_cons.1 hp
    rw [rangesOf, inRanges_cons] at h
    rcases h with ⟨hn, hlt⟩ | h
    · exact inPoints_of_range hn hlt rest
    · -- both bounds are below the points that are left, and the number is not
      have hrest := ih h hp
      obtain ⟨c, hc, hle⟩ : ∃ c ∈ rest, c ≤ n := by
        cases rest with
        | nil => cases hrest
        | cons c rest =>
          refine ⟨c, List.mem_cons_self .., Nat.le_of_not_lt fun hlt => ?_⟩
          rw [inPoints_of_lt hlt] at hrest
          cases hrest
      have hbc := hb c hc
      have hac := ha c (List.mem_cons_of_mem _ hc)
      rw [inPoints_of_le (by omega) (by omega)]
      exact hrest
  | case2 points hshort =>
    match points, hshort with
    | [], _ => exact absurd h (by simp [rangesOf, InRanges])
    | [a], _ => exact absurd h (by simp [rangesOf, InRanges])
    | a :: b :: rest, hshort => exact absurd rfl (hshort a b rest)

/-! ## The comparison -/

theorem inRanges_without {ranges : List (Nat × Nat)} {m n : Nat} (h : InRanges ranges m)
    (hne : m ≠ n) : InRanges (without n ranges) m := by
  obtain ⟨r, hr, hlow, hhigh⟩ := h
  have hin : ∃ q ∈ if r.1 ≤ n ∧ n < r.2 then
      [(r.1, n), (n + 1, r.2)].filter fun q => decide (q.1 < q.2) else [r],
      q.1 ≤ m ∧ m < q.2 := by
    split
    · by_cases hlt : m < n
      · exact ⟨(r.1, n), by simp; omega, hlow, hlt⟩
      · exact ⟨(n + 1, r.2), by simp; omega, by omega, hhigh⟩
    · exact ⟨r, List.mem_singleton_self r, hlow, hhigh⟩
  obtain ⟨q, hq, hin⟩ := hin
  exact ⟨q, List.mem_flatMap.2 ⟨r, hr, hq⟩, hin⟩

theorem inRanges_foldr_without {ranges : List (Nat × Nat)} {n : Nat} (h : InRanges ranges n)
    {missing : List Nat} (hm : n ∉ missing) : InRanges (missing.foldr without ranges) n := by
  induction missing with
  | nil => exact h
  | cons m missing ih =>
    rw [List.mem_cons, not_or] at hm
    exact inRanges_without (ih hm.2) hm.1

theorem inRanges_of_covers {outer inner : List (Nat × Nat)} (hc : covers outer inner = true)
    {n : Nat} (h : InRanges inner n) : InRanges outer n := by
  induction outer generalizing inner with
  | nil =>
    obtain ⟨q, hq, -⟩ := h
    rw [covers, List.isEmpty_iff] at hc
    rw [hc] at hq
    cases hq
  | cons r outer ih =>
    obtain ⟨q, hq, hin⟩ := h
    rw [inRanges_cons]
    rw [← inner.takeWhile_append_dropWhile (p := fun q => decide (r.1 ≤ q.1 ∧ q.2 ≤ r.2)),
      List.mem_append] at hq
    rcases hq with hq | hq
    · have hle : r.1 ≤ q.1 ∧ q.2 ≤ r.2 := by simpa using List.mem_takeWhile_imp hq
      exact Or.inl ⟨by omega, by omega⟩
    · exact Or.inr (ih hc ⟨q, hq, hin⟩)

/-- **Inclusion.** Of a set that lies in another one but for some numbers, the other numbers lie in
it. -/
theorem inPoints_of_covers {outer inner missing : List Nat} (he : inner.length % 2 = 0)
    (hs : outer.IsChain (· < ·))
    (hc : covers (rangesOf outer) (missing.foldr without (rangesOf inner)) = true) {n : Nat}
    (h : inPoints inner n = true) (hm : n ∉ missing) : inPoints outer n = true :=
  inPoints_of_inRanges hs
    (inRanges_of_covers hc (inRanges_foldr_without (inRanges_of_inPoints he h) hm))

end PlanCode.Text
