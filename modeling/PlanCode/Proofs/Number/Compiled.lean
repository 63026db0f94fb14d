import PlanCode.Proofs.Duration.Form

/-!
# Numbers that compile

A number of type `long` carries the suffix wherever it does not fit an `int`. The
number in a written duration never does, so a compiler takes the duration as long
as it has few enough of the units that it is counted in; a millisecond more or
less may make the number a thousand times larger.

* `integersIn_long`: the one number of a `long`, of which type it is.
* `integersIn_form`: the numbers of a written duration.
* `legal_numbers`: which numbers a compiler takes.
* `not_legal_delay`: a duration of 25 days that it refuses.
-/
namespace PlanCode

open PlanCode.Number PlanCode.Number.JavaInteger

theorem integersIn_long (n : Int) : integersIn (Literal.longText n).toList =
    [ofInt n (decide (2147483647 < n.natAbs))] := by
  rw [toList_longText]
  exact integersIn_text (isNumeral_ofInt n _)

theorem isLegal_long {n : Int} (hmin : -9223372036854775808 ≤ n)
    (hmax : n < 9223372036854775808) : (ofInt n (decide (2147483647 < n.natAbs))).IsLegal := by
  rw [isLegal_ofInt]
  by_cases h : 2147483647 < n.natAbs
  · simp only [bound, ofInt, h, decide_true, if_true]
    exact ⟨hmin, hmax⟩
  · simp only [bound, ofInt, h, decide_false, Bool.false_eq_true, if_false]
    omega

namespace Duration

/-- The numbers of units in a form. -/
def Form.counts : Form → List Int
  | .zero => []
  | .made _ count => [count]

theorem integersIn_form (form : Form) :
    integersIn form.text = form.counts.map fun count => ofInt count false := by
  cases form with
  | zero => rfl
  | made f count =>
    have hcallee : ({} : Scan).read (Form.callee f) = {} := by
      cases f <;> rfl
    rw [Form.text_made]
    exact integersIn_call hcallee (isNumeral_ofInt count false)

/-- An `int` holds the number of a duration's coarsest units. -/
def CountFits (d : Duration) : Prop :=
  ∃ (f : Factory) (count : Int), d.HasMillis (count * f.unit) ∧ f.IsCoarsest (count * f.unit) ∧
    -2147483648 ≤ count ∧ count < 2147483648

theorem countFits_iff {d : Duration} : d.CountFits ↔
    ∀ count ∈ d.form.counts, -2147483648 ≤ count ∧ count < 2147483648 := by
  have hcoarsest := Factory.isCoarsest_coarsest d.wholeMillis
  have hcount := Int.ediv_mul_cancel hcoarsest.dvd
  cases hz : d.isZero with
  | true =>
    have hd : d = zero := isZero_iff.1 hz
    subst hd
    constructor
    · intro _ count hc
      cases hc
    · intro _
      exact ⟨.ofDays, 0, hasMillis_iff.2 rfl, hcoarsest, by decide⟩
  | false =>
    rw [form_of_ne_zero hz]
    simp only [Form.counts, List.mem_singleton, forall_eq]
    constructor
    · intro h
      obtain ⟨f, count, hm, hf, hfit⟩ := h
      have hmillis := hasMillis_iff.1 hm
      have hfactor : d.wholeMillis / (Factory.coarsest d.wholeMillis).unit = count := by
        rw [hmillis, hf.eq_coarsest]
        exact Int.mul_ediv_cancel count (Int.ne_of_gt f.unit_pos)
      rw [hfactor]
      exact hfit
    · intro h
      refine ⟨Factory.coarsest d.wholeMillis, _, ?_, ?_, h⟩
      · rw [hcount, hasMillis_iff]
      · rw [hcount]
        exact hcoarsest

end Duration

/-- **Numbers.** The text of a 64-bit number is one literal of it that a compiler takes. The numbers
in the text of a duration are those that it denotes, and a compiler takes them exactly if an `int`
holds the number of the coarsest units. -/
theorem legal_numbers {n : Int} (hmin : -9223372036854775808 ≤ n) (hmax : n < 9223372036854775808)
    (d : Duration) (default : Option Int) (default' : Option Duration) :
    (∃ i, integersIn (Literal.long (some n) default).code.toList = [i] ∧ i.value = n ∧
      i.IsLegal) ∧
    (∃ form, Duration.Form.read? (Literal.duration (some d) default').code.toList = some form ∧
      (integersIn (Literal.duration (some d) default').code.toList).map value = form.counts) ∧
    ((∀ i ∈ integersIn (Literal.duration (some d) default').code.toList, i.IsLegal) ↔
      d.CountFits) := by
  have hlong : (Literal.long (some n) default).code = Literal.longText n := rfl
  have hduration : (Literal.duration (some d) default').code = d.code := rfl
  have hcounts : integersIn d.code.toList = d.form.counts.map fun count => ofInt count false := by
    rw [Duration.code_eq_text]
    exact Duration.integersIn_form d.form
  rw [hlong, hduration, hcounts]
  refine ⟨⟨_, integersIn_long n, value_ofInt n _, isLegal_long hmin hmax⟩, ⟨d.form, ?_, ?_⟩, ?_⟩
  · rw [Duration.code_eq_text]
    exact Duration.Form.read?_text d.form
  · simp [Function.comp_def]
  · rw [Duration.countFits_iff, List.forall_mem_map]
    refine forall₂_congr fun count _ => ?_
    exact isLegal_ofInt

/-- Ninety seconds, and the first number that needs a suffix. -/
theorem legal_numbers_ninetySeconds : ∃ i j,
    integersIn (Literal.long (some 2147483648) none).code.toList = [i] ∧ i.IsLegal ∧
    integersIn (Literal.duration (Duration.ofSeconds? 90) none).code.toList = [j] ∧
      j.IsLegal := by
  have h := legal_numbers (n := 2147483648) (by decide) (by decide)
    ⟨90000000, by decide, by decide⟩ none none
  have hfits : Duration.CountFits ⟨90000000, by decide, by decide⟩ :=
    Duration.countFits_iff.2 (by decide)
  obtain ⟨⟨i, hi, -, hlegal⟩, -, hd⟩ := h
  have hj : integersIn (Literal.duration (Duration.ofSeconds? 90) none).code.toList =
      [ofInt 90 false] := by rfl
  exact ⟨i, ofInt 90 false, hi, hlegal, hj, hd.2 hfits _ (hj ▸ List.mem_singleton_self _)⟩

/-- A millisecond above what an `int` holds cannot be compiled: the delay of a timer, for one. -/
theorem not_legal_delay : ∃ d i, Duration.milli.times? 2147483649 = some d ∧
    (Literal.duration (some d) none).code = "Duration.ofMillis(2147483649)" ∧
    i ∈ integersIn (Literal.duration (some d) none).code.toList ∧ ¬ i.IsLegal := by
  refine ⟨⟨2147483649000, by decide, by decide⟩, ofInt 2147483649 false, rfl, rfl, ?_, ?_⟩
  · decide
  · rw [isLegal_ofInt]
    decide

end PlanCode
