import PlanCode.Proofs.Convert.Range
import PlanCode.Proofs.Profile.Properties

/-!
# Load profiles with times out of range

A stage is given seconds, which may be more than a duration has, and a schedule
adds a time to hold to a ramp-up. Once both are in range so is everything that is
computed from the thread group of the schedule.

* `ends_ofValues`: which plain values make no stage because of their time.
* `ofStages?_eq_none`: which stages make no schedule.
* `not_scheduleIsBeyond_toElement`: the times of a thread group of stages are in range.
-/
namespace PlanCode

/-! ## Stages -/

namespace Stage

/-- A value is a number of seconds that no duration has. -/
def IsBeyond (duration : Datum) : Prop :=
  ∃ n, countOf duration = .ok (some (.number n)) ∧ Duration.IsBeyond (n * 1000000)

theorem ends_wholeNumber (value : Datum) :
    Ends (wholeNumber value) (fun _ => True) (· ≠ .durationOverflow) := by
  unfold wholeNumber wholeDouble
  split
  · exact .ok trivial
  · split
    · exact .ok trivial
    · exact .error nofun
  · exact .error nofun

theorem ends_countOf (value : Datum) :
    Ends (countOf value) (fun _ => True) (· ≠ .durationOverflow) := by
  unfold countOf
  split
  · exact .ok trivial
  · unfold countOfText
    split
    · exact .ok trivial
    · split
      · exact .ok trivial
      · split
        · rename_i d _
          exact ends_map (ends_wholeNumber (.real d)) fun _ _ => trivial
        · exact .ok trivial
  · exact ends_map (ends_wholeNumber value) fun _ _ => trivial

/-- A length of time is read as a count, and a number of seconds has to be in range. -/
theorem spanOf_eq (value : Datum) : spanOf value = (do
    match ← countOf value with
    | none => return none
    | some (.number n) => spanOfSeconds n
    | some (.expression e) => return some (.expression e)) := by
  have number : ∀ x : Except StageError Int, (x >>= spanOfSeconds) =
      ((x.map fun n => some (Count.number n)) >>= fun c? => match c? with
        | none => pure none
        | some (.number n) => spanOfSeconds n
        | some (.expression e) => pure (some (.expression e))) := by
    intro x
    cases x <;> rfl
  unfold spanOf countOf
  split
  · rfl
  · rfl
  · exact number _

theorem ends_spanOfSeconds (n : Int) :
    Ends (spanOfSeconds n) (fun _ => ¬ Duration.IsBeyond (n * 1000000))
      fun error => error = .durationOverflow ∧ Duration.IsBeyond (n * 1000000) := by
  rw [← Duration.ofMicros?_eq_none]
  unfold spanOfSeconds Duration.ofSeconds?
  split
  · rename_i h
    exact .ok (by simp [h])
  · rename_i h
    exact .error ⟨rfl, h⟩

theorem ends_spanOf (value : Datum) : Ends (spanOf value) (fun _ => ¬ IsBeyond value)
    fun error => error = .durationOverflow ↔ IsBeyond value := by
  rw [spanOf_eq]
  unfold IsBeyond
  refine ends_bind ((ends_countOf value).eq.imp_error ?_) ?_
  · rintro error ⟨he, hne⟩
    exact iff_of_false hne (by simp [he])
  · rintro c? ⟨hc, -⟩
    rw [hc]
    match c? with
    | none => exact .ok (by simp)
    | some (.number n) =>
      simp only [Except.ok.injEq, Option.some.injEq, Count.number.injEq, exists_eq_left']
      exact (ends_spanOfSeconds n).imp_error fun _ h => iff_of_true h.1 h.2
    | some (.expression _) => exact .ok (by simp)

/-- The time of a stage that plain values make can be written as a property. -/
theorem yields_duration (threads duration iterations : Datum) :
    Yields (ofValues threads duration iterations) fun s => ∀ d ∈ s.duration, d.IsReadable := by
  have any : ∀ value, Yields (countOf value) fun _ => True := fun _ _ _ => trivial
  unfold ofValues
  refine yields_bind (any threads) fun c? _ => ?_
  split
  · exact yields_error _
  · refine yields_bind (yields_spanOf duration) fun d? hd => ?_
    exact yields_bind (any iterations) fun _ _ => yields_ok hd

/-- **Stages.** Plain values make a stage unless one is no number or the time is out of range, which
is seen once there are threads. -/
theorem ends_ofValues (threads duration iterations : Datum) :
    Ends (ofValues threads duration iterations)
      (fun _ => ¬((∃ c, countOf threads = .ok (some c)) ∧ IsBeyond duration))
      fun error => error = .durationOverflow ↔
        (∃ c, countOf threads = .ok (some c)) ∧ IsBeyond duration := by
  unfold ofValues
  refine ends_bind ((ends_countOf threads).eq.imp_error ?_) ?_
  · rintro error ⟨he, hne⟩
    exact iff_of_false hne (by simp [he])
  · rintro c? ⟨hc, -⟩
    rw [hc]
    cases c? with
    | none => exact .error (by simp)
    | some c =>
      rw [and_iff_right ⟨c, rfl⟩]
      refine ends_bind (ends_spanOf duration) fun _ hin => ?_
      refine ends_bind ((ends_countOf iterations).imp_error fun _ hne => ?_) fun _ _ => .ok hin
      exact iff_of_false hne hin

end Stage

/-! ## Schedules -/

namespace Schedule

/-- The time of a holding stage and the ramp-up before it add up to more than a duration has. -/
def SumIsBeyond (stages : List Stage) : Prop :=
  ∃ ramp hold, (ofStagesWithoutRampUp stages).rampUp = some (.fixed ramp) ∧
    (ofStagesWithoutRampUp stages).duration = some (.fixed hold) ∧
    Duration.IsBeyond (hold.micros + ramp.micros)

/-- Taken off again, the ramp-up leaves a time in range. -/
def HoldsInRange (s : Schedule) : Prop :=
  ∀ ramp total, s.rampUp = some (.fixed ramp) → s.duration = some (.fixed total) →
    ¬ Duration.IsBeyond (total.micros - ramp.micros)

theorem add?_eq_none {a b : Span} : a.add? b = none ↔
    ∃ d d', a = .fixed d ∧ b = .fixed d' ∧ Duration.IsBeyond (d.micros + d'.micros) := by
  cases a with
  | expression s => simp [Span.add?]
  | fixed d =>
    cases b with
    | expression s => simp [Span.add?]
    | fixed d' => simp [Span.add?, Duration.add?, Duration.ofMicros?_eq_none]

theorem includeRampUp?_eq_none {s : Schedule} : s.includeRampUp? = none ↔
    ∃ ramp hold, s.rampUp = some (.fixed ramp) ∧ s.duration = some (.fixed hold) ∧
      Duration.IsBeyond (hold.micros + ramp.micros) := by
  unfold includeRampUp?
  cases hr : s.rampUp with
  | none => simp
  | some ramp =>
    dsimp only
    split
    · rename_i hz
      refine iff_of_false (by simp) ?_
      rintro ⟨d, hold, hd, -, hb⟩
      cases hd
      have hm : d.micros = 0 := by simpa [Span.isZero, Duration.isZero] using hz
      rw [hm, Int.add_zero] at hb
      exact hold.not_isBeyond hb
    · cases hd : s.duration with
      | none => cases s.iterations <;> simp
      | some d =>
        simp only [Option.map_eq_none_iff, add?_eq_none, Option.some.injEq]
        constructor
        · rintro ⟨d, d', rfl, rfl, hb⟩
          exact ⟨d', d, rfl, rfl, hb⟩
        · rintro ⟨d', d, rfl, rfl, hb⟩
          exact ⟨d, d', rfl, rfl, hb⟩

/-- **Schedules.** Stages make a schedule unless the ramp-up and the time to hold are out of range
together. -/
theorem ofStages?_eq_none {stages : List Stage} : ofStages? stages = none ↔ SumIsBeyond stages := by
  unfold ofStages? SumIsBeyond
  split
  · simp [ofStagesWithoutRampUp]
  · exact includeRampUp?_eq_none

theorem holdsInRange_includeRampUp? {s t : Schedule} (h : s.includeRampUp? = some t) :
    t.HoldsInRange := by
  unfold includeRampUp? at h
  intro ramp total hramp htotal
  split at h
  · rename_i hr
    cases h
    rw [hr] at hramp
    cases hramp
  rename_i rampUp hr
  split at h
  · rename_i hz
    cases h
    rw [hr] at hramp
    cases hramp
    have hm : ramp.micros = 0 := by simpa [Span.isZero, Duration.isZero] using hz
    rw [hm, Int.sub_zero]
    exact total.not_isBeyond
  split at h
  · rename_i d hd
    obtain ⟨sum, hsum, rfl⟩ := Option.map_eq_some_iff.1 h
    cases hr.symm.trans hramp
    cases htotal
    cases d with
    | expression s => cases hsum
    | fixed hold =>
      obtain ⟨d, hadd, hd⟩ := Option.map_eq_some_iff.1 hsum
      cases hd
      rw [Duration.ofMicros?_eq_some_iff.1 hadd, Int.add_sub_cancel]
      exact hold.not_isBeyond
  · cases h
    cases hr.symm.trans hramp
    cases htotal
    rw [Int.sub_self]
    exact Duration.zero.not_isBeyond
  · rename_i hd _
    cases h
    rw [hd] at htotal
    cases htotal

theorem holdsInRange_ofStages? {stages : List Stage} {c : Schedule}
    (h : ofStages? stages = some c) : c.HoldsInRange := by
  unfold ofStages? at h
  split at h
  · cases h
    intro ramp total hr
    cases hr
  · exact holdsInRange_includeRampUp? h

/-! ## Thread groups of schedules -/

/-- A number that a readable time is written as is that of its seconds. -/
theorem seconds_of_text {e : Element} {path : String} {d : Span} (hd : d.IsReadable)
    (h : e.textAt path = d.text) {n : Int}
    (hn : Number.readWhole? (e.trimmedAt path) = some n) :
    ∃ t : Duration, d = .fixed t ∧ t.micros = 1000000 * n := by
  have hl := durationLiteral?_of_text hd h none
  obtain ⟨t, ht, hl'⟩ := Convert.fixed_of_number hl hn
  cases d with
  | fixed d =>
    simp only [Span.literal, Literal.duration.injEq, Option.some.injEq, and_true] at hl'
    exact ⟨t, congrArg _ hl', ht⟩
  | expression s => cases hl'

end Schedule

open Schedule

/-- A time that may be missing, as a property. -/
theorem seconds_of_length {e : Element} {path : String} {d : Option Span}
    (hd : ∀ s ∈ d, s.IsReadable) (h : e.textAt path = (d.map Span.text).getD "") {n : Int}
    (hn : Number.readWhole? (e.trimmedAt path) = some n) :
    ∃ t : Duration, d = some (.fixed t) ∧ t.micros = 1000000 * n := by
  cases d with
  | none =>
    have ht : e.trimmedAt path = "" := by
      rw [Element.trimmedAt, h]
      decide
    rw [ht, Element.readWhole?_empty] at hn
    cases hn
  | some d =>
    obtain ⟨t, ht, hm⟩ := seconds_of_text (hd d rfl) h hn
    exact ⟨t, congrArg some ht, hm⟩

/-- **Thread groups.** The times of the thread group of a schedule are in range. -/
theorem not_scheduleIsBeyond_toElement {c : Schedule} (h : c.HasReadableTimes)
    (hhold : c.HoldsInRange) (name : Option String) :
    ¬ (c.toElement name).ScheduleIsBeyond := by
  have hr : (c.rampUp.getD (.fixed .zero)).IsReadable := by
    cases hd : c.rampUp with
    | none => exact ⟨0, rfl⟩
    | some d => exact h.rampUp d hd
  -- A number of seconds that a time is written as is one that a duration has.
  have written : ∀ {n : Int} (t : Duration), t.micros = 1000000 * n →
      ¬ Duration.IsBeyond (1000000 * n) := fun t ht => ht ▸ t.not_isBeyond
  rintro (⟨n, hn, hb⟩ | ⟨-, ⟨n, hn, hb⟩ | ⟨n, hn, hb⟩ | ⟨-, total, ramp, ht, hr', -, -, hb⟩⟩)
  · obtain ⟨t, -, hm⟩ := seconds_of_text hr (textAt_rampTimeKey c name) hn
    exact written t hm hb
  · obtain ⟨t, -, hm⟩ := seconds_of_length h.duration (textAt_durationKey c name) hn
    exact written t hm hb
  · obtain ⟨t, -, hm⟩ := seconds_of_length h.delay (textAt_delayKey c name) hn
    exact written t hm hb
  · obtain ⟨t, hd, hm⟩ := seconds_of_length h.duration (textAt_durationKey c name) ht
    obtain ⟨r, hr, hm'⟩ := seconds_of_text hr (textAt_rampTimeKey c name) hr'
    rw [Int.mul_sub, ← hm, ← hm'] at hb
    cases hc : c.rampUp with
    | none =>
      rw [hc] at hr
      cases hr
      exact t.not_isBeyond (by simpa [Duration.zero] using hb)
    | some d =>
      rw [hc] at hr
      cases hr
      exact hhold r t hc hd hb

end PlanCode
