import PlanCode.Proofs.Convert.Outcome

/-!
# Negative times

The durations in the call of a thread group are those that its properties write,
but for one: the time to hold is the duration less the ramp-up. Nothing asks
which of the two is longer, so a thread group without any negative time may
become a call with one.

* `hasNegative_chain`: what a chained call adds to the times of a draft.
* `yields_holdTime`: the one time that is computed.
* `hasNegative_threadGroup`: the time to hold is the only negative one.
-/
namespace PlanCode

/-! ## The times of a call -/

def Literal.time? : Literal → Option Duration
  | .duration time? _ => time?
  | _ => none

def Argument.time? : Argument Node → Option Duration
  | .literal l => l.time?
  | _ => none

def Segment.times : Segment Node → List Duration
  | .call _ _ arguments => arguments.filterMap Argument.time?
  | _ => []

/-- The durations that a call and the calls chained to it are given. -/
def Draft.times (d : Draft Node) : List Duration :=
  d.arguments.filterMap Argument.time? ++ d.chain.flatMap Segment.times

def Literal.IsNegative (l : Literal) : Prop := ∃ t ∈ l.time?, t.micros < 0

def Draft.HasNegative (d : Draft Node) : Prop := ∃ t ∈ d.times, t.micros < 0

instance (d : Draft Node) : Decidable d.HasNegative :=
  inferInstanceAs (Decidable (∃ t ∈ d.times, t.micros < 0))

theorem Draft.hasNegative_append {d : Draft Node} {s : Segment Node} :
    (d.append s).HasNegative ↔ d.HasNegative ∨ ∃ t ∈ s.times, t.micros < 0 := by
  unfold HasNegative times append
  simp only [List.flatMap_append, List.flatMap_singleton, ← List.append_assoc]
  simp only [List.mem_append, or_and_right, exists_or]

namespace Element

/-- Where the times of a thread group are written as numbers, these are not negative. They may be
blank or expressions as well. -/
def TimesNotNegative (e : Element) : Prop :=
  ∀ key ∈ [Schedule.rampTimeKey, Schedule.durationKey, Schedule.delayKey],
    ∀ n, Number.readWhole? (e.trimmedAt key) = some n → 0 ≤ n

end Element

namespace Convert

open Schedule

section

variable {surface : Surface} {d : Draft Node} {name : String} {values : List Literal}

theorem exists_time_literals :
    (∃ t ∈ (literals values).filterMap Argument.time?, t.micros < 0) ↔
      ∃ v ∈ values, v.IsNegative := by
  have ht : (literals values).filterMap Argument.time? = values.filterMap Literal.time? :=
    List.filterMap_map
  rw [ht]
  constructor
  · rintro ⟨t, hm, hn⟩
    obtain ⟨v, hv, hvt⟩ := List.mem_filterMap.1 hm
    exact ⟨v, hv, t, hvt, hn⟩
  · rintro ⟨v, hv, t, hvt, hn⟩
    exact ⟨t, List.mem_filterMap.2 ⟨v, hv, hvt⟩, hn⟩

/-- A call that is started has the times it is given. -/
theorem hasNegative_start (slot : List (Argument Node))
    (hs : slot.filterMap Argument.time? = []) :
    Yields (start surface name (literals values ++ slot)) fun d =>
      d.HasNegative ↔ ∃ v ∈ values, v.IsNegative := by
  refine yields_mapError fun d hd => ?_
  obtain ⟨ha, hc⟩ := arguments_ofFactory d hd
  unfold Draft.HasNegative Draft.times
  rw [ha, hc, List.filterMap_append, hs, List.append_nil, List.flatMap_nil, List.append_nil]
  exact exists_time_literals

/-- A chained call adds the times it is given. Only defaults and a single flag are left out. -/
theorem hasNegative_chain (h : ∀ v ∈ values, v.IsNegative → v.isDefault = false) :
    Yields (chain surface name values d) fun d' =>
      d'.HasNegative ↔ d.HasNegative ∨ ∃ v ∈ values, v.IsNegative := by
  refine yields_mapError fun d' hd => ?_
  obtain ⟨hdef, rfl⟩ | ⟨target, given, rfl | ⟨rfl, a, ha, hb⟩, rfl⟩ := Draft.chainCall_cases hd
  · refine (or_iff_left ?_).symm
    rintro ⟨v, hv, hn⟩
    have hv' := List.all_eq_true.1 hdef (.literal v) (List.mem_map_of_mem hv)
    rw [Argument.isDefault, h v hv hn] at hv'
    cases hv'
  · exact Draft.hasNegative_append.trans (or_congr_right exists_time_literals)
  · refine Draft.hasNegative_append.trans (or_congr_right ?_)
    refine iff_of_false (by simp [Segment.times]) ?_
    rintro ⟨v, hv, t, ht, -⟩
    obtain rfl : .literal v = a := List.mem_singleton.1 (ha ▸ List.mem_map_of_mem hv)
    cases v with
    | duration => cases hb
    | _ => cases ht

/-- Arguments without a negative time leave the times of a call as they were. -/
theorem hasNegative_chain_of_not (h : ∀ v ∈ values, ¬ v.IsNegative) (hd : ¬ d.HasNegative) :
    Yields (chain surface name values d) fun d' => ¬ d'.HasNegative := by
  refine (hasNegative_chain fun v hv hn => absurd hn (h v hv)).imp fun d' hi hn => ?_
  obtain hn | ⟨v, hv, hn⟩ := hi.1 hn
  · exact hd hn
  · exact h v hv hn

end

/-! ## The arguments of a thread group -/

section

variable {e : Element} {a : ThreadGroupArguments}

theorem not_isNegative_of_type {l : Literal} (h : l.type ≠ "Duration") : ¬ l.IsNegative := by
  rintro ⟨t, ht, -⟩
  cases l with
  | duration => exact h rfl
  | _ => cases ht

theorem not_isNegative_of_isNumber {l : Literal} (h : IsNumber l) : ¬ l.IsNegative := by
  refine not_isNegative_of_type ?_
  rcases h with h | h
  · rw [h.type_eq]
    decide
  · rw [h.type_eq]
    decide

theorem not_isNegative_nameLiteral (default : String) : ¬ (e.nameLiteral default).IsNegative :=
  not_isNegative_of_type (show "String" ≠ "Duration" by decide)

/-- A property that is no negative number becomes no negative time. -/
theorem not_isNegative_durationLiteral {path : String} {default : Option Duration} {l : Literal}
    (hl : e.durationLiteral? path default = some l) (hd : ∀ t ∈ default, 0 ≤ t.micros)
    (hn : ∀ n, Number.readWhole? (e.trimmedAt path) = some n → 0 ≤ n) : ¬ l.IsNegative := by
  rintro ⟨t, ht, hneg⟩
  cases l with
  | duration time? default' =>
    obtain rfl : time? = some t := ht
    obtain ⟨-, rfl | ⟨n, hr, hm⟩⟩ := seconds_of_fixed hl
    · have := hd t rfl
      omega
    · have := hn n hr
      omega
  | _ => cases ht

/-- None of the arguments is a negative time. -/
structure ThreadGroupArguments.NotNegative (a : ThreadGroupArguments) : Prop where
  name : ¬ a.name.IsNegative
  threads : ¬ a.threads.IsNegative
  rampUp : ¬ a.rampUp.IsNegative
  duration : ¬ a.duration.IsNegative
  delay : ¬ a.delay.IsNegative
  iterations : ¬ a.iterations.IsNegative

theorem not_isNegative_noDuration : ¬ noDuration.IsNegative := by
  rintro ⟨t, ht, -⟩
  cases ht

theorem ThreadGroupArguments.Reads.notNegative (h : a.Reads e) (he : e.TimesNotNegative) :
    a.NotNegative := by
  have scheduled : ∀ {key : String} {l : Literal},
      key ∈ [rampTimeKey, durationKey, delayKey] →
      (if e.flagAt schedulerKey true then e.durationLiteral? key = some l else l = noDuration) →
      ¬ l.IsNegative := by
    intro key l hk hl
    split at hl
    · exact not_isNegative_durationLiteral hl (by simp) (he key hk)
    · rw [hl]
      exact not_isNegative_noDuration
  exact {
    name := h.name ▸ not_isNegative_nameLiteral _
    threads := not_isNegative_of_isNumber h.typed.threads
    rampUp := not_isNegative_durationLiteral h.rampUp (by simp [Duration.second])
      (he _ (by simp))
    duration := scheduled (by simp) h.duration
    delay := scheduled (by simp) h.delay
    iterations := not_isNegative_of_isNumber h.typed.iterations }

theorem ThreadGroupArguments.NotNegative.uniform (h : a.NotNegative) : a.uniform.NotNegative := by
  have string : ∀ l : Literal, ¬ (asString l).IsNegative :=
    fun l => not_isNegative_of_type (show "String" ≠ "Duration" by decide)
  unfold ThreadGroupArguments.uniform
  split
  · exact h
  · exact { h with threads := string _, rampUp := string _, duration := string _ }

/-- The time to hold is the one time that is computed, so it is negative exactly where the
difference is. A remark adds no time to the call. -/
theorem yields_holdTime (h : ¬ a.duration.IsNegative) (d : Draft Node) :
    Yields (holdTime a d) fun (hold, d') => (hold.IsNegative ↔ a.HoldIs (· < 0)) ∧
      (hold.IsNegative → hold.isDefault = false) ∧ (d'.HasNegative ↔ d.HasNegative) := by
  unfold holdTime ThreadGroupArguments.HoldIs
  split
  · rename_i total _ ramp _ hd hr
    split
    · rename_i hdef
      have hold : ¬ (Literal.duration (some total) none).IsNegative := by
        rw [hd] at h
        exact h
      refine yields_ok ⟨iff_of_false hold ?_, fun hn => absurd hn hold, Iff.rfl⟩
      rintro ⟨_, _, _, _, -, -, hdef', -⟩
      rw [hdef] at hdef'
      cases hdef'
    · rename_i hdef
      split
      · rename_i rest hs
        have hm : rest.micros = total.micros - ramp.micros := Duration.ofMicros?_eq_some_iff.1 hs
        refine yields_ok ⟨?_, fun _ => rfl, Iff.rfl⟩
        constructor
        · rintro ⟨_, ⟨⟩, hn⟩
          exact ⟨total, ramp, _, _, hd, hr, Bool.eq_false_iff.2 hdef, hm ▸ hn⟩
        · rintro ⟨total', ramp', _, _, hd', hr', -, hn⟩
          rw [hd] at hd'
          rw [hr] at hr'
          cases hd'
          cases hr'
          exact ⟨rest, rfl, hm ▸ hn⟩
      · exact yields_error _
  · rename_i hno
    refine yields_ok ⟨iff_of_false h ?_, fun hn => absurd hn h, ?_⟩
    · rintro ⟨_, _, _, _, hd, hr, -⟩
      exact hno _ _ _ _ hd hr
    · split
      · exact Iff.rfl
      · exact Draft.hasNegative_append.trans (or_iff_left (by simp [Segment.times]))

/-- The call that holds is the last one, and the only one with a computed time. -/
theorem hasNegative_hold {surface : Surface} {name : String} {d : Draft Node}
    (ha : ¬ a.duration.IsNegative) (hd : ¬ d.HasNegative) (before : List Literal)
    (hb : ∀ v ∈ before, ¬ v.IsNegative) :
    Yields (do
        let (hold, d) ← holdTime a d
        chain surface name (before ++ [hold]) d) fun d =>
      d.HasNegative ↔ a.HoldIs (· < 0) := by
  refine yields_bind (yields_holdTime ha d) ?_
  rintro ⟨hold, d'⟩ ⟨hi, hdef, hd'⟩
  have held : ∀ v ∈ before ++ [hold], v.IsNegative → v = hold := by
    intro v hv hn
    rcases List.mem_append.1 hv with hv | hv
    · exact absurd hn (hb v hv)
    · exact List.mem_singleton.1 hv
  have written : ∀ v ∈ before ++ [hold], v.IsNegative → v.isDefault = false := by
    intro v hv hn
    obtain rfl := held v hv hn
    exact hdef hn
  refine (hasNegative_chain written).imp fun d'' h => h.trans ?_
  rw [hd', or_iff_right hd, ← hi]
  constructor
  · rintro ⟨v, hv, hn⟩
    exact held v hv hn ▸ hn
  · intro hn
    exact ⟨hold, List.mem_append_right _ (List.mem_singleton_self hold), hn⟩

/-- A flat call has no computed time. -/
theorem hasNegative_flatCall (h : a.NotNegative) {surface : Surface} :
    Yields (flatCall surface a) fun d => ¬ d.HasNegative := by
  have hl : ¬ (if isDefaultOrZero a.duration then a.iterations else a.duration).IsNegative := by
    split
    · exact h.iterations
    · exact h.duration
  refine (hasNegative_start _ rfl).imp fun d hi => mt hi.1 ?_
  simp [h.name, h.threads, hl]

/-- The calls of a schedule have no negative time until it holds. -/
theorem keeps_notNegative (h : a.NotNegative) {surface : Surface} :
    Keeps surface (fun d => ¬ d.HasNegative)
      (fun d => d.HasNegative ↔ isDefaultOrZero a.duration = false ∧ a.HoldIs (· < 0))
      (fun _ => True) a := by
  constructor
  case started =>
    rw [← List.append_nil (literals [a.name])]
    exact ((hasNegative_start [] rfl).imp fun d hi => mt hi.1 (by simp [h.name])).ends
  case holdFor => exact fun d hd => (hasNegative_chain_of_not (by simpa using h.delay) hd).ends
  case rampTo =>
    exact fun d hd => (hasNegative_chain_of_not (by simp [h.threads, h.rampUp]) hd).ends
  case holdIterating =>
    have hnumber : ¬ (Literal.number (-1)).IsNegative :=
      not_isNegative_of_type (show "int" ≠ "Duration" by decide)
    rintro _ (rfl | rfl) d hd
    · exact (hasNegative_chain_of_not (by simpa using hnumber) hd).ends
    · exact (hasNegative_chain_of_not (by simpa using h.iterations) hd).ends
  case endless =>
    intro hz d hd
    exact iff_of_false hd (by simp [hz])
  case upTo =>
    intro hz d hd
    rw [and_iff_right hz]
    exact (hasNegative_hold h.duration hd [] (by simp)).ends
  case rampToAndHold =>
    intro hz d hd
    rw [and_iff_right hz]
    exact (hasNegative_hold h.duration hd [a.threads, a.rampUp]
      (by simp [h.threads, h.rampUp])).ends

/-- **Negative times.** Where no property writes a negative time, the call of a thread group has one
exactly where the ramp-up takes longer than the duration that the time to hold is counted from. On
the shipped surface there is a call unless a time is out of range. -/
theorem hasNegative_threadGroup (h : e.TimesNotNegative) :
    (∀ surface, Yields (threadGroup surface e) fun d =>
      d.HasNegative ↔ e.flagAt schedulerKey true = true ∧ e.HoldIs (· < 0)) ∧
    (¬ e.ScheduleIsBeyond → ∃ d, threadGroup Surface.standard e = .ok d) := by
  refine ⟨fun surface => ?_, fun hin => ?_⟩
  · refine (ends_threadGroup_of (P := fun d => ¬ d.HasNegative)
      (ends_threadGroupArguments e).yields.ends ?_ ?_).yields
    · intro a ha hf
      have hn := ha.notNegative h
      rw [← ha.holdIs_iff, holdIs_uniform]
      refine ((hasNegative_flatCall hn).imp fun d hd => iff_of_false hd ?_).ends
      rintro ⟨-, -, hh⟩
      obtain ⟨total, _, hd, hneg⟩ := holdIs_of_isFlat hf hh
      exact hn.duration (hd ▸ ⟨total, rfl, hneg⟩)
    · intro a ha
      rw [← ha.holdIs_iff]
      exact keeps_notNegative (ha.notNegative h).uniform
  · obtain ⟨d, hd, -⟩ := (ends_threadGroup e).delivers fun _ he => hin he.2
    exact ⟨d, hd⟩

/-- A thread group that ramps up for longer than it runs. -/
def shortGroup : Element where
  kind := "ThreadGroup"
  name := "Users"
  properties := [(threadsKey, .text "3"), (rampTimeKey, .text "10"), (durationKey, .text "5")]

theorem times_shortGroup :
    Number.readWhole? (shortGroup.trimmedAt rampTimeKey) = some 10 ∧
      Number.readWhole? (shortGroup.trimmedAt durationKey) = some 5 ∧
      Number.readWhole? (shortGroup.trimmedAt delayKey) = none := by decide +kernel

theorem timesNotNegative_shortGroup : shortGroup.TimesNotNegative := by
  obtain ⟨hr, ht, hd⟩ := times_shortGroup
  simp [Element.TimesNotNegative, hr, ht, hd]

/-- Its call holds for minus five seconds. -/
theorem hasNegative_threadGroup_shortGroup :
    shortGroup.TimesNotNegative ∧
      ∃ d, threadGroup Surface.standard shortGroup = .ok d ∧ d.HasNegative := by
  obtain ⟨hr, ht, hd⟩ := times_shortGroup
  have hthreads : Number.readWhole? (shortGroup.trimmedAt threadsKey) = some 3 := by decide +kernel
  have hon : shortGroup.flagAt schedulerKey true = true := by decide +kernel
  have hin : ¬ shortGroup.ScheduleIsBeyond := by
    simp [Element.ScheduleIsBeyond, Element.HoldIsBeyond, Element.IsBeyond, Duration.IsBeyond, hr,
      ht, hd, Duration.second, Duration.minMicros, Duration.endMicros]
  obtain ⟨hi, hcall⟩ := hasNegative_threadGroup timesNotNegative_shortGroup
  obtain ⟨d, hd⟩ := hcall hin
  have hhold : shortGroup.HoldIs (· < 0) :=
    ⟨Or.inr ⟨3, hthreads⟩, 5, 10, ht, hr, by decide, by decide, by decide⟩
  exact ⟨timesNotNegative_shortGroup, d, hd, (hi _ d hd).2 ⟨hon, hhold⟩⟩

/-- Times that are not negative do not keep the times of the call from being so. -/
theorem not_notNegative_threadGroup :
    ¬ ∀ e : Element, e.TimesNotNegative →
      Yields (threadGroup Surface.standard e) fun d => ¬ d.HasNegative := by
  intro h
  have hc : (threadGroup Surface.standard shortGroup).toOption.map
      (fun d => decide d.HasNegative) = some true := by decide +kernel
  cases hd : threadGroup Surface.standard shortGroup with
  | error _ =>
    rw [hd] at hc
    cases hc
  | ok d =>
    rw [hd] at hc
    simp only [Except.toOption, Option.map_some, Option.some.injEq, decide_eq_true_eq] at hc
    exact h _ timesNotNegative_shortGroup d hd hc

end

end Convert
end PlanCode
