import PlanCode.Call.Layout
import PlanCode.Proofs.Convert.Links
import PlanCode.Proofs.Duration.Form
import PlanCode.Proofs.Profile.Overrun
import PlanCode.Tools.Call

/-!
# Calls of fixed stages

Stages of numbers and whole seconds leave JMeter nothing to evaluate. They become
properties, which are text, and are read back from there, and the call that is made of
these is given numbers and durations only: no string but the name, and no remark on
a time that could not be computed. The duration of a schedule runs from the start of
the ramp-up and is never the shorter one of the two, so no time is negative.

* `ramped_ofStages?`: the duration of a fixed schedule covers its ramp-up.
* `fixed_parts?`: the call of such a schedule is made of fixed values.
* `fixedCall_of_stages`: so is that of fixed stages.
-/
namespace PlanCode

open PlanCode.Schedule PlanCode.Convert

/-! ## Fixed stages -/

/-- A number of no more digits than a numeral may have. -/
def Count.IsFixed (c : Count) : Prop :=
  ∃ n, c = .number n ∧ (toString n.natAbs).length ≤ Number.maxWholeDigits

/-- Some whole seconds, perhaps none. -/
def Span.IsFixed (d : Span) : Prop :=
  ∃ (t : Duration) (seconds : Nat), d = .fixed t ∧ t.micros = seconds * 1000000

structure Stage.IsFixed (s : Stage) : Prop where
  threads : s.threads.IsFixed
  duration : ∀ d ∈ s.duration, d.IsFixed
  iterations : ∀ c ∈ s.iterations, c.IsFixed

theorem Count.IsFixed.isReadable {c : Count} (h : c.IsFixed) : c.IsReadable := by
  obtain ⟨n, rfl, hl⟩ := h
  exact hl

theorem Span.IsFixed.isReadable {d : Span} (h : d.IsFixed) : d.IsReadable := by
  obtain ⟨t, seconds, rfl, hm⟩ := h
  exact ⟨seconds, hm⟩

theorem Stage.IsFixed.isReadable {s : Stage} (h : s.IsFixed) : s.IsReadable where
  threads := h.threads.isReadable
  duration d hd := (h.duration d hd).isReadable
  iterations c hc := (h.iterations c hc).isReadable

theorem isFixed_add? (a b sum : Span) (ha : a.IsFixed) (hb : b.IsFixed)
    (h : a.add? b = some sum) : sum.IsFixed := by
  obtain ⟨t, s, rfl, ht⟩ := ha
  obtain ⟨u, r, rfl, hu⟩ := hb
  obtain ⟨v, hv, rfl⟩ := Option.map_eq_some_iff.1 h
  have hm : v.micros = t.micros + u.micros := Duration.ofMicros?_eq_some_iff.1 hv
  exact ⟨v, s + r, rfl, by omega⟩

theorem isFixed_one : (Count.number 1).IsFixed := ⟨1, rfl, isReadable_one⟩

/-! ## Fixed schedules -/

/-- The duration is no shorter than the ramp-up. -/
def Schedule.IsRamped (s : Schedule) : Prop :=
  ∀ ramp total, s.rampUp = some (.fixed ramp) → s.duration = some (.fixed total) →
    ramp.micros ≤ total.micros

theorem ramped_includeRampUp? {s t : Schedule} (hs : HasTimes Span.IsFixed s)
    (h : s.includeRampUp? = some t) : t.IsRamped := by
  unfold includeRampUp? at h
  intro ramp total hramp htotal
  split at h
  · rename_i hr
    cases h
    rw [hr] at hramp
    cases hramp
  rename_i rampUp hr
  split at h
  · rename_i hz
    cases h
    rw [hr] at hramp
    cases hramp
    have hm : ramp.micros = 0 := by simpa [Span.isZero, Duration.isZero] using hz
    obtain ⟨_, seconds, he, hs⟩ := hs.duration _ htotal
    cases he
    omega
  split at h
  · rename_i d hd
    obtain ⟨sum, hsum, rfl⟩ := Option.map_eq_some_iff.1 h
    cases hr.symm.trans hramp
    cases htotal
    obtain ⟨hold, seconds, rfl, hs⟩ := hs.duration d hd
    obtain ⟨_, hadd, he⟩ := Option.map_eq_some_iff.1 hsum
    cases he
    have hm : total.micros = hold.micros + ramp.micros := Duration.ofMicros?_eq_some_iff.1 hadd
    omega
  · cases h
    cases hr.symm.trans hramp
    cases htotal
    exact Int.le_refl _
  · rename_i hd _
    cases h
    rw [hd] at htotal
    cases htotal

/-- **Schedules.** The duration of a schedule of fixed stages covers its ramp-up. -/
theorem ramped_ofStages? {stages : List Stage} (h : ∀ s ∈ stages, s.IsFixed) {c : Schedule}
    (hc : ofStages? stages = some c) : c.IsRamped := by
  unfold ofStages? at hc
  split at hc
  · cases hc
    intro ramp total hr
    cases hr
  · exact ramped_includeRampUp?
      (hasTimes_ofStagesWithoutRampUp fun s hs => (h s hs).duration) hc

/-! ## Fixed values -/

/-- A number, or a time that is not negative. -/
inductive Literal.IsFixed : Literal → Prop where
  | number {n : Int} {default : Option Int} : IsFixed (.int (some n) default)
  | time {t : Duration} {default : Option Duration} (h : 0 ≤ t.micros) :
    IsFixed (.duration (some t) default)

/-- A fixed literal, or a slot without children. -/
inductive Argument.IsFixed : Argument Node → Prop where
  | literal {v : Literal} (h : v.IsFixed) : IsFixed (.literal v)
  | slot {type : String} : IsFixed (noChildren type)

/-- The characters of numbers and of calls that are given numbers. -/
def IsNumeric (s : List Char) : Prop := ∀ c ∈ s, c.isAlphanum = true ∨ c ∈ ['-', '.', '(', ')']

instance (s : List Char) : Decidable (IsNumeric s) := List.decidableBAll _ s

theorem IsNumeric.append {s t : List Char} (hs : IsNumeric s) (ht : IsNumeric t) :
    IsNumeric (s ++ t) := List.forall_mem_append.2 ⟨hs, ht⟩

theorem isNumeric_toString (n : Int) : IsNumeric (toString n).toList := by
  cases n with
  | ofNat n => exact fun c hc => Or.inl (Text.mem_toString_nat hc)
  | negSucc n =>
    rw [Text.toList_toString_negSucc]
    refine List.forall_mem_cons.2 ⟨Or.inr (by decide), fun c hc => ?_⟩
    exact Or.inl (Text.mem_toString_nat hc)

theorem isNumeric_duration (d : Duration) : IsNumeric d.code.toList := by
  rcases d.code_cases with h | ⟨f, count, h⟩
  · rw [h]
    decide
  · have hf : IsNumeric ("Duration." ++ f.name).toList := by cases f <;> decide
    rw [h, String.toList_append, String.toList_append, String.toList_append]
    exact ((hf.append (by decide)).append (isNumeric_toString count)).append (by decide)

theorem Argument.IsFixed.isNumeric {a : Argument Node} (h : a.IsFixed) (indent : List Char) :
    IsNumeric (Layout.argumentText indent a) := by
  cases h with
  | literal h =>
    cases h with
    | number => exact isNumeric_toString _
    | time => exact isNumeric_duration _
  | slot => exact List.forall_mem_nil _

/-! ## Fixed calls -/

namespace Convert

/-- A call that is given fixed values. -/
def Link.IsFixed : Link → Prop
  | .call _ values => ∀ v ∈ values, v.IsFixed
  | .remark _ => False

structure Parts.IsFixed (name : Literal) (p : Parts) : Prop where
  arguments : ∃ rest, p.arguments = .literal name :: rest ∧ ∀ a ∈ rest, a.IsFixed
  links : ∀ l ∈ p.links, l.IsFixed

/-- A thread group of numbers and times, of which duration and delay may be missing. -/
def fixedArguments (name : Literal) (n i : Int) (ramp : Duration) (total wait : Option Duration) :
    ThreadGroupArguments where
  name
  threads := .int (some n) none
  rampUp := .duration (some ramp) (some .second)
  duration := .duration total none
  delay := .duration wait none
  iterations := .int (some i) (some (-1))

section

variable {name : Literal} {n i : Int} {ramp : Duration} {total wait : Option Duration}

theorem exists_of_not_isDefaultOrZero {d : Option Duration}
    (h : isDefaultOrZero (.duration d none) = false) : ∃ t, d = some t := by
  cases d with
  | none => cases h
  | some t => exact ⟨t, rfl⟩

theorem isFixed_waiting (hw : ∀ t ∈ wait, 0 ≤ t.micros) :
    ∀ l ∈ (fixedArguments name n i ramp total wait).waiting, l.IsFixed := by
  unfold ThreadGroupArguments.waiting
  split
  · exact List.forall_mem_nil _
  · rename_i hz
    obtain ⟨t, rfl⟩ := exists_of_not_isDefaultOrZero (Bool.eq_false_iff.2 hz)
    exact List.forall_mem_singleton.2 (List.forall_mem_singleton.2 (.time (hw t rfl)))

theorem isFixed_iterating (hr : 0 ≤ ramp.micros) :
    ∀ l ∈ (fixedArguments name n i ramp total wait).iterating, l.IsFixed := by
  have hrounds : (fixedArguments name n i ramp total wait).rounds.IsFixed := by
    unfold ThreadGroupArguments.rounds
    split
    · exact .number
    · exact .number
  refine List.forall_mem_cons.2 ⟨?_, List.forall_mem_singleton.2 ?_⟩
  · exact List.forall_mem_cons.2 ⟨.number, List.forall_mem_singleton.2 (.time hr)⟩
  · exact List.forall_mem_singleton.2 hrounds

/-- The time to hold is the duration, or what is left of it after the ramp-up. -/
theorem isFixed_hold? {t : Duration} (hr : 0 ≤ ramp.micros) (ht : ramp.micros ≤ t.micros)
    {hold : Literal} {remarks : List Link}
    (h : (fixedArguments name n i ramp (some t) wait).hold? = some (hold, remarks)) :
    hold.IsFixed ∧ remarks = [] := by
  unfold ThreadGroupArguments.hold? fixedArguments at h
  dsimp only at h
  split at h
  · cases h
    exact ⟨.time (Int.le_trans hr ht), rfl⟩
  · obtain ⟨rest, hs, h⟩ := Option.map_eq_some_iff.1 h
    cases h
    have hm : rest.micros = t.micros - ramp.micros := Duration.ofMicros?_eq_some_iff.1 hs
    exact ⟨.time (by omega), rfl⟩

theorem isFixed_running? (hr : 0 ≤ ramp.micros) (ht : ∀ t ∈ total, ramp.micros ≤ t.micros)
    {links : List Link} (h : (fixedArguments name n i ramp total wait).running? = some links) :
    ∀ l ∈ links, l.IsFixed := by
  have hiter : ∀ l ∈ (fixedArguments name n i ramp total wait).iterating, l.IsFixed :=
    isFixed_iterating hr
  unfold ThreadGroupArguments.running? at h
  split at h
  · cases h
    exact hiter
  · rename_i hz
    obtain ⟨t, rfl⟩ := exists_of_not_isDefaultOrZero (Bool.eq_false_iff.2 hz)
    obtain ⟨⟨hold, remarks⟩, hh, rfl⟩ := Option.map_eq_some_iff.1 h
    obtain ⟨hhold, rfl⟩ := isFixed_hold? hr (ht t rfl) hh
    dsimp only
    split
    · exact List.forall_mem_singleton.2 (List.forall_mem_cons.2 ⟨.number,
        List.forall_mem_cons.2 ⟨.time hr, List.forall_mem_singleton.2 hhold⟩⟩)
    · rw [List.append_nil]
      exact List.forall_mem_append.2 ⟨hiter,
        List.forall_mem_singleton.2 (List.forall_mem_singleton.2 hhold)⟩

/-- **Fixed values.** A thread group of fixed values is made of fixed parts. -/
theorem fixed_parts? (hr : 0 ≤ ramp.micros) (ht : ∀ t ∈ total, ramp.micros ≤ t.micros)
    (hw : ∀ t ∈ wait, 0 ≤ t.micros) {p : Parts}
    (h : (fixedArguments name n i ramp total wait).parts? = some p) : p.IsFixed name := by
  have hu : (fixedArguments name n i ramp total wait).uniform =
      fixedArguments name n i ramp total wait := if_pos rfl
  unfold ThreadGroupArguments.parts? at h
  split at h
  · cases h
    refine ⟨⟨_, rfl, ?_⟩, List.forall_mem_nil _⟩
    refine List.forall_mem_cons.2 ⟨.literal .number, List.forall_mem_cons.2
      ⟨.literal ?_, List.forall_mem_singleton.2 .slot⟩⟩
    split
    · exact .number
    · rename_i hz
      obtain ⟨t, rfl⟩ := exists_of_not_isDefaultOrZero (Bool.eq_false_iff.2 hz)
      exact .time (Int.le_trans hr (ht t rfl))
  · rw [hu] at h
    obtain ⟨links, hl, rfl⟩ := Option.map_eq_some_iff.1 h
    refine ⟨⟨[], rfl, List.forall_mem_nil _⟩, ?_⟩
    exact List.forall_mem_append.2 ⟨isFixed_waiting hw, isFixed_running? hr ht hl⟩

end

end Convert

/-- The arguments that a chained call is given. -/
def Segment.given : Segment Node → List (Argument Node)
  | .call _ _ arguments => arguments
  | _ => []

/-- The arguments of a call and of those chained to it, but for the first one. -/
def Draft.given (d : Draft Node) : List (Argument Node) :=
  d.arguments.tail ++ d.chain.flatMap Segment.given

/-- A call without comments that is given a name, and fixed values besides. -/
structure Draft.IsFixed (name : Literal) (d : Draft Node) : Prop where
  heading : d.head.heading = none
  live : d.head.commented = false
  calls : ∀ s ∈ d.chain, ∃ called target, s = .call called target s.given
  named : d.arguments.head? = some (.literal name)
  given : ∀ a ∈ d.given, a.IsFixed

namespace Convert

section

variable {surface : Surface} {target : String}

/-- What a fixed link chains is a call of fixed values. -/
theorem Link.IsFixed.segments {l : Link} (h : l.IsFixed) :
    ∀ s ∈ l.segments surface target, (∃ called result, s = .call called result s.given) ∧
      ∀ a ∈ s.given, a.IsFixed := by
  cases l with
  | remark => exact h.elim
  | call name values =>
    intro s hs
    rw [Link.segments] at hs
    split at hs
    · cases hs
    · obtain ⟨m, -, rfl⟩ := Option.mem_map.1 (Option.mem_toList.1 hs)
      refine ⟨⟨_, _, rfl⟩, fun a ha => ?_⟩
      have hk : ∀ a ∈ literals values, Argument.IsFixed a := by
        intro a ha
        obtain ⟨v, hv, rfl⟩ := List.mem_map.1 ha
        exact .literal (h v hv)
      change a ∈ kept surface target name values at ha
      unfold kept at ha
      split at ha
      · split at ha
        · cases ha
        · exact hk a ha
      · exact hk a ha

/-- A call that is assembled of fixed parts is fixed. -/
theorem fixed_assembled {name : String} {nameLiteral : Literal} {p : Parts}
    (h : p.IsFixed nameLiteral) :
    Yields (assembled surface name p) (Draft.IsFixed nameLiteral) := by
  refine (yields_assembled surface name p).imp ?_
  rintro _ ⟨m, -, -, rfl⟩
  obtain ⟨rest, ha, hrest⟩ := h.arguments
  have hsegments : ∀ s ∈ p.links.flatMap (·.segments surface (m.resultType m.owner)),
      (∃ called result, s = .call called result s.given) ∧ ∀ a ∈ s.given, a.IsFixed := by
    intro s hs
    obtain ⟨l, hl, hs⟩ := List.mem_flatMap.1 hs
    exact (h.links l hl).segments s hs
  constructor
  case heading => rfl
  case live => rfl
  case calls => exact fun s hs => (hsegments s hs).1
  case named =>
    dsimp only [Draft.extend, Draft.ofMethod]
    rw [ha]
    rfl
  case given =>
    dsimp only [Draft.given, Draft.extend, Draft.ofMethod]
    rw [ha, List.tail_cons]
    refine List.forall_mem_append.2 ⟨hrest, fun a hm => ?_⟩
    obtain ⟨s, hs, hm⟩ := List.mem_flatMap.1 hm
    exact (hsegments s hs).2 a hm

end

end Convert

/-! ## Calls of stages -/

/-- A time that may be missing, as an argument. -/
theorem exists_lengthLiteral {d : Option Span} (h : ∀ s ∈ d, s.IsFixed) :
    ∃ t : Option Duration, d = t.map .fixed ∧ lengthLiteral d = .duration t none ∧
      ∀ x ∈ t, 0 ≤ x.micros := by
  cases d with
  | none => exact ⟨none, rfl, rfl, by simp⟩
  | some d =>
    obtain ⟨t, seconds, rfl, hm⟩ := h d rfl
    refine ⟨some t, rfl, rfl, ?_⟩
    rintro _ ⟨⟩
    omega

/-- A fixed schedule is a thread group of fixed values. -/
theorem exists_fixedArguments {c : Schedule} (ht : HasTimes Span.IsFixed c)
    (hc : HasCounts Count.IsFixed c) (hr : c.IsRamped) (name : Option String) :
    ∃ n i ramp total wait,
      c.arguments name = fixedArguments (c.arguments name).name n i ramp total wait ∧
      0 ≤ ramp.micros ∧ (∀ t ∈ total, ramp.micros ≤ t.micros) ∧ ∀ t ∈ wait, 0 ≤ t.micros := by
  obtain ⟨⟨n, hn, -⟩, hiterations⟩ := hc
  obtain ⟨total, htotal, hduration, htotal0⟩ := exists_lengthLiteral ht.duration
  obtain ⟨wait, -, hdelay, hwait0⟩ := exists_lengthLiteral ht.delay
  obtain ⟨i, hi⟩ : ∃ i, c.iterations.getD (.number (-1)) = .number i := by
    cases hi : c.iterations with
    | none => exact ⟨-1, rfl⟩
    | some x =>
      obtain ⟨i, rfl, -⟩ := hiterations x hi
      exact ⟨i, rfl⟩
  obtain ⟨ramp, hramp, hramp0, hramped⟩ : ∃ ramp, c.rampUp.getD (.fixed .zero) = .fixed ramp ∧
      0 ≤ ramp.micros ∧ ∀ t ∈ total, ramp.micros ≤ t.micros := by
    cases hd : c.rampUp with
    | none => exact ⟨.zero, rfl, Int.le_refl _, htotal0⟩
    | some d =>
      obtain ⟨ramp, seconds, rfl, hm⟩ := ht.rampUp d hd
      refine ⟨ramp, rfl, by omega, ?_⟩
      rintro t rfl
      exact hr ramp t hd htotal
  refine ⟨n, i, ramp, total, wait, ?_, hramp0, hramped, hwait0⟩
  rw [Schedule.arguments, fixedArguments, hn, hramp, hduration, hdelay, hi]
  rfl

/-- **Fixed stages.** Stages of numbers and whole seconds, none of them negative, become a call
unless their sum is out of range. But for its name the call is given numbers and times only, none of
these negative, and nothing is remarked on. What it is given is written without the signs that
expressions start with. -/
theorem fixedCall_of_stages {stages : List Stage} (h : ∀ s ∈ stages, s.IsFixed)
    (hs : ¬ SumIsBeyond stages) (name : Option String) :
    ∃ d, Tool.threadGroupOf stages name = .ok d ∧
      d.IsFixed (.string (some (givenName name)) (some defaultName)
        (givenName name == defaultName)) ∧
      ∀ a ∈ d.given, ∀ indent, IsNumeric (Layout.argumentText indent a) := by
  obtain ⟨c, hc⟩ := Option.ne_none_iff_exists'.1 (mt ofStages?_eq_none.1 hs)
  have htimes := hasTimes_ofStages? isFixed_add? (fun s hm => (h s hm).duration) hc
  have hcounts := hasCounts_ofStages? isFixed_one
    (fun s hm => ⟨(h s hm).threads, (h s hm).iterations⟩) hc
  have hread := isReadable_ofStages? (fun s hm => (h s hm).isReadable) hc
  have hin := not_scheduleIsBeyond_toElement hread.toHasReadableTimes
    (holdsInRange_ofStages? hc) name
  obtain ⟨d, hd, -⟩ := (ends_threadGroup (c.toElement name)).delivers fun _ he => hin he.2
  obtain ⟨a, p, ha, hp, hasm⟩ := yields_threadGroup Surface.standard (c.toElement name) d hd
  rw [threadGroupArguments_toElement hread] at ha
  obtain rfl := Except.ok.inj ha
  obtain ⟨n, i, ramp, total, wait, hargs, hr, ht, hw⟩ :=
    exists_fixedArguments htimes hcounts (ramped_ofStages? h hc) name
  rw [hargs] at hp
  have hfixed := fixed_assembled (fixed_parts? hr ht hw hp) d hasm
  refine ⟨d, ?_, hfixed, fun a hm indent => (hfixed.given a hm).isNumeric indent⟩
  rw [Tool.threadGroupOf, hc]
  dsimp only
  rw [hd]
  rfl

/-- A delay, a ramp-up, and a time to hold. -/
def loadStages : List Stage := [
  { threads := .number 0, duration := some (.fixed ⟨15000000, by decide, by decide⟩) },
  { threads := .number 10, duration := some (.fixed ⟨25000000, by decide, by decide⟩) },
  { threads := .number 10, duration := some (.fixed ⟨45000000, by decide, by decide⟩) }]

theorem fixedCall_of_stages_loadStages :
    (∀ s ∈ loadStages, s.IsFixed) ∧ ¬ SumIsBeyond loadStages ∧
      ∃ d, Tool.threadGroupOf loadStages (some "Users") = .ok d ∧
        d.IsFixed (.string (some "Users") (some defaultName) false) ∧
        ∀ a ∈ d.given, ∀ indent, IsNumeric (Layout.argumentText indent a) := by
  have hl : ∀ n, n ≤ 10 → (toString n).length ≤ Number.maxWholeDigits := by decide +kernel
  have stage : ∀ (n seconds : Nat) (t : Duration), n ≤ 10 → t.micros = seconds * 1000000 →
      Stage.IsFixed { threads := .number n, duration := some (.fixed t) } := by
    intro n seconds t hn ht
    refine ⟨⟨n, rfl, hl n hn⟩, ?_, nofun⟩
    rintro _ ⟨⟩
    exact ⟨t, seconds, rfl, ht⟩
  have hfixed : ∀ s ∈ loadStages, s.IsFixed := by
    refine List.forall_mem_cons.2 ⟨stage 0 15 _ (by decide) (by decide), ?_⟩
    refine List.forall_mem_cons.2 ⟨stage 10 25 _ (by decide) (by decide), ?_⟩
    exact List.forall_mem_singleton.2 (stage 10 45 _ (by decide) (by decide))
  have hs : ¬ SumIsBeyond loadStages := by
    rw [← ofStages?_eq_none]
    decide +kernel
  exact ⟨hfixed, hs, fixedCall_of_stages hfixed hs (some "Users")⟩

end PlanCode
