import PlanCode.Convert.ThreadGroup
import PlanCode.Proofs.Number.Numeral
import PlanCode.Proofs.Number.Seconds
import PlanCode.Proofs.Yields

/-!
# Schedules as properties

A schedule becomes the properties of a thread group, which are text, and is read
back from there. Numbers and whole seconds are numerals then; an expression has
to stay one, so it must not be blank, have blanks around it or write a number.
The stages that plain values make are of that kind, and so are the sums that the
schedule of such stages has.

* `isReadable_ofStages?`: readable stages make a readable schedule.
* `threadGroupArguments_toElement`: the thread group of a readable schedule is read as it.
* `arguments_of_stages`: so is that of stages that plain values make.
-/
namespace PlanCode

open PlanCode.Schedule PlanCode.Convert

/-! ## Schedules as arguments -/

/-- A count as an argument: a number, or the text of an expression. -/
def Count.literal (default : Option Int) : Count → Literal
  | .number n => .int (some n) default
  | .expression s => .text s

/-- A length of time as an argument. -/
def Span.literal (default : Option Duration) : Span → Literal
  | .fixed d => .duration (some d) default
  | .expression s => .text s

/-- A length of time that may be missing. -/
def lengthLiteral (d : Option Span) : Literal := (d.map (Span.literal none)).getD noDuration

theorem hasValue_lengthLiteral (d : Option Span) : (lengthLiteral d).hasValue = d.isSome := by
  rcases d with - | ⟨d | s⟩ <;> rfl

/-- The name of a thread group; an empty one is none. -/
def givenName (name : Option String) : String := (name.filter (· ≠ "")).getD defaultName

theorem givenName_ne_empty (name : Option String) : givenName name ≠ "" := by
  cases name with
  | none => decide
  | some n =>
    by_cases h : n = ""
    · simp [givenName, Option.filter, h, defaultName]
    · simp [givenName, Option.filter, h]

/-- What a schedule says, as arguments: without a ramp-up the threads are there at once, and without
iterations they go on forever. -/
def Schedule.arguments (s : Schedule) (name : Option String) : ThreadGroupArguments where
  name := .string (some (givenName name)) (some defaultName) (givenName name == defaultName)
  threads := s.threads.literal none
  rampUp := (s.rampUp.getD (.fixed .zero)).literal (some .second)
  duration := lengthLiteral s.duration
  delay := lengthLiteral s.delay
  iterations := (s.iterations.getD (.number (-1))).literal (some (-1))

/-! ## Readable parts -/

/-- A text that is read as an expression, just as it is. -/
structure IsSymbolic (s : String) : Prop where
  trim_eq : Text.trim s = s
  ne_empty : s ≠ ""
  readWhole?_eq : Number.readWhole? s = none

/-- A numeral may have the digits of the count. -/
def Count.IsShort : Count → Prop
  | .number n => (toString n.natAbs).length ≤ Number.maxWholeDigits
  | .expression _ => True

def Count.IsReadable : Count → Prop
  | .number n => (toString n.natAbs).length ≤ Number.maxWholeDigits
  | .expression s => IsSymbolic s

/-- A fixed length of whole seconds, or an expression. -/
def Span.IsReadable : Span → Prop
  | .fixed d => ∃ seconds : Int, d.micros = seconds * 1000000
  | .expression s => IsSymbolic s

structure Stage.IsShort (s : Stage) : Prop where
  threads : s.threads.IsShort
  iterations : ∀ c ∈ s.iterations, c.IsShort

/-- Some plain values make the stage. -/
def Stage.IsParsed (s : Stage) : Prop :=
  ∃ threads duration iterations, Stage.ofValues threads duration iterations = .ok s

structure Stage.IsReadable (s : Stage) : Prop where
  threads : s.threads.IsReadable
  duration : ∀ d ∈ s.duration, d.IsReadable
  iterations : ∀ c ∈ s.iterations, c.IsReadable

structure Schedule.HasReadableTimes (s : Schedule) : Prop where
  rampUp : ∀ d ∈ s.rampUp, d.IsReadable
  duration : ∀ d ∈ s.duration, d.IsReadable
  delay : ∀ d ∈ s.delay, d.IsReadable

structure Schedule.IsReadable (s : Schedule) : Prop extends s.HasReadableTimes where
  threads : s.threads.IsReadable
  iterations : ∀ c ∈ s.iterations, c.IsReadable

theorem toString_ne_empty (n : Int) : toString n ≠ "" := by
  intro h
  have hw := (Text.word_toString n).ne_nil
  rw [h] at hw
  exact hw rfl

theorem readWhole?_seconds {d : Duration} {s : Int} (h : d.micros = s * 1000000) :
    Number.readWhole? (toString s) = some s := by
  have hp : Nat.pow 2 53 ≤ Nat.pow 10 53 := by decide
  have hl : (toString s.natAbs).length ≤ Number.maxWholeDigits := Nat.le_trans
    (Number.length_toString_le (by decide)
      (Nat.lt_of_lt_of_le (Duration.natAbs_lt_of_micros h) hp)) (by decide)
  rw [Number.readWhole?_toString, if_pos hl]

/-- A readable count is read from its text. -/
theorem intLiteral_of_text {e : Element} {path : String} {c : Count} (hc : c.IsReadable)
    (h : e.textAt path = c.text) (default : Option Int) :
    e.intLiteral path default = c.literal default := by
  rw [Element.intLiteral, Element.trimmedAt, h]
  cases c with
  | number n =>
    have hl : (toString n.natAbs).length ≤ Number.maxWholeDigits := hc
    rw [Count.text, Number.trim_toString, if_neg (toString_ne_empty n),
      Number.readWhole?_toString, if_pos hl]
    rfl
  | expression s =>
    rw [Count.text, hc.trim_eq, if_neg hc.ne_empty, hc.readWhole?_eq]
    rfl

/-- A readable length of time is read from its text. -/
theorem durationLiteral?_of_text {e : Element} {path : String} {d : Span} (hd : d.IsReadable)
    (h : e.textAt path = d.text) (default : Option Duration) :
    e.durationLiteral? path default = some (d.literal default) := by
  rw [Element.durationLiteral?, Element.trimmedAt, h]
  cases d with
  | fixed d =>
    obtain ⟨s, hs⟩ := hd
    have hd : Duration.second.times? s = some d :=
      Duration.ofMicros?_eq_some_iff.2 (hs.trans (Int.mul_comm _ _))
    rw [Span.text, Duration.wholeSeconds_eq hs, Number.trim_toString,
      if_neg (toString_ne_empty s), readWhole?_seconds hs]
    simp [hd, Span.literal]
  | expression s =>
    rw [Span.text, hd.trim_eq, if_neg hd.ne_empty, hd.readWhole?_eq]
    rfl

/-! ## Stages from plain values -/

theorem yields_wholeNumber (x : Except StageError Int) :
    Yields (x.map fun n => some (Count.number n)) fun c? =>
      ∀ c ∈ c?, c.IsShort → c.IsReadable := by
  cases x with
  | error => exact yields_error _
  | ok n => exact yields_some id

/-- What is kept as an expression has been trimmed, is not blank and was not read as a number. -/
theorem yields_countOfText {s : String} (ht : Text.trim s = s) :
    Yields (Stage.countOfText s) fun c? => ∀ c ∈ c?, c.IsShort → c.IsReadable := by
  unfold Stage.countOfText
  split
  · exact yields_none
  · rename_i hne
    split
    · exact yields_some id
    · rename_i hw
      split
      · exact yields_wholeNumber _
      · exact yields_some fun _ => ⟨ht, hne, hw⟩

theorem yields_countOf (value : Datum) :
    Yields (Stage.countOf value) fun c? => ∀ c ∈ c?, c.IsShort → c.IsReadable := by
  unfold Stage.countOf
  split
  · exact yields_none
  · exact yields_countOfText (Number.trim_trim _)
  · exact yields_wholeNumber _

theorem yields_spanOfSeconds (n : Int) :
    Yields (Stage.spanOfSeconds n) fun d? => ∀ d ∈ d?, d.IsReadable := by
  unfold Stage.spanOfSeconds
  split
  · rename_i hd
    exact yields_some ⟨n, Duration.micros_ofSeconds? hd⟩
  · exact yields_error _

theorem yields_spanOf (value : Datum) :
    Yields (Stage.spanOf value) fun d? => ∀ d ∈ d?, d.IsReadable := by
  unfold Stage.spanOf
  split
  · exact yields_none
  · refine yields_bind (yields_countOfText (Number.trim_trim _)) fun c? hc => ?_
    split
    · exact yields_none
    · exact yields_spanOfSeconds _
    · exact yields_some (hc _ rfl trivial)
  · exact yields_bind_of_forall yields_spanOfSeconds

/-- Stages that plain values make are readable, unless one of their numbers is too long. -/
theorem yields_ofValues (threads duration iterations : Datum) :
    Yields (Stage.ofValues threads duration iterations) fun s => s.IsShort → s.IsReadable := by
  unfold Stage.ofValues
  refine yields_bind (yields_countOf threads) fun c? hc => ?_
  split
  · exact yields_error _
  · refine yields_bind (yields_spanOf duration) fun d? hd => ?_
    refine yields_bind (yields_countOf iterations) fun i? hi => yields_ok fun hs => ?_
    exact ⟨hc _ rfl hs.threads, hd, fun c hm => hi c hm (hs.iterations c hm)⟩

/-! ## Schedules of stages -/

/-- A function call stands between a dollar sign and a brace. -/
theorem isBare_callChars {p : Char → Bool} (hd : p '$' = false) (hb : p '\x7d' = false)
    (name : List Char) (arguments : List (List Char)) :
    Number.IsBare p (Expression.callChars name arguments) := by
  constructor
  · rintro _ ⟨⟩
    exact hd
  · rw [Expression.callChars, List.getLast?_append]
    rintro _ ⟨⟩
    exact hb

/-- A function call is no number, and it is not trimmed. -/
theorem isSymbolic_callChars (name : List Char) (arguments : List (List Char)) :
    IsSymbolic (String.ofList (Expression.callChars name arguments)) := by
  refine ⟨Number.trim_of_isBare ?_, fun he => ?_, ?_⟩
  · rw [String.toList_ofList]
    exact isBare_callChars (by decide) (by decide) name arguments
  · have hl := congrArg String.toList he
    rw [String.toList_ofList] at hl
    cases hl
  · rw [Number.readWhole?, String.toList_ofList]
    exact Number.readWholeChars?_eq_none
      (isBare_callChars (by decide) (by decide) name arguments) (by decide) (by decide)

theorem isReadable_add? {a b sum : Span} (ha : a.IsReadable) (hb : b.IsReadable)
    (h : a.add? b = some sum) : sum.IsReadable := by
  unfold Span.add? at h
  split at h
  · obtain ⟨d, hd, rfl⟩ := Option.map_eq_some_iff.1 h
    obtain ⟨s, hs⟩ := ha
    obtain ⟨t, ht⟩ := hb
    have hm := Duration.ofMicros?_eq_some_iff.1 hd
    exact ⟨s + t, by rw [hm, hs, ht, Int.add_mul]⟩
  · cases h
    exact isSymbolic_callChars _ _

theorem isReadable_one : (Count.number 1).IsReadable := by
  have hl : (toString 1).length ≤ Number.maxWholeDigits := by decide +kernel
  exact hl

/-- All times that a schedule has are of a kind. -/
structure HasTimes (P : Span → Prop) (s : Schedule) : Prop where
  rampUp : ∀ d ∈ s.rampUp, P d
  duration : ∀ d ∈ s.duration, P d
  delay : ∀ d ∈ s.delay, P d

section

variable {P : Span → Prop}

theorem hasTimes_initial {s : Stage} (h : ∀ d ∈ s.duration, P d) : HasTimes P (initial s) := by
  unfold initial
  split
  · exact ⟨by simp, by simp, h⟩
  split
  · exact ⟨h, by simp, by simp⟩
  · exact ⟨by simp, h, by simp⟩

theorem hasTimes_ofStagesWithoutRampUp {stages : List Stage}
    (h : ∀ s ∈ stages, ∀ d ∈ s.duration, P d) : HasTimes P (ofStagesWithoutRampUp stages) := by
  match stages, h with
  | [], _ => exact ⟨by simp [ofStagesWithoutRampUp], by simp [ofStagesWithoutRampUp],
      by simp [ofStagesWithoutRampUp]⟩
  | [first], h => exact hasTimes_initial (h first (by simp))
  | first :: second :: rest, h =>
    have hi := hasTimes_initial (h first (by simp))
    have hs := h second (by simp)
    unfold ofStagesWithoutRampUp
    dsimp only
    split
    · split
      · exact ⟨hs, hi.duration, hi.delay⟩
      · rename_i third rest
        exact ⟨hs, h third (by simp), hi.delay⟩
    · exact ⟨hi.rampUp, hs, hi.delay⟩

theorem hasTimes_includeRampUp? (hadd : ∀ a b sum, P a → P b → a.add? b = some sum → P sum)
    {s t : Schedule} (hs : HasTimes P s) (h : s.includeRampUp? = some t) : HasTimes P t := by
  unfold includeRampUp? at h
  split at h
  · cases h
    exact hs
  rename_i rampUp hr
  have hrr := hs.rampUp rampUp hr
  split at h
  · cases h
    exact hs
  -- only a sum is a length of time that no stage has
  split at h
  · rename_i d hd
    obtain ⟨sum, hsum, rfl⟩ := Option.map_eq_some_iff.1 h
    have hsr := hadd d rampUp sum (hs.duration d hd) hrr hsum
    exact ⟨hs.rampUp, by rintro _ ⟨⟩; exact hsr, hs.delay⟩
  · cases h
    exact ⟨hs.rampUp, by rintro _ ⟨⟩; exact hrr, hs.delay⟩
  · cases h
    exact hs

/-- **Times.** The times of a schedule are of the kind of those of its stages, if sums are. -/
theorem hasTimes_ofStages? (hadd : ∀ a b sum, P a → P b → a.add? b = some sum → P sum)
    {stages : List Stage} (h : ∀ s ∈ stages, ∀ d ∈ s.duration, P d) {c : Schedule}
    (hc : ofStages? stages = some c) : HasTimes P c := by
  unfold ofStages? at hc
  split at hc
  · cases hc
    exact ⟨by simp, by simp, by simp⟩
  · exact hasTimes_includeRampUp? hadd (hasTimes_ofStagesWithoutRampUp h) hc

end

/-- Readable times of stages make readable times of their schedule. -/
theorem hasReadableTimes_ofStages? {stages : List Stage}
    (h : ∀ s ∈ stages, ∀ d ∈ s.duration, d.IsReadable) {c : Schedule}
    (hc : ofStages? stages = some c) : c.HasReadableTimes := by
  obtain ⟨hr, hd, hy⟩ := hasTimes_ofStages? (fun _ _ _ => isReadable_add?) h hc
  exact ⟨hr, hd, hy⟩

/-- Threads and iterations of a schedule are of a kind. -/
def HasCounts (P : Count → Prop) (s : Schedule) : Prop := P s.threads ∧ ∀ c ∈ s.iterations, P c

section

variable {P : Count → Prop}

theorem hasCounts_default (h1 : P (.number 1)) : HasCounts P {} := by
  refine ⟨h1, ?_⟩
  rintro _ ⟨⟩
  exact h1

theorem hasCounts_initial (h1 : P (.number 1)) {s : Stage} (ht : P s.threads)
    (hi : ∀ c ∈ s.iterations, P c) : HasCounts P (initial s) := by
  unfold initial
  split
  · exact hasCounts_default h1
  split
  · exact ⟨ht, by simp⟩
  · exact ⟨ht, hi⟩

theorem hasCounts_ofStagesWithoutRampUp (h1 : P (.number 1)) {stages : List Stage}
    (h : ∀ s ∈ stages, P s.threads ∧ ∀ c ∈ s.iterations, P c) :
    HasCounts P (ofStagesWithoutRampUp stages) := by
  match stages, h with
  | [], _ => exact hasCounts_default h1
  | [first], h =>
    obtain ⟨ht, hi⟩ := h first (by simp)
    exact hasCounts_initial h1 ht hi
  | first :: second :: rest, h =>
    have hs := h second (by simp)
    unfold ofStagesWithoutRampUp
    dsimp only
    split
    · split
      · exact hs
      · rename_i third rest
        exact ⟨hs.1, (h third (by simp)).2⟩
    · exact hs

/-- A ramp-up changes no counts. -/
theorem includeRampUp?_counts {s t : Schedule} (h : s.includeRampUp? = some t) :
    t.threads = s.threads ∧ t.iterations = s.iterations := by
  unfold includeRampUp? at h
  split at h
  · cases h
    exact ⟨rfl, rfl⟩
  split at h
  · cases h
    exact ⟨rfl, rfl⟩
  split at h
  · obtain ⟨sum, -, rfl⟩ := Option.map_eq_some_iff.1 h
    exact ⟨rfl, rfl⟩
  · cases h
    exact ⟨rfl, rfl⟩
  · cases h
    exact ⟨rfl, rfl⟩

/-- **Counts.** The counts of a schedule are of the kind of those of its stages, if one is. -/
theorem hasCounts_ofStages? (h1 : P (.number 1)) {stages : List Stage}
    (h : ∀ s ∈ stages, P s.threads ∧ ∀ c ∈ s.iterations, P c) {c : Schedule}
    (hc : ofStages? stages = some c) : HasCounts P c := by
  unfold ofStages? at hc
  split at hc
  · cases hc
    exact hasCounts_default h1
  · obtain ⟨ht, hi⟩ := includeRampUp?_counts hc
    rw [HasCounts, ht, hi]
    exact hasCounts_ofStagesWithoutRampUp h1 h

end

/-- **Schedules.** Readable stages make a readable schedule. -/
theorem isReadable_ofStages? {stages : List Stage} (h : ∀ s ∈ stages, s.IsReadable)
    {c : Schedule} (hc : ofStages? stages = some c) : c.IsReadable := by
  have htimes := hasReadableTimes_ofStages? (fun s hs => (h s hs).duration) hc
  have hcounts := hasCounts_ofStages? isReadable_one
    (fun s hs => ⟨(h s hs).threads, (h s hs).iterations⟩) hc
  exact ⟨htimes, hcounts.1, hcounts.2⟩

/-! ## The thread group -/

section

variable (c : Schedule) (name : Option String)

theorem textAt_threadsKey : (c.toElement name).textAt threadsKey = c.threads.text := by
  obtain ⟨_, _, _, _ | _, _ | _⟩ := c <;> rfl

theorem textAt_rampTimeKey :
    (c.toElement name).textAt rampTimeKey = (c.rampUp.getD (.fixed .zero)).text := by
  obtain ⟨_, _, _ | _, _ | _, _ | _⟩ := c <;> rfl

theorem textAt_loopsKey : (c.toElement name).textAt (mainControllerKey ++ "/" ++ loopsKey) =
    (c.iterations.getD (.number (-1))).text := by
  obtain ⟨_, _ | _, _, _ | _, _ | _⟩ := c <;> rfl

theorem textAt_durationKey :
    (c.toElement name).textAt durationKey = (c.duration.map Span.text).getD "" := by
  obtain ⟨_, _, _, _ | _, _ | _⟩ := c <;> rfl

theorem textAt_delayKey :
    (c.toElement name).textAt delayKey = (c.delay.map Span.text).getD "" := by
  obtain ⟨_, _, _, _ | _, _ | _⟩ := c <;> rfl

theorem textAt_schedulerKey : (c.toElement name).textAt schedulerKey =
    if c.duration.isSome || c.delay.isSome then "true" else "false" := by
  obtain ⟨_, _, _, _ | _, _ | _⟩ := c <;> rfl

theorem flagAt_schedulerKey :
    (c.toElement name).flagAt schedulerKey true = (c.duration.isSome || c.delay.isSome) := by
  rw [Element.flagAt, Element.trimmedAt, textAt_schedulerKey]
  cases c.duration.isSome || c.delay.isSome <;> decide +kernel

theorem name_toElement : (c.toElement name).name = givenName name := by
  have hn : ∀ n, (c.toElement (some n)).name = if n = "" then defaultName else n := by
    intro n
    obtain ⟨_, _, _, _ | _, _ | _⟩ := c <;> rfl
  cases name with
  | none => obtain ⟨_, _, _, _ | _, _ | _⟩ := c <;> rfl
  | some n =>
    rw [hn]
    by_cases he : n = "" <;> simp [givenName, Option.filter, he]

theorem nameLiteral_toElement : (c.toElement name).nameLiteral defaultName =
    .string (some (givenName name)) (some defaultName) (givenName name == defaultName) := by
  rw [Element.nameLiteral, name_toElement, if_neg (givenName_ne_empty name)]

end

/-- A length of time that may be missing is read while the scheduler is on. -/
theorem lengthLiteral_of_text {e : Element} {path : String} {d : Option Span}
    (hd : ∀ s ∈ d, s.IsReadable) (h : e.textAt path = (d.map Span.text).getD "") :
    e.durationLiteral? path = some (lengthLiteral d) := by
  cases d with
  | none =>
    have ht : e.trimmedAt path = "" := by
      rw [Element.trimmedAt, h]
      decide
    rw [Element.durationLiteral?, ht, if_pos rfl]
    rfl
  | some d => exact durationLiteral?_of_text (hd d rfl) h none

/-- **Properties.** The thread group of a readable schedule is read as what the schedule says. -/
theorem threadGroupArguments_toElement {c : Schedule} (h : c.IsReadable) (name : Option String) :
    threadGroupArguments (c.toElement name) = .ok (c.arguments name) := by
  have hr : (c.rampUp.getD (.fixed .zero)).IsReadable := by
    cases hd : c.rampUp with
    | none => exact ⟨0, rfl⟩
    | some d => exact h.rampUp d hd
  have hi : (c.iterations.getD (.number (-1))).IsReadable := by
    cases hn : c.iterations with
    | none => exact isReadable_one
    | some n => exact h.iterations n hn
  have hramp := durationLiteral?_of_text hr (textAt_rampTimeKey c name) (some Duration.second)
  have hduration := lengthLiteral_of_text h.duration (textAt_durationKey c name)
  have hdelay := lengthLiteral_of_text h.delay (textAt_delayKey c name)
  have hoff : (c.duration.isSome || c.delay.isSome) = false →
      lengthLiteral c.duration = noDuration ∧ lengthLiteral c.delay = noDuration := by
    cases c.duration <;> cases c.delay <;> simp [lengthLiteral]
  rw [threadGroupArguments, hramp, flagAt_schedulerKey, hduration, hdelay,
    intLiteral_of_text h.threads (textAt_threadsKey c name),
    intLiteral_of_text hi (textAt_loopsKey c name), nameLiteral_toElement]
  cases hs : c.duration.isSome || c.delay.isSome with
  | true => rfl
  | false =>
    obtain ⟨hdu, hde⟩ := hoff hs
    rw [Schedule.arguments, hdu, hde]
    rfl

/-- **Stages.** The thread group of stages that plain values make, with numbers of no more digits
than a numeral may have, is read as what their schedule says: each number and each fixed time as
itself, each expression as its text, and a duration and a delay where the schedule has one. -/
theorem arguments_of_stages {stages : List Stage} (hs : ∀ s ∈ stages, s.IsParsed)
    (hd : ∀ s ∈ stages, s.IsShort) {c : Schedule} (hc : ofStages? stages = some c)
    (name : Option String) :
    threadGroupArguments (c.toElement name) = .ok (c.arguments name) ∧
      (c.arguments name).duration.hasValue = c.duration.isSome ∧
      (c.arguments name).delay.hasValue = c.delay.isSome := by
  have hr : ∀ s ∈ stages, s.IsReadable := by
    intro s hm
    obtain ⟨threads, duration, iterations, hv⟩ := hs s hm
    exact yields_ofValues threads duration iterations s hv (hd s hm)
  exact ⟨threadGroupArguments_toElement (isReadable_ofStages? hr hc) name,
    hasValue_lengthLiteral c.duration, hasValue_lengthLiteral c.delay⟩

/-- A delay, a ramp-up over a time that JMeter evaluates, and a time to hold. -/
def evaluatedStages : List Stage := [
  { threads := .number 0, duration := some (.fixed ⟨8000000, by decide, by decide⟩) },
  { threads := .expression "users", duration := some (.expression "$\x7bramp\x7d") },
  { threads := .number (-2), duration := some (.fixed ⟨60000000, by decide, by decide⟩),
    iterations := some (.expression "loops") }]

theorem isParsed_evaluatedStages : ∀ s ∈ evaluatedStages, s.IsParsed := by
  refine List.forall_mem_cons.2 ⟨⟨.int 0, .text " 8 ", .null, rfl⟩, ?_⟩
  refine List.forall_mem_cons.2 ⟨⟨.text " users", .text "$\x7bramp\x7d", .null, rfl⟩, ?_⟩
  refine List.forall_mem_cons.2 ⟨⟨.text "-2.0", .int 60, .text "loops ", rfl⟩, ?_⟩
  exact List.forall_mem_nil _

theorem isShort_evaluatedStages : ∀ s ∈ evaluatedStages, s.IsShort := by
  have hl : ∀ n, n ≤ 2 → (toString n).length ≤ Number.maxWholeDigits := by decide +kernel
  refine List.forall_mem_cons.2 ⟨⟨hl 0 (by decide), by simp⟩, ?_⟩
  refine List.forall_mem_cons.2 ⟨⟨trivial, by simp⟩, ?_⟩
  refine List.forall_mem_cons.2 ⟨⟨hl 2 (by decide), ?_⟩, List.forall_mem_nil _⟩
  rintro _ ⟨⟩
  exact trivial

/-- The schedule of the evaluated stages, where the end of the hold is a sum. -/
def evaluatedSchedule : Schedule where
  threads := .expression "users"
  iterations := some (.expression "loops")
  rampUp := some (.expression "$\x7bramp\x7d")
  duration := some (.expression (Expression.sum "60" "$\x7bramp\x7d"))
  delay := some (.fixed ⟨8000000, by decide, by decide⟩)

theorem ofStages?_evaluatedStages : ofStages? evaluatedStages = some evaluatedSchedule := by
  decide +kernel

theorem arguments_of_stages_evaluatedStages :
    (∀ s ∈ evaluatedStages, s.IsParsed) ∧ (∀ s ∈ evaluatedStages, s.IsShort) ∧
      ofStages? evaluatedStages = some evaluatedSchedule ∧
      threadGroupArguments (evaluatedSchedule.toElement (some "load")) =
        .ok (evaluatedSchedule.arguments (some "load")) ∧
      (evaluatedSchedule.arguments (some "load")).duration.hasValue =
        evaluatedSchedule.duration.isSome ∧
      (evaluatedSchedule.arguments (some "load")).delay.hasValue =
        evaluatedSchedule.delay.isSome :=
  ⟨isParsed_evaluatedStages, isShort_evaluatedStages, ofStages?_evaluatedStages,
    arguments_of_stages isParsed_evaluatedStages isShort_evaluatedStages ofStages?_evaluatedStages
      (some "load")⟩

end PlanCode
