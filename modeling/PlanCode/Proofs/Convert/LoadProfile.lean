import PlanCode.Proofs.Convert.Range
import PlanCode.Proofs.Convert.Resolve

/-!
# The load of a thread group call

What a thread group call of the DSL means: how many threads run, reached over
which ramp-up, for how many iterations or how long, and after which delay. The
call that a literal thread group is converted to means what its properties say.

* `chains_step`: a chained call is one more step of the schedule.
* `profile_threadGroup`: literal properties become a call of the same load.
-/
namespace PlanCode

/-! ## What calls mean -/

/-- The load of a thread group. Lengths of time are in microseconds, and -1 iterations are
iterations without end. -/
structure LoadProfile where
  threads : Int
  rampUp : Int
  iterations : Int
  /-- Counted from the start of the ramp-up. -/
  duration : Option Int := none
  delay : Option Int := none
deriving DecidableEq, Repr

namespace LoadProfile

/-- A chained call of a schedule. -/
inductive Step where
  | holdFor (delay : Duration)
  | rampTo (threads : Int) (rampUp : Duration)
  | holdIterating (iterations : Int)
  | upTo (hold : Duration)
  | rampToAndHold (threads : Int) (rampUp hold : Duration)
deriving DecidableEq

def Step.of? (name : String) : List Literal → Option Step
  | [.duration (some d) _] =>
    if name = "holdFor" then some (.holdFor d)
    else if name = "upTo" then some (.upTo d)
    else none
  | [.int (some n) _] => if name = "holdIterating" then some (.holdIterating n) else none
  | [.int (some n) _, .duration (some rampUp) _] =>
    if name = "rampTo" then some (.rampTo n rampUp) else none
  | [.int (some n) _, .duration (some rampUp) _, .duration (some hold) _] =>
    if name = "rampToAndHold" then some (.rampToAndHold n rampUp hold) else none
  | _ => none

/-- The literals that a call is given, its children apart; what is ignored is not given. -/
def given (arguments : List (Argument Node)) : List Literal :=
  (Argument.active arguments).filterMap fun a => match a with
    | .literal v => some v
    | _ => none

def stepOf? : Node → Option Step
  | .call head arguments [] _ => head.name.bind (Step.of? · (given arguments))
  | _ => none

/-- The load of a ramp-up and what follows it. -/
def ofRamp? : List Step → Option LoadProfile
  | [.rampTo n rampUp, .holdIterating k] =>
    some { threads := n, rampUp := rampUp.micros, iterations := k }
  | [.rampTo n rampUp, .holdIterating k, .upTo hold] =>
    some { threads := n, rampUp := rampUp.micros, iterations := k,
           duration := some (rampUp.micros + hold.micros) }
  | [.rampToAndHold n rampUp hold] =>
    some { threads := n, rampUp := rampUp.micros, iterations := -1,
           duration := some (rampUp.micros + hold.micros) }
  | _ => none

def ofSteps? : List Step → Option LoadProfile
  | .holdFor delay :: rest => (ofRamp? rest).map ({ · with delay := some delay.micros })
  | steps => ofRamp? steps

/-- The literals of a call behind its name. -/
def unnamed : List Literal → List Literal
  | .string .. :: rest => rest
  | values => values

/-- The load of a flat or chained `threadGroup` call, none for anything else. -/
def ofCall? : Node → Option LoadProfile
  | .call head arguments chain _ =>
    if head.name = some "threadGroup" then
      match unnamed (given arguments), chain with
      | [.int (some n) _, .int (some k) _], [] =>
        some { threads := n, rampUp := 0, iterations := k }
      | [.int (some n) _, .duration (some total) _], [] =>
        some { threads := n, rampUp := 0, iterations := -1, duration := some total.micros }
      | [], chain => (chain.mapM stepOf?).bind ofSteps?
      | _, _ => none
    else none
  | _ => none

/-- The steps that are chained to a `threadGroup()` call, none for anything else. -/
def steps? : Node → Option (List Step)
  | .call head arguments chain _ =>
    if head.name = some "threadGroup" ∧ (Argument.active arguments).isEmpty = true then
      chain.mapM stepOf?
    else none
  | _ => none

end LoadProfile

/-! ## What properties say -/

namespace Element

/-- A property holds a whole number, or is blank. -/
def HoldsNumber (e : Element) (path : String) : Option Int → Prop
  | none => e.trimmedAt path = ""
  | some n => Number.readWhole? (e.trimmedAt path) = some n

instance (e : Element) (path : String) (v : Option Int) : Decidable (e.HoldsNumber path v) :=
  match v with
  | none => inferInstanceAs (Decidable (_ = _))
  | some _ => inferInstanceAs (Decidable (_ = _))

/-- Whether duration and delay count: nothing is said, or the word is `true` in any case. -/
def Scheduled (e : Element) : Prop :=
  e.trimmedAt Schedule.schedulerKey = "" ∨
    Text.lower (e.trimmedAt Schedule.schedulerKey) = "true"

instance (e : Element) : Decidable e.Scheduled := inferInstanceAs (Decidable (_ ∨ _))

/-- A duration or delay in seconds as far as it counts. -/
def scheduled? (e : Element) (seconds : Option Int) : Option Int :=
  if e.Scheduled then seconds.filter (· ≠ 0) else none

end Element

namespace Convert

open Schedule LoadProfile

theorem flagAt_scheduler (e : Element) : e.flagAt schedulerKey true = decide e.Scheduled := by
  unfold Element.flagAt
  by_cases h : e.trimmedAt schedulerKey = ""
  · have hs : e.Scheduled := Or.inl h
    simp [h, hs]
  · have hs : e.Scheduled ↔ Text.lower (e.trimmedAt schedulerKey) = "true" := or_iff_right h
    simp [h, hs, Bool.beq_eq_decide_eq]

theorem intLiteral_eq {e : Element} {path : String} {v : Option Int} (h : e.HoldsNumber path v)
    (default : Option Int) : e.intLiteral path default = .int (v.or default) default := by
  unfold Element.intLiteral
  cases v with
  | none => simp [show e.trimmedAt path = "" from h]
  | some n =>
    have h : Number.readWhole? (e.trimmedAt path) = some n := h
    simp [Element.ne_empty_of_number h, h]

/-- Seconds as microseconds. -/
def micros (seconds : Option Int) : Option Int := seconds.map (· * 1000000)

theorem inRange_durationLiteral {e : Element} {path : String} {v : Option Int}
    (h : e.HoldsNumber path v) (hv : ∀ n, v = some n → (Duration.ofSeconds? n).isSome = true)
    (default : Option Duration) :
    Delivers (inRange (e.durationLiteral? path default)) fun l =>
      ∃ d, l = .duration d default ∧
        d.map Duration.micros = (micros v).or (default.map Duration.micros) := by
  unfold Element.durationLiteral?
  cases v with
  | none =>
    have h : e.trimmedAt path = "" := h
    simp only [if_pos h]
    exact delivers_ok ⟨default, rfl, by simp [micros]⟩
  | some n =>
    have h : Number.readWhole? (e.trimmedAt path) = some n := h
    obtain ⟨d, hd⟩ := Option.isSome_iff_exists.1 (hv n rfl)
    have ht : Duration.second.times? n = some d := by
      rw [← hd, Duration.times?, Duration.ofSeconds?, Int.mul_comm]
      rfl
    simp only [if_neg (Element.ne_empty_of_number h), h, ht]
    exact delivers_ok ⟨some d, rfl, by simp [micros, Duration.micros_ofSeconds? hd]⟩

/-- No time in microseconds is no time in seconds. -/
theorem filter_isZero {d : Option Duration} {v : Option Int}
    (h : d.map Duration.micros = micros v) :
    (d.filter (!·.isZero)).map Duration.micros = micros (v.filter (· ≠ 0)) := by
  cases v with
  | none =>
    obtain rfl : d = none := by simpa [micros] using h
    rfl
  | some n =>
    obtain ⟨d, rfl, hd⟩ := Option.map_eq_some_iff.1 h
    have hd : d.micros = n * 1000000 := hd
    have hz := Duration.isZero_of_micros hd
    by_cases hn : n = 0 <;> simp [Option.filter, micros, hz, hn, hd]

theorem isSome_ofSeconds_zero : (Duration.ofSeconds? 0).isSome = true := by decide

/-- What a duration or delay comes to, which counts only as far as it is scheduled. -/
theorem inRange_scheduled {e : Element} {path : String} {v : Option Int}
    (h : e.HoldsNumber path v)
    (hv : ∀ n, e.scheduled? v = some n → (Duration.ofSeconds? n).isSome = true) :
    Delivers
      (if e.flagAt schedulerKey true then inRange (e.durationLiteral? path) else pure noDuration)
      fun l => ∃ d : Option Duration, l = .duration d none ∧
        (d.filter (!·.isZero)).map Duration.micros = micros (e.scheduled? v) := by
  rw [flagAt_scheduler]
  unfold Element.scheduled? at hv ⊢
  by_cases hs : e.Scheduled
  · rw [if_pos hs] at hv
    rw [if_pos (by simpa using hs), if_pos hs]
    have hv : ∀ n, v = some n → (Duration.ofSeconds? n).isSome = true := by
      rintro n rfl
      by_cases hn : n = 0
      · rw [hn]
        exact isSome_ofSeconds_zero
      · exact hv n (by simp [Option.filter, hn])
    refine (inRange_durationLiteral h hv none).imp ?_
    rintro _ ⟨d, rfl, hd⟩
    exact ⟨d, rfl, filter_isZero (by simpa using hd)⟩
  · rw [if_neg (by simpa using hs), if_neg hs]
    exact delivers_ok ⟨none, rfl, rfl⟩

/-- No duration of a literal schedule leaves the range of durations. -/
structure NoOverflow (e : Element) (r : Int) (total wait : Option Int) : Prop where
  rampUp : (Duration.ofSeconds? r).isSome = true
  duration : ∀ t, e.scheduled? total = some t → (Duration.ofSeconds? t).isSome = true
  rest : ∀ t, e.scheduled? total = some t → (Duration.ofSeconds? (t - r)).isSome = true
  delay : ∀ t, e.scheduled? wait = some t → (Duration.ofSeconds? t).isSome = true

/-- Arguments read from properties that are literal, the threads perhaps apart. -/
structure LiteralArguments (e : Element) (threads : Literal) (i : Int) (rampUp : Duration)
    (duration wait : Option Duration) (a : ThreadGroupArguments) : Prop where
  name : a.name = e.nameLiteral defaultName
  threads : a.threads = threads
  rampUp : a.rampUp = .duration (some rampUp) (some Duration.second)
  duration : a.duration = .duration duration none
  delay : a.delay = .duration wait none
  iterations : a.iterations = .int (some i) (some (-1))

/-- The arguments that literal properties are read as. -/
theorem threadGroupArguments_delivers {e : Element} {threads : Literal} {r : Int}
    {loops total delay : Option Int} (hn : e.intLiteral threadsKey = threads)
    (hr : e.HoldsNumber rampTimeKey (some r))
    (hl : e.HoldsNumber (mainControllerKey ++ "/" ++ loopsKey) loops)
    (ht : e.HoldsNumber durationKey total) (hd : e.HoldsNumber delayKey delay)
    (ho : NoOverflow e r total delay) :
    Delivers (threadGroupArguments e) fun a => ∃ rampUp duration wait,
      LiteralArguments e threads (loops.getD (-1)) rampUp duration wait a ∧
      rampUp.micros = r * 1000000 ∧
      (duration.filter (!·.isZero)).map Duration.micros = micros (e.scheduled? total) ∧
      (wait.filter (!·.isZero)).map Duration.micros = micros (e.scheduled? delay) := by
  unfold threadGroupArguments
  refine delivers_bind (inRange_durationLiteral hr
    (fun m hm => Option.some.inj hm ▸ ho.rampUp) (some Duration.second)) ?_
  rintro _ ⟨rampUp, rfl, hru⟩
  obtain ⟨rampUp, rfl, hra⟩ := Option.map_eq_some_iff.1 hru
  extract_lets scheduled finish
  refine delivers_ite_bind (inRange_scheduled ht ho.duration) ?_
  rintro _ ⟨duration, rfl, hdu⟩
  dsimp only [finish]
  refine delivers_ite_bind (inRange_scheduled hd ho.delay) ?_
  rintro _ ⟨wait, rfl, hwa⟩
  have hra : rampUp.micros = r * 1000000 := hra
  have hi : e.intLiteral (mainControllerKey ++ "/" ++ loopsKey) (some (-1)) =
      .int (some (loops.getD (-1))) (some (-1)) := by
    rw [intLiteral_eq hl]
    cases loops <;> rfl
  rw [hn, hi]
  refine delivers_ok ⟨rampUp, duration, wait, ?_, hra, hdu, hwa⟩
  exact ⟨rfl, rfl, rfl, rfl, rfl, rfl⟩

/-! ## Calls of the default surface -/

def groupType : String := "DslDefaultThreadGroup"

/-- The arguments that `threadGroup` can be called with here. -/
def groupParameters : List (List String) := [
  [], ["String"],
  ["int", "int", "ThreadGroupChild[]"], ["String", "int", "int", "ThreadGroupChild[]"],
  ["int", "Duration", "ThreadGroupChild[]"], ["String", "int", "Duration", "ThreadGroupChild[]"]]

theorem groupParameters_declared :
    ∀ types ∈ groupParameters, ("threadGroup", types) ∈ Surface.factoryCalls := by decide

theorem start_threadGroup {arguments : List (Argument Node)}
    (h : Argument.activeTypes arguments ∈ groupParameters) :
    ∃ head : Head, head.name = some "threadGroup" ∧ head.target = groupType ∧
      start Surface.standard "threadGroup" arguments = .ok { head, arguments } := by
  obtain ⟨_, hd, m, hm, hname, rfl⟩ := delivers_start (groupParameters_declared _ h)
  exact ⟨_, rfl, ElementKind.threadGroup.resultType_factory _ rfl m hm hname, hd⟩

/-- The calls of a schedule that thread groups take here. -/
def groupCalls : List (String × List String) := [
  ("holdFor", ["Duration"]), ("rampTo", ["int", "Duration"]), ("holdIterating", ["int"]),
  ("upTo", ["Duration"]), ("rampToAndHold", ["int", "Duration", "Duration"])]

theorem groupCalls_declared : ∀ c ∈ groupCalls, (groupType, c) ∈ Surface.fluentCalls := by decide

/-- A chained call that the surface has, of which some argument is no default. -/
theorem chain_step {d : Draft Node} (hd : d.head.target = groupType) {name : String}
    {values : List Literal} (hv : (literals values).all (·.isDefault) = false)
    (hb : (literals values).all (·.isBool) = false)
    (hm : (name, Argument.activeTypes (literals values)) ∈ groupCalls) :
    ∃ target, chain Surface.standard name values d =
      .ok (d.append (.call name target (literals values))) := by
  obtain ⟨m, hf⟩ := Surface.findMethod_of_declared (groupCalls_declared _ hm)
  have hr : Draft.resolve Surface.standard groupType name (literals values) = .ok (some m) := by
    rw [Draft.resolve, hf]
  have hc : Draft.resolveChained Surface.standard d.head.target name (literals values) =
      .ok (m, literals values) := by
    rw [hd]
    unfold Draft.resolveChained
    extract_lets finish
    have hn : finish none = .ok (m, literals values) := by
      dsimp only [finish]
      rw [hr]
      rfl
    split
    · rename_i a ha
      rw [ha, List.all_cons, List.all_nil, Bool.and_true] at hb
      rw [if_neg (by simp [hb])]
      exact hn
    · exact hn
  refine ⟨m.resultType d.head.target, ?_⟩
  rw [chain, Draft.chainCall, hv, Bool.and_false, if_neg (by simp), hc, ← name_of_findMethod hf]
  rfl

/-! ## Schedules -/

variable {e : Element}

theorem exists_nameLiteral (e : Element) :
    ∃ v ignored, e.nameLiteral defaultName = .string v (some defaultName) ignored :=
  ⟨_, _, rfl⟩

/-- A draft of a thread group that chains some steps. -/
structure Chains (e : Element) (d : Draft Node) (steps : List Step) : Prop where
  name : d.head.name = some "threadGroup"
  target : d.head.target = groupType
  arguments : d.arguments = literals [e.nameLiteral defaultName]
  chain : (d.chain.map (Draft.segmentNode d.slotNodes)).mapM stepOf? = some steps

theorem unnamed_given (e : Element) :
    unnamed (given (literals [e.nameLiteral defaultName])) = [] := by
  obtain ⟨v, ignored, hl⟩ := exists_nameLiteral e
  rw [hl]
  cases ignored <;> rfl

theorem Chains.ofCall {d : Draft Node} {steps : List Step} (h : Chains e d steps) :
    ofCall? d.toNode = ofSteps? steps := by
  rw [Draft.toNode_eq]
  simp only [ofCall?, h.name, if_true, h.arguments, unnamed_given, h.chain, Option.bind_some]

/-- A thread group of the default name is called without arguments. -/
theorem Chains.steps {d : Draft Node} {steps : List Step} (h : Chains e d steps)
    (hn : e.name = defaultName) : steps? d.toNode = some steps := by
  have hi : (e.nameLiteral defaultName).isIgnored = true :=
    (Element.nameLiteral_ignored e defaultName).2 (Or.inr hn)
  have ha : (Argument.active d.arguments).isEmpty = true := by
    rw [h.arguments]
    simp [Argument.active, literals, Argument.isIgnored, hi]
  rw [Draft.toNode_eq, LoadProfile.steps?, if_pos ⟨h.name, ha⟩, h.chain]

theorem chains_start (e : Element) : ∃ d,
    start Surface.standard "threadGroup" (literals [e.nameLiteral defaultName]) = .ok d ∧
      Chains e d [] := by
  obtain ⟨v, ignored, hl⟩ := exists_nameLiteral e
  rw [hl]
  have ht : Argument.activeTypes (literals [.string v (some defaultName) ignored]) ∈
      groupParameters := by
    cases ignored with
    | true => exact show [] ∈ groupParameters by decide
    | false => exact show ["String"] ∈ groupParameters by decide
  obtain ⟨head, hn, hg, hs⟩ := start_threadGroup ht
  exact ⟨_, hs, hn, hg, by rw [hl], rfl⟩

theorem chains_step {d : Draft Node} {steps : List Step} (h : Chains e d steps) {name : String}
    {values : List Literal} {s : Step} (hs : Step.of? name values = some s)
    (hg : given (literals values) = values)
    (hv : (literals values).all (·.isDefault) = false)
    (hb : (literals values).all (·.isBool) = false)
    (hm : (name, Argument.activeTypes (literals values)) ∈ groupCalls) :
    ∃ d', chain Surface.standard name values d = .ok d' ∧ Chains e d' (steps ++ [s]) := by
  obtain ⟨target, hc⟩ := chain_step h.target hv hb hm
  refine ⟨_, hc, h.name, h.target, h.arguments, ?_⟩
  have hn : stepOf? (Draft.segmentNode d.slotNodes (.call name target (literals values))) =
      some s := by
    simp [Draft.segmentNode, stepOf?, hg, hs]
  change ((d.chain ++ [_]).map (Draft.segmentNode d.slotNodes)).mapM stepOf? = _
  rw [List.map_append, List.mapM_append, h.chain]
  simp [hn]

/-- A flat call that runs for some iterations or some time. -/
theorem profile_flat (e : Element) (n : Int) {length : Literal} {p : LoadProfile}
    (h : (∃ k default, length = .int (some k) default ∧
        p = { threads := n, rampUp := 0, iterations := k }) ∨
      ∃ total, length = .duration (some total) none ∧
        p = { threads := n, rampUp := 0, iterations := -1, duration := some total.micros }) :
    Delivers (start Surface.standard "threadGroup"
        (literals [e.nameLiteral defaultName, .int (some n) none, length] ++
          [noChildren "ThreadGroupChild[]"]))
      fun d => ofCall? d.toNode = some p := by
  obtain ⟨v, ignored, hl⟩ := exists_nameLiteral e
  rw [hl]
  obtain ⟨k, default, rfl, rfl⟩ | ⟨total, rfl, rfl⟩ := h
  · have ht : Argument.activeTypes (literals [.string v (some defaultName) ignored,
        .int (some n) none, .int (some k) default] ++ [noChildren "ThreadGroupChild[]"]) ∈
        groupParameters := by
      cases ignored with
      | true => exact show ["int", "int", "ThreadGroupChild[]"] ∈ groupParameters by decide
      | false =>
        exact show ["String", "int", "int", "ThreadGroupChild[]"] ∈ groupParameters by decide
    obtain ⟨head, hn, -, hs⟩ := start_threadGroup ht
    refine ⟨_, hs, ?_⟩
    refine (if_pos hn).trans ?_
    cases ignored <;> rfl
  · have ht : Argument.activeTypes (literals [.string v (some defaultName) ignored,
        .int (some n) none, .duration (some total) none] ++ [noChildren "ThreadGroupChild[]"]) ∈
        groupParameters := by
      cases ignored with
      | true => exact show ["int", "Duration", "ThreadGroupChild[]"] ∈ groupParameters by decide
      | false =>
        exact show ["String", "int", "Duration", "ThreadGroupChild[]"] ∈ groupParameters by decide
    obtain ⟨head, hn, -, hs⟩ := start_threadGroup ht
    refine ⟨_, hs, ?_⟩
    refine (if_pos hn).trans ?_
    cases ignored <;> rfl

/-- A duration that is not given counts as little as one of no length. -/
theorem isDefaultOrZero_duration (d : Option Duration) :
    isDefaultOrZero (.duration d none) = (d.filter (!·.isZero)).isNone := by
  cases d with
  | none => rfl
  | some d =>
    cases h : d.isZero <;> simp [isDefaultOrZero, Literal.isDefault, Literal.isZeroDuration,
      Option.filter, h]

theorem eq_second_iff {rampUp : Duration} {r : Int} (h : rampUp.micros = r * 1000000) :
    rampUp = Duration.second ↔ r = 1 := by
  constructor
  · rintro rfl
    have h : (1000000 : Int) = r * 1000000 := h
    omega
  · rintro rfl
    exact Duration.eq_of_micros h

theorem isDefaultOrZero_rampUp {rampUp : Duration} {r : Int} (h : rampUp.micros = r * 1000000) :
    isDefaultOrZero (.duration (some rampUp) (some Duration.second)) =
      (decide (r = 1) || decide (r = 0)) := by
  have hd : (Literal.duration (some rampUp) (some Duration.second)).isDefault =
      decide (r = 1) := by
    rw [Bool.eq_iff_iff]
    simpa [Literal.isDefault] using eq_second_iff h
  rw [isDefaultOrZero, hd, Literal.isZeroDuration, Duration.isZero_of_micros h]

/-- The time to hold after a ramp-up. The ramp-up that is the default is not taken off. -/
def holdOf? (rampUp total : Duration) : Option Duration :=
  if rampUp = Duration.second then some total else total.sub? rampUp

theorem holdTime_eq {a : ThreadGroupArguments} {total rampUp rest : Duration}
    (ht : a.duration = .duration (some total) none)
    (hr : a.rampUp = .duration (some rampUp) (some Duration.second))
    (hs : holdOf? rampUp total = some rest) (d : Draft Node) :
    holdTime a d = .ok (.duration (some rest) none, d) := by
  unfold holdTime
  rw [ht, hr]
  unfold holdOf? at hs
  by_cases hd : rampUp = Duration.second
  · rw [if_pos hd] at hs
    simp [Literal.isDefault, hd, Option.some.inj hs]
  · rw [if_neg hd] at hs
    simp [Literal.isDefault, hd, hs]

/-- The step that waits for a delay, if there is one. -/
def waitSteps (wait : Option Duration) : List Step :=
  ((wait.filter (!·.isZero)).map Step.holdFor).toList

theorem ofSteps_wait {steps : List Step} {p : LoadProfile} (h : ofRamp? steps = some p)
    (hp : p.delay = none) (wait : Option Duration) :
    ofSteps? (waitSteps wait ++ steps) =
      some { p with delay := (wait.filter (!·.isZero)).map Duration.micros } := by
  unfold waitSteps
  cases wait.filter (!·.isZero) with
  | some x => simp [ofSteps?, h]
  | none =>
    have hs : ofSteps? steps = ofRamp? steps := by
      unfold ofSteps?
      split
      · cases h
      · rfl
    simp [hs, h, ← hp]

theorem chains_wait {d : Draft Node} (h : Chains e d []) (wait : Option Duration) :
    Delivers
      (if isDefaultOrZero (.duration wait none) then pure d
        else chain Surface.standard "holdFor" [.duration wait none] d)
      fun d => Chains e d (waitSteps wait) := by
  rw [isDefaultOrZero_duration, waitSteps]
  cases hw : wait.filter (!·.isZero) with
  | none => exact delivers_ok h
  | some x =>
    obtain ⟨rfl, -⟩ := Option.filter_eq_some_iff.1 hw
    exact chains_step h rfl rfl rfl rfl (show ("holdFor", ["Duration"]) ∈ groupCalls by decide)

theorem chains_rampTo {d : Draft Node} {steps : List Step} (h : Chains e d steps) (n : Int)
    (rampUp : Duration) :
    Delivers
      (chain Surface.standard "rampTo"
        [.int (some n) none, .duration (some rampUp) (some Duration.second)] d)
      fun d => Chains e d (steps ++ [.rampTo n rampUp]) :=
  chains_step h rfl rfl rfl rfl (show ("rampTo", ["int", "Duration"]) ∈ groupCalls by decide)

/-- Iterations without end are given as such, though they are the default. -/
theorem chains_holdIterating {d : Draft Node} {steps : List Step} (h : Chains e d steps) (i : Int) :
    let iterations := Literal.int (some i) (some (-1))
    Delivers
      (chain Surface.standard "holdIterating"
        [if iterations.isDefault then .number (-1) else iterations] d)
      fun d => Chains e d (steps ++ [.holdIterating i]) := by
  intro iterations
  have hm : ("holdIterating", ["int"]) ∈ groupCalls := by decide
  by_cases hi : i = -1
  · subst hi
    exact chains_step h rfl rfl rfl rfl hm
  · have hd : iterations.isDefault = false := by simpa [iterations, Literal.isDefault] using hi
    rw [hd]
    exact chains_step h rfl rfl (by simpa [literals, Argument.isDefault] using hd) rfl hm

theorem chains_upTo {d : Draft Node} {steps : List Step} (h : Chains e d steps) (rest : Duration) :
    Delivers (chain Surface.standard "upTo" [.duration (some rest) none] d)
      fun d => Chains e d (steps ++ [.upTo rest]) :=
  chains_step h rfl rfl rfl rfl (show ("upTo", ["Duration"]) ∈ groupCalls by decide)

theorem chains_rampToAndHold {d : Draft Node} {steps : List Step} (h : Chains e d steps) (n : Int)
    (rampUp rest : Duration) :
    Delivers
      (chain Surface.standard "rampToAndHold"
        [.int (some n) none, .duration (some rampUp) (some Duration.second),
          .duration (some rest) none] d)
      fun d => Chains e d (steps ++ [.rampToAndHold n rampUp rest]) :=
  chains_step h rfl rfl rfl rfl
    (show ("rampToAndHold", ["int", "Duration", "Duration"]) ∈ groupCalls by decide)

/-- The steps behind the delay of a schedule with some time to hold. -/
def rampSteps (n i : Int) (rampUp : Duration) : Option Duration → List Step
  | none => [.rampTo n rampUp, .holdIterating i]
  | some hold =>
    if i = -1 then [.rampToAndHold n rampUp hold]
    else [.rampTo n rampUp, .holdIterating i, .upTo hold]

theorem ofRamp_rampSteps (n i : Int) (rampUp : Duration) (hold : Option Duration) :
    ofRamp? (rampSteps n i rampUp hold) = some {
      threads := n
      rampUp := rampUp.micros
      iterations := i
      duration := hold.map fun hold => rampUp.micros + hold.micros } := by
  cases hold with
  | none => rfl
  | some hold =>
    rw [rampSteps]
    split
    · rename_i hi
      rw [hi]
      rfl
    · rfl

/-- A schedule that is not flat is chained step by step. -/
theorem chains_threadGroup {e : Element} {n i : Int} {rampUp : Duration}
    {duration wait : Option Duration} {a : ThreadGroupArguments}
    (h : threadGroupArguments e = .ok a)
    (ha : LiteralArguments e (.int (some n) none) i rampUp duration wait a) (hf : a.isFlat = false)
    {hold : Option Duration}
    (hh : (duration.filter (!·.isZero)).mapM (holdOf? rampUp) = some hold) :
    Delivers (threadGroup Surface.standard e)
      fun d => Chains e d (waitSteps wait ++ rampSteps n i rampUp hold) := by
  unfold threadGroup
  refine delivers_bind (P := (a = ·)) ⟨a, h, rfl⟩ ?_
  rintro _ rfl
  have hu : a.uniform = a := by
    rw [ThreadGroupArguments.uniform, ha.threads, ha.rampUp, ha.duration]
    rfl
  obtain ⟨d, hs, hc⟩ := chains_start e
  rw [← ha.name] at hs
  rw [if_neg (by simp [hf]), hu]
  refine delivers_bind (P := fun d => Chains e d []) ⟨d, hs, hc⟩ ?_
  intro d hc
  extract_lets iterations finish
  rw [ha.delay]
  refine delivers_ite_bind (chains_wait hc wait) ?_
  intro d hw
  dsimp only [finish, iterations]
  rw [ha.duration, ha.iterations, ha.threads, ha.rampUp, isDefaultOrZero_duration]
  cases hds : duration.filter (!·.isZero) with
  | none =>
    rw [hds] at hh
    obtain rfl := Option.some.inj hh
    simp only [Option.isNone_none, Bool.or_true, if_true]
    refine delivers_bind (chains_rampTo hw n rampUp) fun d hd => ?_
    refine delivers_bind (chains_holdIterating hd i) fun d hd => delivers_ok ?_
    rwa [List.append_assoc] at hd
  | some x =>
    obtain ⟨rfl, -⟩ := Option.filter_eq_some_iff.1 hds
    rw [hds] at hh
    obtain ⟨rest, hrest, rfl⟩ := Option.map_eq_some_iff.1 hh
    have hhold := holdTime_eq ha.duration ha.rampUp hrest
    rw [rampSteps]
    by_cases hi : i = -1
    · subst hi
      refine delivers_bind (P := (· = _)) ⟨_, hhold d, rfl⟩ ?_
      rintro _ rfl
      exact chains_rampToAndHold hw n rampUp rest
    · have hni : (Literal.int (some i) (some (-1))).isDefault = false := by
        simpa [Literal.isDefault] using hi
      rw [if_pos (by rw [hni]; rfl), if_neg hi]
      refine delivers_bind (chains_rampTo hw n rampUp) fun d hd => ?_
      refine delivers_bind (chains_holdIterating hd i) fun d hd => ?_
      refine delivers_bind (P := (· = _)) ⟨_, hhold d, rfl⟩ ?_
      rintro _ rfl
      refine (chains_upTo hd rest).imp fun d hd => ?_
      rwa [List.append_assoc, List.append_assoc] at hd

theorem isFlat_eq {n i r : Int} {rampUp : Duration} {duration wait : Option Duration}
    {a : ThreadGroupArguments}
    (ha : LiteralArguments e (.int (some n) none) i rampUp duration wait a)
    (hr : rampUp.micros = r * 1000000) :
    a.isFlat = ((decide (r = 1) || decide (r = 0)) && (wait.filter (!·.isZero)).isNone &&
      ((duration.filter (!·.isZero)).isNone || decide (i = -1))) := by
  have hi : (Literal.int (some i) (some (-1))).isDefault = decide (i = -1) := by
    rw [Bool.eq_iff_iff]
    simp [Literal.isDefault]
  simp only [ThreadGroupArguments.isFlat, ha.threads, ha.duration, ha.iterations, ha.rampUp,
    ha.delay, isInt, isDuration, isDefaultOrZero_rampUp hr, isDefaultOrZero_duration, hi,
    Bool.true_and]

/-- A flat schedule becomes one call. -/
theorem profile_of_isFlat {e : Element} {n i r : Int} {rampUp : Duration}
    {duration wait : Option Duration} {a : ThreadGroupArguments}
    (h : threadGroupArguments e = .ok a)
    (ha : LiteralArguments e (.int (some n) none) i rampUp duration wait a)
    (hru : rampUp.micros = r * 1000000) (h1 : r ≠ 1) (hf : a.isFlat = true) :
    Delivers (threadGroup Surface.standard e) fun d => ofCall? d.toNode = some {
      threads := n
      rampUp := rampUp.micros
      iterations := i
      duration := (duration.filter (!·.isZero)).map Duration.micros
      delay := (wait.filter (!·.isZero)).map Duration.micros } := by
  unfold threadGroup
  refine delivers_bind (P := (a = ·)) ⟨a, h, rfl⟩ ?_
  rintro _ rfl
  rw [if_pos hf]
  rw [isFlat_eq ha hru, decide_eq_false h1, Bool.false_or] at hf
  simp only [Bool.and_eq_true, Bool.or_eq_true, decide_eq_true_eq,
    Option.isNone_iff_eq_none] at hf
  obtain ⟨⟨rfl, hwait⟩, hdur⟩ := hf
  have hz : rampUp.micros = 0 := by omega
  rw [ha.name, ha.threads, ha.duration, ha.iterations, isDefaultOrZero_duration, hwait, hz]
  cases hds : duration.filter (!·.isZero) with
  | none =>
    rw [if_pos Option.isNone_none]
    exact profile_flat e n (Or.inl ⟨i, some (-1), rfl, rfl⟩)
  | some x =>
    obtain ⟨rfl, -⟩ := Option.filter_eq_some_iff.1 hds
    obtain rfl : i = -1 := by simpa [hds] using hdur
    rw [if_neg (by simp)]
    exact profile_flat e n (Or.inr ⟨x, rfl, rfl⟩)

/-- What is left of a scheduled duration, together with the ramp-up, is the duration. -/
theorem exists_hold {e : Element} {r : Int} {total delay : Option Int}
    (ho : NoOverflow e r total delay) (h1 : r ≠ 1) {rampUp : Duration}
    (hr : rampUp.micros = r * 1000000) {x : Option Duration}
    (hx : x.map Duration.micros = micros (e.scheduled? total)) :
    ∃ hold, x.mapM (holdOf? rampUp) = some hold ∧
      (hold.map fun hold => rampUp.micros + hold.micros) = x.map Duration.micros := by
  cases x with
  | none => exact ⟨none, rfl, rfl⟩
  | some x =>
    obtain ⟨t, ht, hm⟩ := Option.map_eq_some_iff.1 hx.symm
    have hm : t * 1000000 = x.micros := hm
    obtain ⟨rest, hrest⟩ := Option.isSome_iff_exists.1 (ho.rest t ht)
    have hmicros := Duration.micros_ofSeconds? hrest
    have hsum : rampUp.micros + rest.micros = x.micros := by omega
    have hh : holdOf? rampUp x = some rest := by
      rw [holdOf?, if_neg (mt (eq_second_iff hr).1 h1)]
      exact Duration.ofMicros?_eq_some_iff.2 (by omega)
    exact ⟨some rest, by simp [Option.mapM_some, hh], by simp [hsum]⟩

/-- **Literal thread groups.** Where no duration overflows, a literal thread group becomes a call
with the load that its properties say. -/
theorem profile_threadGroup {e : Element} {n r : Int} {loops total delay : Option Int}
    (hn : e.HoldsNumber threadsKey (some n)) (hr : e.HoldsNumber rampTimeKey (some r))
    (h1 : r ≠ 1) (hl : e.HoldsNumber (mainControllerKey ++ "/" ++ loopsKey) loops)
    (ht : e.HoldsNumber durationKey total) (hd : e.HoldsNumber delayKey delay)
    (ho : NoOverflow e r total delay) :
    ∃ d, threadGroup Surface.standard e = .ok d ∧ ofCall? d.toNode = some {
      threads := n
      rampUp := r * 1000000
      iterations := loops.getD (-1)
      duration := micros (e.scheduled? total)
      delay := micros (e.scheduled? delay) } := by
  obtain ⟨a, hargs, rampUp, duration, wait, ha, hru, hdu, hwa⟩ :=
    threadGroupArguments_delivers (intLiteral_eq hn none) hr hl ht hd ho
  rw [← hwa, ← hru]
  cases hf : a.isFlat with
  | true =>
    rw [← hdu]
    exact profile_of_isFlat hargs ha hru h1 hf
  | false =>
    obtain ⟨hold, hh, hsum⟩ := exists_hold ho h1 hru hdu
    obtain ⟨d, hok, hc⟩ := chains_threadGroup hargs ha hf hh
    refine ⟨d, hok, ?_⟩
    rw [hc.ofCall, ← hdu, ← hsum]
    exact ofSteps_wait (ofRamp_rampSteps _ _ _ _) rfl wait

/-- Ten threads with a ramp-up, three iterations and a delay of no length. -/
def rampingGroup : Element where
  kind := "ThreadGroup"
  name := "Users"
  properties := [
    (threadsKey, .text "10"), (rampTimeKey, .text " 5 "), (durationKey, .text "60"),
    (delayKey, .text "0"), (schedulerKey, .text "True"),
    (mainControllerKey, .element
      { kind := "LoopController", properties := [(loopsKey, .text "3")] })]

theorem profile_threadGroup_rampingGroup :
    ∃ d, threadGroup Surface.standard rampingGroup = .ok d ∧ ofCall? d.toNode = some {
      threads := 10
      rampUp := 5000000
      iterations := 3
      duration := some 60000000 } := by
  have total : rampingGroup.scheduled? (some 60) = some 60 := by decide +kernel
  have delay : rampingGroup.scheduled? (some 0) = none := by decide +kernel
  have ho : NoOverflow rampingGroup 5 (some 60) (some 0) := by
    refine ⟨by decide, ?_, ?_, ?_⟩
    · rw [total]
      rintro _ ⟨⟩
      decide
    · rw [total]
      rintro _ ⟨⟩
      decide
    · rw [delay]
      rintro _ ⟨⟩
  have hn : rampingGroup.HoldsNumber threadsKey (some 10) := by decide +kernel
  have hl : rampingGroup.HoldsNumber (mainControllerKey ++ "/" ++ loopsKey) (some 3) := by
    decide +kernel
  have h := profile_threadGroup hn (by decide +kernel) (by decide) hl (by decide +kernel)
    (by decide +kernel) ho
  rwa [total, delay] at h

end Convert
end PlanCode
