import Mathlib.Data.List.Forall2
import PlanCode.Proofs.Convert.Range
import PlanCode.Proofs.Convert.Resolve
import PlanCode.Proofs.Convert.ThreadGroup

/-!
# How the conversion of an element ends

On the shipped surface the arguments that properties become are of types that
the called methods declare, be they numbers, times or expressions. The exception
are flags: a text that is no flag is an argument that no method takes. So an
element is converted unless one of its flags is unclear or a time of it leaves
the range of durations.

* `findChildrenMethod_target`: the kinds whose calls take children.
* `ends_threadGroup`: thread groups only fail for their times.
* `ends_convert`: how the conversion of an element ends, by its kind.
* `ends_addChild`: a call takes a child exactly when its kind has a method for children.
-/
namespace PlanCode

theorem Argument.activeTypes_cons (a : Argument Node) (rest : List (Argument Node)) :
    activeTypes (a :: rest) = (if a.isIgnored then [] else [a.type]) ++ activeTypes rest := by
  unfold activeTypes active
  cases h : a.isIgnored <;> simp [h]

/-- A literal that is given as a value of a type. -/
structure Literal.IsOf (l : Literal) (type : String) : Prop where
  given : l.isIgnored = false
  type_eq : l.type = type

namespace ElementKind

/-- The properties of the elements of a kind that have to be flags. -/
def flagKeys : ElementKind → List String
  | .testPlan => [Convert.serializeKey, Convert.tearDownKey]
  | .transaction => [Convert.parentSampleKey]
  | .httpSampler => [Convert.followRedirectsKey]
  | .responseAssertion => [Convert.assumeSuccessKey]
  | _ => []

/-- Whether the calls of a kind have a method that takes children. -/
def takesChildren : ElementKind → Bool
  | .httpHeaders | .httpDefaults | .responseAssertion | .constantTimer | .resultsTree => false
  | _ => true

theorem findChildrenMethod_target (k : ElementKind) :
    (Surface.standard.findChildrenMethod k.target).toOption.map Option.isSome =
      some k.takesChildren := by
  cases k <;> decide +kernel

theorem slotType?_eq_none {k : ElementKind} (hk : k.takesChildren = false) :
    k.slotType? = none := by
  cases k <;> first | rfl | cases hk

end ElementKind

namespace Convert

open Surface

theorem activeTypes_literals {values : List Literal} {types : List String}
    (h : List.Forall₂ Literal.IsOf values types) (slot : List (Argument Node)) :
    Argument.activeTypes (literals values ++ slot) = types ++ Argument.activeTypes slot := by
  induction h with
  | nil => rfl
  | @cons v type values types hv _ ih =>
    refine (Argument.activeTypes_cons (.literal v) (literals values ++ slot)).trans ?_
    rw [ih, if_neg (by simp [Argument.isIgnored, hv.given]), ← hv.type_eq]
    rfl

/-- Every flag of an element is one. -/
def IsClear (k : ElementKind) (e : Element) : Prop := ∀ key ∈ k.flagKeys, e.isUnclear key = false

/-- Why an element is not converted: a time leaves the range of durations, or no method takes a flag
that is none. -/
def Refused (k : ElementKind) (e : Element) (error : ConversionError) : Prop :=
  error = .durationOverflow ∧ k.Overruns e ∨
    IsMissing error ∧ ∃ key ∈ k.flagKeys, e.isUnclear key = true

variable {k : ElementKind} {e : Element} {d : Draft Node}

/-! ## Calls of a kind -/

theorem delivers_startKind {name : String} (hk : k.factoryMethod? = some name)
    {arguments : List (Argument Node)} (h : (name, Argument.activeTypes arguments) ∈ factoryCalls) :
    Delivers (start standard name arguments) fun d => d.head.target = k.target :=
  (delivers_start h).imp fun _ ⟨m, hm, hname, hd⟩ =>
    (congrArg (·.head.target) hd).trans (k.resultType_factory name hk m hm hname)

/-- A call that may be given a name is one of a method that may be called without. -/
theorem delivers_startNamed {name default : String} (hk : k.factoryMethod? = some name)
    {values : List Literal} {types : List String} (hv : List.Forall₂ Literal.IsOf values types)
    {slot : List (Argument Node)} (hn : (name, types ++ Argument.activeTypes slot) ∈ factoryCalls)
    (hs : (name, "String" :: types ++ Argument.activeTypes slot) ∈ factoryCalls) :
    Delivers (start standard name (literals (e.nameLiteral default :: values) ++ slot))
      fun d => d.head.target = k.target := by
  refine delivers_startKind hk ?_
  have ht : Argument.activeTypes (literals (e.nameLiteral default :: values) ++ slot) =
      (if (e.nameLiteral default).isIgnored then [] else ["String"]) ++
        (types ++ Argument.activeTypes slot) := by
    rw [← activeTypes_literals hv]
    exact Argument.activeTypes_cons ..
  rw [ht]
  cases (e.nameLiteral default).isIgnored with
  | true => exact hn
  | false => exact hs

theorem delivers_chainTyped {type : String} (hd : d.head.target = type) {name : String}
    {values : List Literal} {types : List String} (hv : List.Forall₂ Literal.IsOf values types)
    (h : (type, name, types) ∈ fluentCalls) :
    Delivers (chain standard name values d) fun d' => d'.head.target = type := by
  have ht := activeTypes_literals hv []
  rw [List.append_nil] at ht
  refine delivers_chain hd ?_
  rw [ht]
  simpa [Argument.activeTypes, Argument.active] using h

theorem ends_ownFlag (hd : d.head.target = k.target) {name key : String}
    (h : (k.target, name) ∈ flagCalls) (hk : key ∈ k.flagKeys) (default : Bool) :
    Ends (chain standard name [e.boolLiteral key default] d)
      (fun d' => d'.head.target = k.target ∧ e.isUnclear key = false) (Refused k e) :=
  (ends_flag hd h e key default).imp_error fun _ ⟨hm, hu⟩ => Or.inr ⟨hm, key, hk, hu⟩

theorem isOf_text (s : String) : (Literal.text s).IsOf "String" := ⟨rfl, rfl⟩

theorem typed_texts (s t : String) :
    List.Forall₂ Literal.IsOf [.text s, .text t] ["String", "String"] :=
  .cons (isOf_text s) (.cons (isOf_text t) .nil)

/-! ## Thread groups -/

def IsNumber (l : Literal) : Prop := l.IsOf "int" ∨ l.IsOf "String"

def IsTime (l : Literal) : Prop := l.IsOf "Duration" ∨ l.IsOf "String"

theorem isNumber_intLiteral (e : Element) (path : String) (default : Option Int) :
    IsNumber (e.intLiteral path default) := by
  unfold Element.intLiteral
  dsimp only
  split
  · exact Or.inl ⟨rfl, rfl⟩
  · split
    · exact Or.inl ⟨rfl, rfl⟩
    · exact Or.inr (isOf_text _)

theorem isTime_durationLiteral? (e : Element) (path : String) (default : Option Duration)
    (unit : Duration) : ∀ l ∈ e.durationLiteral? path default unit, IsTime l := by
  intro l hl
  obtain ⟨-, rfl⟩ | ⟨_, _, -, -, rfl⟩ | ⟨-, -, rfl⟩ := Element.durationLiteral?_eq_some hl
  · exact Or.inl ⟨rfl, rfl⟩
  · exact Or.inl ⟨rfl, rfl⟩
  · exact Or.inr (isOf_text _)

/-- What the properties of a thread group become. -/
structure ThreadGroupArguments.Typed (e : Element) (a : ThreadGroupArguments) : Prop where
  name : a.name = e.nameLiteral Schedule.defaultName
  threads : IsNumber a.threads
  rampUp : IsTime a.rampUp
  duration : IsTime a.duration
  delay : IsTime a.delay
  iterations : IsNumber a.iterations

theorem isTime_noDuration : IsTime noDuration := Or.inl ⟨rfl, rfl⟩

theorem ThreadGroupArguments.Reads.typed {a : ThreadGroupArguments} (h : a.Reads e) :
    a.Typed e := by
  have isTime : ∀ {on : Bool} {literal? : Option Literal} {l : Literal},
      (∀ l ∈ literal?, IsTime l) → (if on then literal? = some l else l = noDuration) →
      IsTime l := by
    intro on literal? l ht hl
    cases on with
    | true => exact ht l hl
    | false => exact hl ▸ isTime_noDuration
  exact {
    name := h.name
    threads := h.threads ▸ isNumber_intLiteral e _ _
    rampUp := isTime_durationLiteral? e _ _ _ _ h.rampUp
    duration := isTime (isTime_durationLiteral? e _ _ _) h.duration
    delay := isTime (isTime_durationLiteral? e _ _ _) h.delay
    iterations := h.iterations ▸ isNumber_intLiteral e _ _ }

/-- Threads, ramp-up and duration are of types that the calls of a schedule take together. -/
structure ThreadGroupArguments.Uniform (a : ThreadGroupArguments) (number time : String) :
    Prop where
  threads : a.threads.IsOf number
  rampUp : a.rampUp.IsOf time
  duration : a.duration.IsOf time
  rampTo : ("DslDefaultThreadGroup", "rampTo", [number, time]) ∈ fluentCalls
  upTo : ("DslDefaultThreadGroup", "upTo", [time]) ∈ fluentCalls
  rampToAndHold : ("DslDefaultThreadGroup", "rampToAndHold", [number, time, time]) ∈ fluentCalls

theorem isOf_int {l : Literal} (h : isInt l = true) : l.IsOf "int" := by
  cases l with
  | int => exact ⟨rfl, rfl⟩
  | _ => cases h

theorem isOf_duration {l : Literal} (h : isDuration l = true) : l.IsOf "Duration" := by
  cases l with
  | duration => exact ⟨rfl, rfl⟩
  | _ => cases h

/-- All three are literal, or all three are strings. -/
theorem exists_uniform (a : ThreadGroupArguments) :
    ∃ number time, a.uniform.Uniform number time := by
  unfold ThreadGroupArguments.uniform
  split
  · rename_i h
    simp only [Bool.and_eq_true] at h
    exact ⟨"int", "Duration", isOf_int h.1.1, isOf_duration h.1.2, isOf_duration h.2, by decide,
      by decide, by decide⟩
  · exact ⟨"String", "String", ⟨rfl, rfl⟩, ⟨rfl, rfl⟩, ⟨rfl, rfl⟩, by decide, by decide, by decide⟩

theorem typed_uniform {a : ThreadGroupArguments} (h : a.Typed e) :
    a.uniform.name = e.nameLiteral Schedule.defaultName ∧ IsTime a.uniform.delay ∧
      IsNumber a.uniform.iterations := by
  unfold ThreadGroupArguments.uniform
  split
  · exact ⟨h.name, h.delay, h.iterations⟩
  · exact ⟨h.name, h.delay, h.iterations⟩

/-- The time to hold is of the type of the duration. -/
theorem ends_holdTime {a : ThreadGroupArguments} {type : String} (h : a.duration.IsOf type)
    (d : Draft Node) : Ends (holdTime a d)
      (fun (hold, d') => (hold.IsOf type ∧ d'.head.target = d.head.target) ∧ ¬ a.HoldOverruns)
      fun error => error = .durationOverflow ∧ a.HoldOverruns := by
  unfold holdTime ThreadGroupArguments.HoldOverruns
  split
  · rename_i total _ ramp _ hd hr
    rw [hd] at h
    have ht : ∀ x : Duration, (Literal.duration (some x) none).IsOf type :=
      fun _ => ⟨rfl, h.type_eq⟩
    split
    · rename_i hdef
      exact .ok ⟨⟨ht _, rfl⟩, by simp [hdef]⟩
    · rename_i hdef
      split
      · rename_i rest hs
        refine .ok ⟨⟨ht _, rfl⟩, ?_⟩
        rintro ⟨_, _, _, _, hd', hr', -, hn⟩
        rw [hd] at hd'
        rw [hr] at hr'
        cases hd'
        cases hr'
        rw [hs] at hn
        cases hn
      · rename_i hs
        exact .error ⟨rfl, _, _, _, _, hd, hr, Bool.eq_false_iff.2 hdef, hs⟩
  · rename_i hno
    refine .ok ⟨⟨h, ?_⟩, ?_⟩
    · split
      · rfl
      · rfl
    · rintro ⟨total, ramp, _, _, hd, hr, -⟩
      exact hno _ _ _ _ hd hr

theorem delivers_flat {a : ThreadGroupArguments} (ha : a.Typed e) (hf : a.isFlat = true) :
    Delivers (flatCall standard a) fun d => d.head.target = ElementKind.threadGroup.target := by
  unfold ThreadGroupArguments.isFlat at hf
  simp only [Bool.and_eq_true] at hf
  obtain ⟨⟨⟨⟨⟨ht, hd⟩, hi⟩, -⟩, -⟩, -⟩ := hf
  unfold flatCall
  rw [ha.name]
  split
  · exact delivers_startNamed rfl (.cons (isOf_int ht) (.cons (isOf_int hi) .nil)) (by decide)
      (by decide)
  · exact delivers_startNamed rfl (.cons (isOf_int ht) (.cons (isOf_duration hd) .nil)) (by decide)
      (by decide)

theorem delivers_holdFor {delay : Literal} (h : IsTime delay)
    (hd : d.head.target = "DslDefaultThreadGroup") :
    Delivers (chain standard "holdFor" [delay] d)
      fun d' => d'.head.target = "DslDefaultThreadGroup" := by
  rcases h with h | h
  · exact delivers_chainTyped hd (.cons h .nil) (by decide)
  · exact delivers_chainTyped hd (.cons h .nil) (by decide)

theorem delivers_holdIterating {iterations : Literal} (h : IsNumber iterations)
    (hd : d.head.target = "DslDefaultThreadGroup") :
    Delivers (chain standard "holdIterating" [iterations] d)
      fun d' => d'.head.target = "DslDefaultThreadGroup" := by
  rcases h with h | h
  · exact delivers_chainTyped hd (.cons h .nil) (by decide)
  · exact delivers_chainTyped hd (.cons h .nil) (by decide)

/-- The calls of a schedule are declared for what they are given, so all that can fail is the time
to hold. It is computed exactly where there is a duration. -/
theorem keeps_target {a : ThreadGroupArguments} (h : a.Reads e) :
    Keeps standard (fun d => d.head.target = "DslDefaultThreadGroup")
      (fun _ => ¬ e.ScheduleIsBeyond)
      (fun error => error = .durationOverflow ∧ e.ScheduleIsBeyond) a.uniform := by
  obtain ⟨number, time, hu⟩ := exists_uniform a
  obtain ⟨hname, hdelay, hiter⟩ := typed_uniform h.typed
  have hb := h.scheduleIsBeyond_iff
  generalize a.uniform = a at hu hname hdelay hiter hb
  have hhold : isDefaultOrZero a.duration = false → ∀ d : Draft Node, Ends (holdTime a d)
      (fun (hold, d') => (hold.IsOf time ∧ d'.head.target = d.head.target) ∧
        ¬ e.ScheduleIsBeyond)
      fun error => error = .durationOverflow ∧ e.ScheduleIsBeyond := by
    intro hz d
    rw [hb, and_iff_right hz]
    exact ends_holdTime hu.duration d
  constructor
  case started =>
    rw [hname]
    exact (@delivers_startNamed .threadGroup e _ _ rfl [] [] .nil [] (by decide) (by decide)).ends
  case holdFor => exact fun d hd => (delivers_holdFor hdelay hd).ends
  case rampTo =>
    exact fun d hd => (delivers_chainTyped hd (.cons hu.threads (.cons hu.rampUp .nil))
      hu.rampTo).ends
  case holdIterating =>
    rintro _ (rfl | rfl) d hd
    · exact (delivers_holdIterating (Or.inl ⟨rfl, rfl⟩) hd).ends
    · exact (delivers_holdIterating hiter hd).ends
  case endless =>
    intro hz _ _
    simp [hb, hz]
  case upTo =>
    intro hz d hd
    refine ends_bind (hhold hz d) ?_
    rintro ⟨hold, d'⟩ ⟨⟨hl, hd'⟩, hin⟩
    exact ((delivers_chainTyped (hd'.trans hd) (.cons hl .nil) hu.upTo).imp fun _ _ => hin).ends
  case rampToAndHold =>
    intro hz d hd
    refine ends_bind (hhold hz d) ?_
    rintro ⟨hold, d'⟩ ⟨⟨hl, hd'⟩, hin⟩
    exact ((delivers_chainTyped (hd'.trans hd)
      (.cons hu.threads (.cons hu.rampUp (.cons hl .nil))) hu.rampToAndHold).imp
      fun _ _ => hin).ends

/-- **Thread groups.** A thread group is converted unless a time leaves the range of durations. -/
theorem ends_threadGroup (e : Element) :
    Ends (threadGroup standard e) (fun _ => ¬ e.ScheduleIsBeyond)
      fun error => error = .durationOverflow ∧ e.ScheduleIsBeyond := by
  refine ends_threadGroup_of (ends_threadGroupArguments e) ?_ fun a ha => keeps_target ha
  intro a ha hf
  refine ((delivers_flat ha.typed hf).imp fun _ _ => ?_).ends
  rw [ha.scheduleIsBeyond_iff, holdOverruns_iff, holdIs_uniform]
  rintro ⟨-, -, ho⟩
  obtain ⟨total, _, -, hbeyond⟩ := holdIs_of_isFlat hf ho
  exact total.not_isBeyond hbeyond

/-! ## Elements of all kinds -/

section

variable (e : Element)

theorem ends_testPlan :
    Ends (testPlan standard e) (fun _ => IsClear .testPlan e) (Refused .testPlan e) := by
  refine ends_bind (delivers_startKind (k := .testPlan) rfl (by decide)).ends fun d hd => ?_
  refine ends_bind (ends_ownFlag hd (by decide) (by decide) _) ?_
  rintro d ⟨hd, hserial⟩
  refine (ends_ownFlag hd (by decide) (by decide) _).imp_ok ?_
  rintro d ⟨-, hdown⟩
  exact List.forall_mem_cons.2 ⟨hserial, List.forall_mem_singleton.2 hdown⟩

theorem ends_transaction :
    Ends (transaction standard e) (fun _ => IsClear .transaction e) (Refused .transaction e) := by
  have hstart : ∀ name : String, Delivers (start standard "transaction"
      [.literal (.text name), noChildren "ThreadGroupChild[]"])
      fun d => d.head.target = ElementKind.transaction.target :=
    fun _ => delivers_startKind rfl
      (show ("transaction", ["String", "ThreadGroupChild[]"]) ∈ factoryCalls by decide)
  refine ends_bind (hstart _).ends fun d hd => ?_
  exact (ends_ownFlag hd (by decide) (by decide) _).imp_ok
    fun _ h => List.forall_mem_singleton.2 h.2

theorem delivers_testFragment : Delivers (testFragment standard e) fun _ => True :=
  (@delivers_startNamed .testFragment e _ _ rfl [] [] .nil [noChildren "ThreadGroupChild[]"]
    (by decide) (by decide)).imp fun _ _ => trivial

theorem ends_httpSampler :
    Ends (httpSampler standard e) (fun _ => IsClear .httpSampler e) (Refused .httpSampler e) := by
  have hstart : Delivers (start standard "httpSampler"
      (literals [e.nameLiteral "HTTP Request", .text (requestUrl e)]))
      fun d => d.head.target = ElementKind.httpSampler.target :=
    @delivers_startNamed .httpSampler e _ _ rfl _ _ (.cons (isOf_text _) .nil) [] (by decide)
      (by decide)
  refine ends_bind hstart.ends fun d hd => ?_
  refine ends_bind (delivers_chainTyped hd (.cons ⟨rfl, rfl⟩ .nil)
    (show (_, _, ["String"]) ∈ fluentCalls by decide)).ends fun d hd => ?_
  have hf : ∀ d : Draft Node, d.head.target = ElementKind.httpSampler.target →
      Ends (chain standard "followRedirects" [e.boolLiteral followRedirectsKey true] d)
        (fun _ => IsClear .httpSampler e) (Refused .httpSampler e) :=
    fun d hd => (ends_ownFlag hd (by decide) (by decide) _).imp_ok
      fun _ h => List.forall_mem_singleton.2 h.2
  extract_lets arguments finish body
  split
  · exact ends_bind (delivers_chainTyped hd (.cons ⟨rfl, rfl⟩ .nil)
      (show (_, _, ["String"]) ∈ fluentCalls by decide)).ends hf
  · exact ends_bind (delivers_foldlM (fun d a hd => delivers_chainTyped hd (typed_texts _ _)
      (by decide)) hd _).ends hf

theorem delivers_httpHeaders : Delivers (httpHeaders standard e) fun _ => True := by
  refine delivers_bind (delivers_startKind (k := .httpHeaders) rfl (by decide)) fun d hd => ?_
  exact (delivers_foldlM (fun d h hd => delivers_chainTyped hd (typed_texts _ _) (by decide)) hd
    _).imp fun _ _ => trivial

theorem delivers_httpDefaults : Delivers (httpDefaults standard e) fun _ => True := by
  refine delivers_bind (delivers_startKind (k := .httpDefaults) rfl (by decide)) fun d hd => ?_
  extract_lets url
  split
  · exact delivers_ok trivial
  · exact (delivers_chainTyped hd (.cons (isOf_text _) .nil) (by decide)).imp fun _ _ => trivial

theorem declared_check (mask : Int) :
    (ElementKind.responseAssertion.target, checkMethod mask, ["String[]"]) ∈ fluentCalls := by
  unfold checkMethod
  split
  · decide
  split
  · decide
  split
  · decide
  · decide

theorem ends_responseAssertion : Ends (responseAssertion standard e)
    (fun _ => IsClear .responseAssertion e) (Refused .responseAssertion e) := by
  have hstart : Delivers (start standard "responseAssertion"
      (literals [e.nameLiteral "Response Assertion"]))
      fun d => d.head.target = ElementKind.responseAssertion.target :=
    @delivers_startNamed .responseAssertion e _ _ rfl [] [] .nil [] (by decide) (by decide)
  refine ends_bind hstart.ends fun d hd => ?_
  extract_lets field mask strings match_ finish
  refine ends_bind (delivers_chainTyped hd (.cons ⟨rfl, rfl⟩ .nil)
    (show (_, _, ["TargetField"]) ∈ fluentCalls by decide)).ends fun d hd => ?_
  refine ends_bind (ends_ownFlag hd (by decide) (by decide) _) ?_
  rintro d ⟨hd, hflag⟩
  have hclear : IsClear .responseAssertion e := List.forall_mem_singleton.2 hflag
  let HasTarget (d : Draft Node) : Prop := d.head.target = ElementKind.responseAssertion.target
  have hm : ∀ d, HasTarget d →
      Delivers (match_ d) fun _ => IsClear .responseAssertion e := by
    intro d hd
    unfold match_
    split
    · exact (delivers_chainTyped hd .nil (by decide)).imp fun _ _ => hclear
    · exact delivers_ok hclear
  have hf : ∀ d, HasTarget d →
      Delivers (finish d) fun _ => IsClear .responseAssertion e := by
    intro d hd
    unfold finish
    split
    · exact delivers_bind (delivers_chainTyped hd .nil (by decide)) hm
    · exact delivers_bind (delivers_ok (P := HasTarget) hd) hm
  split
  · exact (delivers_bind (delivers_ok (P := HasTarget) hd) hf).ends
  · exact (delivers_bind (delivers_chainTyped hd (.cons ⟨rfl, rfl⟩ .nil) (declared_check mask))
      hf).ends

theorem ends_constantTimer : Ends (constantTimer standard e)
    (fun _ => ¬ e.IsBeyond timerDelayKey Duration.milli)
    fun error => error = .durationOverflow ∧ e.IsBeyond timerDelayKey Duration.milli := by
  refine ends_bind ((ends_inRange _).imp_error fun _ =>
    And.imp id Element.durationLiteral?_eq_none.1) fun delay hl => ?_
  have hin : ¬ e.IsBeyond timerDelayKey Duration.milli := fun hb => by
    rw [Element.durationLiteral?_eq_none.2 hb] at hl
    cases hl
  have hstart : ∀ {type : String}, delay.IsOf type → ("constantTimer", [type]) ∈ factoryCalls →
      Delivers (start standard "constantTimer" (literals [delay]))
        fun _ => ¬ e.IsBeyond timerDelayKey Duration.milli := by
    intro type ht hm
    refine (delivers_startKind (k := .constantTimer) rfl ?_).imp fun _ _ => hin
    have ht := activeTypes_literals (.cons ht .nil) []
    rw [List.append_nil] at ht
    rw [ht]
    exact hm
  rcases isTime_durationLiteral? e _ _ _ delay hl with ht | ht
  · exact (hstart ht (by decide)).ends
  · exact (hstart ht (by decide)).ends

theorem delivers_resultsTree : Delivers (resultsTree standard e) fun _ => True :=
  (delivers_startKind (k := .resultsTree) rfl (by decide)).imp fun _ _ => trivial

end

/-- **Outcomes.** An element is converted unless a flag of it is unclear or a time leaves the range
of durations. -/
theorem ends_convert (k : ElementKind) (e : Element) :
    Ends (k.convert standard e) (fun _ => IsClear k e ∧ ¬ k.Overruns e) (Refused k e) := by
  -- Kinds without flags.
  have timed : ∀ {c : Conversion} {k : ElementKind}, k.flagKeys = [] →
      Ends c (fun _ => ¬ k.Overruns e) (fun error => error = .durationOverflow ∧ k.Overruns e) →
      Ends (c.map some) (fun _ => IsClear k e ∧ ¬ k.Overruns e) (Refused k e) := by
    intro c k hk hc
    refine (ends_map hc fun _ ho => ⟨?_, ho⟩).imp_error fun _ => Or.inl
    rw [IsClear, hk]
    simp
  have clear : ∀ {c : Conversion} {k : ElementKind}, k.flagKeys = [] → ¬ k.Overruns e →
      Delivers c (fun _ => True) →
      Ends (c.map some) (fun _ => IsClear k e ∧ ¬ k.Overruns e) (Refused k e) :=
    fun hk ho hc => timed hk (hc.imp fun _ _ => ho).ends
  unfold ElementKind.convert
  cases k <;> dsimp only
  case testPlan => exact ends_map (ends_testPlan e) fun _ h => ⟨h, id⟩
  case threadGroup => exact timed rfl (ends_threadGroup e)
  case transaction => exact ends_map (ends_transaction e) fun _ h => ⟨h, id⟩
  case testFragment => exact clear rfl id (delivers_testFragment e)
  case moduleController => exact .ok ⟨fun _ hk => absurd hk List.not_mem_nil, id⟩
  case httpSampler => exact ends_map (ends_httpSampler e) fun _ h => ⟨h, id⟩
  case httpHeaders => exact clear rfl id (delivers_httpHeaders e)
  case httpDefaults => exact clear rfl id (delivers_httpDefaults e)
  case responseAssertion => exact ends_map (ends_responseAssertion e) fun _ h => ⟨h, id⟩
  case constantTimer => exact timed rfl (ends_constantTimer e)
  case resultsTree => exact clear rfl id (delivers_resultsTree e)

/-! ## Children -/

/-- A call of a kind, as far as it matters to its children: without a method that takes them it has
no place for them. -/
structure Takes (k : ElementKind) (d : Draft Node) : Prop where
  target : d.head.target = k.target
  closed : k.takesChildren = false →
    d.slot = .undecided ∧ ∀ type nodes, Argument.children type nodes ∉ d.arguments

theorem yields_takes (k : ElementKind) (e : Element) :
    Yields (k.convert standard e) fun call => ∀ d ∈ call, Takes k d := by
  intro call hc d hd
  refine ⟨(head_of_convert call hc d hd).1, fun hk => ?_⟩
  refine ⟨(ElementKind.yields_fresh call hc d hd).slot, fun type nodes hm => ?_⟩
  obtain ⟨name, -, h⟩ | ⟨rfl, -⟩ := ElementKind.yields_cases call hc d hd
  · obtain ⟨values, slot, ha, -, hs⟩ := h.shape.arguments
    rw [ElementKind.slotType?_eq_none hk] at hs
    obtain rfl : slot = [] := hs.resolve_right (by simp)
    rw [ha, List.append_nil, literals, List.mem_map] at hm
    obtain ⟨v, -, hv⟩ := hm
    cases hv
  · cases hk

theorem findChildrenMethod_eq {d : Draft Node} (h : Takes k d) :
    ∃ m?, standard.findChildrenMethod d.head.target = .ok m? ∧ m?.isSome = k.takesChildren := by
  obtain ⟨m?, hm⟩ := findChildrenMethod_standard k.target
  have hf := k.findChildrenMethod_target
  rw [hm] at hf
  exact ⟨m?, by rw [h.target, hm], Option.some.inj hf⟩

theorem takes_of_target (hk : k.takesChildren = true) (hd : d.head.target = k.target) : Takes k d :=
  ⟨hd, fun h => by rw [hk] at h; cases h⟩

theorem head_mapSlot (f : List Node → List Node) (d : Draft Node) :
    (d.mapSlot f).head = d.head := by
  unfold Draft.mapSlot
  split
  · rfl
  · split
    · rfl
    · rfl
  · rfl

theorem ends_openSlot (h : Takes k d) :
    Ends (d.openSlot standard) (fun d' => d'.head.target = k.target ∧ k.takesChildren = true)
      fun e => (∃ type, e = .noChildrenMethod type) ∧ k.takesChildren = false := by
  have open_ : d.slot ≠ .undecided → k.takesChildren = true := fun hs => by
    by_contra hk
    exact hs (h.closed (Bool.eq_false_iff.2 hk)).1
  unfold Draft.openSlot
  split
  · rename_i hs
    exact .ok ⟨h.target, open_ (by rw [hs]; simp)⟩
  · rename_i hs
    exact .ok ⟨h.target, open_ (by rw [hs]; simp)⟩
  · split
    · rename_i type nodes _ hl
      refine .ok ⟨h.target, ?_⟩
      by_contra hk
      exact (h.closed (Bool.eq_false_iff.2 hk)).2 type nodes (List.mem_of_getLast? hl)
    · obtain ⟨m?, hm, hk⟩ := findChildrenMethod_eq h
      rw [hm, ← hk]
      cases m? with
      | some m => exact .ok ⟨h.target, rfl⟩
      | none => exact .error ⟨⟨_, rfl⟩, rfl⟩

/-- **Children.** A call takes a child exactly when its kind has a method that takes children. -/
theorem ends_addChild (h : Takes k d) (n : Node) :
    Ends (d.addChild standard n) (fun d' => Takes k d' ∧ k.takesChildren = true)
      fun e => (∃ type, e = .noChildrenMethod type) ∧ k.takesChildren = false := by
  refine ends_map (ends_openSlot h) ?_
  rintro d' ⟨hd, hk⟩
  exact ⟨takes_of_target hk (by rw [head_mapSlot, hd]), hk⟩

end Convert
end PlanCode
