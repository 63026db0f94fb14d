import PlanCode.Convert.Kind
import PlanCode.Proofs.Convert.ThreadGroup

/-!
# How calls are built

All kinds of elements but module controllers build their calls in one way. A
method of the factory starts the call, given literals made of properties and
perhaps a slot for children; then calls given such literals are chained to it,
the last one perhaps behind a remark. `Built` says this of a draft, and what is
true of all converted calls is proved by induction over how they were built.

* `yields_built`: how every kind but module controllers builds its call.
* `moduleCall?_eq_some`: module controllers call the method of a fragment.
* `yields_isSome`: only module controllers that refer to nothing have no call.
-/
namespace PlanCode

/-! ## Literals of properties -/

/-- What properties become: no numbers of type `long`, nothing written just as it is, and constants
of one enumeration only. -/
inductive PropertyLiteral : Literal → Prop where
  | string {value default : Option String} {ignored : Bool} :
    PropertyLiteral (.string value default ignored)
  | int {value default : Option Int} : PropertyLiteral (.int value default)
  | bool {value default : Option Bool} : PropertyLiteral (.bool value default)
  | duration {value default : Option Duration} : PropertyLiteral (.duration value default)
  | strings {values : List String} : PropertyLiteral (.strings values)
  | field {value : Option String} (h : ∀ c ∈ value, c ∈ Convert.targetFields.map (·.2)) :
    PropertyLiteral (.enum Convert.targetFieldType Convert.targetFieldClass value
      (some "RESPONSE_BODY"))

namespace Element

variable (e : Element)

theorem property_nameLiteral (default : String) : PropertyLiteral (e.nameLiteral default) := .string

theorem property_stringLiteral (path : String) (default : Option String) :
    PropertyLiteral (e.stringLiteral path default) := .string

theorem property_intLiteral (path : String) (default : Option Int) :
    PropertyLiteral (e.intLiteral path default) := by
  unfold intLiteral
  dsimp only
  split
  · exact .int
  · split
    · exact .int
    · exact .string

theorem property_boolLiteral (path : String) (default : Bool) :
    PropertyLiteral (e.boolLiteral path default) := by
  unfold boolLiteral
  dsimp only
  split
  · exact .bool
  split
  · exact .bool
  split
  · exact .bool
  · exact .string

theorem property_durationLiteral? (path : String) (default : Option Duration) (unit : Duration) :
    ∀ l ∈ e.durationLiteral? path default unit, PropertyLiteral l := by
  unfold durationLiteral?
  intro l hl
  dsimp only at hl
  split at hl
  · cases hl
    exact .duration
  · split at hl
    · obtain ⟨d, -, rfl⟩ := Option.map_eq_some_iff.1 hl
      exact .duration
    · cases hl
      exact .string

theorem property_enumLiteral (path : String) :
    PropertyLiteral (e.enumLiteral path Convert.targetFieldType Convert.targetFieldClass
      Convert.targetFields (some "RESPONSE_BODY")) := by
  refine .field fun c hc => ?_
  cases hf : Convert.targetFields.find? (e.trimmedAt path) with
  | none =>
    obtain rfl : "RESPONSE_BODY" = c := by simpa [hf] using hc
    decide
  | some found =>
    obtain rfl : found = c := by simpa [hf] using hc
    exact List.mem_map_of_mem (Entries.mem_of_find? hf)

end Element

namespace Convert

theorem yields_inRange {literal? : Option Literal} {P : Literal → Prop} (h : ∀ l ∈ literal?, P l) :
    Yields (inRange literal?) P := by
  unfold inRange
  split
  · exact yields_ok (h _ rfl)
  · exact yields_error _

/-- The arguments of a thread group are made of its properties. -/
structure ThreadGroupArguments.OfProperties (a : ThreadGroupArguments) : Prop where
  name : PropertyLiteral a.name
  threads : PropertyLiteral a.threads
  rampUp : PropertyLiteral a.rampUp
  duration : PropertyLiteral a.duration
  delay : PropertyLiteral a.delay
  iterations : PropertyLiteral a.iterations

theorem yields_ofProperties (e : Element) :
    Yields (threadGroupArguments e) ThreadGroupArguments.OfProperties := by
  refine yields_bind (yields_inRange (e.property_durationLiteral? _ _ _)) fun rampUp hr => ?_
  extract_lets scheduled withDelay
  have hd : ∀ duration, PropertyLiteral duration →
      Yields (withDelay duration) ThreadGroupArguments.OfProperties := by
    intro duration hl
    unfold withDelay
    extract_lets finish
    have hf : ∀ delay, PropertyLiteral delay →
        Yields (finish delay) ThreadGroupArguments.OfProperties := by
      intro delay hy
      refine yields_ok ?_
      constructor <;> dsimp only
      case name => exact e.property_nameLiteral _
      case threads => exact e.property_intLiteral _ _
      case rampUp => exact hr
      case duration => exact hl
      case delay => exact hy
      case iterations => exact e.property_intLiteral _ _
    split
    · exact yields_bind (yields_inRange (e.property_durationLiteral? _ _ _)) hf
    · exact yields_bind (yields_ok .duration) hf
  split
  · exact yields_bind (yields_inRange (e.property_durationLiteral? _ _ _)) hd
  · exact yields_bind (yields_ok .duration) hd

theorem ThreadGroupArguments.OfProperties.uniform {a : ThreadGroupArguments} (h : a.OfProperties) :
    a.uniform.OfProperties := by
  unfold ThreadGroupArguments.uniform
  split
  · exact h
  · exact ⟨h.name, .string, .string, .string, h.delay, h.iterations⟩

/-! ## Built drafts -/

/-- The methods that are chained to calls. -/
def chainedNames : List String := [
  "sequentialThreadGroups", "tearDownOnlyAfterMainThreadsDone", "generateParentSample", "holdFor",
  "rampTo", "holdIterating", "upTo", "rampToAndHold", "method", "body", "param", "followRedirects",
  "header", "url", "fieldToTest", "ignoreStatus", "containsSubstrings", "equalsToStrings",
  "matchesRegexes", "containsRegexes", "invertCheck", "anyMatch"]

/-- How a draft is built: by a method of the factory of the name given, with a slot of the type
given or without one. -/
inductive Built (surface : Surface) (name : String) (slotType? : Option String) :
    Draft Node → Prop where
  | start {values : List Literal} {slot : List (Argument Node)} {d : Draft Node}
    (hv : ∀ v ∈ values, PropertyLiteral v)
    (hs : slot = [] ∨ ∃ type ∈ slotType?, slot = [noChildren type])
    (hd : Convert.start surface name (literals values ++ slot) = .ok d) :
    Built surface name slotType? d
  | chain {d d' : Draft Node} {chained : String} {values : List Literal}
    (h : Built surface name slotType? d) (hn : chained ∈ chainedNames)
    (hv : ∀ v ∈ values, PropertyLiteral v) (hd : Convert.chain surface chained values d = .ok d') :
    Built surface name slotType? d'
  /-- What is chained behind a remark is written, whatever its defaults are. -/
  | remarked {d d' : Draft Node} {chained : String} {values : List Literal}
    (h : Built surface name slotType? d) (hn : chained ∈ chainedNames)
    (hv : ∀ v ∈ values, PropertyLiteral v) (hw : ∃ v ∈ values, v.isDefault = false)
    (hd : Convert.chain surface chained values (d.append (.comment holdRemark)) = .ok d') :
    Built surface name slotType? d'

section

variable {surface : Surface} {name : String} {slotType? : Option String} {d : Draft Node}

theorem built_start (slotType? : Option String) {values : List Literal}
    (hv : ∀ v ∈ values, PropertyLiteral v) :
    Yields (start surface name (literals values)) (Built surface name slotType?) := by
  intro d hd
  rw [← List.append_nil (literals values)] at hd
  exact .start hv (Or.inl rfl) hd

theorem built_slot {values : List Literal} (hv : ∀ v ∈ values, PropertyLiteral v) (type : String) :
    Yields (start surface name (literals values ++ [noChildren type]))
      (Built surface name (some type)) :=
  fun _ hd => .start hv (Or.inr ⟨type, rfl, rfl⟩) hd

theorem built_chain (h : Built surface name slotType? d) {chained : String}
    (hn : chained ∈ chainedNames) {values : List Literal} (hv : ∀ v ∈ values, PropertyLiteral v) :
    Yields (chain surface chained values d) (Built surface name slotType?) :=
  fun _ hd => .chain h hn hv hd

theorem built_flag (h : Built surface name slotType? d) {chained : String}
    (hn : chained ∈ chainedNames) {v : Literal} (hv : PropertyLiteral v) :
    Yields (chain surface chained [v] d) (Built surface name slotType?) :=
  built_chain h hn (List.forall_mem_singleton.2 hv)

/-- A time to hold that is not computed may be remarked upon. -/
theorem yields_hold {a : ThreadGroupArguments} (ha : a.OfProperties)
    (hz : isDefaultOrZero a.duration = false) :
    Yields (holdTime a d) fun (hold, d') => PropertyLiteral hold ∧ hold.isDefault = false ∧
      (d' = d ∨ d' = d.append (.comment holdRemark)) := by
  unfold holdTime
  split
  · split
    · exact yields_ok ⟨.duration, rfl, Or.inl rfl⟩
    · split
      · exact yields_ok ⟨.duration, rfl, Or.inl rfl⟩
      · exact yields_error _
  · rw [isDefaultOrZero, Bool.or_eq_false_iff] at hz
    refine yields_ok ⟨ha.duration, hz.1, ?_⟩
    split
    · exact Or.inl rfl
    · exact Or.inr rfl

/-- The last call, behind a remark or not. -/
theorem built_held (h : Built surface name slotType? d) {d' : Draft Node}
    (hr : d' = d ∨ d' = d.append (.comment holdRemark)) {chained : String}
    (hn : chained ∈ chainedNames) {values : List Literal} (hv : ∀ v ∈ values, PropertyLiteral v)
    (hw : ∃ v ∈ values, v.isDefault = false) :
    Yields (chain surface chained values d') (Built surface name slotType?) := by
  intro d'' hd
  rcases hr with rfl | rfl
  · exact .chain h hn hv hd
  · exact .remarked h hn hv hw hd

/-- The calls of a schedule build on each other. -/
theorem keeps_built {a : ThreadGroupArguments} (h : a.OfProperties) :
    Keeps surface (Built surface "threadGroup" slotType?) (Built surface "threadGroup" slotType?)
      (fun _ => True) a := by
  constructor
  case started => exact (built_start slotType? (List.forall_mem_singleton.2 h.name)).ends
  case holdFor => exact fun d hd => (built_flag hd (by decide) h.delay).ends
  case rampTo =>
    exact fun d hd => (built_chain hd (by decide) (List.forall_mem_cons.2
      ⟨h.threads, List.forall_mem_singleton.2 h.rampUp⟩)).ends
  case holdIterating =>
    rintro _ (rfl | rfl) d hd
    · exact (built_flag hd (by decide) .int).ends
    · exact (built_flag hd (by decide) h.iterations).ends
  case endless => exact fun _ d hd => hd
  case upTo =>
    intro hz d hd
    refine (yields_bind (yields_hold h hz) ?_).ends
    rintro ⟨hold, d'⟩ ⟨hl, hw, hd'⟩
    exact built_held hd hd' (by decide) (List.forall_mem_singleton.2 hl)
      ⟨hold, List.mem_singleton_self _, hw⟩
  case rampToAndHold =>
    intro hz d hd
    refine (yields_bind (yields_hold h hz) ?_).ends
    rintro ⟨hold, d'⟩ ⟨hl, hw, hd'⟩
    exact built_held hd hd' (by decide) (List.forall_mem_cons.2 ⟨h.threads,
      List.forall_mem_cons.2 ⟨h.rampUp, List.forall_mem_singleton.2 hl⟩⟩)
      ⟨hold, by simp, hw⟩

end

/-! ## Kinds of elements -/

theorem checkMethod_mem (mask : Int) : checkMethod mask ∈ chainedNames := by
  unfold checkMethod
  split
  · decide
  split
  · decide
  split
  · decide
  · decide

section

variable (surface : Surface) (e : Element)

theorem built_testPlan :
    Yields (testPlan surface e) (Built surface "testPlan" (some "TestPlanChild[]")) := by
  refine yields_bind (@built_slot _ _ [] (by simp) _) fun d hd => ?_
  refine yields_bind (built_flag hd (by decide) (e.property_boolLiteral _ _)) fun d hd => ?_
  exact built_flag hd (by decide) (e.property_boolLiteral _ _)

theorem built_transaction :
    Yields (transaction surface e) (Built surface "transaction" (some "ThreadGroupChild[]")) := by
  refine yields_bind (@built_slot _ _ [_] (List.forall_mem_singleton.2 .string) _) fun d hd => ?_
  exact built_flag hd (by decide) (e.property_boolLiteral _ _)

theorem built_testFragment :
    Yields (testFragment surface e) (Built surface "fragment" (some "ThreadGroupChild[]")) :=
  @built_slot _ _ [_] (List.forall_mem_singleton.2 (e.property_nameLiteral _)) _

theorem built_httpSampler : Yields (httpSampler surface e) (Built surface "httpSampler" none) := by
  have strings : ∀ v ∈ [e.nameLiteral "HTTP Request", .text (requestUrl e)], PropertyLiteral v :=
    List.forall_mem_cons.2 ⟨e.property_nameLiteral _, List.forall_mem_singleton.2 .string⟩
  refine yields_bind (built_start none strings) fun d hd => ?_
  refine yields_bind (built_flag hd (by decide) (e.property_stringLiteral _ _)) fun d hd => ?_
  have hf : ∀ d, Built surface "httpSampler" none d →
      Yields (chain surface "followRedirects" [e.boolLiteral followRedirectsKey true] d)
        (Built surface "httpSampler" none) :=
    fun d hd => built_flag hd (by decide) (e.property_boolLiteral _ _)
  extract_lets arguments finish body
  split
  · exact yields_bind (built_flag hd (by decide) .string) hf
  · refine yields_bind (yields_foldlM (fun d a hd => built_chain hd (by decide) ?_) hd _) hf
    exact List.forall_mem_cons.2 ⟨.string, List.forall_mem_singleton.2 .string⟩

theorem built_httpHeaders : Yields (httpHeaders surface e) (Built surface "httpHeaders" none) := by
  refine yields_bind (@built_start _ _ none [] (by simp)) fun d hd => ?_
  refine yields_foldlM (fun d h hd => built_chain hd (by decide) ?_) hd _
  exact List.forall_mem_cons.2 ⟨.string, List.forall_mem_singleton.2 .string⟩

theorem built_httpDefaults :
    Yields (httpDefaults surface e) (Built surface "httpDefaults" none) := by
  refine yields_bind (@built_start _ _ none [] (by simp)) fun d hd => ?_
  extract_lets url
  split
  · exact yields_ok hd
  · exact built_flag hd (by decide) .string

theorem built_responseAssertion :
    Yields (responseAssertion surface e) (Built surface "responseAssertion" none) := by
  refine yields_bind (built_start none (List.forall_mem_singleton.2 (e.property_nameLiteral _)))
    fun d hd => ?_
  extract_lets field mask strings match_ finish
  refine yields_bind (built_flag hd (by decide) (e.property_enumLiteral _)) fun d hd => ?_
  refine yields_bind (built_flag hd (by decide) (e.property_boolLiteral _ _)) fun d hd => ?_
  have hm : ∀ d, Built surface "responseAssertion" none d →
      Yields (match_ d) (Built surface "responseAssertion" none) := by
    intro d hd
    unfold match_
    split
    · exact built_chain hd (by decide) (by simp)
    · exact yields_ok hd
  have hf : ∀ d, Built surface "responseAssertion" none d →
      Yields (finish d) (Built surface "responseAssertion" none) := by
    intro d hd
    unfold finish
    split
    · exact yields_bind (built_chain hd (by decide) (by simp)) hm
    · exact yields_bind (yields_ok hd) hm
  split
  · exact yields_bind (yields_ok hd) hf
  · exact yields_bind (built_flag hd (checkMethod_mem mask) .strings) hf

theorem built_constantTimer :
    Yields (constantTimer surface e) (Built surface "constantTimer" none) := by
  refine yields_bind (yields_inRange (e.property_durationLiteral? _ _ _)) fun delay hl => ?_
  exact built_start none (List.forall_mem_singleton.2 hl)

theorem built_resultsTree :
    Yields (resultsTree surface e) (Built surface "resultsTreeVisualizer" none) :=
  @built_start _ _ none [] (by simp)

theorem built_threadGroup :
    Yields (threadGroup surface e) (Built surface "threadGroup" (some "ThreadGroupChild[]")) := by
  refine (ends_threadGroup_of (yields_ofProperties e).ends ?_ fun a ha =>
    keeps_built ha.uniform).yields
  intro a ha _
  have length_ : PropertyLiteral
      (if isDefaultOrZero a.duration then a.iterations else a.duration) := by
    split
    · exact ha.iterations
    · exact ha.duration
  exact (built_slot (List.forall_mem_cons.2 ⟨ha.name, List.forall_mem_cons.2
    ⟨ha.threads, List.forall_mem_singleton.2 length_⟩⟩) _).ends

end

end Convert

namespace ElementKind

/-- The method of the factory that starts the calls of a kind. -/
def factoryMethod? : ElementKind → Option String
  | .testPlan => some "testPlan"
  | .threadGroup => some "threadGroup"
  | .transaction => some "transaction"
  | .testFragment => some "fragment"
  | .moduleController => none
  | .httpSampler => some "httpSampler"
  | .httpHeaders => some "httpHeaders"
  | .httpDefaults => some "httpDefaults"
  | .responseAssertion => some "responseAssertion"
  | .constantTimer => some "constantTimer"
  | .resultsTree => some "resultsTreeVisualizer"

/-- The type of the slot that the calls of a kind may be started with. -/
def slotType? : ElementKind → Option String
  | .testPlan => some "TestPlanChild[]"
  | .threadGroup | .transaction | .testFragment => some "ThreadGroupChild[]"
  | _ => none

variable {surface : Surface} {k : ElementKind} {e : Element}

/-- **Building calls.** A kind with a method of the factory builds its calls from it. -/
theorem yields_built {name : String} (hk : k.factoryMethod? = some name) :
    Yields (k.convert surface e) fun call =>
      ∃ d, call = some d ∧ Convert.Built surface name k.slotType? d := by
  have some_ : ∀ {slotType? : Option String} {c : Convert.Conversion},
      Yields c (Convert.Built surface name slotType?) →
      Yields (c.map some) fun call =>
        ∃ d, call = some d ∧ Convert.Built surface name slotType? d :=
    fun h => yields_map h fun d hd => ⟨d, rfl, hd⟩
  cases k <;> cases hk
  case testPlan => exact some_ (Convert.built_testPlan surface e)
  case threadGroup => exact some_ (Convert.built_threadGroup surface e)
  case transaction => exact some_ (Convert.built_transaction surface e)
  case testFragment => exact some_ (Convert.built_testFragment surface e)
  case httpSampler => exact some_ (Convert.built_httpSampler surface e)
  case httpHeaders => exact some_ (Convert.built_httpHeaders surface e)
  case httpDefaults => exact some_ (Convert.built_httpDefaults surface e)
  case responseAssertion => exact some_ (Convert.built_responseAssertion surface e)
  case constantTimer => exact some_ (Convert.built_constantTimer surface e)
  case resultsTree => exact some_ (Convert.built_resultsTree surface e)

theorem factoryMethod?_eq_none : k.factoryMethod? = none ↔ k = .moduleController := by
  cases k <;> decide

theorem moduleCall?_eq_some {d : Draft Node} (h : Convert.moduleCall? e = some d) :
    ∃ name, Convert.referredName? e = some name ∧
      d = .unresolved (some (Convert.fragmentMethod name)) Convert.fragmentType [] := by
  obtain ⟨name, hn, rfl⟩ := Option.map_eq_some_iff.1 h
  exact ⟨name, hn, rfl⟩

/-- A call is built from a method of the factory, or it is that of the method of a fragment. -/
theorem yields_cases : Yields (k.convert surface e) fun call => ∀ d ∈ call,
    (∃ name, k.factoryMethod? = some name ∧ Convert.Built surface name k.slotType? d) ∨
      k = .moduleController ∧ ∃ name, Convert.referredName? e = some name ∧
        d = .unresolved (some (Convert.fragmentMethod name)) Convert.fragmentType [] := by
  cases hk : k.factoryMethod? with
  | none =>
    obtain rfl := factoryMethod?_eq_none.1 hk
    exact yields_ok fun d hd => Or.inr ⟨rfl, moduleCall?_eq_some hd⟩
  | some name =>
    intro call hc d hd
    obtain ⟨d', rfl, h⟩ := yields_built hk call hc
    obtain rfl := Option.some.inj hd
    exact Or.inl ⟨name, rfl, h⟩

/-- Only a module controller that refers to nothing has no call. -/
theorem yields_isSome : Yields (k.convert surface e) fun call =>
    call.isSome = (k != .moduleController || (Convert.referredName? e).isSome) := by
  cases hk : k.factoryMethod? with
  | none =>
    obtain rfl := factoryMethod?_eq_none.1 hk
    refine yields_ok ?_
    unfold Convert.moduleCall?
    rw [Option.isSome_map]
    rfl
  | some name =>
    intro call hc
    obtain ⟨d, rfl, -⟩ := yields_built hk call hc
    have hne : k ≠ .moduleController := fun h => by
      rw [factoryMethod?_eq_none.2 h] at hk
      cases hk
    simp [hne]

end ElementKind
end PlanCode
