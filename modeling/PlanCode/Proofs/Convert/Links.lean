import PlanCode.Proofs.Convert.Outcome

/-!
# Calls as links of a chain

A conversion starts a call and chains others to it. What is chained does not depend
on what was chained before: the properties tell the whole list of links first, and
each link then adds its own segments, or none, to the end of the chain.

* `yields_linkAll`: what some links make of a call, told link by link.
* `yields_threadGroup`: the links of a thread group.
* `yields_parts`: the parts of the call of an element of any kind.
-/
namespace PlanCode

/-- A draft with a longer chain. -/
def Draft.extend (d : Draft Node) (segments : List (Segment Node)) : Draft Node :=
  { d with chain := d.chain ++ segments }

theorem Draft.extend_nil (d : Draft Node) : d.extend [] = d := by
  simp [extend]

theorem Draft.extend_extend (d : Draft Node) (segments more : List (Segment Node)) :
    (d.extend segments).extend more = d.extend (segments ++ more) := by
  simp [extend]

theorem Draft.append_eq_extend (d : Draft Node) (s : Segment Node) : d.append s = d.extend [s] :=
  rfl

namespace Convert

/-- What a conversion chains: a call given literals, or a remark. -/
inductive Link where
  | call (name : String) (values : List Literal)
  | remark (text : String)

def link (surface : Surface) (d : Draft Node) : Link → Conversion
  | .call name values => chain surface name values d
  | .remark text => .ok (d.append (.comment text))

/-- Chains some links in order. -/
def linkAll (surface : Surface) (links : List Link) (d : Draft Node) : Conversion :=
  links.foldlM (link surface) d

/-! ## What a link adds -/

section

variable (surface : Surface) (target : String)

/-- The arguments that a chained call is left with: a single flag is dropped where the method can be
called without. -/
def kept (name : String) : List Literal → List (Argument Node)
  | [v] =>
    if (Argument.literal v : Argument Node).isBool &&
      ((surface.findMethod target name []).toOption.bind id).isSome then [] else literals [v]
  | values => literals values

/-- The method of a chained call. -/
def overload? (name : String) (values : List Literal) : Option Method :=
  (surface.findMethod target name
    (Argument.activeTypes (kept surface target name values))).toOption.bind id

/-- Nothing is chained for arguments that are all defaults. -/
def isElided (values : List Literal) : Bool := !values.isEmpty && values.all (·.isDefault)

namespace Link

/-- What a link adds to the chain of a call of the type. -/
def segments : Link → List (Segment Node)
  | .remark text => [.comment text]
  | .call name values =>
    if isElided values then []
    else ((overload? surface target name values).map fun m =>
      .call name (m.resultType target) (kept surface target name values)).toList

/-- There is a method for a link that is chained. -/
def Resolves : Link → Prop
  | .remark _ => True
  | .call name values =>
    isElided values = false → (overload? surface target name values).isSome = true

end Link

end

section

variable {surface : Surface} {d : Draft Node} {target name : String} {values : List Literal}

theorem overload?_eq_some {m : Method} : overload? surface target name values = some m ↔
    surface.findMethod target name (Argument.activeTypes (kept surface target name values)) =
      .ok (some m) := by
  unfold overload?
  cases surface.findMethod target name
    (Argument.activeTypes (kept surface target name values)) <;> simp [Except.toOption]

theorem segments_elided (h : isElided values = true) :
    (Link.call name values).segments surface target = [] := if_pos h

/-- What is chained behind a method that is found. -/
theorem segments_of_overload (h : isElided values = false) {m : Method}
    (hm : overload? surface target name values = some m) :
    (Link.call name values).segments surface target =
      [.call name (m.resultType target) (kept surface target name values)] := by
  rw [Link.segments, if_neg (by simp [h]), hm]
  rfl

theorem yields_resolve_method {arguments : List (Argument Node)} :
    Yields (Draft.resolve surface target name arguments) fun m? =>
      surface.findMethod target name (Argument.activeTypes arguments) = .ok m? := by
  unfold Draft.resolve
  split
  · rename_i m? hm
    exact yields_ok hm
  · exact yields_error _

/-- The method of a chained call and the arguments that it is left with. -/
theorem yields_kept (surface : Surface) (target name : String) (values : List Literal) :
    Yields (Draft.resolveChained surface target name (literals values)) fun (m, given) =>
      given = kept surface target name values ∧
        surface.findMethod target name (Argument.activeTypes given) = .ok (some m) := by
  unfold Draft.resolveChained
  extract_lets continue_
  have hn : Yields (continue_ none) fun (m, given) => given = literals values ∧
      surface.findMethod target name (Argument.activeTypes given) = .ok (some m) := by
    refine yields_bind yields_resolve_method fun m? hm => ?_
    cases m? with
    | some m => exact yields_ok ⟨rfl, hm⟩
    | none => exact yields_error _
  match values with
  | [] => exact hn
  | _ :: _ :: _ => exact hn
  | [v] =>
    change Yields (if (Argument.literal v : Argument Node).isBool then _ else _) _
    cases hv : (Argument.literal v : Argument Node).isBool with
    | false => exact hn.imp fun _ h => ⟨h.1.trans (by simp [kept, hv]), h.2⟩
    | true =>
      have hbare : Yields (Draft.resolve surface target name []) fun m? =>
          surface.findMethod target name [] = .ok m? := yields_resolve_method
      refine yields_bind hbare fun bare? hb => ?_
      cases bare? with
      | some m => exact yields_ok ⟨by simp [kept, hv, hb, Except.toOption], hb⟩
      | none => exact hn.imp fun _ h => ⟨h.1.trans (by simp [kept, hv, hb, Except.toOption]), h.2⟩

theorem isElided_literals :
    (!(literals values).isEmpty && (literals values).all (·.isDefault)) = isElided values := by
  simp [literals, isElided, List.all_map, Function.comp_def, Argument.isDefault]

/-- One link adds its segments to a call. -/
theorem yields_link (surface : Surface) (d : Draft Node) (l : Link) :
    Yields (link surface d l) fun d' => l.Resolves surface d.head.target ∧
      d' = d.extend (l.segments surface d.head.target) := by
  cases l with
  | remark text => exact yields_ok ⟨trivial, rfl⟩
  | call name values =>
    refine yields_mapError ?_
    rw [Draft.chainCall, isElided_literals]
    split
    · rename_i h
      refine yields_ok ⟨?_, by rw [segments_elided h, Draft.extend_nil]⟩
      intro hf
      rw [h] at hf
      cases hf
    · rename_i h
      refine yields_bind (yields_kept surface d.head.target name values) ?_
      rintro ⟨m, given⟩ ⟨rfl, hm⟩
      refine yields_ok ?_
      have hm := overload?_eq_some.2 hm
      refine ⟨fun _ => by rw [hm]; rfl, ?_⟩
      rw [segments_of_overload (Bool.eq_false_iff.2 h) hm, Draft.append_eq_extend,
        name_of_findMethod (overload?_eq_some.1 hm)]

/-- **Links.** Links add their segments one behind the other, and each that is chained has a
method. -/
theorem yields_linkAll (surface : Surface) (links : List Link) (d : Draft Node) :
    Yields (linkAll surface links d) fun d' => (∀ l ∈ links, l.Resolves surface d.head.target) ∧
      d' = d.extend (links.flatMap (·.segments surface d.head.target)) := by
  induction links generalizing d with
  | nil => exact yields_ok ⟨by simp, d.extend_nil.symm⟩
  | cons l links ih =>
    rw [linkAll, List.foldlM_cons]
    refine yields_bind (yields_link surface d l) ?_
    rintro _ ⟨hl, rfl⟩
    refine (ih _).imp ?_
    rintro _ ⟨hlinks, rfl⟩
    exact ⟨List.forall_mem_cons.2 ⟨hl, hlinks⟩, Draft.extend_extend ..⟩

theorem linkAll_append (surface : Surface) (links more : List Link) (d : Draft Node) :
    linkAll surface (links ++ more) d = linkAll surface links d >>= linkAll surface more :=
  List.foldlM_append ..

theorem linkAll_singleton (surface : Surface) (l : Link) (d : Draft Node) :
    linkAll surface [l] d = link surface d l := by
  rw [linkAll, List.foldlM_cons]
  exact bind_pure _

end

/-! ## Thread groups -/

/-- The parts of a call: what it is started with, and what is chained to it. -/
structure Parts where
  arguments : List (Argument Node)
  links : List Link

/-- The call that is started and linked as its parts say. -/
def assembled (surface : Surface) (name : String) (p : Parts) : Conversion := do
  let d ← start surface name p.arguments
  linkAll surface p.links d

namespace ThreadGroupArguments

variable (a : ThreadGroupArguments)

/-- The wait for the delay. -/
def waiting : List Link :=
  if isDefaultOrZero a.delay then [] else [.call "holdFor" [a.delay]]

/-- The iterations that are said once threads have ramped up. -/
def rounds : Literal := if a.iterations.isDefault then .number (-1) else a.iterations

def iterating : List Link :=
  [.call "rampTo" [a.threads, a.rampUp], .call "holdIterating" [a.rounds]]

/-- The time to hold and the remarks on it; none when it leaves the range of durations. -/
def hold? : Option (Literal × List Link) :=
  match a.duration, a.rampUp with
  | .duration (some total) _, .duration (some ramp) _ =>
    if a.rampUp.isDefault then some (.duration (some total) none, [])
    else (total.sub? ramp).map fun rest => (.duration (some rest) none, [])
  | duration, rampUp =>
    some (duration, if isDefaultOrZero rampUp then [] else [.remark holdRemark])

/-- What is chained behind the wait. -/
def running? : Option (List Link) :=
  if isDefaultOrZero a.duration then some a.iterating
  else a.hold?.map fun (hold, remarks) =>
    if a.iterations.isDefault then remarks ++ [.call "rampToAndHold" [a.threads, a.rampUp, hold]]
    else a.iterating ++ remarks ++ [.call "upTo" [hold]]

def flatArguments : List (Argument Node) :=
  literals [a.name, a.threads, if isDefaultOrZero a.duration then a.iterations else a.duration] ++
    [noChildren "ThreadGroupChild[]"]

/-- What the call of a thread group is made of. -/
def parts? : Option Parts :=
  if a.isFlat then some ⟨a.flatArguments, []⟩
  else a.uniform.running?.map fun links => ⟨literals [a.uniform.name], a.uniform.waiting ++ links⟩

end ThreadGroupArguments

/-- A string has a value wherever the literal that it is made of has one. -/
theorem hasValue_asString (v : Literal) : (asString v).hasValue = v.hasValue := by
  cases v with
  | strings values =>
    unfold asString Literal.expression
    cases h : values.isEmpty <;> simp [Literal.hasValue, h]
  | _ => simp [asString, Literal.hasValue, Literal.expression]

section

variable {surface : Surface} {d d₀ : Draft Node} {links : List Link}

theorem yields_chain_link (h : linkAll surface links d₀ = .ok d) (name : String)
    (values : List Literal) : Yields (chain surface name values d) fun d' =>
      linkAll surface (links ++ [.call name values]) d₀ = .ok d' := by
  intro d' hd
  rw [linkAll_append, h]
  exact (linkAll_singleton surface (.call name values) d).trans hd

theorem yields_hold_links (h : linkAll surface links d₀ = .ok d) (a : ThreadGroupArguments) :
    Yields (holdTime a d) fun (hold, d') => ∃ remarks, a.hold? = some (hold, remarks) ∧
      linkAll surface (links ++ remarks) d₀ = .ok d' := by
  have computed : ∀ l, a.hold? = some (l, []) → ∃ remarks, a.hold? = some (l, remarks) ∧
      linkAll surface (links ++ remarks) d₀ = .ok d :=
    fun l hl => ⟨[], hl, by rw [List.append_nil, h]⟩
  unfold holdTime
  split
  · rename_i total _ ramp _ hd hr
    split
    · rename_i hdef
      refine yields_ok (computed _ ?_)
      simp [ThreadGroupArguments.hold?, hd, hr, hr ▸ hdef]
    · rename_i hdef
      split
      · rename_i rest hs
        refine yields_ok (computed _ ?_)
        simp [ThreadGroupArguments.hold?, hd, hr, hr ▸ hdef, hs]
      · exact yields_error _
  · rename_i hno
    have hhold : a.hold? = some (a.duration,
        if isDefaultOrZero a.rampUp then [] else [.remark holdRemark]) := by
      unfold ThreadGroupArguments.hold?
      split
      · rename_i hd hr
        exact absurd hr (hno _ _ _ _ hd)
      · rfl
    refine yields_ok ⟨_, hhold, ?_⟩
    rw [linkAll_append, h]
    split
    · rfl
    · rfl

/-- **Thread groups.** A thread group becomes a call with the links of its schedule. -/
theorem yields_threadGroup (surface : Surface) (e : Element) :
    Yields (threadGroup surface e) fun d => ∃ a p, threadGroupArguments e = .ok a ∧
      a.parts? = some p ∧ assembled surface "threadGroup" p = .ok d := by
  refine yields_bind (P := (threadGroupArguments e = .ok ·)) (fun _ h => h) fun a ha => ?_
  split
  · rename_i hf
    intro d hd
    exact ⟨a, ⟨a.flatArguments, []⟩, ha, if_pos hf, bind_eq_ok.2 ⟨d, hd, rfl⟩⟩
  · rename_i hf
    have hparts : a.parts? = a.uniform.running?.map fun links =>
        ⟨literals [a.uniform.name], a.uniform.waiting ++ links⟩ := if_neg hf
    generalize a.uniform = u at hparts
    refine yields_bind (P := (start surface "threadGroup" (literals [u.name]) = .ok ·))
      (fun _ h => h) fun d₀ hd₀ => ?_
    extract_lets rounds run
    -- The calls of the iterations come first, unless the whole time is held.
    have hiter : ∀ links d, linkAll surface links d₀ = .ok d →
        Yields (chain surface "rampTo" [u.threads, u.rampUp] d >>= chain surface "holdIterating"
          [rounds]) fun d' => linkAll surface (links ++ u.iterating) d₀ = .ok d' := by
      intro links d hd
      refine yields_bind (yields_chain_link hd _ _) fun d hd => ?_
      refine (yields_chain_link hd _ _).imp fun d' hd' => ?_
      rwa [List.append_assoc] at hd'
    have hrun : ∀ links d, linkAll surface links d₀ = .ok d → Yields (run d) fun d' =>
        ∃ more, u.running? = some more ∧ linkAll surface (links ++ more) d₀ = .ok d' := by
      intro links d hd
      unfold run ThreadGroupArguments.running?
      split
      · rename_i hc
        rw [← bind_assoc]
        refine yields_bind (hiter links d hd) fun d hd => ?_
        split
        · exact yields_ok ⟨_, rfl, hd⟩
        · rename_i hz
          have hi : u.iterations.isDefault = false := by simpa [hz] using hc
          refine yields_bind (yields_hold_links hd u) ?_
          rintro ⟨hold, d⟩ ⟨remarks, hh, hd⟩
          refine (yields_chain_link hd _ _).imp fun d' hd' => ⟨_, by rw [hh]; rfl, ?_⟩
          simpa [hi] using hd'
      · rename_i hc
        rw [Bool.or_eq_true, not_or] at hc
        have hi : u.iterations.isDefault = true := by simpa using hc.1
        rw [if_neg hc.2]
        refine yields_bind (yields_hold_links hd u) ?_
        rintro ⟨hold, d⟩ ⟨remarks, hh, hd⟩
        refine (yields_chain_link hd _ _).imp fun d' hd' => ⟨_, by rw [hh]; rfl, ?_⟩
        simpa [hi] using hd'
    have hdone : ∀ d', (∃ more, u.running? = some more ∧
        linkAll surface (u.waiting ++ more) d₀ = .ok d') → ∃ a p, threadGroupArguments e = .ok a ∧
          a.parts? = some p ∧ assembled surface "threadGroup" p = .ok d' := by
      rintro d' ⟨more, hmore, hd'⟩
      refine ⟨a, _, ha, by rw [hparts, hmore]; rfl, ?_⟩
      exact bind_eq_ok.2 ⟨d₀, hd₀, hd'⟩
    split
    · rename_i hz
      refine (hrun [] d₀ rfl).imp fun d' hd' => hdone d' ?_
      rwa [ThreadGroupArguments.waiting, if_pos hz]
    · rename_i hz
      have hstart : linkAll surface [] d₀ = .ok d₀ := rfl
      refine yields_bind (yields_chain_link hstart _ _) fun d hd => ?_
      refine (hrun _ d hd).imp fun d' hd' => hdone d' ?_
      rwa [ThreadGroupArguments.waiting, if_neg hz]

end

/-! ## Elements of all kinds -/

section

variable (e : Element)

def testPlanLinks : List Link := [
  .call "sequentialThreadGroups" [e.boolLiteral serializeKey],
  .call "tearDownOnlyAfterMainThreadsDone" [e.boolLiteral tearDownKey]]

def transactionLinks : List Link := [.call "generateParentSample" [e.boolLiteral parentSampleKey]]

/-- A call given a name and a value that a nested element holds. -/
def pairLink (name nameKey valueKey : String) (a : Element) : Link :=
  .call name [.text (a.textAt nameKey), .text (a.textAt valueKey)]

/-- What a sampler sends: one text, or arguments one by one. -/
def requestLinks : List Link :=
  let arguments := elementsAt e argumentsKey
  if e.flagAt rawBodyKey then
    [.call "body"
      [.string (some (String.join (arguments.map (·.textAt argumentValueKey)))) (some "") false]]
  else arguments.map (pairLink "param" argumentNameKey argumentValueKey)

def httpSamplerLinks : List Link :=
  .call "method" [e.stringLiteral methodKey (some "GET")] :: requestLinks e ++
    [.call "followRedirects" [e.boolLiteral followRedirectsKey true]]

def httpHeadersLinks : List Link :=
  (elementsAt e headersKey).map (pairLink "header" headerNameKey headerValueKey)

def httpDefaultsLinks : List Link :=
  if requestUrl e = "" then [] else [.call "url" [.text (requestUrl e)]]

/-- What an assertion looks for. -/
def checkLinks : List Link :=
  if (testStrings e).isEmpty then []
  else [.call (checkMethod (testType e)) [.strings (testStrings e)]]

/-- A call without arguments that is made where a bit is set. -/
def bitLinks (name : String) (bit : Nat) : List Link :=
  if hasBit (testType e) bit then [.call name []] else []

def responseAssertionLinks : List Link :=
  [.call "fieldToTest" [e.enumLiteral testFieldKey targetFieldType targetFieldClass targetFields
      (some "RESPONSE_BODY")],
    .call "ignoreStatus" [e.boolLiteral assumeSuccessKey]] ++
  checkLinks e ++ bitLinks e "invertCheck" notBit ++ bitLinks e "anyMatch" orBit

/-- What the call of an element is made of; none where a time is out of range, and for module
controllers, which build no call of their own. -/
def partsOf? : ElementKind → Option Parts
  | .testPlan => some ⟨[noChildren "TestPlanChild[]"], testPlanLinks e⟩
  | .threadGroup => (threadGroupArguments e).toOption.bind (·.parts?)
  | .transaction =>
    some ⟨[.literal (.text (if e.name = "" then "Transaction Controller" else e.name)),
      noChildren "ThreadGroupChild[]"], transactionLinks e⟩
  | .testFragment =>
    some ⟨[.literal (e.nameLiteral "Test Fragment"), noChildren "ThreadGroupChild[]"], []⟩
  | .moduleController => none
  | .httpSampler =>
    some ⟨literals [e.nameLiteral "HTTP Request", .text (requestUrl e)], httpSamplerLinks e⟩
  | .httpHeaders => some ⟨[], httpHeadersLinks e⟩
  | .httpDefaults => some ⟨[], httpDefaultsLinks e⟩
  | .responseAssertion =>
    some ⟨literals [e.nameLiteral "Response Assertion"], responseAssertionLinks e⟩
  | .constantTimer =>
    (e.durationLiteral? timerDelayKey (some Duration.zero) Duration.milli).map fun delay =>
      ⟨literals [delay], []⟩
  | .resultsTree => some ⟨[], []⟩

end

section

variable {surface : Surface} {e : Element} {d : Draft Node}

theorem testPlan_eq (surface : Surface) (e : Element) : testPlan surface e =
    assembled surface "testPlan" ⟨[noChildren "TestPlanChild[]"], testPlanLinks e⟩ := by
  simp [testPlan, assembled, testPlanLinks, linkAll, link]

theorem transaction_eq (surface : Surface) (e : Element) : transaction surface e =
    assembled surface "transaction"
      ⟨[.literal (.text (if e.name = "" then "Transaction Controller" else e.name)),
        noChildren "ThreadGroupChild[]"], transactionLinks e⟩ := by
  simp [transaction, assembled, transactionLinks, linkAll, link]

theorem httpSampler_eq (surface : Surface) (e : Element) : httpSampler surface e =
    assembled surface "httpSampler"
      ⟨literals [e.nameLiteral "HTTP Request", .text (requestUrl e)], httpSamplerLinks e⟩ := by
  unfold httpSampler assembled httpSamplerLinks requestLinks
  dsimp only
  cases e.flagAt rawBodyKey with
  | true => simp [linkAll, link]
  | false => simp [linkAll, link, List.foldlM_append, List.foldlM_map, pairLink]

theorem httpHeaders_eq (surface : Surface) (e : Element) : httpHeaders surface e =
    assembled surface "httpHeaders" ⟨[], httpHeadersLinks e⟩ := by
  simp [httpHeaders, assembled, httpHeadersLinks, linkAll, link, List.foldlM_map, pairLink]

theorem httpDefaults_eq (surface : Surface) (e : Element) : httpDefaults surface e =
    assembled surface "httpDefaults" ⟨[], httpDefaultsLinks e⟩ := by
  unfold httpDefaults assembled httpDefaultsLinks
  dsimp only
  by_cases h : requestUrl e = "" <;> simp [h, linkAll, link]

theorem responseAssertion_eq (surface : Surface) (e : Element) : responseAssertion surface e =
    assembled surface "responseAssertion"
      ⟨literals [e.nameLiteral "Response Assertion"], responseAssertionLinks e⟩ := by
  unfold responseAssertion assembled responseAssertionLinks checkLinks bitLinks
  dsimp only
  cases (testStrings e).isEmpty <;> cases hasBit (testType e) notBit <;>
    cases hasBit (testType e) orBit <;> simp [linkAll, link]

theorem assembled_nil (surface : Surface) (name : String) (arguments : List (Argument Node)) :
    assembled surface name ⟨arguments, []⟩ = start surface name arguments := bind_pure _

/-- **Parts.** The call of an element is assembled from the parts that its properties tell. -/
theorem yields_parts (surface : Surface) (e : Element) {k : ElementKind} {name : String}
    (hk : k.factoryMethod? = some name) :
    Yields (k.convert surface e) fun call => ∃ p d, partsOf? e k = some p ∧
      assembled surface name p = .ok d ∧ call = some d := by
  have of_eq : ∀ {c : Conversion} {p : Parts}, c = assembled surface name p →
      partsOf? e k = some p → Yields (c.map some) fun call => ∃ p d, partsOf? e k = some p ∧
        assembled surface name p = .ok d ∧ call = some d := by
    rintro _ p rfl hp call hc
    obtain ⟨d, hd, rfl⟩ := map_eq_ok.1 hc
    exact ⟨p, d, hp, hd, rfl⟩
  cases k <;> cases hk
  case testPlan => exact of_eq (testPlan_eq surface e) rfl
  case threadGroup =>
    refine yields_map (yields_threadGroup surface e) ?_
    rintro d ⟨a, p, ha, hp, hd⟩
    exact ⟨p, d, by simp [partsOf?, ha, hp, Except.toOption], hd, rfl⟩
  case transaction => exact of_eq (transaction_eq surface e) rfl
  case testFragment => exact of_eq (assembled_nil ..).symm rfl
  case httpSampler => exact of_eq (httpSampler_eq surface e) rfl
  case httpHeaders => exact of_eq (httpHeaders_eq surface e) rfl
  case httpDefaults => exact of_eq (httpDefaults_eq surface e) rfl
  case responseAssertion => exact of_eq (responseAssertion_eq surface e) rfl
  case constantTimer =>
    intro call hc
    obtain ⟨d, hd, rfl⟩ := map_eq_ok.1 hc
    obtain ⟨delay, hdelay, hd⟩ := bind_eq_ok.1 hd
    have hdelay := (ends_inRange _).yields delay hdelay
    exact ⟨⟨literals [delay], []⟩, d, by simp [partsOf?, hdelay], (assembled_nil ..).trans hd, rfl⟩
  case resultsTree => exact of_eq (assembled_nil ..).symm rfl

/-- A call of the factory is one of the first method that takes its arguments. -/
theorem yields_assembled (surface : Surface) (name : String) (p : Parts) :
    Yields (assembled surface name p) fun d => ∃ m,
      surface.firstAccepting? (Draft.factoryMethods surface [name])
        (Argument.activeTypes p.arguments) = some m ∧
      (∀ l ∈ p.links, l.Resolves surface (m.resultType m.owner)) ∧
      d = (Draft.ofMethod surface m p.arguments).extend
        (p.links.flatMap (·.segments surface (m.resultType m.owner))) := by
  have started : Yields (start surface name p.arguments) fun d => ∃ m,
      surface.firstAccepting? (Draft.factoryMethods surface [name])
        (Argument.activeTypes p.arguments) = some m ∧ d = .ofMethod surface m p.arguments := by
    refine yields_mapError ?_
    unfold Draft.ofFactory
    split
    · rename_i m hm
      exact yields_ok ⟨m, hm, rfl⟩
    · exact yields_error _
  refine yields_bind started ?_
  rintro _ ⟨m, hm, rfl⟩
  exact (yields_linkAll surface p.links _).imp fun d hd => ⟨m, hm, hd⟩

/-- The name and the result of the method that starts the call of a kind. -/
theorem named_of_firstAccepting? {k : ElementKind} {name : String}
    (hk : k.factoryMethod? = some name) {types : List String} {m : Method}
    (hm : Surface.standard.firstAccepting?
      (Draft.factoryMethods Surface.standard [name]) types = some m) :
    m.name = name ∧ m.resultType m.owner = k.target := by
  obtain ⟨hmem, hm⟩ := List.mem_filter.1 (List.mem_of_find?_eq_some hm)
  rw [Bool.and_eq_true, List.contains_iff_mem, List.mem_singleton] at hm
  exact ⟨hm.2, k.resultType_factory name hk m hmem hm.2⟩

/-- **Calls.** On the shipped surface the call of an element is one of a method of the factory, with
the segments that its links add. -/
theorem yields_linked (e : Element) {k : ElementKind} {name : String}
    (hk : k.factoryMethod? = some name) :
    Yields (k.convert Surface.standard e) fun call => ∃ p m, partsOf? e k = some p ∧
      Surface.standard.firstAccepting? (Draft.factoryMethods Surface.standard [name])
        (Argument.activeTypes p.arguments) = some m ∧
      (∀ l ∈ p.links, l.Resolves Surface.standard k.target) ∧
      call = some ((Draft.ofMethod Surface.standard m p.arguments).extend
        (p.links.flatMap (·.segments Surface.standard k.target))) := by
  intro call hc
  obtain ⟨p, d, hp, hd, rfl⟩ := yields_parts Surface.standard e hk call hc
  obtain ⟨m, hm, hl, rfl⟩ := yields_assembled Surface.standard name p d hd
  obtain ⟨-, ht⟩ := named_of_firstAccepting? hk hm
  rw [ht] at hl ⊢
  exact ⟨p, m, hp, hm, hl, rfl⟩

end

end Convert
end PlanCode
