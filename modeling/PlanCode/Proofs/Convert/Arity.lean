import PlanCode.Proofs.Call.Fit
import PlanCode.Proofs.Convert.Links
import PlanCode.Proofs.Profile.Properties
import PlanCode.Proofs.TestClass.Imports

/-!
# Arguments of converted calls

Properties that are missing have a default nearly everywhere, so what elements are
converted to has values in the places where its methods have parameters. The threads of a
thread group have no default: a call that should say them is written with an argument
less, unless there is none.

* `fits_iff_parts`: the calls of an element fit if all that it is converted to is written.
* `isWritten_parts`: everything but thread groups is made of values.
* `fits_of_convert`: the calls of an element fit, unless it is a thread group that does
  not say its threads.
-/
namespace PlanCode

open PlanCode.Convert

/-! ## Values -/

theorem getD_ne_empty {α : Type} {value : Option α} {text : α → String} (h : ∀ a, text a ≠ "") :
    (value.map text).getD "" ≠ "" ↔ value.isSome = true := by
  cases value <;> simp [h]

/-- What properties become is written exactly if it has a value, or is a list. -/
theorem PropertyLiteral.isWritten_iff {v : Literal} (h : PropertyLiteral v) :
    (Argument.literal v).IsWritten ↔ (Argument.literal v).isArray = true ∨ v.hasValue = true := by
  have htext : (Argument.literal v).IsWritten ↔
      (Argument.literal v).isArray = true ∨ v.code ≠ "" := by
    simp [Argument.IsWritten, Layout.argumentText]
  rw [htext]
  cases h with
  | string => exact or_congr_right (getD_ne_empty Text.StringLiteral.ofText_ne_empty)
  | int => exact or_congr_right (getD_ne_empty toString_ne_empty)
  | bool => exact or_congr_right (getD_ne_empty (by decide))
  | duration => exact or_congr_right (getD_ne_empty Duration.code_ne_empty)
  | strings => exact iff_of_true (Or.inl rfl) (Or.inl rfl)
  | field => exact or_congr_right (getD_ne_empty fun c => by simp [targetFieldType])

/-- An argument of a converted call. -/
inductive ConvertedArgument : Argument Node → Prop where
  | literal {v : Literal} (h : PropertyLiteral v) : ConvertedArgument (.literal v)
  | children {type : String} (h : (Surface.elementType? type).isSome = true) :
    ConvertedArgument (noChildren type)

theorem ConvertedArgument.isSome_elementType? {a : Argument Node} (h : ConvertedArgument a) :
    (Surface.elementType? a.type).isSome = a.isArray := by
  have hplain : ∀ type ∈ ["String", "int", "boolean", "Duration", targetFieldType],
      (Surface.elementType? type).isSome = false := by decide
  cases h with
  | literal h =>
    cases h with
    | strings => exact (by decide : (Surface.elementType? "String[]").isSome = true)
    | _ => exact hplain _ (by simp [Argument.type, Literal.type])
  | children h => exact h

/-! ## Calls of a draft -/

namespace Draft

/-- A chained call of a type, with the method that is found for it and its arguments. -/
def callOf? (surface : Surface) (target : String) :
    Segment Node → Option (Option Method × List (Argument Node))
  | .call name _ arguments =>
    some ((surface.findMethod target name (Argument.activeTypes arguments)).toOption.bind id,
      arguments)
  | _ => none

/-- The calls of a draft, each with the method that is found for it and its arguments: the one of
the factory first, then those that are chained. -/
def calls (surface : Surface) (d : Draft Node) : List (Option Method × List (Argument Node)) :=
  (d.head.name.bind fun name => surface.firstAccepting? (factoryMethods surface [name])
    (Argument.activeTypes d.arguments), d.arguments) ::
  d.chain.filterMap (callOf? surface d.head.target)

end Draft

namespace Convert

/-- The call that a link chains, with the method that is found for it. -/
def Link.calls (surface : Surface) (target : String) :
    Link → List (Option Method × List (Argument Node))
  | .remark _ => []
  | .call name values =>
    if isElided values then []
    else [(overload? surface target name values, kept surface target name values)]

section

variable {surface : Surface} {target name : String} {values : List Literal} {links : List Link}

theorem filterMap_calls {l : Link} (h : l.Resolves surface target) :
    (l.segments surface target).filterMap (Draft.callOf? surface target) =
      l.calls surface target := by
  cases l with
  | remark text => rfl
  | call name values =>
    cases he : isElided values with
    | true => rw [segments_elided he, Link.calls, if_pos he, List.filterMap_nil]
    | false =>
      obtain ⟨m, hm⟩ := Option.isSome_iff_exists.1 (h he)
      rw [segments_of_overload he hm, Link.calls, if_neg (by simp [he])]
      rfl

/-- The calls of a linked draft are the first one and those of its links. -/
theorem calls_extend {m : Method} {arguments : List (Argument Node)}
    (h : ∀ l ∈ links, l.Resolves surface (m.resultType m.owner))
    (hm : surface.firstAccepting? (Draft.factoryMethods surface [m.name])
      (Argument.activeTypes arguments) = some m) :
    ((Draft.ofMethod surface m arguments).extend
        (links.flatMap (·.segments surface (m.resultType m.owner)))).calls surface =
      (some m, arguments) :: links.flatMap (·.calls surface (m.resultType m.owner)) := by
  refine List.cons_eq_cons.2 ⟨Prod.ext hm rfl, ?_⟩
  refine (List.filterMap_flatMap ..).trans ?_
  exact List.flatMap_congr fun l hl => filterMap_calls (h l hl)

theorem isSome_of_mem_calls {l : Link} (h : l.Resolves surface target)
    {c : Option Method × List (Argument Node)} (hc : c ∈ l.calls surface target) :
    c.1.isSome = true := by
  cases l with
  | remark => cases hc
  | call name values =>
    rw [Link.calls] at hc
    split at hc
    · cases hc
    · rename_i he
      rw [List.mem_singleton.1 hc]
      exact h (Bool.eq_false_iff.2 he)

/-- All arguments of a link that is chained are written. -/
def Link.IsWritten : Link → Prop
  | .remark _ => True
  | .call _ values => isElided values = false →
    ∀ v ∈ values, v.isIgnored = false → (Argument.literal v).IsWritten

theorem isWritten_call : (Link.call name values).IsWritten ↔ (isElided values = false →
    ∀ v ∈ values, v.isIgnored = false → (Argument.literal v).IsWritten) := Iff.rfl

theorem forall_mem_active_literals {P : Argument Node → Prop} :
    (∀ a ∈ Argument.active (literals values), P a) ↔
      ∀ v ∈ values, v.isIgnored = false → P (.literal v) := by
  simp [Argument.active, literals, Argument.isIgnored]

theorem hasValue_of_not_isDefault {v : Literal} (h : v.isDefault = false) : v.hasValue = true := by
  cases v with
  | strings values => simpa [Literal.isDefault, Literal.hasValue] using h
  | _ =>
    simp only [Literal.isDefault, Bool.or_eq_false_iff] at h
    simpa [Literal.hasValue, ← Option.not_isSome] using h.1

/-- A flag that is dropped would have been written. -/
theorem isWritten_calls {l : Link} :
    (∀ c ∈ l.calls surface target, ∀ a ∈ Argument.active c.2, a.IsWritten) ↔ l.IsWritten := by
  cases l with
  | remark => simp [Link.calls, Link.IsWritten]
  | call name values =>
    cases he : isElided values with
    | true => simp [Link.calls, Link.IsWritten, he]
    | false =>
      simp only [Link.calls, Link.IsWritten, he, Bool.false_eq_true, if_false, forall_const,
        List.forall_mem_singleton]
      rw [← forall_mem_active_literals]
      unfold kept
      split
      · rename_i v
        split
        · rename_i hb
          refine iff_of_true (List.forall_mem_nil _) ?_
          rw [forall_mem_active_literals, List.forall_mem_singleton]
          intro _
          have hv : v.hasValue = true :=
            hasValue_of_not_isDefault (by simpa [isElided] using he)
          cases v with
          | bool => exact PropertyLiteral.bool.isWritten_iff.2 (Or.inr hv)
          | _ => cases hb
        · rfl
      · rfl

end

/-! ## Calls of an element -/

section

variable {k : ElementKind} {e : Element} {d : Draft Node} {name : String}

theorem isSome_slotType? (k : ElementKind) :
    ∀ type ∈ k.slotType?, (Surface.elementType? type).isSome = true := by
  cases k <;> decide

/-- What the calls of a converted element are given. -/
theorem converted_of_mem_calls (hk : k.factoryMethod? = some name)
    (h : k.convert Surface.standard e = .ok (some d)) :
    ∀ c ∈ d.calls Surface.standard, ∀ a ∈ c.2, ConvertedArgument a := by
  obtain ⟨_, hd, hb⟩ := ElementKind.yields_built hk _ h
  obtain rfl := Option.some.inj hd
  have hs := hb.shape
  have hlits : ∀ {values : List Literal}, (∀ v ∈ values, PropertyLiteral v) →
      ∀ a ∈ literals values, ConvertedArgument a := fun hv a ha => by
    obtain ⟨v, hm, rfl⟩ := List.mem_map.1 ha
    exact .literal (hv v hm)
  refine List.forall_mem_cons.2 ⟨?_, ?_⟩
  · obtain ⟨values, slot, ha, hv, hslot⟩ := hs.arguments
    dsimp only
    rw [ha, List.forall_mem_append]
    refine ⟨hlits hv, ?_⟩
    obtain rfl | ⟨type, ht, rfl⟩ := hslot
    · exact List.forall_mem_nil _
    · exact List.forall_mem_singleton.2 (.children (isSome_slotType? k type ht))
  · intro c hc
    obtain ⟨s, hm, hc⟩ := List.mem_filterMap.1 hc
    obtain ⟨text, rfl⟩ | ⟨chained, target, values, rfl, hv⟩ := hs.chain s hm
    · cases hc
    · obtain rfl := Option.some.inj hc
      exact hlits hv

/-- A method that is found takes the arguments that it is found for. -/
theorem takes_of_mem_calls {c : Option Method × List (Argument Node)}
    (hc : c ∈ d.calls Surface.standard) {m : Method} (hm : c.1 = some m) :
    Surface.hasPlainParameters m = true ∧
      Surface.standard.Takes m.parameters (Argument.activeTypes c.2) := by
  rcases List.mem_cons.1 hc with rfl | hc
  · obtain ⟨name, -, hm⟩ := Option.bind_eq_some_iff.1 hm
    have htype : Surface.Default.jmeterDsl ∈ Surface.standard.types := List.mem_cons_self ..
    refine ⟨Surface.hasPlainParameters_standard _ htype m
      (Surface.mem_factory_of_firstAccepting? hm), Surface.accepts_iff.1 ?_⟩
    simpa using List.find?_some hm
  · obtain ⟨s, -, hs⟩ := List.mem_filterMap.1 hc
    cases s with
    | call chained _ arguments =>
      obtain rfl := Option.some.inj hs
      have hm : Surface.standard.findMethod d.head.target chained
          (Argument.activeTypes arguments) = .ok (some m) := by
        cases hf : Surface.standard.findMethod d.head.target chained
            (Argument.activeTypes arguments) with
        | error _ => simp [hf, Except.toOption] at hm
        | ok m? => simpa [hf, Except.toOption] using hm
      obtain ⟨before, holder, after, hh, ha, -⟩ := Surface.findMethod_eq_some hm
      have hmem : holder ∈ (Surface.standard.ancestry d.head.target).holders := by simp [hh]
      obtain ⟨n, hn⟩ := Surface.mem_holders.1 hmem
      exact ⟨Surface.hasPlainParameters_standard _ (Surface.mem_types_ancestor? hn) m ha.declared,
        ha.takes⟩
    | _ => cases hs

/-- Of a converted element a call fits its method exactly if all arguments of it are written. -/
theorem fits_of_mem_calls (hk : k.factoryMethod? = some name)
    (h : k.convert Surface.standard e = .ok (some d)) {c : Option Method × List (Argument Node)}
    (hc : c ∈ d.calls Surface.standard) {m : Method} (hm : c.1 = some m) :
    m.Fits c.2 ↔ ∀ a ∈ Argument.active c.2, a.IsWritten := by
  obtain ⟨hp, ht⟩ := takes_of_mem_calls hc hm
  refine Surface.fits_iff hp ht fun a ha => ?_
  exact (converted_of_mem_calls hk h c hc a (List.mem_filter.1 ha).1).isSome_elementType?

/-- **Calls.** Each call of a converted element has a method, and all of them fit exactly if all
arguments that the element is converted to are written. -/
theorem fits_iff_parts (hk : k.factoryMethod? = some name)
    (h : k.convert Surface.standard e = .ok (some d)) : ∃ p, partsOf? e k = some p ∧
      (∀ c ∈ d.calls Surface.standard, c.1.isSome = true) ∧
      ((∀ c ∈ d.calls Surface.standard, ∀ m ∈ c.1, m.Fits c.2) ↔
        (∀ a ∈ Argument.active p.arguments, a.IsWritten) ∧ ∀ l ∈ p.links, l.IsWritten) := by
  have hfits : (∀ c ∈ d.calls Surface.standard, c.1.isSome = true) →
      ((∀ c ∈ d.calls Surface.standard, ∀ m ∈ c.1, m.Fits c.2) ↔
        ∀ c ∈ d.calls Surface.standard, ∀ a ∈ Argument.active c.2, a.IsWritten) := by
    intro hsome
    refine forall₂_congr fun c hc => ?_
    obtain ⟨m, hm⟩ := Option.isSome_iff_exists.1 (hsome c hc)
    have hf := fits_of_mem_calls hk h hc hm
    simp only [hm, Option.mem_some_iff, forall_eq', hf]
  obtain ⟨p, m, hp, hm, hl, hd⟩ := yields_linked e hk _ h
  obtain rfl := Option.some.inj hd
  obtain ⟨hname, htarget⟩ := named_of_firstAccepting? hk hm
  rw [← htarget] at hl
  rw [← hname] at hm
  have hcalls := calls_extend hl hm
  rw [htarget] at hl hcalls
  rw [hcalls] at hfits ⊢
  have hsome : ∀ c ∈ (some m, p.arguments) ::
      p.links.flatMap (·.calls Surface.standard k.target), c.1.isSome = true := by
    refine List.forall_mem_cons.2 ⟨rfl, fun c hc => ?_⟩
    obtain ⟨l, hm, hc⟩ := List.mem_flatMap.1 hc
    exact isSome_of_mem_calls (hl l hm) hc
  refine ⟨p, hp, hsome, (hfits hsome).trans ?_⟩
  rw [List.forall_mem_cons, List.forall_mem_flatMap]
  exact and_congr_right' (forall₂_congr fun l _ => isWritten_calls)

end

/-! ## Values of properties -/

section

variable {e : Element} {v : Literal} {name : String}

theorem isWritten_of_hasValue (h : PropertyLiteral v) (hv : v.hasValue = true) :
    (Argument.literal v).IsWritten := h.isWritten_iff.2 (Or.inr hv)

/-- A call with one argument is chained for a value only. -/
theorem isWritten_single (h : PropertyLiteral v) : (Link.call name [v]).IsWritten := by
  intro he
  refine List.forall_mem_singleton.2 fun _ => ?_
  exact isWritten_of_hasValue h (hasValue_of_not_isDefault (by simpa [isElided] using he))

theorem isWritten_bare : (Link.call name []).IsWritten := fun _ => List.forall_mem_nil _

theorem isWritten_text (s : String) : (Argument.literal (.text s)).IsWritten :=
  isWritten_of_hasValue .string rfl

theorem isWritten_name (default : String) : (Argument.literal (e.nameLiteral default)).IsWritten :=
  isWritten_of_hasValue .string rfl

theorem isWritten_noChildren (type : String) : (noChildren type).IsWritten := Or.inl rfl

theorem isWritten_pairLink (nameKey valueKey : String) (a : Element) :
    (pairLink name nameKey valueKey a).IsWritten := fun _ =>
  List.forall_mem_cons.2 ⟨fun _ => isWritten_text _, List.forall_mem_singleton.2 fun _ =>
    isWritten_text _⟩

theorem isWritten_requestLinks : ∀ l ∈ requestLinks e, l.IsWritten := by
  unfold requestLinks
  dsimp only
  split
  · exact List.forall_mem_singleton.2 (isWritten_single .string)
  · exact List.forall_mem_map.2 fun a _ => isWritten_pairLink _ _ a

theorem isWritten_checkLinks : ∀ l ∈ checkLinks e, l.IsWritten := by
  unfold checkLinks
  split
  · exact List.forall_mem_nil _
  · exact List.forall_mem_singleton.2 (isWritten_single .strings)

theorem isWritten_bitLinks (bit : Nat) : ∀ l ∈ bitLinks e name bit, l.IsWritten := by
  unfold bitLinks
  split
  · exact List.forall_mem_singleton.2 isWritten_bare
  · exact List.forall_mem_nil _

/-- Everything but thread groups is made of values. -/
theorem isWritten_parts {k : ElementKind} (hk : k ≠ .threadGroup) {p : Parts}
    (hp : partsOf? e k = some p) :
    (∀ a ∈ p.arguments, a.IsWritten) ∧ ∀ l ∈ p.links, l.IsWritten := by
  cases k with
  | threadGroup => exact absurd rfl hk
  | moduleController => cases hp
  | constantTimer =>
    obtain ⟨delay, hdelay, rfl⟩ := Option.map_eq_some_iff.1 hp
    refine ⟨List.forall_mem_singleton.2 ?_, List.forall_mem_nil _⟩
    exact isWritten_of_hasValue (e.property_durationLiteral? _ _ _ delay hdelay)
      ((hasValue_durationLiteral hdelay).2 (Or.inr rfl))
  | testPlan =>
    obtain rfl := Option.some.inj hp
    refine ⟨List.forall_mem_singleton.2 (isWritten_noChildren _), ?_⟩
    exact List.forall_mem_cons.2 ⟨isWritten_single (e.property_boolLiteral _ _),
      List.forall_mem_singleton.2 (isWritten_single (e.property_boolLiteral _ _))⟩
  | transaction =>
    obtain rfl := Option.some.inj hp
    refine ⟨List.forall_mem_cons.2 ⟨isWritten_text _, List.forall_mem_singleton.2
      (isWritten_noChildren _)⟩, ?_⟩
    exact List.forall_mem_singleton.2 (isWritten_single (e.property_boolLiteral _ _))
  | testFragment =>
    obtain rfl := Option.some.inj hp
    exact ⟨List.forall_mem_cons.2 ⟨isWritten_name _, List.forall_mem_singleton.2
      (isWritten_noChildren _)⟩, List.forall_mem_nil _⟩
  | httpSampler =>
    obtain rfl := Option.some.inj hp
    refine ⟨List.forall_mem_cons.2 ⟨isWritten_name _, List.forall_mem_singleton.2
      (isWritten_text _)⟩, ?_⟩
    refine List.forall_mem_append.2 ⟨List.forall_mem_cons.2 ⟨?_, isWritten_requestLinks⟩, ?_⟩
    · exact isWritten_single (e.property_stringLiteral _ _)
    · exact List.forall_mem_singleton.2 (isWritten_single (e.property_boolLiteral _ _))
  | httpHeaders =>
    obtain rfl := Option.some.inj hp
    exact ⟨List.forall_mem_nil _, List.forall_mem_map.2 fun a _ => isWritten_pairLink _ _ a⟩
  | httpDefaults =>
    obtain rfl := Option.some.inj hp
    refine ⟨List.forall_mem_nil _, ?_⟩
    dsimp only [httpDefaultsLinks]
    split
    · exact List.forall_mem_nil _
    · exact List.forall_mem_singleton.2 (isWritten_single .string)
  | responseAssertion =>
    obtain rfl := Option.some.inj hp
    refine ⟨List.forall_mem_singleton.2 (isWritten_name _), ?_⟩
    simp only [responseAssertionLinks, List.forall_mem_append]
    refine ⟨⟨⟨?_, isWritten_checkLinks⟩, isWritten_bitLinks _⟩, isWritten_bitLinks _⟩
    exact List.forall_mem_cons.2 ⟨isWritten_single (e.property_enumLiteral _),
      List.forall_mem_singleton.2 (isWritten_single (e.property_boolLiteral _ _))⟩
  | resultsTree =>
    obtain rfl := Option.some.inj hp
    exact ⟨List.forall_mem_nil _, List.forall_mem_nil _⟩

end

/-! ## Thread groups -/

/-- The threads are a default next to a ramp-up that is one, in a schedule that is chained and goes
by iterations. The call that would say both is then left out. -/
def ThreadGroupArguments.LeavesThreadsOut (a : ThreadGroupArguments) : Prop :=
  a.isFlat = false ∧ a.uniform.rampUp.isDefault = true ∧
    (isDefaultOrZero a.uniform.duration = true ∨ a.uniform.iterations.isDefault = false)

/-- The arguments of a thread group are made of its properties, and at most the threads, the
duration and the delay lack a value. -/
structure ThreadGroupArguments.Valued (a : ThreadGroupArguments) : Prop
    extends a.OfProperties where
  name_value : a.name.hasValue = true
  rampUp_value : a.rampUp.hasValue = true
  iterations_value : a.iterations.hasValue = true

section

variable {e : Element} {a : ThreadGroupArguments} {p : Parts} {name : String}

theorem ThreadGroupArguments.Reads.valued (h : a.Reads e) (ha : threadGroupArguments e = .ok a) :
    a.Valued where
  toOfProperties := yields_ofProperties e a ha
  name_value := by
    rw [h.name]
    rfl
  rampUp_value := (hasValue_durationLiteral h.rampUp).2 (Or.inr rfl)
  iterations_value := by
    rw [h.iterations]
    exact hasValue_intLiteral.2 (Or.inr rfl)

theorem ThreadGroupArguments.Valued.uniform (h : a.Valued) :
    a.uniform.Valued ∧ a.uniform.threads.hasValue = a.threads.hasValue := by
  have hp := h.toOfProperties.uniform
  unfold ThreadGroupArguments.uniform at hp ⊢
  split at hp
  · rename_i hl
    rw [if_pos hl]
    exact ⟨h, rfl⟩
  · rename_i hl
    rw [if_neg hl]
    exact ⟨⟨hp, h.name_value, (hasValue_asString _).trans h.rampUp_value, h.iterations_value⟩,
      hasValue_asString _⟩

theorem isWritten_iff_of_isOf {v : Literal} (h : PropertyLiteral v) {type : String}
    (hv : v.IsOf type) (ht : type ≠ "String[]") :
    (Argument.literal v).IsWritten ↔ v.hasValue = true := by
  refine h.isWritten_iff.trans (or_iff_right fun hl => ?_)
  cases v with
  | strings => exact ht hv.type_eq.symm
  | _ => cases hl

theorem plain_of_fluentCalls :
    ∀ c ∈ Surface.fluentCalls, c.2.1 = "rampTo" → "String[]" ∉ c.2.2 := by decide

/-- A call that is given the threads first is left out with them, or says them. -/
theorem isWritten_threads {threads : Literal} (h : PropertyLiteral threads) {type : String}
    (hv : threads.IsOf type) (ht : type ≠ "String[]") {rest : List Literal}
    (hr : ∀ v ∈ rest, (Argument.literal v).IsWritten) :
    (Link.call name (threads :: rest)).IsWritten ↔
      threads.hasValue = true ∨ rest.all (·.isDefault) = true := by
  have hw := isWritten_iff_of_isOf h hv ht
  cases hthreads : threads.hasValue with
  | true =>
    refine iff_of_true (fun _ => ?_) (Or.inl rfl)
    exact List.forall_mem_cons.2 ⟨fun _ => hw.2 hthreads, fun v hm _ => hr v hm⟩
  | false =>
    have hd : threads.isDefault = true := by
      by_contra hd
      rw [hasValue_of_not_isDefault (Bool.eq_false_iff.2 hd)] at hthreads
      cases hthreads
    have he : isElided (threads :: rest) = rest.all (·.isDefault) := by simp [isElided, hd]
    rw [or_iff_right (by simp)]
    rw [isWritten_call, he]
    cases rest.all (·.isDefault) with
    | true => exact iff_of_true (absurd · Bool.false_ne_true.symm) rfl
    | false =>
      refine iff_of_false (fun hl => ?_) Bool.false_ne_true
      have hs := hw.1 ((List.forall_mem_cons.1 (hl rfl)).1 hv.given)
      rw [hthreads] at hs
      cases hs

/-- A time to hold has a value, and nothing but remarks is made on it. -/
theorem hold?_eq_some (h : a.OfProperties) (hz : isDefaultOrZero a.duration = false)
    {hold : Literal} {remarks : List Link} (hh : a.hold? = some (hold, remarks)) :
    PropertyLiteral hold ∧ hold.isDefault = false ∧ ∀ l ∈ remarks, l.IsWritten := by
  unfold ThreadGroupArguments.hold? at hh
  split at hh
  · split at hh
    · cases hh
      exact ⟨.duration, rfl, List.forall_mem_nil _⟩
    · obtain ⟨rest, -, hh⟩ := Option.map_eq_some_iff.1 hh
      cases hh
      exact ⟨.duration, rfl, List.forall_mem_nil _⟩
  · cases hh
    refine ⟨h.duration, (Bool.or_eq_false_iff.1 hz).1, ?_⟩
    split
    · exact List.forall_mem_nil _
    · exact List.forall_mem_singleton.2 trivial

/-- The links of a chained schedule are written unless it says threads that it does not have. -/
theorem isWritten_running? (h : a.Valued) {number time : String} (hu : a.Uniform number time)
    (hn : number ≠ "String[]") {links : List Link} (hl : a.running? = some links) :
    (∀ l ∈ a.waiting ++ links, l.IsWritten) ↔ a.threads.hasValue = true ∨
      a.rampUp.isDefault = true ∧
        (isDefaultOrZero a.duration = true ∨ a.iterations.isDefault = false) := by
  have hwait : ∀ l ∈ a.waiting, l.IsWritten := by
    unfold ThreadGroupArguments.waiting
    split
    · exact List.forall_mem_nil _
    · exact List.forall_mem_singleton.2 (isWritten_single h.delay)
  have hrounds : PropertyLiteral a.rounds := by
    unfold ThreadGroupArguments.rounds
    split
    · exact .int
    · exact h.iterations
  have hramp := isWritten_of_hasValue h.rampUp h.rampUp_value
  have hiter : (∀ l ∈ a.iterating, l.IsWritten) ↔
      a.threads.hasValue = true ∨ a.rampUp.isDefault = true := by
    rw [ThreadGroupArguments.iterating, List.forall_mem_cons, List.forall_mem_singleton,
      isWritten_threads h.threads hu.threads hn (List.forall_mem_singleton.2 hramp),
      and_iff_left (isWritten_single hrounds)]
    simp
  rw [List.forall_mem_append, and_iff_right hwait]
  unfold ThreadGroupArguments.running? at hl
  cases hz : isDefaultOrZero a.duration with
  | true =>
    rw [if_pos hz] at hl
    cases hl
    simp [hiter]
  | false =>
    rw [if_neg (by simp [hz])] at hl
    obtain ⟨⟨hold, remarks⟩, hh, rfl⟩ := Option.map_eq_some_iff.1 hl
    obtain ⟨hp, hd, hr⟩ := hold?_eq_some h.toOfProperties hz hh
    cases hi : a.iterations.isDefault with
    | true =>
      have hholds := isWritten_of_hasValue hp (hasValue_of_not_isDefault hd)
      dsimp only
      rw [if_pos rfl, List.forall_mem_append, and_iff_right hr, List.forall_mem_singleton,
        isWritten_threads h.threads hu.threads hn
          (List.forall_mem_cons.2 ⟨hramp, List.forall_mem_singleton.2 hholds⟩)]
      simp [hd]
    | false =>
      dsimp only
      rw [if_neg (by simp), List.forall_mem_append, List.forall_mem_append,
        and_iff_left hr, List.forall_mem_singleton, and_iff_left (isWritten_single hp), hiter]
      simp

/-- The one call of a flat thread group is written if it says its threads. -/
theorem isWritten_flatArguments (h : a.Valued) (hf : a.isFlat = true) :
    (∀ x ∈ Argument.active a.flatArguments, x.IsWritten) ↔ a.threads.hasValue = true := by
  have hthreads : isInt a.threads = true := by
    simp only [ThreadGroupArguments.isFlat, Bool.and_eq_true] at hf
    exact hf.1.1.1.1.1
  have hof := isOf_int hthreads
  have hw := isWritten_iff_of_isOf h.threads hof (by decide)
  have hlength : (Argument.literal (if isDefaultOrZero a.duration then a.iterations
      else a.duration)).IsWritten := by
    cases hz : isDefaultOrZero a.duration with
    | true => exact isWritten_of_hasValue h.iterations h.iterations_value
    | false =>
      exact isWritten_of_hasValue h.duration
        (hasValue_of_not_isDefault (Bool.or_eq_false_iff.1 hz).1)
  have hname := isWritten_of_hasValue h.name h.name_value
  rw [← hw]
  constructor
  · intro hall
    refine hall _ (List.mem_filter.2 ⟨?_, by simp [Argument.isIgnored, hof.given]⟩)
    simp [ThreadGroupArguments.flatArguments, literals]
  · intro hthreads x hx
    have hx := (List.mem_filter.1 hx).1
    simp only [ThreadGroupArguments.flatArguments, literals, List.map_cons, List.map_nil,
      List.cons_append, List.nil_append, List.mem_cons, List.not_mem_nil, or_false] at hx
    rcases hx with rfl | rfl | rfl | rfl
    · exact hname
    · exact hthreads
    · exact hlength
    · exact isWritten_noChildren _

/-- What a thread group is made of is written exactly if it says its threads or leaves them out. -/
theorem isWritten_threadGroup (h : a.Valued) (hp : a.parts? = some p) :
    ((∀ x ∈ Argument.active p.arguments, x.IsWritten) ∧ ∀ l ∈ p.links, l.IsWritten) ↔
      a.threads.hasValue = true ∨ a.LeavesThreadsOut := by
  unfold ThreadGroupArguments.parts? at hp
  unfold ThreadGroupArguments.LeavesThreadsOut
  cases hf : a.isFlat with
  | true =>
    rw [if_pos hf] at hp
    cases hp
    simp [isWritten_flatArguments h hf]
  | false =>
    rw [if_neg (by simp [hf])] at hp
    obtain ⟨links, hl, rfl⟩ := Option.map_eq_some_iff.1 hp
    obtain ⟨hu, hthreads⟩ := h.uniform
    obtain ⟨number, time, htypes⟩ := exists_uniform a
    have hn : number ≠ "String[]" := by
      rintro rfl
      exact plain_of_fluentCalls _ htypes.rampTo rfl (List.mem_cons_self ..)
    have hname : ∀ x ∈ Argument.active (literals [a.uniform.name]), x.IsWritten :=
      forall_mem_active_literals.2 (List.forall_mem_singleton.2 fun _ =>
        isWritten_of_hasValue hu.name hu.name_value)
    rw [and_iff_right hname, isWritten_running? hu htypes hn hl, hthreads]
    simp

end

end Convert

/-! ## Threads that are not given -/

open Schedule

/-- No call of a thread group says its threads: next to a ramp-up that is the default one, these are
left out of a chain that goes by iterations. A duration that does not count leaves a chain only if
the iterations are no number or the delay counts; one that counts is chained to iterations that are
given and have an end. -/
def Element.LeavesThreadsOut (e : Element) : Prop :=
  (e.trimmedAt rampTimeKey = "" ∨ Number.readWhole? (e.trimmedAt rampTimeKey) = some 1) ∧
    ((¬ e.Counts durationKey ∧
        (¬ e.IsPlain (mainControllerKey ++ "/" ++ loopsKey) ∨ e.Counts delayKey)) ∨
      (e.Counts durationKey ∧ e.IsPlain durationKey ∧
        ¬ (e.trimmedAt (mainControllerKey ++ "/" ++ loopsKey) = "" ∨
          Number.readWhole? (e.trimmedAt (mainControllerKey ++ "/" ++ loopsKey)) = some (-1))))

namespace Convert

section

variable {e : Element} {d : Draft Node} {a : ThreadGroupArguments}

/-- Whether threads that are not given are left out can be told from the properties. -/
theorem ThreadGroupArguments.Reads.leavesThreadsOut_iff (h : a.Reads e) (hv : a.Valued)
    (ht : e.trimmedAt threadsKey = "") : a.LeavesThreadsOut ↔ e.LeavesThreadsOut := by
  obtain ⟨hd, hy⟩ := h.counts
  have hramp := isDefault_rampUp h.rampUp
  have hi : isInt a.iterations = true ↔ e.IsPlain (mainControllerKey ++ "/" ++ loopsKey) :=
    h.iterations ▸ isInt_intLiteral
  have hi' : a.iterations.isDefault = true ↔ _ := h.iterations ▸ isDefault_intLiteral
  have hthreads : isInt a.threads = true := h.threads ▸ isInt_intLiteral.2 (Or.inl ht)
  unfold ThreadGroupArguments.LeavesThreadsOut Element.LeavesThreadsOut
  rw [← hramp, ← hd, ← hy, ← hi, ← hi', and_left_comm]
  cases hl : isInt a.threads && isDuration a.rampUp && isDuration a.duration with
  | true =>
    obtain ⟨-, -, hplain⟩ := h.isLiteral.1 hl
    have hu : a.uniform = a := if_pos hl
    simp only [Bool.and_eq_true] at hl
    rw [hu]
    refine and_congr_right fun hdef => ?_
    have hflat : a.isFlat = (isInt a.iterations && isDefaultOrZero a.delay &&
        (isDefaultOrZero a.duration || a.iterations.isDefault)) := by
      simp [ThreadGroupArguments.isFlat, hl.1.1, hl.2, isDefaultOrZero, hdef]
    rw [hflat]
    rw [← hd] at hplain
    cases hz : isDefaultOrZero a.duration with
    | true => cases isInt a.iterations <;> simp
    | false => cases a.iterations.isDefault <;> simp [hplain hz]
  | false =>
    -- A ramp-up that is a string is no default, and one that is a default is no expression.
    have hu : a.uniform.rampUp = asString a.rampUp := by
      rw [ThreadGroupArguments.uniform, if_neg (by simp [hl])]
    have hs : (asString a.rampUp).isDefault = false := by
      have hvalue := (hasValue_asString a.rampUp).trans hv.rampUp_value
      simpa [asString, Literal.hasValue, Literal.isDefault] using hvalue
    rw [hu, hs]
    refine iff_of_false (by simp) ?_
    rintro ⟨hdef, hc⟩
    have hplain : e.IsPlain rampTimeKey := (hramp.1 hdef).imp_right fun h1 => ⟨1, h1⟩
    have hno : ¬ (isDefaultOrZero a.duration = false → e.IsPlain durationKey) := fun hd' => by
      rw [h.isLiteral.2 ⟨Or.inl ht, hplain, fun hc => hd' (hd.2 hc)⟩] at hl
      cases hl
    obtain ⟨hz, hd'⟩ := Classical.not_imp.1 hno
    obtain ⟨hz', -⟩ | ⟨-, hd'', -⟩ := hc
    · exact hz' hz
    · exact hd' hd''

/-- The calls of a thread group fit exactly if it says its threads or leaves them out. -/
theorem fits_threadGroup (h : ElementKind.threadGroup.convert Surface.standard e = .ok (some d)) :
    (∀ c ∈ d.calls Surface.standard, ∀ m ∈ c.1, m.Fits c.2) ↔
      e.trimmedAt threadsKey ≠ "" ∨ e.LeavesThreadsOut := by
  obtain ⟨p, hp, -, hfits⟩ := fits_iff_parts rfl h
  obtain ⟨a, ha, hp⟩ := Option.bind_eq_some_iff.1 hp
  have ha : threadGroupArguments e = .ok a := by
    cases hr : threadGroupArguments e with
    | error _ => simp [hr, Except.toOption] at ha
    | ok a' => simpa [hr, Except.toOption] using ha
  have hr := (ends_threadGroupArguments e).yields a ha
  have hv := hr.valued ha
  rw [hfits, isWritten_threadGroup hv hp, hr.threads, hasValue_intLiteral]
  simp only [Option.isSome_none, Bool.false_eq_true, or_false]
  by_cases ht : e.trimmedAt threadsKey = ""
  · rw [or_iff_right (not_not_intro ht), or_iff_right (not_not_intro ht)]
    exact hr.leavesThreadsOut_iff hv ht
  · exact iff_of_true (Or.inl ht) (Or.inl ht)

/-- There is a call unless a time is out of range. -/
theorem exists_threadGroup (h : ¬ e.ScheduleIsBeyond) :
    ∃ d, ElementKind.threadGroup.convert Surface.standard e = .ok (some d) := by
  obtain ⟨d, hd, -⟩ := (ends_threadGroup e).delivers fun _ he => h he.2
  exact ⟨d, by rw [ElementKind.convert, hd]; rfl⟩

/-- **Arguments and parameters.** Each call of a converted element has a method. All calls are
written with an argument for each parameter of their methods, but for a thread group that does not
give its threads and has a call that says them. -/
theorem fits_of_convert {k : ElementKind} (hk : k ≠ .moduleController)
    (h : k.convert Surface.standard e = .ok (some d)) :
    (∀ c ∈ d.calls Surface.standard, c.1.isSome = true) ∧
      ((∀ c ∈ d.calls Surface.standard, ∀ m ∈ c.1, m.Fits c.2) ↔
        (k = .threadGroup → e.trimmedAt threadsKey ≠ "" ∨ e.LeavesThreadsOut)) := by
  obtain ⟨name, hname⟩ := Option.isSome_iff_exists.1
    (Option.isSome_iff_ne_none.2 (mt ElementKind.factoryMethod?_eq_none.1 hk))
  obtain ⟨p, hp, hsome, hfits⟩ := fits_iff_parts hname h
  refine ⟨hsome, ?_⟩
  by_cases hg : k = .threadGroup
  · subst hg
    rw [fits_threadGroup h, imp_iff_right rfl]
  · obtain ⟨hwritten, hlinks⟩ := isWritten_parts hg hp
    rw [hfits]
    refine iff_of_true ⟨fun a ha => ?_, hlinks⟩ fun hk => absurd hk hg
    exact hwritten a (List.mem_filter.1 ha).1

/-- A thread group that gives no threads, and waits before it starts. -/
def waitingGroup : Element where
  kind := "ThreadGroup"
  name := "Users"
  properties := [(delayKey, .text "5")]

/-- It is written as `threadGroup("Users").holdFor(Duration.ofSeconds(5)).holdIterating(-1)`. -/
theorem fits_of_convert_waitingGroup : ElementKind.threadGroup ≠ .moduleController ∧
    ∃ d, ElementKind.threadGroup.convert Surface.standard waitingGroup = .ok (some d) ∧
      ∀ c ∈ d.calls Surface.standard, ∀ m ∈ c.1, m.Fits c.2 := by
  have hramp : waitingGroup.trimmedAt rampTimeKey = "" := by decide +kernel
  have hduration : waitingGroup.trimmedAt durationKey = "" := by decide +kernel
  have hdelay : Number.readWhole? (waitingGroup.trimmedAt delayKey) = some 5 := by decide +kernel
  have hon : waitingGroup.flagAt schedulerKey true = true := by decide +kernel
  have hin : ¬ waitingGroup.ScheduleIsBeyond := by
    simp [Element.ScheduleIsBeyond, Element.HoldIsBeyond, Element.IsBeyond, Duration.IsBeyond,
      hramp, hduration, hdelay, Element.readWhole?_empty, Duration.second, Duration.minMicros,
      Duration.endMicros]
  have hout : waitingGroup.LeavesThreadsOut := by
    refine ⟨Or.inl hramp, Or.inl ⟨fun hc => hc.2.1 hduration, Or.inr ⟨hon, ?_, ?_⟩⟩⟩
    · exact Element.ne_empty_of_number hdelay
    · simp [hdelay]
  have hk : ElementKind.threadGroup ≠ .moduleController := by decide
  obtain ⟨d, hd⟩ := exists_threadGroup hin
  exact ⟨hk, d, hd, (fits_of_convert hk hd).2.2 fun _ => Or.inr hout⟩

/-- A thread group that gives nothing but its name. -/
def bareGroup : Element where
  kind := "ThreadGroup"
  name := "Users"

/-- It is written as `threadGroup("Users", -1)`, of a method that takes threads as well. -/
theorem not_fits_bareGroup : ¬ ∀ (k : ElementKind) (e : Element) (d : Draft Node),
    k ≠ .moduleController → k.convert Surface.standard e = .ok (some d) →
      ∀ c ∈ d.calls Surface.standard, ∀ m ∈ c.1, m.Fits c.2 := by
  intro h
  have blank : ∀ key ∈ [threadsKey, rampTimeKey, durationKey, delayKey,
      mainControllerKey ++ "/" ++ loopsKey], bareGroup.trimmedAt key = "" := by decide +kernel
  simp only [List.forall_mem_cons] at blank
  obtain ⟨hthreads, hramp, hduration, hdelay, hloops, -⟩ := blank
  have hin : ¬ bareGroup.ScheduleIsBeyond := by
    simp [Element.ScheduleIsBeyond, Element.HoldIsBeyond, Element.IsBeyond, hramp, hduration,
      hdelay, Element.readWhole?_empty]
  obtain ⟨d, hd⟩ := exists_threadGroup hin
  obtain ht | ⟨-, ⟨-, hl | hl⟩ | hl⟩ := (fits_threadGroup hd).1 (h .threadGroup _ d nofun hd)
  · exact ht hthreads
  · exact hl (Or.inl hloops)
  · exact hl.2.1 hdelay
  · exact hl.1.2.1 hduration

end

end Convert
end PlanCode
