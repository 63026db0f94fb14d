import PlanCode.Failure
import PlanCode.Proofs.Convert.Outcome
import PlanCode.Proofs.Plan.Written

/-!
# Which plans can be converted

Whether a plan can be converted can be told from the plan and the settings
alone. The conversion comes to the root and to the children of each kept element
that it comes to. It fails when an element that it comes to has an unclear flag,
when the call of a kept element would have to take a child and cannot, and when
there is no call for the root.

* `isFaulty_iff`: the faults from an element on are its own and those from its children on.
* `ends_attach_child`, `ends_convertChildren`: one child, and all children of an element.
* `ends_convertElement`: conversions fail exactly at faults.
* `error_iff_unconvertible`: which plans can be converted.
-/
namespace PlanCode

/-! ## Faults of a plan -/

/-- The conversion of an element at a place comes to an element at a place. -/
inductive Visits (s : Settings) (p : Place) (e : Element) : Place → Element → Prop where
  | self : Visits s p e p e
  | child {q : Place} {d child : Element} (h : Visits s p e q d)
    (hk : d.isKept s q.keepsFragments = true) (hc : child ∈ d.children) :
    Visits s p e (q.below true) child

namespace Element

/-- Whether an element is given to the call that it is right below of: it is written, and it becomes
no method. -/
def isGiven (s : Settings) (top : Bool) (e : Element) : Bool :=
  e.isWritten s top && !(top && e.isFragment)

/-- What is wrong with an element that the conversion comes to: a flag of it is unclear, or it is
kept and has a child to take and no method for it. -/
def IsFault (s : Settings) (p : Place) (e : Element) : Prop :=
  ∃ k : ElementKind, k.isKindOf e = true ∧
    ((∃ key ∈ k.flagKeys, e.isUnclear key = true) ∨
      e.isKept s p.keepsFragments = true ∧ k.takesChildren = false ∧
        ∃ child ∈ e.children, child.isGiven s (p.below true).keepsFragments = true)

/-- The conversion of an element comes to a fault. -/
def IsFaulty (s : Settings) (p : Place) (e : Element) : Prop :=
  ∃ q d, Visits s p e q d ∧ IsFault s q d

/-- A plan cannot be converted: its root is not kept or has no call, or there is a fault. -/
def Unconvertible (s : Settings) (plan : Element) : Prop :=
  plan.isWritten s false = false ∨ IsFaulty s .root plan

variable {s : Settings} {p q : Place} {e d : Element}

theorem visits_of_child {child : Element} (hk : e.isKept s p.keepsFragments = true)
    (hc : child ∈ e.children) (h : Visits s (p.below true) child q d) : Visits s p e q d := by
  induction h with
  | self => exact .child .self hk hc
  | child _ hk' hc' ih => exact .child ih hk' hc'

theorem visits_cases (h : Visits s p e q d) : (q = p ∧ d = e) ∨
    e.isKept s p.keepsFragments = true ∧
      ∃ child ∈ e.children, Visits s (p.below true) child q d := by
  induction h with
  | self => exact Or.inl ⟨rfl, rfl⟩
  | @child q d child _ hk hc ih =>
    obtain ⟨rfl, rfl⟩ | ⟨he, first, hf, hv⟩ := ih
    · exact Or.inr ⟨hk, child, hc, .self⟩
    · exact Or.inr ⟨he, first, hf, .child hv hk hc⟩

/-- A child that leads to a fault, or that the call of its parent cannot take. -/
def Spoils (s : Settings) (p : Place) (k : ElementKind) (child : Element) : Prop :=
  IsFaulty s p child ∨ k.takesChildren = false ∧ child.isGiven s p.keepsFragments = true

/-- The faults from an element on are its own and, when it is kept, those from its children on. -/
theorem isFaulty_iff {k : ElementKind} (hk : k.isKindOf e = true) : IsFaulty s p e ↔
    (∃ key ∈ k.flagKeys, e.isUnclear key = true) ∨ e.isKept s p.keepsFragments = true ∧
      ∃ child ∈ e.children, Spoils s (p.below true) k child := by
  constructor
  · rintro ⟨q, d, hv, hf⟩
    obtain ⟨rfl, rfl⟩ | ⟨he, child, hc, hv⟩ := visits_cases hv
    · obtain ⟨k', hk', hf⟩ := hf
      obtain rfl := ElementKind.eq_of_isKindOf hk hk'
      obtain hf | ⟨he, ht, child, hc, hg⟩ := hf
      · exact Or.inl hf
      · exact Or.inr ⟨he, child, hc, Or.inr ⟨ht, hg⟩⟩
    · exact Or.inr ⟨he, child, hc, Or.inl ⟨q, d, hv, hf⟩⟩
  · rintro (hf | ⟨he, child, hc, ⟨q, d, hv, hf⟩ | ⟨ht, hg⟩⟩)
    · exact ⟨p, e, .self, k, hk, Or.inl hf⟩
    · exact ⟨q, d, visits_of_child he hc hv, hf⟩
    · exact ⟨p, e, .self, k, hk, Or.inr ⟨he, ht, child, hc, hg⟩⟩

theorem not_isFaulty_of_unknown (hk : e.isKnown = false) : ¬ IsFaulty s p e := by
  have hnot : ∀ k : ElementKind, k.isKindOf e ≠ true := fun k h => by
    rw [isKnown_of_isKindOf h] at hk
    cases hk
  rintro ⟨q, d, hv, k, hd, -⟩
  obtain ⟨rfl, rfl⟩ | ⟨he, -⟩ := visits_cases hv
  · exact hnot k hd
  · rw [isKept, hk] at he
    cases he

end Element

/-! ## How conversions end -/

/-- A conversion fails for a reason that is told, and only if something is at fault. -/
def Refusal (fault : Prop) (e : ConversionError) : Prop :=
  e = .durationOverflow ∨ (Failure.conversion e).isExpected = true ∧ fault

theorem Refusal.imp {a b : Prop} (h : a → b) {e : ConversionError} : Refusal a e → Refusal b e :=
  Or.imp id (And.imp id h)

namespace Generator

open Element

variable {g : Generator} {p q : Place} {k : ElementKind}

/-- A child that is converted is given to the call above it exactly when it is written and becomes
no method. -/
theorem isGiven_eq (hall : g.kinds = ElementKind.all) (hq : q ≠ .root) {e : Element} {c : Converted}
    (hc : g.convertElement q e = .ok c) :
    (c.method.isNone && !c.node.isEmpty) = e.isGiven g.settings q.keepsFragments := by
  have hs := shows_of_convertElement hall e q hq c hc
  unfold Shows at hs
  unfold isGiven
  split at hs
  · rename_i hw
    rw [hw, hs.1, hs.2.isEmpty_eq_false]
    cases q.keepsFragments && e.isFragment <;> rfl
  · rename_i hw
    rw [Bool.eq_false_iff.2 hw, hs.1]
    simp [Node.isEmpty]

/-- Giving a child to a call fails exactly when it has to take the child and cannot. -/
theorem ends_attach (hs : g.surface = Surface.standard) {d : Draft Node} (hd : Convert.Takes k d)
    (c : Converted) :
    Ends (g.attach (some d) c)
      (fun call => (∃ d', call = some d' ∧ Convert.Takes k d') ∧
        ¬(k.takesChildren = false ∧ (c.method.isNone && !c.node.isEmpty) = true))
      (Refusal (k.takesChildren = false ∧ (c.method.isNone && !c.node.isEmpty) = true)) := by
  unfold attach
  dsimp only
  rw [hs]
  cases hm : c.method with
  | some name => exact .ok ⟨⟨_, rfl, hd.target, hd.closed⟩, by simp⟩
  | none =>
    dsimp only
    cases he : c.node.isEmpty with
    | true => exact .ok ⟨⟨_, rfl, hd⟩, by simp⟩
    | false =>
      rw [if_neg (by decide)]
      refine ends_map (ends_mapError (Convert.ends_addChild hd c.node) ?_) ?_
      · rintro _ ⟨⟨type, rfl⟩, hk⟩
        exact Or.inr ⟨rfl, hk, rfl⟩
      · rintro d' ⟨hd', hk⟩
        exact ⟨⟨d', rfl, hd'⟩, by simp [hk]⟩

/-- What children are given to: a call of a kind, or nothing at all, which refuses no child. -/
structure Receives (k : ElementKind) (call : Option (Draft Node)) : Prop where
  takes : ∀ d ∈ call, Convert.Takes k d
  free : call = none → k.takesChildren = true

/-- The call of an element before it has children. -/
theorem receives_ownCall (hs : g.surface = Surface.standard) {p : Place} {e : Element}
    {call : Option (Draft Node)} (hc : k.convert g.surface e = .ok call) :
    Receives k (ownCall p k e call) := by
  have hsome := ElementKind.yields_isSome call hc
  rw [hs] at hc
  have htakes := Convert.yields_takes k e call hc
  constructor
  case takes =>
    intro d hd
    unfold ownCall at hd
    split at hd
    · obtain ⟨d', hd', rfl⟩ := Option.map_eq_some_iff.1 hd
      exact ⟨(htakes d' hd').target, (htakes d' hd').closed⟩
    · exact htakes d hd
  case free =>
    intro hn
    rw [← isSome_ownCall p k e, hn] at hsome
    by_cases hk : k = .moduleController
    · rw [hk]; rfl
    · simp [hk] at hsome

/-- An element at any place but a root without a call. -/
def IsSettled (p : Place) (e : Element) : Prop := p ≠ .root ∨ e.hasCall = true

theorem below_of_isSettled {p : Place} {e : Element} (hk : k.isKindOf e = true)
    {call : Option (Draft Node)} (hc : k.convert g.surface e = .ok call) (h : IsSettled p e) :
    p.below call.isSome = p.below true := by
  rcases h with hp | h
  · rw [Place.below_eq_inner hp, Place.below_eq_inner hp]
  · rw [← hasCall_eq hk hc, h]

variable (hall : g.kinds = ElementKind.all) (hs : g.surface = Surface.standard)

include hall hs

/-- A child that leads to no fault is given to the call above it unless it spoils its parent. -/
theorem ends_attach_child (hq : q ≠ .root) {e : Element} {c : Converted}
    (hc : g.convertElement q e = .ok c) (hclear : ¬ IsFaulty g.settings q e)
    {call : Option (Draft Node)} (hcall : Receives k call) :
    Ends (g.attach call c) (fun call => Receives k call ∧ ¬ Spoils g.settings q k e)
      (Refusal (Spoils g.settings q k e)) := by
  cases call with
  | none => exact .ok ⟨hcall, by simp [Spoils, hclear, hcall.free rfl]⟩
  | some d =>
    have ha := ends_attach hs (hcall.takes d rfl) c
    rw [isGiven_eq hall hq hc] at ha
    refine ha.imp ?_ fun _ => Refusal.imp Or.inr
    rintro _ ⟨⟨d', rfl, hd'⟩, hn⟩
    exact ⟨⟨by simpa using hd', by simp⟩, fun h => h.elim hclear hn⟩

/-- **Children.** If each child is converted exactly when it leads to no fault, all are converted
and taken exactly when no child leads to a fault and none is given to a call that cannot take it. -/
theorem ends_convertChildren (hq : q ≠ .root) {es : List Element}
    (ih : ∀ child ∈ es, Ends (g.convertElement q child) (fun _ => ¬ IsFaulty g.settings q child)
      (Refusal (IsFaulty g.settings q child))) {call : Option (Draft Node)}
    (hcall : Receives k call) :
    Ends (g.convertChildren q call es) (fun _ => ¬ ∃ child ∈ es, Spoils g.settings q k child)
      (Refusal (∃ child ∈ es, Spoils g.settings q k child)) := by
  induction es generalizing call with
  | nil =>
    rw [convertChildren]
    exact .ok (by simp)
  | cons e rest ihes =>
    rw [List.forall_mem_cons] at ih
    rw [convertChildren]
    simp only [List.exists_mem_cons_iff, not_or]
    refine ends_bind (ih.1.eq_ok.imp_error fun _ => Refusal.imp fun hf => Or.inl (Or.inl hf)) ?_
    rintro c ⟨hc, hclear⟩
    refine ends_bind ((ends_attach_child hall hs hq hc hclear hcall).imp_error
      fun _ => Refusal.imp Or.inl) ?_
    rintro call ⟨hcall, he⟩
    refine ends_bind ((ihes ih.2 hcall).imp_error fun _ => Refusal.imp Or.inr) ?_
    exact fun _ hrest => .ok ⟨he, hrest⟩

/-- The children of a kept element are converted and taken exactly when it comes to no fault. -/
theorem ends_below {p : Place} {e : Element}
    (ih : ∀ child ∈ e.children, ∀ p, Ends (g.convertElement p child)
      (fun _ => IsSettled p child → ¬ IsFaulty g.settings p child)
      (Refusal (IsSettled p child → IsFaulty g.settings p child)))
    (hk : k.isKindOf e = true) {call : Option (Draft Node)}
    (hc : k.convert g.surface e = .ok call) (hclear : Convert.IsClear k e)
    (hkept : e.isKept g.settings p.keepsFragments = true) :
    Ends (g.convertChildren (p.below (ownCall p k e call).isSome) (ownCall p k e call) e.children)
      (fun _ => IsSettled p e → ¬ IsFaulty g.settings p e)
      (Refusal (IsSettled p e → IsFaulty g.settings p e)) := by
  have hq : p.below (ownCall p k e call).isSome ≠ .root := by cases p <;> simp [Place.below]
  have hflags : ¬ ∃ key ∈ k.flagKeys, e.isUnclear key = true := by
    simpa [Convert.IsClear] using hclear
  have hfaulty : IsSettled p e → (IsFaulty g.settings p e ↔ ∃ child ∈ e.children,
      Spoils g.settings (p.below (ownCall p k e call).isSome) k child) := by
    intro hsettled
    rw [isSome_ownCall, below_of_isSettled hk hc hsettled, isFaulty_iff hk, or_iff_right hflags,
      and_iff_right hkept]
  refine (ends_convertChildren hall hs hq (fun child hm => ?_) (receives_ownCall hs hc)).imp
    (fun _ hn hsettled => mt (hfaulty hsettled).1 hn)
    fun _ => Refusal.imp fun h hsettled => (hfaulty hsettled).2 h
  exact (ih child hm _).imp (fun _ h => h (Or.inl hq)) fun _ => Refusal.imp fun h => h (Or.inl hq)

/-- **Elements.** The conversion of an element fails exactly when it comes to a fault. -/
theorem ends_convertElement (e : Element) : ∀ p, Ends (g.convertElement p e)
    (fun _ => IsSettled p e → ¬ IsFaulty g.settings p e)
    (Refusal (IsSettled p e → IsFaulty g.settings p e)) := by
  induction e using children_induction with | step e ih => ?_
  intro p
  cases hk : g.kinds.find? (·.isKindOf e) with
  | none =>
    rw [convertElement_unknown p hk]
    rw [hall] at hk
    exact .ok fun _ => not_isFaulty_of_unknown (isKnown_eq_false.2 hk)
  | some k =>
    rw [convertElement_eq hk]
    rw [hall, ElementKind.find?_all_eq_some] at hk
    have hconvert := (Convert.ends_convert k e).eq_ok
    rw [← hs] at hconvert
    refine ends_bind (hconvert.imp_error ?_) ?_
    · rintro error (⟨rfl, -⟩ | ⟨⟨m, rfl⟩, hf⟩)
      · exact Or.inl rfl
      · exact Or.inr ⟨rfl, fun _ => (isFaulty_iff hk).2 (Or.inl hf)⟩
    rintro call ⟨hconv, hclear, -⟩
    have hkept := isKept_eq (s := g.settings) (p := p) hk
    split
    · -- A dropped element leads nowhere, and its flags are clear.
      rename_i ho
      rw [Bool.and_eq_true, Bool.not_eq_true'] at ho
      rw [ho.1, ho.2] at hkept
      refine .ok fun _ hf => ?_
      obtain ⟨key, hkey, hu⟩ | ⟨he, -⟩ := (isFaulty_iff hk).1 hf
      · rw [hclear key hkey] at hu
        cases hu
      · rw [hkept] at he
        cases he
    · rename_i ho
      have hkept : e.isKept g.settings p.keepsFragments = true := by
        cases hoff : isOff p k e with
        | false => rw [hkept, hoff]; rfl
        | true =>
          have hc : g.settings.commentDisabled = true := by simpa [hoff] using ho
          rw [hkept, hc, Bool.or_true]
      exact ends_bind (ends_below hall hs ih hk hconv hclear hkept) fun _ h => .ok h

omit hs in
/-- An element has a node exactly when it is written. -/
theorem isEmpty_of_convertElement {p : Place} {e : Element} {c : Converted}
    (hc : g.convertElement p e = .ok c) :
    c.node.isEmpty = !e.isWritten g.settings p.keepsFragments := by
  unfold Element.isWritten
  cases hkept : e.isKept g.settings p.keepsFragments with
  | false =>
    rw [convertElement_of_not_kept hall hkept hc]
    rfl
  | true =>
    obtain ⟨k, call, grown, cs, hk, hconv, -, -, hg, rfl⟩ := exists_of_kept hall hkept hc
    rw [hasCall_eq hk hconv]
    cases call with
    | none =>
      rw [ownCall_none, foldlM_attach_none] at hg
      obtain rfl := Except.ok.inj hg
      rfl
    | some d =>
      obtain ⟨d', rfl, -⟩ := isCallOf_of_foldlM hk hconv hg
      rfl

/-- Generating the class of a plan fails exactly for the plans that cannot be converted. -/
theorem ends_generate (plan : Element) : Ends (g.generate plan)
    (fun _ => ¬ Unconvertible g.settings plan) (Refusal (Unconvertible g.settings plan)) := by
  rw [generate_eq]
  unfold Unconvertible
  -- Without a call the root is no place to tell faults from, but then it is one itself.
  have settled : plan.isWritten g.settings false = true → IsSettled .root plan :=
    fun hw => Or.inr (Bool.and_eq_true_iff.1 hw).2
  refine ends_bind ((ends_convertElement hall hs plan .root).eq_ok.imp_error
    fun _ => Refusal.imp fun h => ?_) ?_
  · cases hw : plan.isWritten g.settings false with
    | false => exact Or.inl rfl
    | true => exact Or.inr (h (settled hw))
  · rintro converted ⟨hc, hclear⟩
    have hempty : converted.node.isEmpty = !plan.isWritten g.settings false :=
      isEmpty_of_convertElement hall hc
    split
    · rename_i he
      rw [hempty, Bool.not_eq_true'] at he
      exact .error (Or.inr ⟨rfl, Or.inl he⟩)
    · rename_i he
      have hw : plan.isWritten g.settings false = true := by simpa [hempty] using he
      refine .ok ?_
      rintro (hf | hf)
      · rw [hw] at hf
        cases hf
      · exact hclear (settled hw) hf

end Generator

/-- **Convertible plans.** Unless a time leaves the range of durations, a class is generated for a
plan that can be converted, and for any other plan a failure is reported. -/
theorem error_iff_unconvertible {s : Settings} {plan : Element}
    (ho : ({ settings := s } : Generator).generate plan ≠ .error .durationOverflow) :
    ((∃ e, ({ settings := s } : Generator).generate plan = .error e ∧
        (Failure.conversion e).isExpected = true) ↔ plan.Unconvertible s) ∧
      ((∃ c, ({ settings := s } : Generator).generate plan = .ok c) ↔ ¬ plan.Unconvertible s) := by
  have h := Generator.ends_generate (g := { settings := s }) rfl rfl plan
  cases hg : ({ settings := s } : Generator).generate plan with
  | ok c =>
    rw [hg] at h
    obtain hc | _ := h
    exact ⟨⟨by simp, fun hu => absurd hu hc⟩, ⟨fun _ => hc, fun _ => ⟨c, rfl⟩⟩⟩
  | error e =>
    rw [hg] at h ho
    obtain _ | hf := h
    obtain ⟨he, hu⟩ := hf.resolve_left fun h => ho (by rw [h])
    exact ⟨⟨fun _ => hu, fun _ => ⟨e, rfl, he⟩⟩, ⟨by simp, fun hn => absurd hu hn⟩⟩

/-- A header manager around a timer, which its call cannot take. -/
def timedHeaders : Element where
  kind := "HeaderManager"
  children := [{ kind := "ConstantTimer", properties := [("ConstantTimer.delay", .text "300")] }]

/-- A thread group with the header manager. -/
def timedGroup : Element where
  kind := "ThreadGroup"
  properties := [("ThreadGroup.num_threads", .text "5")]
  children := [timedHeaders]

/-- A plan of the thread group. -/
def timedPlan : Element where
  kind := "TestPlan"
  properties := [("TestPlan.serialize_threadgroups", .text " True ")]
  children := [timedGroup]

theorem error_iff_unconvertible_timedPlan : ∃ e,
    ({} : Generator).generate timedPlan = .error e ∧
      (Failure.conversion e).isExpected = true := by
  have ho : ({} : Generator).generate timedPlan =
      .error (.call (.noChildrenMethod "HttpHeaders")) := by decide +kernel
  have hgroup : Visits {} .root timedPlan (.top true) timedGroup :=
    .child .self (by decide +kernel) (List.mem_singleton_self _)
  have hheaders : Visits {} .root timedPlan .inner timedHeaders :=
    .child hgroup (by decide +kernel) (List.mem_singleton_self _)
  refine (error_iff_unconvertible (by rw [ho]; decide)).1.2
    (Or.inr ⟨.inner, timedHeaders, hheaders, .httpHeaders, by decide +kernel, Or.inr ?_⟩)
  exact ⟨by decide +kernel, rfl, _, List.mem_singleton_self _, by decide +kernel⟩

end PlanCode
