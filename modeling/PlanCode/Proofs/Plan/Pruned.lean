import PlanCode.Proofs.Convert.OwnData
import PlanCode.Proofs.Plan.Conversion

/-!
# Skipping and pruning

An element that is skipped leaves no trace in the class but a warning: the plan
without it gives the same class. So does a disabled element that is dropped, and
it gives no warning, nor does what is below it.

* `Converted.silent`: a conversion without its warnings.
* `convertElement_pruned`: pruning below an element changes its warnings only.
* `generate_pruned`: the class of a plan is the one of the pruned plan.
-/
namespace PlanCode

namespace Element

variable (s : Settings) (root : Bool) (e : Element)

@[simp] theorem prunedAt_kind : (e.prunedAt s root).kind = e.kind := by
  cases e; rw [prunedAt]

@[simp] theorem prunedAt_name : (e.prunedAt s root).name = e.name := by
  cases e; rw [prunedAt]

@[simp] theorem prunedAt_gui : (e.prunedAt s root).gui = e.gui := by
  cases e; rw [prunedAt]

@[simp] theorem prunedAt_enabled : (e.prunedAt s root).enabled = e.enabled := by
  cases e; rw [prunedAt]

@[simp] theorem prunedAt_properties : (e.prunedAt s root).properties = e.properties := by
  cases e; rw [prunedAt]

@[simp] theorem prunedAt_children :
    (e.prunedAt s root).children = keptChildren s root e.children := by
  cases e; rw [prunedAt]

theorem isKindOf_prunedAt (k : ElementKind) : k.isKindOf (e.prunedAt s root) = k.isKindOf e := by
  unfold ElementKind.isKindOf
  rw [prunedAt_kind, prunedAt_gui]

/-- The elements among some children and below them that no kind matches and that only have kept
ones above them. -/
def unknownOf (s : Settings) (top : Bool) (es : List Element) : List Element :=
  select (fun above e => allOn (isKept s top) (isKept s false) above && !e.isKnown)
    (descendantsOf es)

theorem unknown_eq (plan : Element) : plan.unknown s = unknownOf s true plan.children := by
  unfold unknown unknownOf
  rw [descendants_eq]

@[simp] theorem unknownOf_nil (top : Bool) : unknownOf s top [] = [] := by
  unfold unknownOf
  rw [descendantsOf]
  rfl

/-- The unknown ones of some children: the first one, if it is, else those below it, if it is kept,
and then those of the others. -/
theorem unknownOf_cons (top : Bool) (rest : List Element) : unknownOf s top (e :: rest) =
    (if e.isKnown then [] else [e]) ++
      (if e.isKept s top then unknownOf s false e.children else []) ++ unknownOf s top rest := by
  unfold unknownOf
  rw [select_cons]
  cases e.isKnown <;> cases ht : e.isKept s top <;> simp [allOn, ht, select_false]

end Element

/-- A conversion without its warnings. -/
def Converted.silent (c : Converted) : Converted := { c with warnings := [] }

namespace Generator

variable {g : Generator}

theorem attach_silent (call : Option (Draft Node)) (c : Converted) :
    g.attach call c.silent = g.attach call c := rfl

/-- A call does not see an element without code. -/
theorem attach_nothing {c : Converted} (hn : c.node = .empty) (hm : c.method = none)
    (call : Option (Draft Node)) : g.attach call c = .ok call := by
  unfold attach
  cases call with
  | none => rfl
  | some d =>
    rw [hm, hn]
    rfl

variable (hall : g.kinds = ElementKind.all)

include hall

/-- Whether pruning below an element changes no more than its warnings, which are about the unknown
elements below it. -/
def Prunes (g : Generator) (p : Place) (e : Element) : Prop :=
  ∀ c, e.isKept g.settings p.keepsFragments = true → g.convertElement p e = .ok c →
    g.convertElement p (e.prunedAt g.settings false) = .ok c.silent ∧
      c.warnings = (Element.unknownOf g.settings false e.children).map skipped

/-- The kept ones of some children come to what all of them come to, apart from the warnings. -/
theorem convertedAll_keptChildren {q : Place} {es : List Element} {cs : List Converted}
    (ih : ∀ e ∈ es, g.Prunes q e) (h : g.ConvertedAll q es cs) :
    ∃ kept, g.ConvertedAll q (Element.keptChildren g.settings q.keepsFragments es) kept ∧
      (∀ call, kept.foldlM g.attach call = cs.foldlM g.attach call) ∧
      kept.flatMap (·.warnings) = [] ∧
      Converted.total kept = Converted.total cs ∧
      cs.flatMap (·.warnings) =
        (Element.unknownOf g.settings q.keepsFragments es).map skipped := by
  induction h with
  | nil =>
    refine ⟨[], ?_, fun _ => rfl, rfl, rfl, by simp⟩
    rw [Element.keptChildren]
    exact .nil
  | @cons e c es cs hc hcs hrest =>
    obtain ⟨kept, hkept, hattach, hwarnings, hcount, hunknown⟩ :=
      hrest fun e he => ih e (List.mem_cons_of_mem _ he)
    rw [Element.keptChildren, Element.unknownOf_cons]
    cases hk : e.isKept g.settings q.keepsFragments with
    | false =>
      obtain rfl := convertElement_of_not_kept hall hk hc
      refine ⟨kept, by simpa using hkept, fun call => ?_, hwarnings,
        hcount.trans (Nat.zero_add _).symm, ?_⟩
      · rw [List.foldlM_cons, attach_nothing rfl rfl]
        exact hattach call
      · rw [List.flatMap_cons, hunknown]
        cases e.isKnown <;> simp
    | true =>
      obtain ⟨hpruned, hw⟩ := ih e (List.mem_cons_self ..) c hk hc
      have hknown : e.isKnown = true := by
        unfold Element.isKept at hk
        exact (Bool.and_eq_true_iff.1 hk).1
      refine ⟨c.silent :: kept, .cons hpruned hkept, fun call => ?_, ?_, ?_, ?_⟩
      · rw [List.foldlM_cons, List.foldlM_cons, attach_silent]
        exact congrArg _ (funext hattach)
      · rw [List.flatMap_cons, hwarnings]
        rfl
      · rw [Converted.total_cons, Converted.total_cons, hcount]
        rfl
      · rw [List.flatMap_cons, hunknown, hw, hknown]
        simp

/-- Pruning below an element that is converted changes no more than its warnings when this holds of
its children. -/
theorem convertElement_prunedAt {p : Place} {e : Element} {k : ElementKind}
    {call grown : Option (Draft Node)} {cs : List Converted}
    (hk : k.isKindOf e = true) (hc : k.convert g.surface e = .ok call)
    (ho : isOff p k e = true → g.settings.commentDisabled = true)
    (hcs : g.ConvertedAll (p.below call.isSome) e.children cs)
    (hg : cs.foldlM g.attach (ownCall p k e call) = .ok grown)
    (ih : ∀ child ∈ e.children, g.Prunes (p.below call.isSome) child) :
    g.convertElement p (e.prunedAt g.settings (p.below call.isSome).keepsFragments) = .ok {
        node := (grown.map (·.toNode)).getD .empty
        method := methodFor p k e
        count := Converted.total cs + 1 } ∧
      cs.flatMap (·.warnings) = (Element.unknownOf g.settings
        (p.below call.isSome).keepsFragments e.children).map skipped := by
  obtain ⟨kept, hkept, hattach, hwarnings, hcount, hunknown⟩ :=
    convertedAll_keptChildren hall ih hcs
  refine ⟨?_, hunknown⟩
  generalize (p.below call.isSome).keepsFragments = root at hkept ⊢
  have hmethod : methodFor p k (e.prunedAt g.settings root) = methodFor p k e := by
    unfold methodFor
    rw [Element.prunedAt_name]
  have hoff : isOff p k (e.prunedAt g.settings root) = isOff p k e := by
    unfold isOff
    rw [hmethod, Element.prunedAt_enabled]
  have hown : ownCall p k (e.prunedAt g.settings root) call = ownCall p k e call := by
    unfold ownCall
    rw [hoff]
  have hkind : g.kinds.find? (·.isKindOf (e.prunedAt g.settings root)) = some k := by
    rw [hall, ElementKind.find?_all_eq_some, Element.isKindOf_prunedAt]
    exact hk
  have hconv : k.convert g.surface (e.prunedAt g.settings root) = .ok call := by
    rw [← hc]
    exact ElementKind.convert_eq (by simp) (by simp) k
  rw [← Element.prunedAt_children] at hkept
  rw [← hown, ← hattach] at hg
  rw [← hoff] at ho
  rw [← hmethod, ← hcount, ← hwarnings]
  exact convertElement_eq_ok.2 (.converted hkind hconv ho hkept hg)

/-- Pruning below an element under the root changes no more than its warnings. -/
theorem prunes (e : Element) : ∀ p ≠ .root, g.Prunes p e := by
  induction e using Element.children_induction with | step e ih => ?_
  intro p hp c hk hc
  obtain ⟨k, call, grown, cs, hu, hconv, ho, hcs, hg, rfl⟩ := exists_of_kept hall hk hc
  have hbelow := Place.below_eq_inner hp call.isSome
  have h := convertElement_prunedAt hall hu hconv ho hcs hg fun child hm => ih child hm _ (by
    rw [hbelow]
    decide)
  rw [hbelow] at h
  exact h

/-- Pruning a plan that has a call changes no more than its warnings. -/
theorem convertElement_pruned {plan : Element} {c : Converted}
    (hc : g.convertElement .root plan = .ok c) (hn : c.node.isEmpty = false) :
    g.convertElement .root (plan.pruned g.settings) = .ok c.silent ∧
      c.warnings = (plan.unknown g.settings).map skipped := by
  rw [Element.unknown_eq]
  cases convertElement_eq_ok.1 hc with
  | unknown => cases hn
  | dropped => cases hn
  | @converted k call grown cs hu hconv ho hcs hg =>
    rw [hall, ElementKind.find?_all_eq_some] at hu
    have hcall := isSome_call hg hn
    have h := convertElement_prunedAt hall hu hconv ho hcs hg fun child _ =>
      prunes hall child _ (by rw [hcall]; decide)
    rw [hcall] at h
    exact h

end Generator

/-- **Skipping is pruning.** The class of a plan is that of the plan without its unknown and dropped
elements. The warnings are about the unknown ones that no unknown or dropped one is above. -/
theorem generate_pruned {s : Settings} {surface : Surface} {plan : Element} {c : TestClass}
    (hc : ({ settings := s, surface } : Generator).generate plan = .ok c) :
    ({ settings := s, surface } : Generator).generate (plan.pruned s) =
        .ok { c with warnings := [] } ∧
      c.warnings = (plan.unknown s).map Generator.skipped := by
  obtain ⟨converted, hconv, hn⟩ := Generator.exists_of_generate hc
  obtain ⟨hpruned, hw⟩ := Generator.convertElement_pruned rfl hconv hn
  obtain ⟨converted', hconv', h⟩ := bind_eq_ok.1 hc
  obtain rfl := Except.ok.inj (hconv.symm.trans hconv')
  extract_lets finish at h
  rw [if_neg (by rw [hn]; decide)] at h
  cases h
  refine ⟨bind_eq_ok.2 ⟨_, hpruned, ?_⟩, hw⟩
  extract_lets
  rw [if_neg (by rw [Converted.silent, hn]; decide)]
  rfl

/-- A plan with an element of no kind beside a disabled transaction, which has another one below
it, and a disabled fragment. -/
def untidyPlan : Element where
  kind := "TestPlan"
  children := [
    { kind := "TestFragmentController", name := "Login", enabled := false,
      children := [{ kind := "LoopController", name := "twice" }] },
    { kind := "ThreadGroup", name := "users",
      children := [
        { kind := "JSR223Sampler", gui := "TestBeanGUI", name := "script" },
        { kind := "TransactionController", name := "buy", enabled := false,
          children := [{ kind := "IfController", name := "cheap" }] }] }]

theorem generate_pruned_untidyPlan : ∃ c,
    ({ settings := { commentDisabled := false } } : Generator).generate untidyPlan = .ok c ∧
      ({ settings := { commentDisabled := false } } : Generator).generate
        (untidyPlan.pruned { commentDisabled := false }) = .ok { c with warnings := [] } ∧
      c.warnings = ["Unsupported element 'twice' (LoopController) was skipped",
        "Unsupported element 'script' (JSR223Sampler/TestBeanGUI) was skipped"] := by
  have ok : (({ settings := { commentDisabled := false } } : Generator).generate
      untidyPlan).toOption.isSome = true := by decide +kernel
  have unknown : (untidyPlan.unknown { commentDisabled := false }).map Generator.skipped =
      ["Unsupported element 'twice' (LoopController) was skipped",
        "Unsupported element 'script' (JSR223Sampler/TestBeanGUI) was skipped"] := by
    decide +kernel
  cases hc : ({ settings := { commentDisabled := false } } : Generator).generate untidyPlan with
  | error e => rw [hc] at ok; cases ok
  | ok c =>
    obtain ⟨hp, hw⟩ := generate_pruned hc
    exact ⟨c, rfl, hp, hw.trans unknown⟩

end PlanCode
