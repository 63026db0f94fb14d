import PlanCode.Proofs.Plan.Written

/-!
# Order and nesting

When every module controller refers to something, all kept elements are written,
so that the tree of calls has the order and the nesting of the kept elements.
When no two fragments right under the root are made into one method, each of
them has its own.

* `Mirrors.of_agree`: what is taken along counts for the elements of the plan only.
* `MirrorsPlan.length_heads`: a mirrored plan has a call for each element that is taken along.
* `mirrors_of_generate`: the tree of calls of a plan mirrors its kept elements.
-/
namespace PlanCode

variable {surface : Surface}

/-! ## What is taken along -/

theorem Mirrors.of_agree {taken taken' : Element → Bool} (e : Element) :
    (∀ d ∈ e.descendants, taken d.2 = taken' d.2) → ∀ {commented : Bool} {n : Node},
      Mirrors surface taken commented e n → Mirrors surface taken' commented e n := by
  induction e using Element.children_induction with | step e ih => ?_
  intro h commented n hm
  cases hm with
  | @intro _ _ nodes _ call children =>
    have below := fun child (hc : child ∈ e.children) =>
      Element.forall_descendants (P := fun d => taken d = taken' d) h hc
    refine .intro call ?_
    rw [← List.filter_congr fun child hc => (below child hc).1]
    have hmem : ∀ child ∈ e.children.filter taken, child ∈ e.children :=
      fun child hc => List.mem_of_mem_filter hc
    exact ((List.forall₂_and_left _ _).2 ⟨hmem, children⟩).imp fun child n hc =>
      ih child hc.1 (below child hc.1).2 hc.2

/-- The same of a root. -/
theorem MirrorsPlan.of_agree {taken taken' : Bool → Element → Bool} {plan : Element}
    {root : Node} (h : ∀ d ∈ plan.descendants, ∀ top, taken top d.2 = taken' top d.2)
    (hp : MirrorsPlan surface taken plan.fragments plan root) :
    MirrorsPlan surface taken' plan.fragments plan root := by
  have below := fun child (hc : child ∈ plan.children) =>
    Element.forall_descendants (P := fun d => ∀ top, taken top d = taken' top d) h hc
  obtain ⟨⟨nodes, hcall, hn⟩, hm⟩ := hp
  refine ⟨⟨nodes, hcall, ?_⟩, ?_⟩
  · have htop : ∀ child ∈ plan.children,
        (taken true child && !child.isFragment) = (taken' true child && !child.isFragment) :=
      fun child hc => by rw [(below child hc).1 true]
    rw [← List.filter_congr htop]
    refine ((List.forall₂_and_left _ _).2 ⟨fun child hc => List.mem_of_mem_filter hc, hn⟩).imp ?_
    intro child n hc
    exact hc.2.of_agree child fun d hd => (below child hc.1).2 d hd false
  · unfold Element.fragments at hm ⊢
    rw [List.forall₂_map_left_iff] at hm ⊢
    refine ((List.forall₂_and_left _ _).2 ⟨fun f hf => List.mem_of_mem_filter hf, hm⟩).imp ?_
    intro f d hf
    exact ⟨hf.2.1, hf.2.2.of_agree f fun d hd => (below f hf.1).2 d hd false⟩

/-! ## Counting calls -/

/-- The elements that are reached are those that are without some of the first ones, and these with
what is reached below them. -/
theorem Element.length_reached {first later apart : Element → Bool} {es : List Element}
    (h : ∀ e ∈ es, apart e = true → first e = true) :
    (reached first later es).length = (reached (fun e => first e && !apart e) later es).length +
      ((es.filter apart).flatMap fun e => e :: reached later later e.children).length := by
  induction es with
  | nil => rw [reached_nil, reached_nil]; rfl
  | cons e rest ih =>
    rw [List.forall_mem_cons] at h
    rw [reached_cons, reached_cons, List.length_append, List.length_append, ih h.2,
      List.filter_cons]
    cases ha : apart e with
    | true =>
      rw [h.1 ha, if_pos rfl, if_neg (by decide), if_pos rfl, List.flatMap_cons,
        List.length_append, List.length_nil]
      omega
    | false =>
      rw [if_neg (by decide : ¬false = true), Bool.not_false, Bool.and_true]
      omega

/-- There is a call for a mirrored plan and one for each element that is taken along below it. -/
theorem MirrorsPlan.length_heads {taken : Bool → Element → Bool} {plan : Element} {root : Node}
    (hf : ∀ e ∈ plan.children, e.isFragment = true → taken true e = true)
    (h : MirrorsPlan surface taken plan.fragments plan root) :
    (root.heads ++ (root.definitions surface).flatMap (·.2.heads)).length =
      (Element.reached (taken true) (taken false) plan.children).length + 1 := by
  have hl := (heads_of_mirrorsPlan (p := fun _ => true) rfl h).length_eq
  simp only [Bool.and_true, if_pos, List.cons_append, List.length_cons, List.length_append,
    Element.fragments, List.flatMap_map] at hl
  rw [Element.length_reached hf, List.length_append]
  exact hl.symm

/-! ## Plans -/

/-- **Order and nesting.** If no two fragments right under the root become the same method and all
module controllers refer to something, the calls in a call are those of its kept children, in the
order of the plan, where the fragments right under the root are left out, and these are the methods,
in the order of the plan. There is one call for each kept element. -/
theorem mirrors_of_generate {s : Settings} {plan : Element} {c : TestClass}
    (hc : ({ settings := s } : Generator).generate plan = .ok c)
    (hf : (plan.fragments.map (·.1)).Nodup) (hm : ∀ d ∈ plan.descendants, d.2.hasCall = true) :
    ∃ converted, ({ settings := s } : Generator).convertElement .root plan = .ok converted ∧
      MirrorsPlan Surface.standard (Element.isKept s) plan.fragments plan converted.node ∧
      (converted.node.heads ++ (converted.node.definitions Surface.standard).flatMap
        (·.2.heads)).length = (plan.kept s).length + 1 := by
  obtain ⟨converted, hconv, hne⟩ := Generator.exists_of_generate hc
  obtain ⟨hp, -⟩ := Generator.mirrorsPlan_of_convertElement rfl hconv hne
  have hmethods : plan.methods = plan.fragments := Entries.putAll_of_nodup hf
  rw [hmethods] at hp
  have hkept : MirrorsPlan Surface.standard (Element.isKept s) plan.fragments plan
      converted.node := by
    refine hp.of_agree fun d hd top => ?_
    unfold Element.isWritten
    rw [hm d hd, Bool.and_true]
  refine ⟨converted, hconv, hkept, hkept.length_heads fun f _ hfragment => ?_⟩
  rw [Element.isKept, Element.isKnown_of_isKindOf hfragment, hfragment]
  simp

/-- A sampler of the name given. -/
def namedSampler (name : String) : Element where
  kind := "HTTPSamplerProxy"
  name := name
  properties := [("HTTPSampler.path", .text "/")]

/-- Two fragments around a group with a ramp-up, in which a module controller stands before a
disabled transaction. -/
def nestingPlan : Element where
  kind := "TestPlan"
  children := [
    { kind := "TestFragmentController", name := "Log in", children := [namedSampler "form"] },
    { kind := "ThreadGroup", name := "users",
      properties := [("ThreadGroup.num_threads", .text "5"),
        ("ThreadGroup.ramp_time", .text "10")],
      children := [
        { kind := "ModuleController",
          properties := [("ModuleController.node_path",
            .list [.text "Test Plan", .text "Log in"])] },
        { kind := "TransactionController", name := "buy", enabled := false,
          children := [namedSampler "basket", namedSampler "order"] }] },
    { kind := "TestFragmentController", name := "Log out" }]

theorem mirrors_of_generate_nestingPlan : ∃ converted,
    ({} : Generator).convertElement .root nestingPlan = .ok converted ∧
      MirrorsPlan Surface.standard (Element.isKept {}) nestingPlan.fragments nestingPlan
        converted.node ∧
      (converted.node.heads ++ (converted.node.definitions Surface.standard).flatMap
        (·.2.heads)).length = 9 := by
  have ok : (({} : Generator).generate nestingPlan).toOption.isSome = true := by decide +kernel
  have kept : (nestingPlan.kept {}).length = 8 := by decide +kernel
  cases hc : ({} : Generator).generate nestingPlan with
  | error e => rw [hc] at ok; cases ok
  | ok c =>
    obtain ⟨converted, hconv, hm, hl⟩ :=
      mirrors_of_generate hc (by decide +kernel) (by decide +kernel)
    rw [kept] at hl
    exact ⟨converted, hconv, hm, hl⟩

end PlanCode
