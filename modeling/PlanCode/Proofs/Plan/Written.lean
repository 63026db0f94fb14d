import PlanCode.Proofs.Plan.Tree

/-!
# The written elements of a plan

An element of a plan is written when it is kept and has a call. The tree of calls
that a plan is converted to mirrors its written elements.

* `isWritten_of_isFragment`: fragments right under the root are always written.
* `foldlM_attach`: children come behind each other in one place of a call, or among its methods.
* `shows_of_convertElement`: a written element is mirrored, and any other comes to nothing.
* `mirrorsPlan_of_convertElement`: every plan that has a call is mirrored.
-/
namespace PlanCode

namespace Element

/-- Whether an element has a call if it is converted; a module controller that refers to nothing
has none. -/
def hasCall (e : Element) : Bool :=
  !ElementKind.moduleController.isKindOf e || (Convert.referredName? e).isSome

/-- Whether an element right below a call is written. -/
def isWritten (s : Settings) (top : Bool) (e : Element) : Bool := e.isKept s top && e.hasCall

theorem hasCall_eq {surface : Surface} {k : ElementKind} {e : Element} {call : Option (Draft Node)}
    (hk : k.isKindOf e = true) (hc : k.convert surface e = .ok call) :
    e.hasCall = call.isSome := by
  rw [ElementKind.yields_isSome _ hc, hasCall, ElementKind.isKindOf_eq hk]
  rfl

/-- Fragments right under the root are always written. -/
theorem isWritten_of_isFragment {s : Settings} {e : Element} (h : e.isFragment = true) :
    e.isWritten s true = true := by
  unfold isWritten isKept hasCall
  rw [isKnown_of_isKindOf h, ElementKind.isKindOf_eq h, h]
  simp

end Element

/-! ## Giving children to a call -/

namespace Generator

variable {g : Generator}

/-- The nodes that become children of the parent's call. -/
def childNodes (cs : List Converted) : List Node :=
  (cs.filter fun c => c.method.isNone && !c.node.isEmpty).map (·.node)

/-- The methods that are registered on the parent's call. -/
def methodBodies (cs : List Converted) : Entries Node :=
  cs.filterMap fun c => c.method.map (·, c.node)

/-- **Giving children to a call.** Those that are methods are put among its methods, the others come
behind the nodes that it already holds. -/
theorem foldlM_attach {cs : List Converted} {start d : Draft Node} {nodes : List Node}
    (ha : ∀ a ∈ start.arguments, a.nodes = []) (hs : start.slot = .undecided)
    (h : Draft.Filled start nodes d) {grown : Option (Draft Node)}
    (hg : cs.foldlM g.attach (some d) = .ok grown) :
    ∃ d', grown = some d' ∧ Draft.Filled
      { start with definitions := start.definitions.putAll (methodBodies cs) }
      (nodes ++ childNodes cs) d' := by
  induction cs generalizing start d nodes with
  | nil =>
    cases hg
    rw [childNodes, List.filter_nil, List.map_nil, List.append_nil]
    exact ⟨d, rfl, h⟩
  | cons c cs ih =>
    rw [List.foldlM_cons] at hg
    obtain ⟨call, hc, hg⟩ := bind_eq_ok.1 hg
    unfold attach at hc
    dsimp only at hc
    split at hc
    · rename_i name hm
      cases hc
      obtain ⟨d', rfl, hd'⟩ :=
        @ih (start.define name c.node) _ _ ha hs (Draft.filled_define h name c.node) hg
      refine ⟨d', rfl, ?_⟩
      have hb : methodBodies (c :: cs) = (name, c.node) :: methodBodies cs := by
        simp [methodBodies, hm]
      have hn : childNodes (c :: cs) = childNodes cs := by simp [childNodes, hm]
      rw [hb, hn]
      exact hd'
    · rename_i hm
      have hb : methodBodies (c :: cs) = methodBodies cs := by simp [methodBodies, hm]
      rw [hb]
      split at hc
      · rename_i he
        cases hc
        have hn : childNodes (c :: cs) = childNodes cs := by simp [childNodes, he]
        rw [hn]
        exact ih ha hs h hg
      · rename_i he
        obtain ⟨d₁, hd, rfl⟩ := map_eq_ok.1 hc
        have hn : childNodes (c :: cs) = c.node :: childNodes cs := by
          simp [childNodes, hm, he]
        rw [hn, List.append_cons]
        exact ih ha hs (Draft.yields_filled_addChild ha hs h c.node d₁ (mapError_eq_ok.1 hd)) hg

/-- The call of a converted element, with what its children came to. -/
theorem isCallOf_of_foldlM {p : Place} {e : Element} {k : ElementKind} {d : Draft Node}
    {cs : List Converted} {grown : Option (Draft Node)} (hk : k.isKindOf e = true)
    (hc : k.convert g.surface e = .ok (some d))
    (hg : cs.foldlM g.attach (ownCall p k e (some d)) = .ok grown) :
    ∃ d', grown = some d' ∧ IsCallOf g.surface (isOff p k e) (Entries.putAll [] (methodBodies cs)) e
      (childNodes cs) d'.toNode := by
  have hf : d.Fresh := ElementKind.yields_fresh _ hc d rfl
  have hown : ownCall p k e (some d) = some (d.setCommented (isOff p k e)) := by
    unfold ownCall
    cases ho : isOff p k e with
    | true => rfl
    | false =>
      rw [Draft.setCommented_of_fresh hf]
      rfl
  rw [hown] at hg
  obtain ⟨d', rfl, hd'⟩ := @foldlM_attach _ _ (d.setCommented (isOff p k e)) _ _
    hf.arguments hf.slot .undecided _ hg
  rw [List.nil_append] at hd'
  have hdef : (d.setCommented (isOff p k e)).definitions = [] := hf.definitions
  rw [hdef] at hd'
  have hh := Draft.holds_toNode (by exact hf.chain) hd'
  have hn : d.toNode.nested = [] := Draft.nested_toNode_of_fresh hf
  exact ⟨d', rfl, ⟨k, d, hk, hc, hh⟩, Node.nested_eq_of_holds hh hn⟩

variable (hall : g.kinds = ElementKind.all)

/-- What an element comes to below the root: the body of its method, if it becomes one, or a child
of the parent's call, or nothing when it is not written. -/
def Shows (g : Generator) (q : Place) (e : Element) (c : Converted) : Prop :=
  if e.isWritten g.settings q.keepsFragments then
    c.method = (if q.keepsFragments && e.isFragment then some (Convert.fragmentMethod e.name)
      else none) ∧
    Mirrors g.surface (Element.isWritten g.settings false)
      (!e.enabled && !(q.keepsFragments && e.isFragment)) e c.node
  else c.node = .empty ∧ c.method = none

/-- The children of an element are its written ones that are no methods, and the methods are the
fragments where these are always kept. -/
theorem children_of_shows {q : Place} {es : List Element} {cs : List Converted}
    (h : List.Forall₂ (fun e c => g.convertElement q e = .ok c ∧ g.Shows q e c) es cs) :
    List.Forall₂ (fun child n => Mirrors g.surface (Element.isWritten g.settings false)
        (!child.enabled) child n)
      (es.filter fun child => child.isWritten g.settings q.keepsFragments &&
        !(q.keepsFragments && child.isFragment)) (childNodes cs) ∧
    List.Forall₂ (fun f d => d.1 = Convert.fragmentMethod f.name ∧
        Mirrors g.surface (Element.isWritten g.settings false) false f d.2 ∧
        ∃ own, g.convertElement q f = .ok own ∧ d.2 = own.node)
      (es.filter fun f => q.keepsFragments && f.isFragment) (methodBodies cs) := by
  induction h with
  | nil => exact ⟨.nil, .nil⟩
  | @cons e c es cs hec hrest ih =>
    obtain ⟨ihn, ihm⟩ := ih
    obtain ⟨hc, hec⟩ := hec
    unfold Shows at hec
    split at hec
    · rename_i hw
      obtain ⟨hm, hmirrors⟩ := hec
      rw [List.filter_cons, List.filter_cons]
      cases hf : q.keepsFragments && e.isFragment with
      | true =>
        rw [hf] at hm hmirrors
        have hn : childNodes (c :: cs) = childNodes cs := by simp [childNodes, hm]
        have hb : methodBodies (c :: cs) =
            (Convert.fragmentMethod e.name, c.node) :: methodBodies cs := by
          simp [methodBodies, hm]
        rw [if_neg (by simp), if_pos rfl, hn, hb]
        refine ⟨ihn, .cons ⟨rfl, ?_, c, hc, rfl⟩ ihm⟩
        simpa using hmirrors
      | false =>
        rw [hf] at hm hmirrors
        have hn : childNodes (c :: cs) = c.node :: childNodes cs := by
          simp [childNodes, hm, hmirrors.isEmpty_eq_false]
        have hb : methodBodies (c :: cs) = methodBodies cs := by simp [methodBodies, hm]
        rw [if_pos (by simp [hw]), if_neg (by simp), hn, hb]
        refine ⟨.cons ?_ ihn, ihm⟩
        simpa using hmirrors
    · rename_i hw
      obtain ⟨hempty, hm⟩ := hec
      have hf : (q.keepsFragments && e.isFragment) = false := by
        refine Bool.eq_false_iff.2 fun hf => hw ?_
        rw [Bool.and_eq_true] at hf
        rw [hf.1]
        exact Element.isWritten_of_isFragment hf.2
      have hn : childNodes (c :: cs) = childNodes cs := by
        simp [childNodes, hempty, Node.isEmpty]
      have hb : methodBodies (c :: cs) = methodBodies cs := by simp [methodBodies, hm]
      rw [List.filter_cons, List.filter_cons, if_neg (by simp [hw]), if_neg (by simp [hf]), hn, hb]
      exact ⟨ihn, ihm⟩

include hall

/-- **Written elements.** An element below the root that is written is mirrored by its node, and any
other comes to nothing. -/
theorem shows_of_convertElement (e : Element) :
    ∀ q ≠ .root, ∀ c, g.convertElement q e = .ok c → g.Shows q e c := by
  induction e using Element.children_induction with | step e ih => ?_
  intro q hq c hc
  unfold Shows
  cases hkept : e.isKept g.settings q.keepsFragments with
  | false =>
    obtain rfl := convertElement_of_not_kept hall hkept hc
    rw [if_neg (by rw [Element.isWritten, hkept]; simp)]
    exact ⟨rfl, rfl⟩
  | true =>
    obtain ⟨k, call, grown, cs, hk, hconv, ho, hcs, hg, rfl⟩ := exists_of_kept hall hkept hc
    rw [Element.isWritten, hkept, Element.hasCall_eq hk hconv]
    cases call with
    | none =>
      -- Only a module controller has no call, and it is no fragment.
      have hnone := ElementKind.yields_isSome _ hconv
      obtain rfl : k = .moduleController := by
        by_contra hne
        simp [hne] at hnone
      rw [ownCall_none, foldlM_attach_none] at hg
      obtain rfl := Except.ok.inj hg
      rw [if_neg (by decide), methodFor_eq hk, Element.isFragment_eq hk]
      exact ⟨rfl, by simp⟩
    | some d =>
      obtain ⟨d', rfl, hcallOf⟩ := isCallOf_of_foldlM hk hconv hg
      rw [Place.below_eq_inner hq] at hcs
      obtain ⟨hn, hb⟩ := children_of_shows (((List.forall₂_and_left _ _).2 ⟨ih, hcs⟩).imp
        fun child c hc => ⟨hc.2, hc.1 .inner (by decide) c hc.2⟩)
      have hnone : methodBodies cs = [] := by simpa [Place.keepsFragments] using hb
      rw [hnone] at hcallOf
      rw [if_pos (by rfl), ← methodFor_eq hk]
      refine ⟨rfl, ?_⟩
      have hoff : (!e.enabled && !(q.keepsFragments && e.isFragment)) = isOff q k e := by
        unfold isOff
        rw [methodFor_eq hk]
        cases q.keepsFragments && e.isFragment <;> rfl
      rw [hoff]
      refine .intro hcallOf ?_
      simpa [Place.keepsFragments] using hn

/-- **The tree of a plan.** If a plan has a call, its call holds the calls of its written elements,
and its methods are what the fragments right under it come to. -/
theorem mirrorsPlan_of_convertElement {plan : Element} {c : Converted}
    (hc : g.convertElement .root plan = .ok c) (hne : c.node.isEmpty = false) :
    MirrorsPlan g.surface (Element.isWritten g.settings) plan.methods plan c.node ∧
      List.Forall₂ (fun m d => d.1 = m.1 ∧
          ∃ own, g.convertElement (.top true) m.2 = .ok own ∧ d.2 = own.node)
        plan.methods (c.node.definitions g.surface) := by
  cases convertElement_eq_ok.1 hc with
  | unknown => cases hne
  | dropped => cases hne
  | @converted k call grown cs hk hconv ho hcs hg =>
    rw [hall, ElementKind.find?_all_eq_some] at hk
    obtain ⟨d, rfl⟩ := Option.isSome_iff_exists.1 (isSome_call hg hne)
    obtain ⟨d', rfl, hcallOf⟩ := isCallOf_of_foldlM hk hconv hg
    have hoff : isOff .root k plan = !plan.enabled := Bool.and_true _
    rw [hoff] at hcallOf
    have hshows : List.Forall₂ (fun child c => g.convertElement (.top true) child = .ok c ∧
        g.Shows (.top true) child c) plan.children cs := hcs.imp fun child c hc =>
      ⟨hc, shows_of_convertElement hall child (.top true) (by decide) c hc⟩
    obtain ⟨hn, hb⟩ := children_of_shows hshows
    have hdefs : d'.toNode.definitions g.surface = Entries.putAll [] (methodBodies cs) := by
      rw [hcallOf.definitions fun n hm => by
        obtain ⟨child, -, h⟩ := exists_of_forall₂ hn hm
        exact h.plain]
      exact Entries.putAll_of_nodup (Entries.nodup_putAll (by simp) _)
    have hmethods : List.Forall₂ (fun m d => d.1 = m.1 ∧
        Mirrors g.surface (Element.isWritten g.settings false) false m.2 d.2 ∧
        ∃ own, g.convertElement (.top true) m.2 = .ok own ∧ d.2 = own.node)
        plan.methods (d'.toNode.definitions g.surface) := by
      rw [hdefs]
      refine Entries.forall₂_putAll (R := fun f n =>
        Mirrors g.surface (Element.isWritten g.settings false) false f n ∧
          ∃ own, g.convertElement (.top true) f = .ok own ∧ n = own.node) .nil ?_
      unfold Element.fragments
      rw [List.forall₂_map_left_iff]
      exact hb
    rw [← hdefs] at hcallOf
    exact ⟨⟨⟨childNodes cs, hcallOf, hn⟩, hmethods.imp fun _ _ h => ⟨h.1, h.2.1⟩⟩,
      hmethods.imp fun _ _ h => ⟨h.1, h.2.2⟩⟩

end Generator
end PlanCode
