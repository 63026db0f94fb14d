import Mathlib.Data.List.Forall2
import PlanCode.Proofs.Plan.Kept
import PlanCode.Proofs.Yields

/-!
# How plans are converted

The conversion of an element ends in one of three ways, and what it comes to is
told by what its children come to: they are converted one by one, then each is
given to the call.

* `convertChildren_eq_ok`: children are converted apart from the call that they go into.
* `convertElement_eq_ok`: the outcomes of a conversion.
* `convertElement_of_not_kept`, `exists_of_kept`: what is kept is what is converted.
-/
namespace PlanCode

/-- Whether disabled fragments are kept at a place. -/
def Place.keepsFragments : Place → Bool
  | .top true => true
  | _ => false

/-- Only the root has a place of its own below it. -/
theorem Place.below_eq_inner {p : Place} (hp : p ≠ .root) (hasCall : Bool) :
    p.below hasCall = .inner := by
  cases p with
  | root => exact absurd rfl hp
  | top => rfl
  | inner => rfl

/-- How many elements are converted, all in all. -/
def Converted.total (cs : List Converted) : Nat := cs.foldr (fun c n => c.count + n) 0

theorem Converted.total_cons (c : Converted) (cs : List Converted) :
    total (c :: cs) = c.count + total cs := rfl

namespace Generator

variable {g : Generator}

/-- Whether a disabled element is commented out or dropped; what becomes a method is neither. -/
def isOff (p : Place) (k : ElementKind) (e : Element) : Bool :=
  !e.enabled && (methodFor p k e).isNone

/-- The call of an element before it has children. -/
def ownCall (p : Place) (k : ElementKind) (e : Element) (call : Option (Draft Node)) :
    Option (Draft Node) :=
  if isOff p k e then call.map (·.setCommented true) else call

theorem isSome_ownCall (p : Place) (k : ElementKind) (e : Element) (call : Option (Draft Node)) :
    (ownCall p k e call).isSome = call.isSome := by
  unfold ownCall
  split
  · exact Option.isSome_map
  · rfl

/-- What becomes a method are the fragments where they are always kept. -/
theorem methodFor_eq {p : Place} {k : ElementKind} {e : Element} (hk : k.isKindOf e = true) :
    methodFor p k e = if p.keepsFragments && e.isFragment then
      some (Convert.fragmentMethod e.name) else none := by
  rw [Element.isFragment_eq hk]
  cases p with
  | root => rfl
  | top rootHasCall => cases rootHasCall <;> cases k <;> rfl
  | inner => rfl

theorem isKept_eq {s : Settings} {p : Place} {k : ElementKind} {e : Element}
    (hk : k.isKindOf e = true) :
    e.isKept s p.keepsFragments = (!isOff p k e || s.commentDisabled) := by
  unfold Element.isKept isOff
  rw [Element.isKnown_of_isKindOf hk, methodFor_eq hk]
  cases e.enabled <;> cases s.commentDisabled <;> cases p.keepsFragments && e.isFragment <;> rfl

theorem ownCall_none (p : Place) (k : ElementKind) (e : Element) : ownCall p k e none = none := by
  unfold ownCall
  split <;> rfl

/-- The children of an element, each converted by itself. -/
abbrev ConvertedAll (g : Generator) (p : Place) (es : List Element) (cs : List Converted) : Prop :=
  List.Forall₂ (fun e c => g.convertElement p e = .ok c) es cs

/-- What the conversion of an element can come to. -/
inductive Outcome (g : Generator) (p : Place) (e : Element) : Converted → Prop where
  | unknown (hk : g.kinds.find? (·.isKindOf e) = none) :
    Outcome g p e { node := .empty, warnings := [skipped e] }
  | dropped {k : ElementKind} {call : Option (Draft Node)}
    (hk : g.kinds.find? (·.isKindOf e) = some k) (hc : k.convert g.surface e = .ok call)
    (ho : isOff p k e = true) (hs : g.settings.commentDisabled = false) :
    Outcome g p e { node := .empty }
  | converted {k : ElementKind} {call grown : Option (Draft Node)} {cs : List Converted}
    (hk : g.kinds.find? (·.isKindOf e) = some k) (hc : k.convert g.surface e = .ok call)
    (ho : isOff p k e = true → g.settings.commentDisabled = true)
    (hcs : g.ConvertedAll (p.below call.isSome) e.children cs)
    (hg : cs.foldlM g.attach (ownCall p k e call) = .ok grown) :
    Outcome g p e {
      node := (grown.map (·.toNode)).getD .empty
      method := methodFor p k e
      warnings := cs.flatMap (·.warnings)
      count := Converted.total cs + 1 }

/-- Children are converted one by one, then given to the call. -/
theorem convertChildren_eq_ok {p : Place} {call : Option (Draft Node)} {es : List Element}
    {grown : Growing} : g.convertChildren p call es = .ok grown ↔
      ∃ cs, g.ConvertedAll p es cs ∧ cs.foldlM g.attach call = .ok grown.call ∧
        grown.warnings = cs.flatMap (·.warnings) ∧ grown.count = Converted.total cs := by
  induction es generalizing call grown with
  | nil =>
    rw [convertChildren]
    constructor
    · rintro ⟨⟩
      exact ⟨[], .nil, rfl, rfl, rfl⟩
    · rintro ⟨cs, hcs, hg, hw, hn⟩
      cases hcs
      obtain ⟨call', warnings, count⟩ := grown
      cases hg
      cases hw
      cases hn
      rfl
  | cons e rest ih =>
    rw [convertChildren]
    constructor
    · intro h
      obtain ⟨c, hc, h⟩ := bind_eq_ok.1 h
      obtain ⟨call', ha, h⟩ := bind_eq_ok.1 h
      obtain ⟨others, ho, h⟩ := bind_eq_ok.1 h
      cases h
      obtain ⟨cs, hcs, hg, hw, hn⟩ := ih.1 ho
      refine ⟨c :: cs, .cons hc hcs, ?_, ?_, ?_⟩
      · rw [List.foldlM_cons, ha]
        exact hg
      · rw [List.flatMap_cons, ← hw]
      · rw [Converted.total_cons, ← hn]
    · rintro ⟨cs, hcs, hg, hw, hn⟩
      cases hcs with
      | @cons _ c _ cs hc hcs =>
        rw [List.foldlM_cons] at hg
        obtain ⟨call', ha, hg⟩ := bind_eq_ok.1 hg
        have ho : g.convertChildren p call' rest = .ok
            { call := grown.call, warnings := cs.flatMap (·.warnings),
              count := Converted.total cs } := ih.2 ⟨cs, hcs, hg, rfl, rfl⟩
        rw [List.flatMap_cons] at hw
        rw [Converted.total_cons] at hn
        obtain ⟨call'', warnings, count⟩ := grown
        cases hw
        cases hn
        rw [hc]
        refine bind_eq_ok.2 ⟨c, rfl, bind_eq_ok.2 ⟨call', ha, bind_eq_ok.2 ⟨_, ho, rfl⟩⟩⟩

/-- Without a call there is nothing to give children to. -/
theorem foldlM_attach_none (cs : List Converted) : cs.foldlM g.attach none = .ok none := by
  induction cs with
  | nil => rfl
  | cons c rest ih =>
    rw [List.foldlM_cons]
    exact ih

/-- An element that some node is made of has a call. -/
theorem isSome_call {p : Place} {k : ElementKind} {e : Element} {call grown : Option (Draft Node)}
    {cs : List Converted} (hg : cs.foldlM g.attach (ownCall p k e call) = .ok grown)
    (hn : ((grown.map Draft.toNode).getD Node.empty).isEmpty = false) : call.isSome = true := by
  cases call with
  | some d => rfl
  | none =>
    rw [ownCall_none, foldlM_attach_none] at hg
    cases hg
    cases hn

/-- The conversion of an element that a kind matches. -/
theorem convertElement_eq {p : Place} {e : Element} {k : ElementKind}
    (hk : g.kinds.find? (·.isKindOf e) = some k) :
    g.convertElement p e = (do
      let call ← k.convert g.surface e
      if isOff p k e && !g.settings.commentDisabled then return { node := .empty }
      else
        let own := ownCall p k e call
        let grown ← g.convertChildren (p.below own.isSome) own e.children
        return {
          node := (grown.call.map (·.toNode)).getD .empty
          method := methodFor p k e
          warnings := grown.warnings
          count := grown.count + 1 }) := by
  cases e
  rw [convertElement, hk]
  rfl

theorem convertElement_unknown (p : Place) {e : Element}
    (hk : g.kinds.find? (·.isKindOf e) = none) :
    g.convertElement p e = .ok { node := .empty, warnings := [skipped e] } := by
  cases e
  rw [convertElement, hk]
  rfl

/-- **Outcomes.** An element that no kind matches is skipped with a warning, a disabled one may be
dropped, and any other has a call, if its kind gives it one, with its children in it. -/
theorem convertElement_eq_ok {p : Place} {e : Element} {c : Converted} :
    g.convertElement p e = .ok c ↔ g.Outcome p e c := by
  cases hk : g.kinds.find? (·.isKindOf e) with
  | none =>
    rw [convertElement_unknown p hk]
    constructor
    · rintro ⟨⟩
      exact .unknown hk
    · intro h
      cases h with
      | unknown => rfl
      | dropped h => rw [hk] at h; cases h
      | converted h => rw [hk] at h; cases h
  | some k =>
    rw [convertElement_eq hk]
    constructor
    · intro h
      obtain ⟨call, hc, h⟩ := bind_eq_ok.1 h
      split at h
      · rename_i ho
        rw [Bool.and_eq_true, Bool.not_eq_true'] at ho
        cases h
        exact .dropped hk hc ho.1 ho.2
      · rename_i ho
        obtain ⟨grown, hg, h⟩ := bind_eq_ok.1 h
        obtain ⟨cs, hcs, hg, hw, hn⟩ := convertChildren_eq_ok.1 hg
        rw [isSome_ownCall] at hcs
        cases h
        rw [hw, hn]
        exact .converted hk hc (fun h => by simpa [h] using ho) hcs hg
    · intro h
      cases h with
      | unknown h => rw [hk] at h; cases h
      | dropped h hc ho hs =>
        obtain rfl := Option.some.inj (hk.symm.trans h)
        refine bind_eq_ok.2 ⟨_, hc, ?_⟩
        rw [if_pos (by simp [ho, hs])]
        rfl
      | @converted l call grown cs h hc ho hcs hg =>
        obtain rfl := Option.some.inj (hk.symm.trans h)
        refine bind_eq_ok.2 ⟨_, hc, ?_⟩
        rw [if_neg (by simpa using ho)]
        rw [← isSome_ownCall p k e call] at hcs
        refine bind_eq_ok.2 ⟨⟨grown, _, _⟩, ?_, rfl⟩
        exact convertChildren_eq_ok.2 ⟨cs, hcs, hg, rfl, rfl⟩

section

variable (hall : g.kinds = ElementKind.all)

include hall

/-- **Not kept.** Nothing but a warning, if any, comes of an element that is not kept. -/
theorem convertElement_of_not_kept {p : Place} {e : Element} {c : Converted}
    (hk : e.isKept g.settings p.keepsFragments = false) (hc : g.convertElement p e = .ok c) :
    c = { node := .empty, warnings := if e.isKnown then [] else [skipped e] } := by
  cases convertElement_eq_ok.1 hc with
  | unknown hu =>
    rw [hall] at hu
    rw [if_neg (by rw [Element.isKnown_eq_false.2 hu]; decide)]
  | dropped hu =>
    rw [hall, ElementKind.find?_all_eq_some] at hu
    rw [if_pos (Element.isKnown_of_isKindOf hu)]
  | converted hu _ ho =>
    rw [hall, ElementKind.find?_all_eq_some] at hu
    rw [isKept_eq hu, Bool.or_eq_false_iff, Bool.not_eq_false'] at hk
    rw [ho hk.1] at hk
    exact absurd hk.2 (by decide)

/-- **Kept.** An element that is kept has the call of its kind, if any, with what its children come
to. -/
theorem exists_of_kept {p : Place} {e : Element} {c : Converted}
    (hk : e.isKept g.settings p.keepsFragments = true) (hc : g.convertElement p e = .ok c) :
    ∃ (k : ElementKind) (call grown : Option (Draft Node)) (cs : List Converted),
      k.isKindOf e = true ∧ k.convert g.surface e = .ok call ∧
      (isOff p k e = true → g.settings.commentDisabled = true) ∧
      g.ConvertedAll (p.below call.isSome) e.children cs ∧
      cs.foldlM g.attach (ownCall p k e call) = .ok grown ∧
      c = {
        node := (grown.map (·.toNode)).getD .empty
        method := methodFor p k e
        warnings := cs.flatMap (·.warnings)
        count := Converted.total cs + 1 } := by
  cases convertElement_eq_ok.1 hc with
  | unknown hu =>
    rw [hall] at hu
    rw [Element.isKept, Element.isKnown_eq_false.2 hu] at hk
    cases hk
  | dropped hu _ ho hs =>
    rw [hall, ElementKind.find?_all_eq_some] at hu
    rw [isKept_eq hu, ho, hs] at hk
    cases hk
  | @converted k call grown cs hu hconv ho hcs hg =>
    rw [hall, ElementKind.find?_all_eq_some] at hu
    exact ⟨k, call, grown, cs, hu, hconv, ho, hcs, hg, rfl⟩

end

/-- The class of a converted plan. -/
def classOf (g : Generator) (converted : Converted) : TestClass :=
  let root := converted.node
  let needs := root.needs g.surface
  let own := testAnnotation :: (if g.settings.includeRun then [runException] else [])
  let imports := Node.sortedNames (own ++ needs.imports)
  let staticImports := Node.sortedNames needs.staticImports
  let lines := classLines g.settings root imports staticImports (root.definitions g.surface)
  { code := "\n".intercalate lines ++ "\n"
    warnings := converted.warnings
    imports
    staticImports
    elementsConverted := converted.count }

theorem generate_eq (g : Generator) (plan : Element) : g.generate plan = (do
    let converted ← g.convertElement .root plan
    if converted.node.isEmpty then .error (.rootNotConverted plan.name plan.kind)
    else .ok (g.classOf converted)) := by
  unfold generate
  cases g.convertElement .root plan with
  | error e => rfl
  | ok converted =>
    change (if converted.node.isEmpty = true then _ else _) = if _ then _ else _
    cases converted.node.isEmpty <;> rfl

/-- A class is only generated for a plan that has a call. -/
theorem generate_eq_ok {plan : Element} {c : TestClass} : g.generate plan = .ok c ↔
    ∃ converted, g.convertElement .root plan = .ok converted ∧ converted.node.isEmpty = false ∧
      c = g.classOf converted := by
  rw [generate_eq]
  constructor
  · intro h
    obtain ⟨converted, hc, h⟩ := bind_eq_ok.1 h
    split at h
    · cases h
    · rename_i he
      exact ⟨converted, hc, Bool.eq_false_iff.2 he, (Except.ok.inj h).symm⟩
  · rintro ⟨converted, hc, he, rfl⟩
    refine bind_eq_ok.2 ⟨converted, hc, ?_⟩
    rw [if_neg (by simp [he])]

theorem exists_of_generate {plan : Element} {c : TestClass} (h : g.generate plan = .ok c) :
    ∃ converted, g.convertElement .root plan = .ok converted ∧ converted.node.isEmpty = false := by
  obtain ⟨converted, hc, he, -⟩ := generate_eq_ok.1 h
  exact ⟨converted, hc, he⟩

end Generator
end PlanCode
