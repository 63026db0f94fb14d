import PlanCode.Proofs.Call.Imports
import PlanCode.Proofs.Convert.Fresh
import PlanCode.Proofs.Plan.Conversion

/-!
# The tree of calls of a plan

How a tree of calls mirrors the elements of a plan, whichever of these are taken
along. The call of an element holds the calls of its children that are taken
along, in their order, and nothing else. The fragments right under the root are
not among them: they are the methods of the root, of two with the same name the
later one in the place of the first.

* `Mirrors`: a node is the call of an element, with the calls of what is taken along below it.
* `MirrorsPlan`: the same of a root with its methods.
* `IsCallOf.definitions`: the methods of a call are those that are registered in itself.
* `heads_of_mirrorsPlan`: the calls of a tree are those of the elements that are taken along.
-/
namespace PlanCode

namespace Element

/-- The fragments right under the root with the names of their methods. -/
def fragments (plan : Element) : Entries Element :=
  (plan.children.filter (·.isFragment)).map fun f => (Convert.fragmentMethod f.name, f)

/-- The methods of a plan with the fragments that they are made from; of two fragments for one
method the later one counts. -/
def methods (plan : Element) : Entries Element := Entries.putAll [] plan.fragments

end Element

/-- A node is the call of an element, as its kind builds it, around other nodes. -/
structure IsCallOf (surface : Surface) (commented : Bool) (definitions : List (String × Node))
    (e : Element) (nodes : List Node) (n : Node) : Prop where
  call : ∃ (k : ElementKind) (d : Draft Node), k.isKindOf e = true ∧
    k.convert surface e = .ok (some d) ∧
    Node.Holds { d.setCommented commented with definitions }.toNode nodes n
  /-- There are no other nodes in the call. -/
  nested : n.nested = nodes

/-- A node is the call of an element, and the calls in it are those of the children that are taken
along, in their order. -/
inductive Mirrors (surface : Surface) (taken : Element → Bool) :
    (commented : Bool) → Element → Node → Prop where
  | intro {commented : Bool} {e : Element} {nodes : List Node} {n : Node}
    (call : IsCallOf surface commented [] e nodes n)
    (children : List.Forall₂ (fun child n => Mirrors surface taken (!child.enabled) child n)
      (e.children.filter taken) nodes) : Mirrors surface taken commented e n

/-- A node is the call of a plan: the calls in it are those of the children that are taken along,
without the fragments, and its methods are made from the given ones. -/
structure MirrorsPlan (surface : Surface) (taken : Bool → Element → Bool)
    (methods : Entries Element) (plan : Element) (root : Node) : Prop where
  call : ∃ nodes, IsCallOf surface (!plan.enabled) (root.definitions surface) plan nodes root ∧
    List.Forall₂ (fun child n => Mirrors surface (taken false) (!child.enabled) child n)
      (plan.children.filter fun child => taken true child && !child.isFragment) nodes
  methods : List.Forall₂ (fun m d => d.1 = m.1 ∧ Mirrors surface (taken false) false m.2 d.2)
    methods (root.definitions surface)

theorem exists_of_forall₂ {α β : Type} {R : α → β → Prop} {as : List α} {bs : List β}
    (h : List.Forall₂ R as bs) {b : β} (hb : b ∈ bs) : ∃ a ∈ as, R a b := by
  induction h with
  | nil => cases hb
  | @cons a b' as bs hab hrest ih =>
    rcases List.mem_cons.1 hb with rfl | hb
    · exact ⟨a, List.mem_cons_self .., hab⟩
    · obtain ⟨a', ha, hr⟩ := ih hb
      exact ⟨a', List.mem_cons_of_mem _ ha, hr⟩

theorem map_eq_of_forall₂ {α β γ : Type} {R : α → β → Prop} {f : α → γ} {f' : β → γ}
    (hf : ∀ a b, R a b → f' b = f a) {as : List α} {bs : List β} (h : List.Forall₂ R as bs) :
    bs.map f' = as.map f := by
  have hm : List.Forall₂ (· = ·) (as.map f) (bs.map f') :=
    List.rel_map (fun a b hab => (hf a b hab).symm) h
  rw [List.forall₂_eq_eq_eq] at hm
  exact hm.symm

namespace Entries

variable {α β : Type} {R : α → β → Prop}

theorem forall₂_put {as : Entries α} {bs : Entries β}
    (h : List.Forall₂ (fun a b => b.1 = a.1 ∧ R a.2 b.2) as bs) (name : String) {a : α} {b : β}
    (hab : R a b) :
    List.Forall₂ (fun a b => b.1 = a.1 ∧ R a.2 b.2) (put name a as) (put name b bs) := by
  induction h with
  | nil => exact .cons ⟨rfl, hab⟩ .nil
  | @cons a' b' as bs hr hrest ih =>
    obtain ⟨n, va⟩ := a'
    obtain ⟨n', vb⟩ := b'
    obtain ⟨rfl, hr⟩ := hr
    rw [put, put]
    split
    · exact .cons ⟨rfl, hab⟩ hrest
    · exact .cons ⟨rfl, hr⟩ ih

/-- Related entries stay related when related ones are put. -/
theorem forall₂_putAll {as as' : Entries α} {bs bs' : Entries β}
    (h : List.Forall₂ (fun a b => b.1 = a.1 ∧ R a.2 b.2) as bs)
    (h' : List.Forall₂ (fun a b => b.1 = a.1 ∧ R a.2 b.2) as' bs') :
    List.Forall₂ (fun a b => b.1 = a.1 ∧ R a.2 b.2) (putAll as as') (putAll bs bs') := by
  induction h' generalizing as bs with
  | nil => exact h
  | @cons a b as' bs' hr _ ih =>
    rw [putAll_cons, putAll_cons, hr.1]
    exact ih (forall₂_put h a.1 hr.2)

end Entries

/-! ## The call of an element -/

theorem IsCallOf.definitions {surface : Surface} {commented : Bool}
    {definitions : List (String × Node)} {e : Element} {nodes : List Node} {n : Node}
    (h : IsCallOf surface commented definitions e nodes n)
    (hn : ∀ n ∈ nodes, n.Plain surface) :
    n.definitions surface = Entries.putAll [] definitions := by
  obtain ⟨k, d, -, hd, hh⟩ := h.call
  unfold Node.definitions
  rw [Node.definitions_of_holds (ElementKind.yields_fresh _ hd d rfl) hh hn, Entries.map_putAll,
    Node.bodies_definitionNeeds]
  rfl

/-- What is written of an element registers no method. -/
theorem Mirrors.plain {surface : Surface} {taken : Element → Bool} (e : Element) :
    ∀ {commented : Bool} {n : Node}, Mirrors surface taken commented e n → n.Plain surface := by
  induction e using Element.children_induction with | step e ih => ?_
  intro commented n h
  cases h with
  | @intro _ _ nodes _ call children =>
    obtain ⟨k, d, -, hd, hh⟩ := call.call
    refine Node.definitions_of_holds (ElementKind.yields_fresh _ hd d rfl) hh fun n hn => ?_
    obtain ⟨child, hm, hn⟩ := exists_of_forall₂ children hn
    exact ih child (List.mem_of_mem_filter hm) hn

/-- The head of the call of an element is the one that its kind gives it. -/
theorem IsCallOf.eq_call {surface : Surface} {commented : Bool} {definitions : List (String × Node)}
    {e : Element} {nodes : List Node} {n : Node}
    (h : IsCallOf surface commented definitions e nodes n) :
    ∃ (k : ElementKind) (d : Draft Node) (arguments : List (Argument Node)) (chain : List Node),
      k.isKindOf e = true ∧ k.convert surface e = .ok (some d) ∧
        n = .call { d.head with commented } arguments chain definitions := by
  obtain ⟨k, d, hk, hd, hh⟩ := h.call
  rw [Draft.toNode_eq] at hh
  obtain ⟨-, rfl⟩ | ⟨init, type, -, -, rfl⟩ | rfl := Node.holds_call hh
  · exact ⟨k, d, _, _, hk, hd, rfl⟩
  · exact ⟨k, d, _, _, hk, hd, rfl⟩
  · exact ⟨k, d, _, _, hk, hd, rfl⟩

/-- A head is that of the call of an element. -/
def IsHeadOf (surface : Surface) (e : Element) (head : Head) : Prop :=
  ∃ (k : ElementKind) (d : Draft Node) (commented : Bool), k.isKindOf e = true ∧
    k.convert surface e = .ok (some d) ∧ head = { d.head with commented }

theorem Mirrors.isEmpty_eq_false {surface : Surface} {taken : Element → Bool} {commented : Bool}
    {e : Element} {n : Node} (h : Mirrors surface taken commented e n) : n.isEmpty = false := by
  cases h with
  | intro call =>
    obtain ⟨k, d, arguments, chain, -, -, rfl⟩ := call.eq_call
    rfl

/-! ## The calls of a mirrored element

The calls of a tree are told by a test of whether they are commented out, which
is the same as whether their elements are disabled. -/

section

variable {surface : Surface} {p : Bool → Bool}

/-- The calls of a tree that pass the test with all calls around them. -/
abbrev headsOn (p : Bool → Bool) (n : Node) : List Head := n.headsWhere fun head => p head.commented

theorem IsCallOf.headsOn_eq {commented : Bool} {definitions : List (String × Node)} {e : Element}
    {nodes : List Node} {n : Node} (h : IsCallOf surface commented definitions e nodes n) :
    ∃ head, IsHeadOf surface e head ∧
      headsOn p n = if p commented then head :: nodes.flatMap (headsOn p) else [] := by
  obtain ⟨k, d, arguments, chain, hk, hd, hn⟩ := h.eq_call
  refine ⟨{ d.head with commented }, ⟨k, d, commented, hk, hd, rfl⟩, ?_⟩
  rw [← h.nested, hn]
  exact Node.headsWhere_call ..

/-- What holds of each child holds of all children. -/
theorem heads_of_children {first later : Element → Bool} {es : List Element} {nodes : List Node}
    (ih : ∀ e ∈ es, ∀ {commented n}, Mirrors surface later commented e n →
      List.Forall₂ (IsHeadOf surface) (if p commented then
          e :: Element.reached (fun e => later e && p (!e.enabled))
            (fun e => later e && p (!e.enabled)) e.children else [])
        (headsOn p n))
    (hn : List.Forall₂ (fun child n => Mirrors surface later (!child.enabled) child n)
      (es.filter first) nodes) :
    List.Forall₂ (IsHeadOf surface) (Element.reached (fun e => first e && p (!e.enabled))
      (fun e => later e && p (!e.enabled)) es) (nodes.flatMap (headsOn p)) := by
  induction es generalizing nodes with
  | nil =>
    cases hn
    rw [Element.reached_nil]
    exact .nil
  | cons e rest ihes =>
    rw [List.forall_mem_cons] at ih
    rw [List.filter_cons] at hn
    rw [Element.reached_cons]
    cases hf : first e with
    | false =>
      rw [hf, if_neg (by decide)] at hn
      exact ihes ih.2 hn
    | true =>
      rw [hf, if_pos rfl] at hn
      cases hn with
      | cons hm hn => exact List.rel_append (ih.1 hm) (ihes ih.2 hn)

/-- **Calls of an element.** If the call of a mirrored element passes, the calls that pass in its
tree are its own and those of the elements taken along that pass. -/
theorem heads_of_mirrors {taken : Element → Bool} (e : Element) :
    ∀ {commented : Bool} {n : Node}, Mirrors surface taken commented e n →
      List.Forall₂ (IsHeadOf surface) (if p commented then
          e :: Element.reached (fun e => taken e && p (!e.enabled))
            (fun e => taken e && p (!e.enabled)) e.children else [])
        (headsOn p n) := by
  induction e using Element.children_induction with | step e ih => ?_
  intro commented n h
  cases h with
  | intro call children =>
    obtain ⟨head, hh, heq⟩ := call.headsOn_eq (p := p)
    rw [heq]
    cases p commented with
    | false => exact .nil
    | true => exact .cons hh (heads_of_children ih children)

/-- **Calls of a plan.** The calls that pass in the tree of a mirrored plan and in its methods are
those of the elements taken along that pass. -/
theorem heads_of_mirrorsPlan (hp : p false = true) {taken : Bool → Element → Bool}
    {methods : Entries Element} {plan : Element} {root : Node}
    (h : MirrorsPlan surface taken methods plan root) :
    List.Forall₂ (IsHeadOf surface)
      ((if p (!plan.enabled) then
          plan :: Element.reached (fun e => taken true e && !e.isFragment && p (!e.enabled))
            (fun e => taken false e && p (!e.enabled)) plan.children else []) ++
        methods.flatMap fun m => m.2 :: Element.reached
          (fun e => taken false e && p (!e.enabled)) (fun e => taken false e && p (!e.enabled))
          m.2.children)
      (headsOn p root ++ (root.definitions surface).flatMap fun d => headsOn p d.2) := by
  obtain ⟨⟨nodes, hcall, hn⟩, hm⟩ := h
  refine List.rel_append ?_ (List.rel_flatMap hm fun m d hd => ?_)
  · obtain ⟨head, hh, heq⟩ := hcall.headsOn_eq (p := p)
    rw [heq]
    split
    · exact .cons hh (heads_of_children (fun e _ => heads_of_mirrors e) hn)
    · exact .nil
  · have hbody := heads_of_mirrors (p := p) m.2 hd.2
    rwa [hp, if_pos rfl] at hbody

end

end PlanCode
