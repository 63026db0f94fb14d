import PlanCode.Call.Draft
import PlanCode.Proofs.Layout.Regular
import PlanCode.Proofs.Surface.Resolution
import PlanCode.Proofs.Yields

/-!
# Regular drafts

A draft that was started, chained and given children is `Regular`, and then its
node is. The steps that build drafts keep them so, on a surface whose names are
free of marks, whatever the literals are that the calls get.

* `chainCall_cases`: chaining leaves a draft alone or appends one call of the
  name asked for.
* `regular_toNode`: the node of a regular draft is regular.
* `yields_addChild`: a regular draft takes a regular call as child.
-/
namespace PlanCode

open PlanCode.Text PlanCode.Layout

/-! ## Names of the surface -/

/-- A surface whose names are free of marks. -/
structure FreeSurface (surface : Surface) : Prop where
  names : FreeNames surface
  factory : ∀ t ∈ surface.find? Surface.Default.factoryType, ∀ m ∈ t.methods,
    Free m.owner.toList ∧ Free (m.resultType m.owner).toList

theorem free_qualifiedName {t : DslType} (hp : Free t.package.toList) (hn : Free t.name.toList) :
    Free t.qualifiedName.toList := by
  unfold DslType.qualifiedName
  split
  · exact hn
  · exact free_toList_append (free_toList_append hp (free_ofList (by decide))) hn

theorem free_inPackage {rest : String} (h : Free rest.toList) :
    Free (Surface.Default.inPackage rest).toList :=
  free_toList_append (free_ofList (by decide)) h

theorem free_factory {name : String} {parameters : List String} {returns : String}
    (h : Free returns.toList) :
    let m := Surface.Default.factory name parameters returns
    Free m.owner.toList ∧ Free (m.resultType m.owner).toList := by
  have ho : Free Surface.Default.factoryType.toList := free_ofList (by decide)
  refine ⟨ho, ?_⟩
  dsimp only [Surface.Default.factory, Method.resultType]
  split
  · exact ho
  · exact h

theorem freeNames_standard : FreeNames Surface.standard := by
  unfold FreeNames Surface.standard Surface.Default.types
  simp only [List.forall_mem_cons, List.not_mem_nil, false_imp_iff, implies_true, and_true]
  refine ⟨?_, ?_, ?_, ?_, ?_, ?_, ?_, ?_, ?_, ?_, ?_, ?_, ?_, ?_, ?_, ?_, ?_, ?_, ?_, ?_⟩ <;>
    exact free_qualifiedName (free_inPackage (free_ofList (by decide))) (free_ofList (by decide))

theorem freeSurface_standard : FreeSurface Surface.standard where
  names := freeNames_standard
  factory t ht := by
    obtain rfl : Surface.Default.jmeterDsl = t := Option.some.inj ht
    simp only [Surface.Default.jmeterDsl, List.forall_mem_cons, List.not_mem_nil, false_imp_iff,
      implies_true, and_true]
    refine ⟨?_, ?_, ?_, ?_, ?_, ?_, ?_, ?_, ?_, ?_, ?_, ?_, ?_, ?_, ?_, ?_, ?_, ?_, ?_⟩ <;>
      exact free_factory (free_ofList (by decide))

/-- A method that a chained call resolves to has the name asked for. -/
theorem name_of_findMethod {surface : Surface} {type name : String} {types : List String}
    {m : Method} (h : surface.findMethod type name types = .ok (some m)) : m.name = name := by
  obtain ⟨_, _, _, -, ha, -⟩ := Surface.findMethod_eq_some h
  exact ha.named

namespace Draft

/-! ## Regular drafts -/

def isRemark : Segment Node → Bool
  | .comment _ => true
  | _ => false

def RegularSegment : Segment Node → Prop
  | .call name _ arguments => Word name.toList ∧ RegularArguments arguments
  | .comment text => RegularRemark text
  | .slot => True
  | .node _ => False
  | .borrowed _ => False

/-- Where the slot is, and what is in it. -/
def RegularSlot (d : Draft Node) : Prop :=
  match d.slot with
  | .chained _ nodes => nodes ≠ [] ∧ RegularChildren nodes
  | _ => ∀ s ∈ d.chain, s ≠ .slot

/-- A draft of which the chain may still end in a remark. -/
structure Sound (d : Draft Node) : Prop where
  head : RegularHead d.head
  type : Free d.head.target.toList
  arguments : RegularArguments d.arguments
  chain : ∀ s ∈ d.chain, RegularSegment s
  slot : RegularSlot d
  definitions : RegularDefinitions d.definitions

structure Regular (d : Draft Node) : Prop extends Sound d where
  settled : ∀ s ∈ d.chain.getLast?, isRemark s = false

/-- The node of a chained segment. -/
def segmentNode (slotNodes : List Node) : Segment Node → Node
  | .call name target arguments => .call { name := some name, target } arguments [] []
  | .comment text => .comment text
  | .node n => n
  | .slot => .children slotNodes
  | .borrowed n => n

theorem toNode_eq (d : Draft Node) :
    d.toNode =
      .call d.head d.arguments (d.chain.map (segmentNode d.slotNodes)) d.definitions := by
  unfold toNode slotNodes
  cases d.slot <;> rfl

theorem regular_segmentNode {d : Draft Node} (h : Sound d) {s : Segment Node} (hs : s ∈ d.chain) :
    (segmentNode d.slotNodes s).isCommented = false ∧
      Layout.Regular (segmentNode d.slotNodes s) := by
  have hr := h.chain s hs
  cases s with
  | call name target arguments =>
    exact ⟨rfl, ⟨⟨hr.1, rfl, by simp, by simp⟩, by simp [Settled]⟩, hr.2, trivial, trivial⟩
  | comment text => exact ⟨rfl, hr⟩
  | slot =>
    have hd := h.slot
    unfold RegularSlot at hd
    refine ⟨rfl, ?_⟩
    unfold slotNodes
    split at hd
    · rename_i hslot
      rw [hslot]
      exact hd
    · exact absurd rfl (hd _ hs)
  | node => exact hr.elim
  | borrowed => exact hr.elim

/-- **Finished drafts.** The node of a regular draft is regular. -/
theorem regular_toNode {d : Draft Node} (h : d.Regular) : Layout.Regular d.toNode := by
  rw [toNode_eq]
  refine ⟨⟨h.head, ?_⟩, h.arguments, regularChain_iff.2 ?_, h.definitions⟩
  · intro n hn
    rw [List.getLast?_map, Option.mem_def, Option.map_eq_some_iff] at hn
    obtain ⟨s, hs, rfl⟩ := hn
    have hr := h.settled s hs
    have hm := h.chain s (List.mem_of_getLast? hs)
    cases s with
    | comment => cases hr
    | node => exact hm.elim
    | borrowed => exact hm.elim
    | _ => rfl
  · intro n hn
    obtain ⟨s, hs, rfl⟩ := List.mem_map.1 hn
    exact regular_segmentNode h.toSound hs

/-! ## Starting a call -/

theorem regularHead_of_word {name : String} (hn : Word name.toList) {target : String}
    {staticImports : List String} (hi : ∀ i ∈ staticImports, Free i.toList) :
    RegularHead { name := some name, target, staticImports } :=
  ⟨hn, rfl, by simp, hi⟩

theorem regular_start {head : Head} (hh : RegularHead head) (ht : Free head.target.toList)
    {arguments : List (Argument Node)} (ha : RegularArguments arguments) :
    Regular { head, arguments } :=
  ⟨⟨hh, ht, ha, by simp, by simp [RegularSlot], trivial⟩, by simp⟩

theorem regular_unresolved {name target : String} (hn : Word name.toList)
    (ht : Free target.toList) {arguments : List (Argument Node)} (ha : RegularArguments arguments) :
    (unresolved (some name) target arguments).Regular :=
  regular_start (regularHead_of_word hn (by simp)) ht ha

/-- A call of the factory starts regular and not commented out. -/
theorem yields_ofFactory {surface : Surface} (hs : FreeSurface surface) {names : List String}
    (hn : ∀ name ∈ names, Word name.toList) {arguments : List (Argument Node)}
    (ha : RegularArguments arguments) :
    Yields (ofFactory surface names arguments)
      fun d => d.Regular ∧ d.head.commented = false := by
  unfold ofFactory
  split
  · rename_i m hm
    have hm := List.mem_of_find?_eq_some hm
    unfold factoryMethods at hm
    split at hm
    · cases hm
    · rename_i factory hf
      simp only [List.mem_filter, Bool.and_eq_true, List.contains_iff_mem] at hm
      obtain ⟨hm, -, hname⟩ := hm
      have hfree := hs.factory factory hf m hm
      refine yields_ok ⟨regular_start (regularHead_of_word (hn _ hname) ?_) hfree.2 ha, rfl⟩
      intro i hi
      rw [List.mem_singleton] at hi
      subst hi
      cases ho : surface.find? m.owner with
      | none => simpa using hfree.1
      | some t => simpa using hs.names t (List.mem_of_find?_eq_some ho)
  · exact yields_error _

/-! ## Chaining -/

theorem yields_resolve {surface : Surface} {type name : String}
    {arguments : List (Argument Node)} :
    Yields (resolve surface type name arguments) fun m? => ∀ m ∈ m?, m.name = name := by
  unfold resolve
  split
  · rename_i m? hm
    refine yields_ok ?_
    rintro m rfl
    exact name_of_findMethod hm
  · exact yields_error _

theorem yields_resolveChained {surface : Surface} {type name : String}
    {arguments : List (Argument Node)} :
    Yields (resolveChained surface type name arguments) fun (m, given) => m.name = name ∧
      (given = arguments ∨ given = [] ∧ ∃ a, arguments = [a] ∧ a.isBool = true) := by
  unfold resolveChained
  extract_lets continue_
  have hn : Yields (continue_ none) fun (m, given) => m.name = name ∧
      (given = arguments ∨ given = [] ∧ ∃ a, arguments = [a] ∧ a.isBool = true) := by
    refine yields_bind yields_resolve fun m? hm => ?_
    cases m? with
    | some m => exact yields_ok ⟨hm m rfl, Or.inl rfl⟩
    | none => exact yields_error _
  split
  · rename_i a
    split
    · rename_i hb
      refine yields_bind yields_resolve fun bare? hm => ?_
      cases bare? with
      | some m => exact yields_ok ⟨hm m rfl, Or.inr ⟨rfl, a, rfl, hb⟩⟩
      | none => exact hn
    · exact hn
  · exact hn

/-- What chaining a call does: only a single flag is left out of the arguments. -/
theorem chainCall_cases {surface : Surface} {d d' : Draft Node} {name : String}
    {arguments : List (Argument Node)} (h : chainCall surface d name arguments = .ok d') :
    (arguments.all (·.isDefault) = true ∧ d' = d) ∨
      ∃ target given,
        (given = arguments ∨ given = [] ∧ ∃ a, arguments = [a] ∧ a.isBool = true) ∧
        d' = d.append (.call name target given) := by
  unfold chainCall at h
  split at h
  · rename_i hc
    rw [Bool.and_eq_true] at hc
    simp only [Except.ok.injEq] at h
    exact Or.inl ⟨hc.2, h.symm⟩
  · obtain ⟨⟨m, given⟩, hr, hd⟩ := bind_eq_ok.1 h
    obtain ⟨rfl, hg⟩ := yields_resolveChained _ hr
    exact Or.inr ⟨_, given, hg, (Except.ok.inj hd).symm⟩

theorem getLast?_append (d : Draft Node) (s : Segment Node) :
    (d.append s).chain.getLast? = some s := by
  simp [append]

theorem sound_append {d : Draft Node} (h : Sound d) {s : Segment Node} (hs : RegularSegment s)
    (hne : s ≠ .slot) : Sound (d.append s) where
  head := h.head
  type := h.type
  arguments := h.arguments
  chain t ht := by
    rw [append, List.mem_append, List.mem_singleton] at ht
    rcases ht with ht | rfl
    · exact h.chain t ht
    · exact hs
  slot := by
    have hd := h.slot
    unfold RegularSlot at hd ⊢
    cases hslot : d.slot with
    | chained type nodes => simpa [append, hslot] using hd
    | _ =>
      simp only [append, hslot, List.mem_append, List.mem_singleton] at hd ⊢
      rintro t (ht | rfl)
      · exact hd t ht
      · exact hne
  definitions := h.definitions

/-- Appending a call settles a chain. -/
theorem regular_append_call {d : Draft Node} (h : Sound d) {name target : String}
    (hn : Word name.toList) {arguments : List (Argument Node)} (ha : RegularArguments arguments) :
    (d.append (.call name target arguments)).Regular :=
  ⟨sound_append h ⟨hn, ha⟩ (by simp), by simp [getLast?_append, isRemark]⟩

/-- Chaining keeps drafts regular. -/
theorem yields_chainCall {surface : Surface} {d : Draft Node} (h : d.Regular) {name : String}
    (hn : Word name.toList) {arguments : List (Argument Node)} (ha : RegularArguments arguments) :
    Yields (chainCall surface d name arguments) Regular := by
  intro d' hd
  obtain ⟨-, rfl⟩ | ⟨target, given, rfl | ⟨rfl, -⟩, rfl⟩ := chainCall_cases hd
  · exact h
  · exact regular_append_call h.toSound hn ha
  · exact regular_append_call h.toSound hn trivial

/-- Chaining arguments that are not all defaults settles a draft that ends in a remark. -/
theorem yields_chainCall_of_sound {surface : Surface} {d : Draft Node} (h : Sound d)
    {name : String} (hn : Word name.toList) {arguments : List (Argument Node)}
    (ha : RegularArguments arguments) (hd : ∃ a ∈ arguments, a.isDefault = false) :
    Yields (chainCall surface d name arguments) Regular := by
  intro d' hc
  obtain ⟨he, -⟩ | ⟨target, given, rfl | ⟨rfl, -⟩, rfl⟩ := chainCall_cases hc
  · obtain ⟨a, ha, hf⟩ := hd
    rw [List.all_eq_true] at he
    exact absurd (he a ha) (by simp [hf])
  · exact regular_append_call h hn ha
  · exact regular_append_call h hn trivial

/-! ## Children -/

/-- Children in the last argument are exchanged for others. -/
theorem regularArguments_exchange {init : List (Argument Node)} {a b : Argument Node}
    (h : RegularArguments (init ++ [a])) (hb : RegularArgument b) :
    RegularArguments (init ++ [b]) := by
  induction init with
  | nil => exact ⟨hb, fun _ => rfl, trivial⟩
  | cons c init ih =>
    obtain ⟨hc, hl, hr⟩ := h
    exact ⟨hc, fun hk => absurd (hl hk) (by simp), ih hr⟩

theorem regularArgument_last {init : List (Argument Node)} {a : Argument Node}
    (h : RegularArguments (init ++ [a])) : RegularArgument a := by
  induction init with
  | nil => exact h.1
  | cons c init ih => exact ih h.2.2

theorem regularChildren_append {nodes : List Node} (h : RegularChildren nodes) {n : Node}
    (hn : n.isOwnCall = true) (hr : Layout.Regular n) : RegularChildren (nodes ++ [n]) := by
  rw [regularChildren_iff] at h ⊢
  intro m hm
  rcases List.mem_append.1 hm with hm | hm
  · exact h m hm
  · rw [List.mem_singleton.1 hm]
    exact ⟨hn, hr⟩

theorem regular_mapSlot_own {d : Draft Node} (h : d.Regular) (hs : d.slot = .own) {n : Node}
    (hn : n.isOwnCall = true) (hr : Layout.Regular n) :
    (mapSlot (· ++ [n]) d).Regular ∧ (mapSlot (· ++ [n]) d).head = d.head := by
  unfold mapSlot
  rw [hs]
  dsimp only
  split
  · rename_i type nodes hl
    obtain ⟨init, he⟩ := List.getLast?_eq_some_iff.1 hl
    have ha := h.arguments
    rw [he] at ha
    have hc : RegularArgument (.children type (nodes ++ [n])) :=
      regularChildren_append (regularArgument_last ha) hn hr
    rw [he, List.dropLast_concat]
    exact ⟨⟨⟨h.head, h.type, regularArguments_exchange ha hc, h.chain,
      by simpa [RegularSlot, hs] using h.slot, h.definitions⟩, h.settled⟩, rfl⟩
  · exact ⟨h, rfl⟩

/-- A chained slot is given its first child as it is opened. -/
theorem regular_openChained {d : Draft Node} (h : d.Regular) {type : String} {n : Node}
    (hn : n.isOwnCall = true) (hr : Layout.Regular n) :
    ({ d.append .slot with slot := .chained type [n] } : Draft Node).Regular where
  head := h.head
  type := h.type
  arguments := h.arguments
  chain s hs := by
    rcases List.mem_append.1 hs with hs | hs
    · exact h.chain s hs
    · rw [List.mem_singleton.1 hs]
      trivial
  slot := ⟨by simp, hn, hr, trivial⟩
  definitions := h.definitions
  settled s hs := by
    rw [getLast?_append, Option.mem_some] at hs
    subst hs
    rfl

theorem regular_extendChained {d : Draft Node} (h : d.Regular) {type : String}
    {nodes : List Node} (hs : d.slot = .chained type nodes) {n : Node}
    (hn : n.isOwnCall = true) (hr : Layout.Regular n) :
    ({ d with slot := .chained type (nodes ++ [n]) } : Draft Node).Regular where
  head := h.head
  type := h.type
  arguments := h.arguments
  chain := h.chain
  slot := by
    have hd := h.slot
    rw [RegularSlot, hs] at hd
    exact ⟨by simp, regularChildren_append hd.2 hn hr⟩
  definitions := h.definitions
  settled := h.settled

/-- **Children.** A regular draft stays so, with the head it has, when it is given a regular
call. -/
theorem yields_addChild {surface : Surface} {d : Draft Node} (h : d.Regular) {n : Node}
    (hn : n.isOwnCall = true) (hr : Layout.Regular n) :
    Yields (d.addChild surface n) fun d' => d'.Regular ∧ d'.head = d.head := by
  unfold addChild openSlot
  cases hs : d.slot with
  | own => exact yields_ok (regular_mapSlot_own h hs hn hr)
  | chained type nodes =>
    refine yields_ok ?_
    unfold mapSlot
    rw [hs]
    exact ⟨regular_extendChained h hs hn hr, rfl⟩
  | undecided =>
    dsimp only
    split
    · have ho : ({ d with slot := .own } : Draft Node).Regular :=
        ⟨⟨h.head, h.type, h.arguments, h.chain, by simpa [RegularSlot, hs] using h.slot,
          h.definitions⟩, h.settled⟩
      exact yields_ok (regular_mapSlot_own ho rfl hn hr)
    · split
      · exact yields_error _
      · exact yields_error _
      · exact yields_ok ⟨regular_openChained h hn hr, rfl⟩

/-! ## Marks and definitions -/

theorem regular_setCommented {d : Draft Node} (h : d.Regular) (on : Bool) :
    (d.setCommented on).Regular :=
  ⟨⟨⟨h.head.name, h.head.heading, h.head.imports, h.head.staticImports⟩, h.type, h.arguments,
    h.chain, h.slot, h.definitions⟩, h.settled⟩

theorem regular_define {d : Draft Node} (h : d.Regular) {name : String} {n : Node}
    (hd : RegularDefinition (name, n)) : (d.define name n).Regular :=
  ⟨⟨h.head, h.type, h.arguments, h.chain, h.slot, regularDefinitions_iff.2 fun e he =>
    (Entries.mem_of_mem_put he).elim (regularDefinitions_iff.1 h.definitions e)
      fun he => he ▸ hd⟩, h.settled⟩

end Draft
end PlanCode
