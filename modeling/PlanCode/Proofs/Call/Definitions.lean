import Mathlib.Data.List.Nodup
import Mathlib.Logic.Relation
import PlanCode.Proofs.Call.Imports

/-!
# Methods in a tree of calls

A node contains its children and what is chained to it, and all that these
contain. It reaches, in addition, the bodies of the methods that are defined on
the way, and what these reach. The methods of a tree are gathered from the nodes
it contains, its imports from those it reaches. A method that is defined in the
body of another one is thus none of the tree's, though its imports are.

* `mem_definitions_iff`: the methods of a tree are those defined on the nodes it contains.
* `mem_imports_iff`: its imports are those that the nodes it reaches need for themselves.
* `definesAll_iff`: all methods it reaches are its own exactly if those in their bodies are.
* `definitions_imports_iff`: all of this in one.
-/
namespace PlanCode

namespace Node

variable {surface : Surface}

/-! ## Nodes of a tree -/

/-- The nodes right in a node: its children and what is chained to it. -/
def parts : Node → List Node
  | .call _ arguments chain _ => arguments.flatMap (·.nodes) ++ chain
  | .children nodes => nodes
  | _ => []

/-- The methods that are defined on a node itself, with their bodies. -/
def ownDefinitions : Node → List (String × Node)
  | .call _ _ _ definitions => definitions
  | _ => []

def Contains : Node → Node → Prop := Relation.ReflTransGen fun n m => m ∈ n.parts

/-- One step into a node or into the body of a method that is defined on it. -/
def Enters (n m : Node) : Prop := m ∈ n.parts ∨ ∃ name, (name, m) ∈ n.ownDefinitions

def Reaches : Node → Node → Prop := Relation.ReflTransGen Enters

/-- Methods of one name are one method. -/
def Unambiguous (n : Node) : Prop := ∀ m m', n.Reaches m → n.Reaches m' →
  ∀ name body body', (name, body) ∈ m.ownDefinitions → (name, body') ∈ m'.ownDefinitions →
    body = body'

theorem Contains.reaches {n m : Node} (h : n.Contains m) : n.Reaches m :=
  Relation.ReflTransGen.mono (fun _ _ hm => Or.inl hm) _ _ h

theorem enters_of_mem {n : Node} {e : String × Node} (he : e ∈ n.ownDefinitions) :
    n.Enters e.2 := Or.inr ⟨e.1, he⟩

theorem transGen_of_mem {n m : Node} (hm : n.Contains m) {e : String × Node}
    (he : e ∈ m.ownDefinitions) : Relation.TransGen Enters n e.2 :=
  Relation.TransGen.tail' hm.reaches (enters_of_mem he)

theorem Unambiguous.of_reaches {n m : Node} (h : n.Unambiguous) (hm : n.Reaches m) :
    m.Unambiguous := fun k k' hk hk' => h k k' (hm.trans hk) (hm.trans hk')

/-- Names that are pairwise distinct are unambiguous. -/
theorem unambiguous_of_nodup {n : Node} (nodes : List Node) (hn : n ∈ nodes)
    (hc : ∀ m ∈ nodes, ∀ k, m.Enters k → k ∈ nodes)
    (hd : ((nodes.flatMap ownDefinitions).map (·.1)).Nodup) : n.Unambiguous := by
  have hmem : ∀ m, n.Reaches m → m ∈ nodes := by
    intro m hm
    induction hm with
    | refl => exact hn
    | tail _ hk ih => exact hc _ ih _ hk
  intro m m' hm hm' name body body' hb hb'
  have hpair := List.inj_on_of_nodup_map hd (List.mem_flatMap.2 ⟨m, hmem m hm, hb⟩)
    (List.mem_flatMap.2 ⟨m', hmem m' hm', hb'⟩) rfl
  exact congrArg Prod.snd hpair

theorem sizeOf_lt_of_enters {n m : Node} (h : n.Enters m) : sizeOf m < sizeOf n := by
  cases n with
  | empty => simp [Enters, parts, ownDefinitions] at h
  | comment => simp [Enters, parts, ownDefinitions] at h
  | children nodes =>
    obtain h | ⟨name, h⟩ := h
    · have hm : m ∈ nodes := h
      have hs := List.sizeOf_lt_of_mem hm
      simp only [Node.children.sizeOf_spec]
      omega
    · cases h
  | call head arguments chain definitions =>
    simp only [Node.call.sizeOf_spec]
    obtain h | ⟨name, h⟩ := h
    · obtain h | h := List.mem_append.1 h
      · obtain ⟨a, ha, hm⟩ := List.mem_flatMap.1 h
        have hs := List.sizeOf_lt_of_mem ha
        cases a with
        | children type nodes =>
          have hm : m ∈ nodes := hm
          have hs' := List.sizeOf_lt_of_mem hm
          simp only [Argument.children.sizeOf_spec] at hs
          omega
        | _ => cases hm
      · have hs := List.sizeOf_lt_of_mem h
        omega
    · have hm : (name, m) ∈ definitions := h
      have hs := List.sizeOf_lt_of_mem hm
      simp only [Prod.mk.sizeOf_spec] at hs
      omega

theorem sizeOf_lt_of_transGen {n m : Node} (h : Relation.TransGen Enters n m) :
    sizeOf m < sizeOf n := by
  induction h with
  | single h => exact sizeOf_lt_of_enters h
  | tail _ h ih => exact (sizeOf_lt_of_enters h).trans ih

/-- What holds of a node for its own sake, for its parts, or for the methods that are defined in the
tree, holds of it for some node that it reaches. -/
theorem iff_exists_reaches {F O T : Node → Prop}
    (hF : ∀ n, n.Unambiguous → (F n ↔ O n ∨ (∃ m ∈ n.parts, F m) ∨
      ∃ m, n.Contains m ∧ ∃ e ∈ m.ownDefinitions, T e.2 ∨ F e.2))
    {n : Node} (h : n.Unambiguous) :
    F n ↔ ∃ m, n.Reaches m ∧ (O m ∨ ∃ e ∈ m.ownDefinitions, T e.2) := by
  constructor
  · intro hf
    induction hs : sizeOf n using Nat.strongRecOn generalizing n with
    | ind size ih =>
      have hbelow : ∀ m, Relation.TransGen Enters n m → F m →
          ∃ k, n.Reaches k ∧ (O k ∨ ∃ e ∈ k.ownDefinitions, T e.2) := by
        intro m hm hf
        have hr := hm.to_reflTransGen
        obtain ⟨k, hk, ho⟩ := ih _ (hs ▸ sizeOf_lt_of_transGen hm) (h.of_reaches hr) hf rfl
        exact ⟨k, hr.trans hk, ho⟩
      obtain ho | ⟨m, hm, hf⟩ | ⟨m, hm, e, he, ht | hf⟩ := (hF n h).1 hf
      · exact ⟨n, .refl, Or.inl ho⟩
      · exact hbelow m (.single (Or.inl hm)) hf
      · exact ⟨m, hm.reaches, Or.inr ⟨e, he, ht⟩⟩
      · exact hbelow e.2 (transGen_of_mem hm he) hf
  · rintro ⟨m, hm, ho⟩
    induction hm using Relation.ReflTransGen.head_induction_on with
    | refl =>
      obtain ho | ⟨e, he, ht⟩ := ho
      · exact (hF m h).2 (Or.inl ho)
      · exact (hF m h).2 (Or.inr (Or.inr ⟨m, .refl, e, he, Or.inl ht⟩))
    | @head n k hk _ ih =>
      have hf := ih (h.of_reaches (.single hk))
      obtain hk | ⟨name, hk⟩ := hk
      · exact (hF n h).2 (Or.inr (Or.inl ⟨k, hk, hf⟩))
      · exact (hF n h).2 (Or.inr (Or.inr ⟨n, .refl, (name, k), hk, Or.inr hf⟩))

end Node

/-! ## What is gathered from nodes -/

theorem Needs.merge_empty (n : Needs) : n.merge {} = n := by
  simp [merge, Entries.putAll]

/-- What is needed is needed for its own sake or by one of the nodes. So are the methods, but of
those of one name only one counts. -/
structure Needs.Gathers (surface : Surface) (n own : Needs) (nodes : List Node) : Prop where
  imports : ∀ i, i ∈ n.imports ↔ i ∈ own.imports ∨ ∃ m ∈ nodes, i ∈ (m.needs surface).imports
  staticImports : ∀ i, i ∈ n.staticImports ↔
    i ∈ own.staticImports ∨ ∃ m ∈ nodes, i ∈ (m.needs surface).staticImports
  definitions : ∀ d ∈ n.definitions,
    d ∈ own.definitions ∨ ∃ m ∈ nodes, d ∈ (m.needs surface).definitions
  names : ∀ name, name ∈ n.definitions.map (·.1) ↔ name ∈ own.definitions.map (·.1) ∨
    ∃ m ∈ nodes, name ∈ (m.needs surface).definitions.map (·.1)

namespace Needs.Gathers

variable {surface : Surface}

theorem self (own : Needs) : own.Gathers surface own [] where
  imports := by simp
  staticImports := by simp
  definitions := by simp
  names := by simp

theorem one (m : Node) : (m.needs surface).Gathers surface {} [m] where
  imports := by simp
  staticImports := by simp
  definitions := by simp
  names := by simp

theorem merge {a b own own' : Needs} {nodes nodes' : List Node}
    (h : a.Gathers surface own nodes) (h' : b.Gathers surface own' nodes')
    (hown : own'.definitions = []) :
    (a.merge b).Gathers surface (own.merge own') (nodes ++ nodes') where
  imports i := by
    simp only [Needs.merge, List.mem_append, h.imports, h'.imports, or_and_right, exists_or]
    exact or_or_or_comm
  staticImports i := by
    simp only [Needs.merge, List.mem_append, h.staticImports, h'.staticImports, or_and_right,
      exists_or]
    exact or_or_or_comm
  definitions d hd := by
    have hm : (own.merge own').definitions = own.definitions := by
      rw [Needs.merge, hown]
      rfl
    rw [hm]
    rcases Entries.mem_of_mem_putAll hd with hd | hd
    · rcases h.definitions d hd with hd | ⟨m, hm, hd⟩
      · exact Or.inl hd
      · exact Or.inr ⟨m, List.mem_append_left _ hm, hd⟩
    · rcases h'.definitions d hd with hd | ⟨m, hm, hd⟩
      · rw [hown] at hd
        cases hd
      · exact Or.inr ⟨m, List.mem_append_right _ hm, hd⟩
  names name := by
    simp only [Needs.merge, Entries.mem_map_fst_putAll, h.names, h'.names, List.mem_append,
      or_and_right, exists_or]
    exact or_or_or_comm

theorem mergeNodes {a b own : Needs} {nodes nodes' : List Node} (h : a.Gathers surface own nodes)
    (h' : b.Gathers surface {} nodes') : (a.merge b).Gathers surface own (nodes ++ nodes') := by
  have hm := h.merge h' rfl
  rwa [Needs.merge_empty] at hm

end Needs.Gathers

namespace Node

variable {surface : Surface}

theorem gathers_nodes (nodes : List Node) : (nodeNeeds surface nodes).Gathers surface {} nodes := by
  induction nodes with
  | nil => exact .self {}
  | cons n rest ih => exact (Needs.Gathers.one n).merge ih rfl

theorem gathers_argument (a : Argument Node) : (argumentNeed surface a).Gathers surface
    { imports := WrittenCall.argumentImports a } a.nodes := by
  cases a with
  | literal v =>
    rw [argumentNeed, WrittenCall.argumentImports]
    split
    · exact .self {}
    · exact .self _
  | bare => exact .self {}
  | children type nodes => exact gathers_nodes nodes

theorem gathers_arguments (arguments : List (Argument Node)) :
    (argumentNeeds surface arguments).Gathers surface
      { imports := arguments.flatMap WrittenCall.argumentImports }
      (arguments.flatMap (·.nodes)) := by
  induction arguments with
  | nil => exact .self {}
  | cons a rest ih => exact (gathers_argument a).merge ih rfl

/-- What a node needs for itself, apart from what its methods need. -/
def ownNeeds (surface : Surface) : Node → Needs
  | .call head arguments _ definitions =>
    Needs.merge
      { imports := head.imports
        staticImports := head.staticImports
        definitions := Entries.putAll [] (definitionNeeds surface definitions) }
      { imports := arguments.flatMap WrittenCall.argumentImports }
  | _ => {}

/-- What a node needs is what it and its parts need, and what the methods need that are defined
there. -/
theorem exists_gathers (surface : Surface) (n : Node) : ∃ inner : Needs,
    n.needs surface = inner.withDefinitions surface ∧
      inner.Gathers surface (n.ownNeeds surface) n.parts := by
  cases n with
  | empty => exact ⟨{}, rfl, .self {}⟩
  | comment => exact ⟨{}, rfl, .self {}⟩
  | children nodes => exact ⟨_, by rw [needs], gathers_nodes nodes⟩
  | call head arguments chain definitions =>
    refine ⟨_, by rw [needs], ?_⟩
    exact ((Needs.Gathers.self _).merge (gathers_arguments arguments) rfl).mergeNodes
      (gathers_nodes chain)

theorem definitions_ownNeeds_call (head : Head) (arguments : List (Argument Node))
    (chain : List Node) (definitions : List (String × Node)) :
    ((Node.call head arguments chain definitions).ownNeeds surface).definitions =
      Entries.putAll [] (definitions.map (definitionNeed surface)) := by
  rw [← definitionNeeds_eq]
  rfl

theorem mem_ownNeeds {n : Node} {d : String × Definition}
    (hd : d ∈ (n.ownNeeds surface).definitions) :
    ∃ e ∈ n.ownDefinitions, d = definitionNeed surface e := by
  cases n with
  | call head arguments chain definitions =>
    rw [definitions_ownNeeds_call] at hd
    obtain ⟨e, he, rfl⟩ := List.mem_map.1
      ((Entries.mem_of_mem_putAll hd).resolve_left List.not_mem_nil)
    exact ⟨e, he, rfl⟩
  | _ => cases hd

theorem mem_map_fst_ownNeeds {n : Node} {e : String × Node} (he : e ∈ n.ownDefinitions) :
    e.1 ∈ (n.ownNeeds surface).definitions.map (·.1) := by
  cases n with
  | call head arguments chain definitions =>
    rw [definitions_ownNeeds_call]
    refine Entries.mem_map_fst_putAll.2 (Or.inr ?_)
    rw [List.map_map]
    exact List.mem_map.2 ⟨e, he, by rw [Function.comp_apply, definitionNeed_eq]⟩
  | _ => cases he

/-! ## The methods of a tree -/

/-- Each method that is gathered is defined on a node of the tree. -/
theorem exists_of_mem_needs (n : Node) {d : String × Definition}
    (hd : d ∈ (n.needs surface).definitions) :
    ∃ m, n.Contains m ∧ ∃ e ∈ m.ownDefinitions, d = definitionNeed surface e := by
  obtain ⟨inner, hn, hg⟩ := n.exists_gathers surface
  rw [hn] at hd
  obtain hd | ⟨m, hm, hd⟩ := hg.definitions d hd
  · exact ⟨n, .refl, mem_ownNeeds hd⟩
  · obtain ⟨k, hk, he⟩ := exists_of_mem_needs m hd
    exact ⟨k, .head hm hk, he⟩
termination_by sizeOf n
decreasing_by exact sizeOf_lt_of_enters (Or.inl hm)

/-- There is one of each name. -/
theorem mem_map_fst_needs (surface : Surface) {n m : Node} (h : n.Contains m) {e : String × Node}
    (he : e ∈ m.ownDefinitions) : e.1 ∈ (n.needs surface).definitions.map (·.1) := by
  induction h using Relation.ReflTransGen.head_induction_on with
  | refl =>
    obtain ⟨inner, hn, hg⟩ := m.exists_gathers surface
    rw [hn]
    exact (hg.names e.1).2 (Or.inl (mem_map_fst_ownNeeds he))
  | @head n k hk _ ih =>
    obtain ⟨inner, hn, hg⟩ := n.exists_gathers surface
    rw [hn]
    exact (hg.names e.1).2 (Or.inr ⟨k, hk, ih⟩)

theorem definitionNeed_mem {n m : Node} (h : n.Unambiguous) (hm : n.Contains m)
    {e : String × Node} (he : e ∈ m.ownDefinitions) :
    definitionNeed surface e ∈ (n.needs surface).definitions := by
  obtain ⟨d, hd, hname⟩ := List.mem_map.1 (mem_map_fst_needs surface hm he)
  obtain ⟨k, hk, e', he', rfl⟩ := n.exists_of_mem_needs hd
  rw [definitionNeed_eq] at hname
  have hbody : e'.2 = e.2 := h k m hk.reaches hm.reaches e.1 _ _ (hname ▸ he') he
  have hee : e' = e := Prod.ext hname hbody
  rwa [← hee]

/-- **Methods.** They are those that are defined on the nodes of the tree. -/
theorem mem_definitions_iff {n : Node} (h : n.Unambiguous) (e : String × Node) :
    e ∈ n.definitions surface ↔ ∃ m, n.Contains m ∧ e ∈ m.ownDefinitions := by
  constructor
  · intro he
    obtain ⟨d, hd, rfl⟩ := List.mem_map.1 he
    obtain ⟨m, hm, e, hem, rfl⟩ := n.exists_of_mem_needs hd
    rw [definitionNeed_eq]
    exact ⟨m, hm, hem⟩
  · rintro ⟨m, hm, he⟩
    refine List.mem_map.2 ⟨_, definitionNeed_mem h hm he, ?_⟩
    rw [definitionNeed_eq]

/-! ## The imports of a tree -/

/-- The classes that a node needs imported by itself: for its call, for its arguments, and for the
types of the methods that are defined on it. -/
def ownImports (surface : Surface) : Node → List String
  | .call head arguments _ definitions =>
    head.imports ++ arguments.flatMap WrittenCall.argumentImports ++
      definitions.flatMap fun e => (e.2.typeImport? surface).toList
  | _ => []

def ownStaticImports : Node → List String
  | .call head .. => head.staticImports
  | _ => []

theorem mem_ownImports {n : Node} {i : String} : i ∈ n.ownImports surface ↔
    i ∈ (n.ownNeeds surface).imports ∨ ∃ e ∈ n.ownDefinitions, i ∈ e.2.typeImport? surface := by
  cases n with
  | call head arguments chain definitions =>
    simp [ownImports, ownNeeds, Needs.merge, ownDefinitions, or_assoc]
  | _ => simp [ownImports, ownNeeds, ownDefinitions]

theorem staticImports_ownNeeds (surface : Surface) (n : Node) :
    (n.ownNeeds surface).staticImports = n.ownStaticImports := by
  cases n with
  | call head arguments chain definitions => exact List.append_nil _
  | _ => rfl

theorem exists_definition_iff (surface : Surface) {n : Node} (h : n.Unambiguous)
    (P : Definition → Prop) :
    (∃ d ∈ (n.needs surface).definitions, P d.2) ↔
      ∃ m, n.Contains m ∧ ∃ e ∈ m.ownDefinitions, P (definitionNeed surface e).2 := by
  constructor
  · rintro ⟨d, hd, hp⟩
    obtain ⟨m, hm, e, he, rfl⟩ := n.exists_of_mem_needs hd
    exact ⟨m, hm, e, he, hp⟩
  · rintro ⟨m, hm, e, he, hp⟩
    exact ⟨_, definitionNeed_mem h hm he, hp⟩

theorem mem_imports_step {n : Node} (h : n.Unambiguous) (i : String) :
    i ∈ (n.needs surface).imports ↔ i ∈ (n.ownNeeds surface).imports ∨
      (∃ m ∈ n.parts, i ∈ (m.needs surface).imports) ∨
      ∃ m, n.Contains m ∧ ∃ e ∈ m.ownDefinitions,
        i ∈ e.2.typeImport? surface ∨ i ∈ (e.2.needs surface).imports := by
  have hd := exists_definition_iff surface h
    fun d => i ∈ d.body.typeImport? surface ∨ i ∈ d.imports
  simp only [definitionNeed_eq] at hd
  obtain ⟨inner, hn, hg⟩ := n.exists_gathers surface
  rw [← hd, hn]
  simp only [Needs.withDefinitions, List.mem_append, List.mem_flatMap, Option.mem_toList,
    hg.imports, or_assoc]
  rfl

theorem mem_staticImports_step {n : Node} (h : n.Unambiguous) (i : String) :
    i ∈ (n.needs surface).staticImports ↔ i ∈ n.ownStaticImports ∨
      (∃ m ∈ n.parts, i ∈ (m.needs surface).staticImports) ∨
      ∃ m, n.Contains m ∧ ∃ e ∈ m.ownDefinitions, i ∈ (e.2.needs surface).staticImports := by
  have hd := exists_definition_iff surface h fun d => i ∈ d.staticImports
  simp only [definitionNeed_eq] at hd
  obtain ⟨inner, hn, hg⟩ := n.exists_gathers surface
  rw [← hd, ← staticImports_ownNeeds surface, hn]
  simp only [Needs.withDefinitions, List.mem_append, List.mem_flatMap, hg.staticImports, or_assoc]

theorem mem_imports_iff {n : Node} (h : n.Unambiguous) (i : String) :
    i ∈ (n.needs surface).imports ↔ ∃ m, n.Reaches m ∧ i ∈ m.ownImports surface := by
  simp only [mem_ownImports]
  exact iff_exists_reaches (F := fun n => i ∈ (n.needs surface).imports)
    (O := fun n => i ∈ (n.ownNeeds surface).imports) (T := fun n => i ∈ n.typeImport? surface)
    (fun n h => mem_imports_step h i) h

theorem mem_staticImports_iff {n : Node} (h : n.Unambiguous) (i : String) :
    i ∈ (n.needs surface).staticImports ↔ ∃ m, n.Reaches m ∧ i ∈ m.ownStaticImports := by
  have hr := iff_exists_reaches (F := fun n => i ∈ (n.needs surface).staticImports)
    (O := fun n => i ∈ n.ownStaticImports) (T := fun _ => False)
    (fun n h => by simpa only [false_or] using mem_staticImports_step h i) h
  simpa only [and_false, exists_false, or_false] using hr

/-! ## Methods and imports together -/

/-- Every method that is defined in what a node reaches is one of its methods. -/
def DefinesAll (surface : Surface) (n : Node) : Prop :=
  ∀ m, n.Reaches m → ∀ e ∈ m.ownDefinitions, e ∈ n.definitions surface

/-- The methods of a node are all methods that it reaches exactly if they are closed: the methods of
each body are among them. -/
theorem definesAll_iff {n : Node} (h : n.Unambiguous) : n.DefinesAll surface ↔
    ∀ d ∈ n.definitions surface, ∀ e ∈ d.2.definitions surface, e ∈ n.definitions surface := by
  constructor
  · intro hall d hd e he
    obtain ⟨m, hm, hd⟩ := (mem_definitions_iff h d).1 hd
    have hb : n.Reaches d.2 := (transGen_of_mem hm hd).to_reflTransGen
    obtain ⟨k, hk, he⟩ := (mem_definitions_iff (h.of_reaches hb) e).1 he
    exact hall k (hb.trans hk.reaches) e he
  · -- along the way, all that the node at hand contains is a method of the root
    intro hclosed m hm
    have hkeep : ∀ k, m.Contains k → ∀ e ∈ k.ownDefinitions, e ∈ n.definitions surface := by
      induction hm with
      | refl => exact fun k hk e he => (mem_definitions_iff h e).2 ⟨k, hk, he⟩
      | @tail m m' hm hm' ih =>
        obtain hm' | ⟨name, hm'⟩ := hm'
        · exact fun k hk => ih k (.head hm' hk)
        · intro k hk e he
          have hb : n.Reaches m' := hm.tail (enters_of_mem hm')
          exact hclosed (name, m') (ih m .refl _ hm') e
            ((mem_definitions_iff (h.of_reaches hb) e).2 ⟨k, hk, he⟩)
    exact hkeep m .refl

/-- **Methods and imports.** Methods are gathered from what a tree contains, imports from what it
reaches, so that the bodies of methods count for these only. -/
theorem definitions_imports_iff {root : Node} (h : root.Unambiguous) :
    (∀ e, e ∈ root.definitions surface ↔ ∃ n, root.Contains n ∧ e ∈ n.ownDefinitions) ∧
      (∀ i, i ∈ root.imports surface ↔ ∃ n, root.Reaches n ∧ i ∈ n.ownImports surface) ∧
      (∀ i, i ∈ root.staticImports surface ↔ ∃ n, root.Reaches n ∧ i ∈ n.ownStaticImports) ∧
      (root.DefinesAll surface ↔ ∀ d ∈ root.definitions surface,
        ∀ e ∈ d.2.definitions surface, e ∈ root.definitions surface) := by
  refine ⟨mem_definitions_iff h, fun i => ?_, fun i => ?_, definesAll_iff h⟩
  · rw [imports, mem_sortedNames]
    exact mem_imports_iff h i
  · rw [staticImports, mem_sortedNames]
    exact mem_staticImports_iff h i

def pauseCall : Node := .call { name := some "constantTimer", target := "DslConstantTimer" }
  [.literal (.duration (some .second) none)] [] []

def innerFlow : Node := .call { name := some "fragment", target := "DslTestFragmentController" }
  [.children "ThreadGroupChild[]" [pauseCall]] [] []

def outerFlow : Node := .call { name := some "fragment", target := "DslTestFragmentController" }
  [.children "ThreadGroupChild[]" []] [] [("inner", innerFlow)]

/-- A plan with a method whose body has a method of its own. -/
def nestedPlan : Node := .call { name := some "testPlan", target := "DslTestPlan" }
  [.children "TestPlanChild[]" []] [] [("outer", outerFlow)]

theorem unambiguous_nestedPlan : nestedPlan.Unambiguous := by
  have hplan : ∀ k, nestedPlan.Enters k → k = outerFlow := by
    intro k hk
    simpa [Enters, parts, ownDefinitions, nestedPlan, Argument.nodes] using hk
  have houter : ∀ k, outerFlow.Enters k → k = innerFlow := by
    intro k hk
    simpa [Enters, parts, ownDefinitions, outerFlow, Argument.nodes] using hk
  have hinner : ∀ k, innerFlow.Enters k → k = pauseCall := by
    intro k hk
    simpa [Enters, parts, ownDefinitions, innerFlow, Argument.nodes] using hk
  have hpause : ∀ k, ¬ pauseCall.Enters k := by
    simp [Enters, parts, ownDefinitions, pauseCall, Argument.nodes]
  refine unambiguous_of_nodup [nestedPlan, outerFlow, innerFlow, pauseCall]
    (List.mem_cons_self ..) ?_ (by decide)
  intro m hm k hk
  simp only [List.mem_cons, List.not_mem_nil, or_false] at hm ⊢
  obtain rfl | rfl | rfl | rfl := hm
  · exact Or.inr (Or.inl (hplan k hk))
  · exact Or.inr (Or.inr (Or.inl (houter k hk)))
  · exact Or.inr (Or.inr (Or.inr (hinner k hk)))
  · exact absurd hk (hpause k)

theorem definitions_nestedPlan : nestedPlan.definitions {} = [("outer", outerFlow)] := rfl

theorem definitions_imports_iff_nestedPlan : nestedPlan.Unambiguous ∧
    (∀ e, e ∈ nestedPlan.definitions {} ↔
      ∃ n, nestedPlan.Contains n ∧ e ∈ n.ownDefinitions) ∧
    (∀ i, i ∈ nestedPlan.imports {} ↔ ∃ n, nestedPlan.Reaches n ∧ i ∈ n.ownImports {}) ∧
    (∀ i, i ∈ nestedPlan.staticImports {} ↔
      ∃ n, nestedPlan.Reaches n ∧ i ∈ n.ownStaticImports) ∧
    (nestedPlan.DefinesAll {} ↔ ∀ d ∈ nestedPlan.definitions {}, ∀ e ∈ d.2.definitions {},
      e ∈ nestedPlan.definitions {}) :=
  ⟨unambiguous_nestedPlan, definitions_imports_iff unambiguous_nestedPlan⟩

/-- The import of the inner method is one of the plan, but the method is not. -/
theorem not_definesAll_nestedPlan : nestedPlan.Unambiguous ∧ ¬ nestedPlan.DefinesAll {} ∧
    nestedPlan.Reaches outerFlow ∧ ("inner", innerFlow) ∈ outerFlow.ownDefinitions ∧
    ("inner", innerFlow) ∉ nestedPlan.definitions {} ∧
    "java.time.Duration" ∈ nestedPlan.imports {} := by
  have hr : nestedPlan.Reaches outerFlow := .single (Or.inr ⟨"outer", List.mem_cons_self ..⟩)
  have hm : ("inner", innerFlow) ∈ outerFlow.ownDefinitions := List.mem_cons_self ..
  have hnot : ("inner", innerFlow) ∉ nestedPlan.definitions {} := by
    rw [definitions_nestedPlan]
    simp
  refine ⟨unambiguous_nestedPlan, fun h => hnot (h _ hr _ hm), hr, hm, hnot, ?_⟩
  rw [imports, mem_sortedNames]
  exact List.mem_cons_self ..

end Node

end PlanCode
