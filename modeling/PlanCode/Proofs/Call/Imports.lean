import PlanCode.Proofs.Call.Slot

/-!
# The imports of written calls

What a tree of calls needs imported is told without laying it out, by going over
all its nodes, whether they are written or not. `Node.written` lists the calls
that the layout writes, commented out or not. What is not written needs nothing,
so both agree.

* `written_of_nodeText_eq_nil`: no call is written where there is no text.
* `covers_needs`: a tree that defines no method needs what its written calls need.
* `mem_imports_call`: the same of a call with methods, and what these need.
-/
namespace PlanCode

open PlanCode.Layout

/-- A call as it is written, by itself or chained to another one. -/
structure WrittenCall where
  head : Head
  arguments : List (Argument Node)

namespace WrittenCall

/-- What an argument needs imported by itself; nothing of an ignored one is written. -/
def argumentImports : Argument Node → List String
  | .literal v => if v.isIgnored then [] else v.imports
  | _ => []

/-- The classes that the call needs imported, whatever is in it. -/
def imports (c : WrittenCall) : List String := c.head.imports ++ c.arguments.flatMap argumentImports

end WrittenCall

namespace Node

mutual

/-- The calls in the code of a node at an indent. -/
def written (indent : List Char) : Node → List WrittenCall
  | .call head arguments chain _ =>
    let inner := indent ++ indentStep
    ⟨head, arguments⟩ :: (writtenArguments inner arguments ++ writtenNodes inner chain)
  | .children nodes => writtenNodes (indent ++ indentStep) nodes
  | _ => []

def writtenArgument (indent : List Char) : Argument Node → List WrittenCall
  | .children _ nodes => writtenNodes indent nodes
  | _ => []

def writtenArguments (indent : List Char) : List (Argument Node) → List WrittenCall
  | [] => []
  | a :: rest => writtenArgument indent a ++ writtenArguments indent rest

/-- A node without code is left out. -/
def writtenNodes (indent : List Char) : List Node → List WrittenCall
  | [] => []
  | n :: rest =>
    (if (nodeText indent n).isEmpty then [] else written indent n) ++ writtenNodes indent rest

end

/-! ## Text and calls -/

theorem writtenNodes_of_nodeParts {indent : List Char} {nodes : List Node}
    (h : nodeParts indent nodes = []) : writtenNodes indent nodes = [] := by
  induction nodes with
  | nil => rfl
  | cons n rest ih =>
    rw [nodeParts] at h
    rw [writtenNodes]
    split at h
    · rename_i he
      rw [if_pos he, ih h]
      rfl
    · cases h

theorem joinLine_ne_nil (rest : List Char) : joinLine rest ≠ [] := by
  unfold joinLine
  split <;> simp

theorem argumentList_childLines {indent : List Char} {parts : List (List Char)}
    (h : argumentList [childLines indent parts] = []) : parts = [] := by
  cases parts with
  | nil => rfl
  | cons part parts =>
    unfold argumentList childLines at h
    rw [if_neg (by simp), List.intercalate_singleton, List.cons_append, List.cons_append,
      tightenCommas] at h
    · exact absurd h (joinLine_ne_nil _)
    · simp

theorem callText_ne_nil (head : Head) (indent arguments chain : List Char) :
    callText head indent arguments chain ≠ [] := by
  unfold callText
  dsimp only
  split
  · simp [commentOut]
  · split <;> simp

/-- A node without text writes no call. -/
theorem written_of_nodeText_eq_nil {indent : List Char} {n : Node} (h : nodeText indent n = []) :
    n.written indent = [] := by
  cases n with
  | empty => rfl
  | comment text => rfl
  | call head arguments chain definitions =>
    rw [nodeText] at h
    exact (callText_ne_nil _ _ _ _ h).elim
  | children nodes =>
    rw [nodeText] at h
    unfold childrenText at h
    split at h
    · rename_i he
      rw [List.isEmpty_iff] at he
      exact writtenNodes_of_nodeParts (argumentList_childLines he)
    · simp at h

theorem writtenNodes_eq (indent : List Char) (nodes : List Node) :
    writtenNodes indent nodes = nodes.flatMap (written indent) := by
  induction nodes with
  | nil => rfl
  | cons n rest ih =>
    rw [writtenNodes, ih, List.flatMap_cons]
    split
    · rename_i he
      rw [written_of_nodeText_eq_nil (List.isEmpty_iff.1 he)]
    · rfl

theorem writtenArguments_eq (indent : List Char) (arguments : List (Argument Node)) :
    writtenArguments indent arguments = (arguments.flatMap (·.nodes)).flatMap (written indent) := by
  induction arguments with
  | nil => rfl
  | cons a rest ih =>
    rw [writtenArguments, ih, List.flatMap_cons, List.flatMap_append]
    congr 1
    cases a with
    | children type nodes => exact writtenNodes_eq indent nodes
    | _ => rfl

end Node

/-! ## What written calls need -/

/-- What is needed is what the given classes and calls are needed for. -/
structure Needs.Covers (n : Needs) (own : List String) (calls : List WrittenCall) : Prop where
  imports : ∀ i, i ∈ n.imports ↔ i ∈ own ∨ ∃ c ∈ calls, i ∈ c.imports
  staticImports : ∀ i, i ∈ n.staticImports ↔ ∃ c ∈ calls, i ∈ c.head.staticImports

theorem Needs.Covers.merge {a b : Needs} {own own' : List String} {calls calls' : List WrittenCall}
    (h : a.Covers own calls) (h' : b.Covers own' calls') :
    (a.merge b).Covers (own ++ own') (calls ++ calls') where
  imports i := by
    simp only [Needs.merge, List.mem_append, h.imports, h'.imports, or_and_right, exists_or]
    exact or_or_or_comm
  staticImports i := by
    simp only [Needs.merge, List.mem_append, h.staticImports, h'.staticImports, or_and_right,
      exists_or]

theorem Needs.covers_empty : ({} : Needs).Covers [] [] := ⟨by simp, by simp⟩

/-- Without methods there is nothing to add. -/
theorem Needs.withDefinitions_of_nil {surface : Surface} {n : Needs}
    (h : (n.withDefinitions surface).definitions = []) : n.withDefinitions surface = n := by
  have hd : n.definitions = [] := h
  unfold withDefinitions
  rw [hd, List.flatMap_nil, List.flatMap_nil, List.append_nil, List.append_nil, ← hd]

theorem Entries.putAll_eq_nil {α : Type} {old new : Entries α} (h : putAll old new = []) :
    old = [] ∧ new = [] := by
  have hnames := @mem_map_fst_putAll _ old new
  rw [h] at hnames
  constructor
  · refine List.eq_nil_iff_forall_not_mem.2 fun e he => ?_
    exact List.not_mem_nil ((@hnames e.1).2 (Or.inl (List.mem_map_of_mem he)))
  · refine List.eq_nil_iff_forall_not_mem.2 fun e he => ?_
    exact List.not_mem_nil ((@hnames e.1).2 (Or.inr (List.mem_map_of_mem he)))

namespace Node

variable {surface : Surface}

/-- No method is registered anywhere in a node. -/
def Plain (surface : Surface) (n : Node) : Prop := (n.needs surface).definitions = []

theorem plain_nodes {nodes : List Node} (h : ∀ n ∈ nodes, n.Plain surface) :
    (nodeNeeds surface nodes).definitions = [] := by
  induction nodes with
  | nil => rfl
  | cons n rest ih =>
    rw [List.forall_mem_cons] at h
    rw [nodeNeeds, Needs.merge, ih h.2]
    exact h.1

theorem plain_arguments {arguments : List (Argument Node)}
    (h : ∀ a ∈ arguments, ∀ n ∈ a.nodes, n.Plain surface) :
    (argumentNeeds surface arguments).definitions = [] := by
  induction arguments with
  | nil => rfl
  | cons a rest ih =>
    rw [List.forall_mem_cons] at h
    rw [argumentNeeds, Needs.merge, ih h.2]
    cases a with
    | literal v =>
      rw [argumentNeed]
      split <;> rfl
    | bare => rfl
    | children type nodes => exact plain_nodes h.1

theorem plain_children {nodes : List Node} (h : ∀ n ∈ nodes, n.Plain surface) :
    (Node.children nodes).Plain surface := plain_nodes h

/-- The methods registered in a call whose parts register none are its own. -/
theorem definitions_call {head : Head} {arguments : List (Argument Node)} {chain : List Node}
    {definitions : List (String × Node)}
    (ha : ∀ a ∈ arguments, ∀ n ∈ a.nodes, n.Plain surface) (hc : ∀ n ∈ chain, n.Plain surface) :
    ((Node.call head arguments chain definitions).needs surface).definitions =
      Entries.putAll [] (definitionNeeds surface definitions) := by
  rw [needs]
  simp only [Needs.withDefinitions, Needs.merge, plain_arguments ha, plain_nodes hc]
  rfl

theorem bodies_definitionNeeds (definitions : List (String × Node)) :
    (definitionNeeds surface definitions).map (fun (name, d) => (name, d.body)) = definitions := by
  induction definitions with
  | nil => rfl
  | cons d rest ih =>
    obtain ⟨name, body⟩ := d
    rw [definitionNeeds, List.map_cons, ih]
    rfl

/-- A fresh call that nodes were put into has no method in its parts. -/
theorem plain_of_holds {d : Draft Node} (hd : d.Fresh) {commented : Bool}
    {definitions : List (String × Node)} {nodes : List Node} {n : Node}
    (h : Holds { d.setCommented commented with definitions }.toNode nodes n)
    (hn : ∀ n ∈ nodes, n.Plain surface) :
    ∃ arguments chain, n = .call { d.head with commented } arguments chain definitions ∧
      (∀ a ∈ arguments, ∀ n ∈ a.nodes, n.Plain surface) ∧ ∀ n ∈ chain, n.Plain surface := by
  have arguments_ : ∀ a ∈ d.arguments, ∀ n ∈ a.nodes, n.Plain surface := by
    intro a ha n hm
    rw [hd.arguments a ha] at hm
    cases hm
  have chain_ : ∀ slot, ∀ n ∈ d.chain.map (Draft.segmentNode slot), n.Plain surface := by
    intro slot n hm
    obtain ⟨s, hs, rfl⟩ := List.mem_map.1 hm
    have hb := hd.chain s hs
    cases s with
    | call name target arguments =>
      refine definitions_call (fun a ha n hm => ?_) (by simp)
      rw [hb a ha] at hm
      cases hm
    | comment => rfl
    | node => exact hb.elim
    | slot => exact hb.elim
    | borrowed => exact hb.elim
  rw [Draft.toNode_eq] at h
  obtain ⟨rfl, rfl⟩ | ⟨init, type, ha, hc, rfl⟩ | rfl := holds_call h
  · exact ⟨_, _, rfl, arguments_, chain_ _⟩
  · refine ⟨_, _, rfl, fun a hm => ?_, by simp⟩
    rcases List.mem_append.1 hm with hm | hm
    · have ha' : d.arguments = init ++ [.children type []] := ha
      exact arguments_ a (by rw [ha']; exact List.mem_append_left _ hm)
    · rw [List.mem_singleton.1 hm]
      exact hn
  · refine ⟨_, _, rfl, arguments_, fun m hm => ?_⟩
    rcases List.mem_append.1 hm with hm | hm
    · exact chain_ _ m hm
    · rw [List.mem_singleton.1 hm]
      exact plain_children hn

/-- The methods of a fresh call that nodes were put into are its own. -/
theorem definitions_of_holds {d : Draft Node} (hd : d.Fresh) {commented : Bool}
    {definitions : List (String × Node)} {nodes : List Node} {n : Node}
    (h : Holds { d.setCommented commented with definitions }.toNode nodes n)
    (hn : ∀ n ∈ nodes, n.Plain surface) :
    (n.needs surface).definitions = Entries.putAll [] (definitionNeeds surface definitions) := by
  obtain ⟨arguments, chain, rfl, ha, hc⟩ := plain_of_holds hd h hn
  exact definitions_call ha hc

/-! ## Imports of trees -/

/-- What a call needs by itself with its arguments and its chain. -/
theorem covers_call {indent : List Char} (head : Head) (definitions : List (String × Node))
    {arguments : List (Argument Node)} {chain : List Node}
    (ha : (argumentNeeds surface arguments).Covers (arguments.flatMap WrittenCall.argumentImports)
      (writtenArguments (indent ++ indentStep) arguments))
    (hc : (nodeNeeds surface chain).Covers [] (writtenNodes (indent ++ indentStep) chain)) :
    ((({ imports := head.imports, staticImports := head.staticImports,
         definitions := Entries.putAll [] (definitionNeeds surface definitions) } : Needs).merge
      (argumentNeeds surface arguments)).merge (nodeNeeds surface chain)).Covers []
      ((Node.call head arguments chain definitions).written indent) := by
  have hm := ha.merge hc
  rw [written]
  constructor
  · intro i
    have hi := hm.imports i
    simp only [Needs.merge, List.mem_append, List.append_nil] at hi ⊢
    simp only [List.mem_cons, exists_eq_or_imp, WrittenCall.imports, List.mem_append,
      List.not_mem_nil, false_or] at hi ⊢
    rw [or_assoc, hi, or_assoc]
  · intro i
    have hi := hm.staticImports i
    simp only [Needs.merge, List.mem_append] at hi ⊢
    simp only [List.mem_cons, exists_eq_or_imp, List.mem_append] at hi ⊢
    rw [or_assoc, hi]

mutual

/-- **Needs.** A tree that defines no method needs what its written calls need. -/
theorem covers_needs (indent : List Char) : ∀ n : Node, n.Plain surface →
    (n.needs surface).Covers [] (n.written indent)
  | .empty, _ => Needs.covers_empty
  | .comment _, _ => Needs.covers_empty
  | .call head arguments chain definitions, h => by
    unfold Plain at h
    rw [needs] at h ⊢
    rw [Needs.withDefinitions_of_nil h]
    exact covers_call head definitions (covers_arguments _ arguments
      (Entries.putAll_eq_nil (Entries.putAll_eq_nil h).1).2)
      (covers_nodes _ chain (Entries.putAll_eq_nil h).2)
  | .children nodes, h => by
    unfold Plain at h
    rw [needs] at h ⊢
    rw [Needs.withDefinitions_of_nil h]
    exact covers_nodes _ nodes h

theorem covers_argument (indent : List Char) : ∀ a : Argument Node,
    (argumentNeed surface a).definitions = [] →
    (argumentNeed surface a).Covers (WrittenCall.argumentImports a) (writtenArgument indent a)
  | .literal v, _ => by
    rw [argumentNeed, WrittenCall.argumentImports]
    split
    · exact Needs.covers_empty
    · exact ⟨by simp [writtenArgument], by simp [writtenArgument]⟩
  | .bare .., _ => Needs.covers_empty
  | .children _ nodes, h => covers_nodes indent nodes h

theorem covers_arguments (indent : List Char) : ∀ arguments : List (Argument Node),
    (argumentNeeds surface arguments).definitions = [] →
    (argumentNeeds surface arguments).Covers (arguments.flatMap WrittenCall.argumentImports)
      (writtenArguments indent arguments)
  | [], _ => Needs.covers_empty
  | a :: rest, h => by
    rw [argumentNeeds] at h ⊢
    obtain ⟨ha, hr⟩ := Entries.putAll_eq_nil h
    exact (covers_argument indent a ha).merge (covers_arguments indent rest hr)

theorem covers_nodes (indent : List Char) : ∀ nodes : List Node,
    (nodeNeeds surface nodes).definitions = [] →
    (nodeNeeds surface nodes).Covers [] (writtenNodes indent nodes)
  | [], _ => Needs.covers_empty
  | n :: rest, h => by
    rw [nodeNeeds] at h ⊢
    obtain ⟨hn, hr⟩ := Entries.putAll_eq_nil h
    rw [writtenNodes]
    have hm := (covers_needs indent n hn).merge (covers_nodes indent rest hr)
    split
    · rename_i he
      rwa [written_of_nodeText_eq_nil (List.isEmpty_iff.1 he)] at hm
    · exact hm

end

/-! ## Calls with methods -/

theorem definitionNeeds_eq (definitions : List (String × Node)) :
    definitionNeeds surface definitions = definitions.map (definitionNeed surface) := by
  induction definitions with
  | nil => rfl
  | cons d rest ih => rw [definitionNeeds, ih, List.map_cons]

theorem definitionNeed_eq (e : String × Node) : definitionNeed surface e =
    (e.1, ⟨e.2, (e.2.needs surface).imports, (e.2.needs surface).staticImports⟩) := by
  obtain ⟨name, body⟩ := e
  rw [definitionNeed]

/-- The class that declaring a method with this body needs imported. -/
def typeImport? (surface : Surface) (n : Node) : Option String :=
  (n.target?.bind surface.find?).map (·.qualifiedName)

section

variable {head : Head} {arguments : List (Argument Node)} {chain : List Node}
  {definitions : List (String × Node)}

/-- The methods of a call whose parts have none, with what they need. -/
theorem mem_definitions_call (ha : ∀ a ∈ arguments, ∀ n ∈ a.nodes, n.Plain surface)
    (hc : ∀ n ∈ chain, n.Plain surface) (P : Definition → Prop) :
    (∃ d ∈ ((Node.call head arguments chain definitions).needs surface).definitions, P d.2) ↔
      ∃ d ∈ (Node.call head arguments chain definitions).definitions surface,
        P ⟨d.2, (d.2.needs surface).imports, (d.2.needs surface).staticImports⟩ := by
  unfold Node.definitions
  rw [definitions_call ha hc]
  have hneed : ∀ d ∈ Entries.putAll [] (definitionNeeds surface definitions),
      d.2 = ⟨d.2.body, (d.2.body.needs surface).imports,
        (d.2.body.needs surface).staticImports⟩ := by
    intro d hd
    rw [definitionNeeds_eq] at hd
    obtain ⟨e, -, rfl⟩ :=
      List.mem_map.1 ((Entries.mem_of_mem_putAll hd).resolve_left (by simp))
    rw [definitionNeed_eq]
  constructor
  · rintro ⟨d, hd, hp⟩
    rw [hneed d hd] at hp
    exact ⟨(d.1, d.2.body), List.mem_map.2 ⟨d, hd, rfl⟩, hp⟩
  · rintro ⟨m, hm, hp⟩
    obtain ⟨d, hd, rfl⟩ := List.mem_map.1 hm
    refine ⟨d, hd, ?_⟩
    rw [hneed d hd]
    exact hp

/-- **Calls with methods.** A call whose parts define no method needs what its written calls need,
and for each of its methods the class of its type and what its body needs. -/
theorem mem_imports_call (ha : ∀ a ∈ arguments, ∀ n ∈ a.nodes, n.Plain surface)
    (hc : ∀ n ∈ chain, n.Plain surface) (indent : List Char) (i : String) :
    i ∈ ((Node.call head arguments chain definitions).needs surface).imports ↔
      (∃ c ∈ (Node.call head arguments chain definitions).written indent, i ∈ c.imports) ∨
      ∃ d ∈ (Node.call head arguments chain definitions).definitions surface,
        i ∈ d.2.typeImport? surface ∨ i ∈ (d.2.needs surface).imports := by
  have hcall := (covers_call head definitions (covers_arguments (indent ++ indentStep) arguments
    (plain_arguments ha)) (covers_nodes _ chain (plain_nodes hc))).imports i
  have hdefinitions := @mem_definitions_call surface head arguments chain definitions ha hc
    fun d => i ∈ d.body.typeImport? surface ∨ i ∈ d.imports
  rw [← hdefinitions, needs]
  simp only [Needs.withDefinitions, List.mem_append, List.mem_flatMap, Option.mem_toList]
  rw [hcall]
  simp [typeImport?]

theorem mem_staticImports_call (ha : ∀ a ∈ arguments, ∀ n ∈ a.nodes, n.Plain surface)
    (hc : ∀ n ∈ chain, n.Plain surface) (indent : List Char) (i : String) :
    i ∈ ((Node.call head arguments chain definitions).needs surface).staticImports ↔
      (∃ c ∈ (Node.call head arguments chain definitions).written indent,
        i ∈ c.head.staticImports) ∨
      ∃ d ∈ (Node.call head arguments chain definitions).definitions surface,
        i ∈ (d.2.needs surface).staticImports := by
  have hcall := (covers_call head definitions (covers_arguments (indent ++ indentStep) arguments
    (plain_arguments ha)) (covers_nodes _ chain (plain_nodes hc))).staticImports i
  have hdefinitions := @mem_definitions_call surface head arguments chain definitions ha hc
    fun d => i ∈ d.staticImports
  rw [← hdefinitions, needs]
  simp only [Needs.withDefinitions, List.mem_append, List.mem_flatMap]
  rw [hcall]

end

end Node
end PlanCode
