import PlanCode.Proofs.Call.Draft

/-!
# The children of a call

A draft that nothing was put into yet is `Fresh`. Its children end up in one
place, in the order in which they were added, and the rest of it stays what it
was: `Filled` relates a draft to the fresh one it grew from, and `Holds` says
the same of their nodes.

* `yields_fresh_chainCall`: chaining keeps drafts fresh.
* `yields_filled_addChild`: a child that is added comes behind the others.
* `holds_toNode`: the node of a filled draft is that of the fresh one with the children in it.
* `nested_eq_of_holds`: there are no other nodes in the finished call.
* `headsWhere_call`: the calls of a tree, told by what is nested in its root.
-/
namespace PlanCode

/-- The nodes among the children of an argument. -/
def Argument.nodes {κ : Type} : Argument κ → List κ
  | .children _ nodes => nodes
  | _ => []

namespace Node

/-- The children in a chained node, in its slot or in its arguments. -/
def nestedInChained : Node → List Node
  | .call _ arguments _ _ => arguments.flatMap (·.nodes)
  | .children nodes => nodes
  | _ => []

/-- All children that are somewhere in a call: in its arguments and in what is chained to it. -/
def nested : Node → List Node
  | .call _ arguments chain _ => arguments.flatMap (·.nodes) ++ chain.flatMap nestedInChained
  | .children nodes => nodes
  | _ => []

/-- A call with children put into it: in its last argument, which was free for them, when nothing is
chained to it, or else in one segment at the end of its chain. -/
inductive Holds : Node → List Node → Node → Prop where
  | nothing (n : Node) : Holds n [] n
  | own (head : Head) (arguments : List (Argument Node)) (type : String) (nodes : List Node)
    (definitions : List (String × Node)) :
    Holds (.call head (arguments ++ [.children type []]) [] definitions) nodes
      (.call head (arguments ++ [.children type nodes]) [] definitions)
  | chained (head : Head) (arguments : List (Argument Node)) (chain nodes : List Node)
    (definitions : List (String × Node)) :
    Holds (.call head arguments chain definitions) nodes
      (.call head arguments (chain ++ [.children nodes]) definitions)

theorem holds_call {head : Head} {arguments : List (Argument Node)} {chain nodes : List Node}
    {definitions : List (String × Node)} {n : Node}
    (h : Holds (.call head arguments chain definitions) nodes n) :
    (nodes = [] ∧ n = .call head arguments chain definitions) ∨
      (∃ init type, arguments = init ++ [.children type []] ∧ chain = [] ∧
        n = .call head (init ++ [.children type nodes]) [] definitions) ∨
      n = .call head arguments (chain ++ [.children nodes]) definitions := by
  cases h with
  | nothing => exact Or.inl ⟨rfl, rfl⟩
  | own _ init type => exact Or.inr (Or.inl ⟨init, type, rfl, rfl, rfl⟩)
  | chained => exact Or.inr (Or.inr rfl)

/-- A call without children has those that are put into it. -/
theorem nested_eq_of_holds {start n : Node} {nodes : List Node} (h : Holds start nodes n)
    (hs : start.nested = []) : n.nested = nodes := by
  cases h with
  | nothing => exact hs
  | own head arguments type nodes =>
    rw [nested, List.flatMap_nil, List.append_nil, List.flatMap_append,
      List.append_eq_nil_iff] at hs
    rw [nested, List.flatMap_nil, List.append_nil, List.flatMap_append, hs.1]
    simp [Argument.nodes]
  | chained head arguments chain nodes =>
    rw [nested] at hs
    rw [nested, List.flatMap_append, ← List.append_assoc, hs]
    simp [nestedInChained]

/-! ## The calls of a tree -/

mutual

/-- The heads of the calls of a tree, a call before those in it. Calls that are chained to another
one belong to it, and nothing is told of what is in a call that the test is false of. -/
def headsWhere (p : Head → Bool) : Node → List Head
  | .call head arguments chain _ =>
    if p head then head :: (argumentHeads p arguments ++ chainHeads p chain) else []
  | .children nodes => nodeHeads p nodes
  | _ => []

def argumentHead (p : Head → Bool) : Argument Node → List Head
  | .children _ nodes => nodeHeads p nodes
  | _ => []

def argumentHeads (p : Head → Bool) : List (Argument Node) → List Head
  | [] => []
  | a :: rest => argumentHead p a ++ argumentHeads p rest

def chainedHeads (p : Head → Bool) : Node → List Head
  | .call _ arguments _ _ => argumentHeads p arguments
  | .children nodes => nodeHeads p nodes
  | _ => []

def chainHeads (p : Head → Bool) : List Node → List Head
  | [] => []
  | n :: rest => chainedHeads p n ++ chainHeads p rest

def nodeHeads (p : Head → Bool) : List Node → List Head
  | [] => []
  | n :: rest => headsWhere p n ++ nodeHeads p rest

end

/-- All calls of a tree. -/
def heads (n : Node) : List Head := n.headsWhere fun _ => true

/-- The calls of a tree outside of what is commented out. -/
def liveHeads (n : Node) : List Head := n.headsWhere fun head => !head.commented

variable {p : Head → Bool}

theorem nodeHeads_eq (nodes : List Node) : nodeHeads p nodes = nodes.flatMap (headsWhere p) := by
  induction nodes with
  | nil => rfl
  | cons n rest ih => rw [nodeHeads, ih, List.flatMap_cons]

theorem argumentHeads_eq (arguments : List (Argument Node)) :
    argumentHeads p arguments = (arguments.flatMap (·.nodes)).flatMap (headsWhere p) := by
  induction arguments with
  | nil => rfl
  | cons a rest ih =>
    rw [argumentHeads, ih, List.flatMap_cons, List.flatMap_append]
    congr 1
    cases a with
    | children type nodes => exact nodeHeads_eq nodes
    | _ => rfl

theorem chainHeads_eq (chain : List Node) :
    chainHeads p chain = (chain.flatMap nestedInChained).flatMap (headsWhere p) := by
  induction chain with
  | nil => rfl
  | cons n rest ih =>
    rw [chainHeads, ih, List.flatMap_cons, List.flatMap_append]
    congr 1
    cases n with
    | call _ arguments => exact argumentHeads_eq arguments
    | children nodes => exact nodeHeads_eq nodes
    | _ => rfl

/-- The calls of a tree are its root and those of what is nested in the root. -/
theorem headsWhere_call (head : Head) (arguments : List (Argument Node)) (chain : List Node)
    (definitions : List (String × Node)) :
    (Node.call head arguments chain definitions).headsWhere p =
      if p head then head ::
        (Node.call head arguments chain definitions).nested.flatMap (headsWhere p) else [] := by
  rw [headsWhere, argumentHeads_eq, chainHeads_eq, nested, List.flatMap_append]

end Node

namespace Draft

/-! ## Fresh drafts -/

/-- A chained segment that no child is in. -/
def isBare : Segment Node → Prop
  | .call _ _ arguments => ∀ a ∈ arguments, a.nodes = []
  | .comment _ => True
  | _ => False

/-- A draft that was started and chained only. -/
structure Fresh (d : Draft Node) : Prop where
  live : d.head.commented = false
  arguments : ∀ a ∈ d.arguments, a.nodes = []
  chain : ∀ s ∈ d.chain, isBare s
  slot : d.slot = .undecided
  definitions : d.definitions = []

theorem fresh_start {head : Head} (hh : head.commented = false) {arguments : List (Argument Node)}
    (ha : ∀ a ∈ arguments, a.nodes = []) : Fresh { head, arguments } :=
  ⟨hh, ha, by simp, rfl, rfl⟩

theorem fresh_append {d : Draft Node} (h : d.Fresh) {s : Segment Node} (hs : isBare s) :
    (d.append s).Fresh where
  live := h.live
  arguments := h.arguments
  chain t ht := by
    rw [append, List.mem_append, List.mem_singleton] at ht
    rcases ht with ht | rfl
    · exact h.chain t ht
    · exact hs
  slot := h.slot
  definitions := h.definitions

theorem setCommented_of_fresh {d : Draft Node} (h : d.Fresh) : d.setCommented false = d := by
  rw [← h.live]
  rfl

/-- A call of the factory starts fresh, and imports the class of its method. -/
theorem yields_fresh_ofFactory {surface : Surface} {names : List String}
    {arguments : List (Argument Node)} (ha : ∀ a ∈ arguments, a.nodes = []) :
    Yields (ofFactory surface names arguments)
      fun d => d.Fresh ∧ d.head.staticImports ≠ [] := by
  unfold ofFactory
  split
  · exact yields_ok ⟨fresh_start rfl ha, by simp [ofMethod]⟩
  · exact yields_error _

/-- Chaining keeps drafts fresh, and their heads. -/
theorem yields_fresh_chainCall {surface : Surface} {d : Draft Node} (h : d.Fresh) {name : String}
    {arguments : List (Argument Node)} (ha : ∀ a ∈ arguments, a.nodes = []) :
    Yields (chainCall surface d name arguments) fun d' => d'.Fresh ∧ d'.head = d.head := by
  intro d' hd
  obtain ⟨-, rfl⟩ | ⟨target, given, rfl | ⟨rfl, -⟩, rfl⟩ := chainCall_cases hd
  · exact ⟨h, rfl⟩
  · exact ⟨fresh_append h ha, rfl⟩
  · exact ⟨fresh_append h (by simp [isBare]), rfl⟩

theorem nestedInChained_segmentNode {s : Segment Node} (hs : isBare s) (nodes : List Node) :
    (segmentNode nodes s).nestedInChained = [] := by
  cases s with
  | call name target arguments => exact List.flatMap_eq_nil_iff.2 hs
  | comment => rfl
  | node => exact hs.elim
  | slot => exact hs.elim
  | borrowed => exact hs.elim

/-- A fresh draft has no children. -/
theorem nested_toNode_of_fresh {d : Draft Node} (h : d.Fresh) : d.toNode.nested = [] := by
  rw [toNode_eq, Node.nested, List.append_eq_nil_iff]
  constructor
  · exact List.flatMap_eq_nil_iff.2 h.arguments
  · rw [List.flatMap_map, List.flatMap_eq_nil_iff]
    exact fun s hs => nestedInChained_segmentNode (h.chain s hs) _

/-! ## Filled drafts -/

/-- A draft that grew from another one by being given children. -/
inductive Filled (start : Draft Node) : List Node → Draft Node → Prop where
  | undecided : Filled start [] start
  | own {init : List (Argument Node)} {type : String} (nodes : List Node)
    (ha : start.arguments = init ++ [.children type []]) (hc : start.chain = []) :
    Filled start nodes { start with arguments := init ++ [.children type nodes], slot := .own }
  | chained (type : String) (nodes : List Node) : Filled start nodes
    { start with chain := start.chain ++ [.slot], slot := .chained type nodes }

theorem filled_define {start d : Draft Node} {nodes : List Node} (h : Filled start nodes d)
    (name : String) (n : Node) : Filled (start.define name n) nodes (d.define name n) := by
  cases h with
  | undecided => exact .undecided
  | own nodes ha hc => exact .own nodes ha hc
  | chained type nodes => exact .chained type nodes

/-- **One more child.** It comes behind the others, wherever these are. -/
theorem yields_filled_addChild {surface : Surface} {start d : Draft Node}
    (hf : ∀ a ∈ start.arguments, a.nodes = []) (hs : start.slot = .undecided) {nodes : List Node}
    (h : Filled start nodes d) (n : Node) :
    Yields (d.addChild surface n) (Filled start (nodes ++ [n])) := by
  unfold addChild
  cases h with
  | own nodes ha hc =>
    refine yields_ok ?_
    unfold mapSlot
    simp only [List.getLast?_concat, List.dropLast_concat]
    exact .own _ ha hc
  | chained type nodes => exact yields_ok (.chained type _)
  | undecided =>
    unfold openSlot
    rw [hs]
    dsimp only
    split
    · rename_i type given hc hl
      obtain ⟨init, ha⟩ := List.getLast?_eq_some_iff.1 hl
      obtain rfl : given = [] := hf _ (List.mem_of_getLast? hl)
      refine yields_ok ?_
      unfold mapSlot
      simp only [ha, List.getLast?_concat, List.dropLast_concat]
      exact .own [n] ha hc
    · split
      · exact yields_error _
      · exact yields_error _
      · exact yields_ok (.chained _ [n])

/-- The node of a filled draft is that of the fresh one with the children in it. -/
theorem holds_toNode {start d : Draft Node} {nodes : List Node}
    (hc : ∀ s ∈ start.chain, isBare s) (h : Filled start nodes d) :
    Node.Holds start.toNode nodes d.toNode := by
  have chain_ : ∀ slot, start.chain.map (segmentNode slot) =
      start.chain.map (segmentNode start.slotNodes) := by
    intro slot
    refine List.map_congr_left fun s hs => ?_
    cases s with
    | slot => exact (hc _ hs).elim
    | _ => rfl
  cases h with
  | undecided => exact .nothing _
  | own nodes ha hn =>
    rw [toNode_eq, toNode_eq, ha, hn]
    exact .own ..
  | chained type nodes =>
    have h := Node.Holds.chained start.head start.arguments
      (start.chain.map (segmentNode start.slotNodes)) nodes start.definitions
    rw [← chain_ nodes] at h
    rw [toNode_eq, toNode_eq, List.map_append, ← chain_ nodes]
    exact h

end Draft
end PlanCode
