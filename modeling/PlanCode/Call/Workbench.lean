import PlanCode.Call.Draft
import PlanCode.Call.Imports
import PlanCode.Call.Layout

/-!
# Building calls by name

A workbench holds nodes that are built side by side. A node is put into others
by its name, so that it goes on growing where it already stands; the same node
may stand in several places. Reading a node off the workbench replaces the names
by what they stand for.

* `cells_edit`: an edit changes no cell but the one it is made on.
-/
namespace PlanCode

/-- One node on the workbench. -/
inductive Cell where
  | empty
  | comment (text : String)
  | draft (d : Draft Nat)

namespace Cell

/-- A node as messages show it. -/
def display : Cell → String
  | .empty => "EmptyCall()"
  | .comment text => "Comment(" ++ Text.quoted text ++ ")"
  | .draft d => d.head.display

def name? : Cell → Option String
  | .draft d => d.head.name
  | _ => none

end Cell

/-- A change of one node; other nodes are given by name. -/
inductive Edit where
  | chain (name : String) (arguments : List (Argument Nat))
  | chainNode (n : Nat)
  | chainComment (text : String)
  /-- Takes over the chain of another call. -/
  | takeChain (other : Nat)
  | unchain (name : String)
  | child (n : Nat)
  | prependChild (n : Nat)
  | replaceChild (old new : Nat)
  | setCommented (on : Bool)
  | heading (text : String)
  | define (name : String) (n : Nat)

inductive WorkError where
  | call (e : CallError)
  /-- The node is of a kind that the request makes no sense for. -/
  | wrongKind
  | unknownNode
  /-- A node stands inside itself. -/
  | cyclic
  /-- A bare parameter cannot be written. -/
  | notWritable

/-- The nodes under construction; a name is a place in the list. -/
structure Workbench where
  surface : Surface
  cells : List Cell

namespace Workbench

/-- The name of the empty node, which is there from the start. -/
def emptyName : Nat := 0

def start (surface : Surface) : Workbench := ⟨surface, [.empty]⟩

/-- Puts a node on the workbench; its name comes with it. -/
def add (w : Workbench) (c : Cell) : Workbench × Nat :=
  ({ w with cells := w.cells ++ [c] }, w.cells.length)

def display (w : Workbench) (n : Nat) : String := ((w.cells[n]?).map Cell.display).getD ""

def name? (w : Workbench) (n : Nat) : Option String := (w.cells[n]?).bind Cell.name?

/-- What an edit makes of a call. -/
def editDraft (w : Workbench) (d : Draft Nat) : Edit → Draft Nat × Except WorkError Unit
  | .chain name arguments => step d (d.chainCall w.surface name arguments)
  | .chainNode n => (d.append (.node n), .ok ())
  | .chainComment text => (d.append (.comment text), .ok ())
  | .takeChain other =>
    match w.cells[other]? with
    | some (.draft o) => ({ d with chain := d.chain ++ o.chainFor other }, .ok ())
    | _ => (d, .error .wrongKind)
  | .unchain name => (d.dropChained w.name? name, .ok ())
  | .child n => step d (d.addChild w.surface n)
  | .prependChild n => step d (d.prependChild w.surface n)
  | .replaceChild old new =>
    let (d, outcome) := d.replaceChild w.surface w.display old new
    (d, outcome.mapError .call)
  | .setCommented on => (d.setCommented on, .ok ())
  | .heading text => (d.setHeading text, .ok ())
  | .define name n => (d.define name n, .ok ())
where
  /-- A failed step leaves the call as it was. -/
  step (d : Draft Nat) : Except CallError (Draft Nat) → Draft Nat × Except WorkError Unit
    | .ok d => (d, .ok ())
    | .error e => (d, .error (.call e))

/-- The empty node drops children and cannot be commented out; no other edit suits it. -/
def editEmpty : Edit → Except WorkError Unit
  | .child _ | .prependChild _ | .replaceChild .. | .setCommented _ => .ok ()
  | _ => .error .wrongKind

/-- Makes an edit on a node. -/
def edit (w : Workbench) (on : Nat) (e : Edit) : Workbench × Except WorkError Unit :=
  match w.cells[on]? with
  | none => (w, .error .unknownNode)
  | some .empty => (w, editEmpty e)
  | some (.comment _) => (w, .error .wrongKind)
  | some (.draft d) =>
    let (d, outcome) := w.editDraft d e
    ({ w with cells := w.cells.set on (.draft d) }, outcome)

theorem cells_edit (w : Workbench) (on other : Nat) (e : Edit) (h : other ≠ on) :
    (w.edit on e).1.cells[other]? = w.cells[other]? := by
  unfold edit
  split <;> try rfl
  exact List.getElem?_set_ne (Ne.symm h)

/-! ## Reading nodes -/

/-- How far definitions are read with a node. -/
inductive Depth where
  | code
  /-- Definitions without those of their bodies. -/
  | definitions
  | all
deriving DecidableEq, Repr

/-- How far the body of a definition is read. -/
def Depth.ofBody : Depth → Depth
  | .all => .all
  | _ => .code

/-- The node of a name; a way through more names than there are nodes is a cycle. -/
def readFrom (w : Workbench) : Nat → Depth → Nat → Except WorkError Node
  | 0, _, _ => .error .cyclic
  | fuel + 1, depth, n =>
    match w.cells[n]? with
    | none => .error .unknownNode
    | some .empty => .ok .empty
    | some (.comment text) => .ok (.comment text)
    | some (.draft d) =>
      let d := if depth = .code then { d with definitions := [] } else d
      d.finish (w.readFrom fuel depth) (w.readFrom fuel depth.ofBody) fun owner =>
        match w.cells[owner]? with
        | some (.draft o) =>
          match o.slot with
          | .chained _ nodes => nodes.mapM (w.readFrom fuel depth)
          | _ => .ok []
        | _ => .error .unknownNode

/-- The node of a name. Two ways without a cycle may follow each other: one to a definition, and one
in its body. -/
def read (w : Workbench) (depth : Depth) (n : Nat) : Except WorkError Node :=
  w.readFrom (2 * w.cells.length + 2) depth n

/-- A node that can be written. -/
def writable (w : Workbench) (n : Nat) : Except WorkError Node := do
  let tree ← w.read .code n
  if tree.isWritable then return tree else throw .notWritable

def code (w : Workbench) (n : Nat) (indent : String) : Except WorkError String := do
  return (← w.writable n).code indent

/-- The code of a call as the right side of an assignment. -/
def assignmentCode (w : Workbench) (n : Nat) (indent : String) : Except WorkError String := do
  match w.cells[n]? with
  | some (.draft _) => return (← w.writable n).assignmentCode indent
  | _ => throw .wrongKind

/-- The imports and static imports of a node; a comment has no type that its definition could be
declared with. -/
def imports (w : Workbench) (n : Nat) : Except WorkError (List String × List String) := do
  let tree ← w.read .all n
  if (tree.definitions w.surface).any fun (_, body) => body.target?.isNone then throw .wrongKind
  return (tree.imports w.surface, tree.staticImports w.surface)

/-- The definitions of a node with their code. -/
def definitions (w : Workbench) (n : Nat) : Except WorkError (Entries String) := do
  ((← w.read .definitions n).definitions w.surface).mapM fun (name, body) =>
    if body.isWritable then return (name, body.code "") else throw .notWritable

end Workbench
end PlanCode
