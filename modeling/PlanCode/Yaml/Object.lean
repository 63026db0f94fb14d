import PlanCode.Yaml.Node
import PlanCode.Yaml.Scalar
import PlanCode.Yaml.SetOrder

/-!
# Values of the nodes of a document

Each node has one value, under the number of the node. Lists and mappings begin empty and are filled
one after another, in the order in which they were met, so a value may lie inside itself. Before a
mapping is filled, the entries of the mappings under its key `<<` are put before its own. Of two
entries with the same key the later value counts, at the place of the earlier.

* `isSameKey_self`: a key is the same as itself, also where no value equals it.
-/
namespace PlanCode.Yaml

/-- The value of a node; parts are given by the numbers of their nodes. -/
inductive Object where
  | value (v : Value)
  | list (items : List Nat)
  | map (entries : List (Nat × Nat))
  | set (members : List Nat)
  | pairs (items : List (Nat × Nat))

structure Building where
  nodes : Array Node
  objects : Array (Option Object)
  /-- The values that are still empty, last first. -/
  waiting : List Nat := []
  /-- How many entries the mappings of the document have. -/
  entryCount : Nat

abbrev Builder := StateT Building (Except Error)

namespace Builder

def node (number : Nat) : Builder Node := do
  match (← get).nodes[number]? with
  | some n => return n
  | none => throw .malformed

def setNode (number : Nat) (n : Node) : Builder Unit :=
  modify fun b => { b with nodes := b.nodes.setIfInBounds number n }

def setObject (number : Nat) (o : Object) : Builder Unit :=
  modify fun b => { b with objects := b.objects.setIfInBounds number (some o) }

/-- The entries of a node that is a mapping. -/
def entries (number : Nat) : Builder (List (Nat × Nat)) := do
  match (← node number).content with
  | .map es => return es
  | _ => throw .malformed

def setEntries (number : Nat) (es : List (Nat × Nat)) : Builder Unit := do
  setNode number { ← node number with content := .map es }

/-! ## Scalars -/

/-- The text that a node stands for: that of a scalar, or of the value under the key `=` of a
mapping. -/
def textOf : Nat → Nat → Builder (String × Option String)
  | 0, _ => throw .endless
  | fuel + 1, number => do
    match (← node number).content with
    | .scalar text shown? => return (text, shown?)
    | .list _ => throw .malformed
    | .map es =>
      match ← es.findM? fun (key, _) => return (← node key).kind == .default with
      | some (_, value) => textOf fuel value
      | none => throw .malformed

def isText : Content → Bool
  | .scalar .. => true
  | _ => false

def scalarObject (number : Nat) (n : Node) : Builder Object := do
  if [Tag.merge, .default, .unknown].contains n.kind then throw .malformed
  let (text, shown?) ← textOf ((← get).nodes.size + 1) number
  if n.kind == .time && !isText n.content then throw .timeNotText
  return .value (← scalarValue n.kind text shown?)

/-! ## Lists and mappings -/

/-- The empty value of a kind that is filled later. -/
def empty? : Tag → Option Object
  | .list => some (.list [])
  | .map => some (.map [])
  | .set => some (.set [])
  | .orderedMap | .pairs => some (.pairs [])
  | _ => none

/-- Gives a node its value, which may be filled later. -/
def start (number : Nat) : Builder Unit := do
  if let some (some _) := (← get).objects[number]? then return
  let n ← node number
  match empty? n.kind with
  | some o =>
    modify fun b => { b with waiting := number :: b.waiting }
    setObject number o
  | none => setObject number (← scalarObject number n)

/-- The entries that a key `<<` takes over from its value: those of a mapping, or of each of
several, the last one first. -/
def taken (flatten : Nat → Builder Unit) (value : Nat) : Builder (List (Nat × Nat)) := do
  match (← node value).content with
  | .map _ =>
    flatten value
    entries value
  | .list items =>
    let groups ← items.mapM fun item => do
      let _ ← entries item
      flatten item
      entries item
    return groups.reverse.flatten
  | .scalar .. => throw .malformed

/-- Puts what the keys `<<` of a mapping take over before its own entries; a key `=` becomes a text.
`kept` are the entries so far, last first. A mapping may be met again inside what it takes over, and
is flat then. -/
def flattenEntries (flatten : Nat → Builder Unit) (number : Nat)
    (kept merged : List (Nat × Nat)) : List (Nat × Nat) → Builder Unit
  | [] => setEntries number (merged ++ kept.reverse)
  | (key, value) :: rest => do
    let k ← node key
    if k.kind == .merge then
      let others := kept.reverse ++ rest
      setEntries number others
      let merged := merged ++ (← taken flatten value)
      let now ← entries number
      if now == others then flattenEntries flatten number kept merged rest
      else setEntries number (merged ++ now)
    else
      if k.kind == .default then setNode key { k with kind := .text }
      flattenEntries flatten number ((key, value) :: kept) merged rest

def flattenWith : Nat → Nat → Builder Unit
  | 0, _ => throw .malformed
  | fuel + 1, number => do
    flattenEntries (flattenWith fuel) number [] [] (← entries number)

/-- Flattens a mapping; each flattening inside of another one has used up a key `<<`. -/
def flatten (number : Nat) : Builder Unit := do flattenWith ((← get).entryCount + 2) number

/-- Whether two nodes have the same value as keys. -/
def isSameKey (objects : Array (Option Object)) (a b : Nat) : Bool :=
  a == b || match objects[a]?, objects[b]? with
    | some (some (.value v)), some (some (.value w)) => v.isSameKey w
    | _, _ => false

theorem isSameKey_self (objects : Array (Option Object)) (a : Nat) :
    isSameKey objects a a = true := by simp [isSameKey]

/-- An entry set to a value: in its place when the key is there, else at the end. -/
def putEntry (objects : Array (Option Object)) (key value : Nat) :
    List (Nat × Nat) → List (Nat × Nat)
  | [] => [(key, value)]
  | (k, v) :: rest =>
    if isSameKey objects k key then (k, value) :: rest
    else (k, v) :: putEntry objects key value rest

/-- Whether the value of a node can be a key. -/
def isKey (number : Nat) : Builder Bool := do
  match (← get).objects[number]? with
  | some (some (.value _)) => return true
  | _ => return false

/-- The entries of a mapping by its nodes. -/
def buildEntries (seen : List (Nat × Nat)) : List (Nat × Nat) → Builder (List (Nat × Nat))
  | [] => return seen
  | (key, value) :: rest => do
    start key
    if !(← isKey key) then throw .malformed
    start value
    buildEntries (putEntry (← get).objects key value seen) rest

/-- The key and the value of a mapping that has one entry. -/
def buildPair (item : Nat) : Builder (Nat × Nat) := do
  match ← entries item with
  | [(key, value)] =>
    start key
    start value
    return (key, value)
  | _ => throw .malformed

/-- Fills the value of a list or a mapping. -/
def fill (number : Nat) : Builder Unit := do
  let n ← node number
  match n.kind, n.content with
  | .list, .list items =>
    items.forM start
    setObject number (.list items)
  | .orderedMap, .list items | .pairs, .list items =>
    setObject number (.pairs (← items.mapM buildPair))
  | .map, .map _ =>
    flatten number
    setObject number (.map (← buildEntries [] (← entries number)))
  | .set, .map _ =>
    flatten number
    setObject number (.set ((← buildEntries [] (← entries number)).map (·.1)))
  | _, _ => throw .malformed

/-- Fills some values, and then those that were met on the way. -/
def fillAll : Nat → List Nat → Builder Unit
  | 0, _ => return
  | fuel + 1, number :: rest => do
    fill number
    fillAll fuel rest
  | fuel + 1, [] => do
    let waiting := (← get).waiting
    if !waiting.isEmpty then
      modify fun b => { b with waiting := [] }
      fillAll fuel waiting.reverse

end Builder

namespace Document

def entryCount (d : Document) : Nat :=
  d.nodes.foldl (fun n node => match node.content with
    | .map es => n + es.length
    | _ => n) 0

/-- The values of the nodes that the root is made of. -/
def build (d : Document) : Except Error (Array (Option Object)) := do
  let start : Building := {
    nodes := d.nodes, objects := Array.replicate d.nodes.size none, entryCount := d.entryCount }
  let run : Builder Unit := do
    Builder.start d.root
    Builder.fillAll (2 * d.nodes.size + 2) []
  return (← run.run start).2.objects

end Document
end PlanCode.Yaml
