import PlanCode.Text.LineEnd
import PlanCode.Yaml.Object

/-!
# YAML documents as data

The value of the only document of a text; a text without one is null. Where a list or a mapping lies
inside itself, its display tells so, and what it holds is known to some depth.

* `read_empty`: an empty text is null.
-/
namespace PlanCode.Yaml

/-- The values of a document by the numbers of their nodes. -/
structure Objects where
  all : Array (Option Object)
  /-- The values that lie inside themselves. -/
  looped : List Nat := []

namespace Objects

def find? (o : Objects) (number : Nat) : Option Object := (o.all[number]?).join

def pairText (key value : String) : String := "(" ++ key ++ ", " ++ value ++ ")"

def inBraces (items : List String) : String := "\x7b" ++ ", ".intercalate items ++ "\x7d"

def setOf (members : List Datum) : Datum := .set (SetOrder.ordered members)

/-! ## Values inside themselves -/

def parts : Object → List Nat
  | .value _ => []
  | .list items => items
  | .map entries | .pairs entries => entries.flatMap fun (key, value) => [key, value]
  | .set members => members

/-- The values that some values are made of, with those that were seen before. -/
def reach (o : Objects) : Nat → List Nat → List Nat → List Nat
  | fuel + 1, number :: rest, seen =>
    if seen.contains number then reach o fuel rest seen
    else reach o fuel ((((o.find? number).map parts).getD []) ++ rest) (number :: seen)
  | _, _, seen => seen

/-- How many parts all values have together. -/
def partCount (o : Objects) : Nat :=
  o.all.foldl (fun n object => n + ((object.map parts).getD []).length) 0

def isLooped (o : Objects) (number : Nat) : Bool :=
  let inner := ((o.find? number).map parts).getD []
  (o.reach (2 * o.partCount + inner.length + 1) inner []).contains number

/-- The values with a note of those that lie inside themselves. -/
def ofDocument (d : Document) (all : Array (Option Object)) : Objects :=
  let o : Objects := { all }
  if d.isLooped then { o with looped := (List.range all.size).filter o.isLooped } else o

/-- A value as messages show it. Inside itself it is only hinted at; `path` are the values that it
lies in. -/
def display (o : Objects) : Nat → List Nat → Nat → String
  | 0, _, _ => ""
  | fuel + 1, path, number =>
    let shown (part : Nat) : String := display o fuel (number :: path) part
    let isInside := path.contains number
    match o.find? number with
    | some (.value v) => v.datum.display
    | some (.list items) => if isInside then "[...]" else Text.bracketed (items.map shown)
    | some (.map entries) =>
      if isInside then inBraces ["..."]
      else inBraces (entries.map fun (key, value) => shown key ++ ": " ++ shown value)
    | some (.set members) => (setOf (members.filterMap fun m => (o.find? m).bind fun
        | .value v => some v.datum
        | _ => none)).display
    | some (.pairs items) =>
      if isInside then "[...]"
      else Text.bracketed (items.map fun (key, value) => pairText (shown key) (shown value))
    | none => ""

def displayAlone (o : Objects) (number : Nat) : String := o.display (o.all.size + 1) [] number

/-! ## Data -/

/-- Data of the values that are known already. -/
abbrev Known := StateM (Array (Option Datum))

def kindName : Object → String
  | .map _ => "dict"
  | _ => "list"

/-- An object as a datum, where its parts are known. -/
def datumOf (look : Nat → Known Datum) : Object → Known Datum
  | .value v => return v.datum
  | .list items => return .list (← items.mapM look)
  | .map entries =>
    return .map (← entries.mapM fun (key, value) => do return (← look key, ← look value))
  | .set members => return setOf (← members.mapM look)
  | .pairs items =>
    return .list (← items.mapM fun (key, value) => do return .pair (← look key) (← look value))

/-- How deep a value is known that lies inside itself. -/
def knownDepth : Nat := 6

/-- The datum of a value; `depth` is how deep it may go on inside itself. -/
def datum (o : Objects) : Nat → Nat → Nat → Known Datum
  | 0, _, _ => return .null
  | fuel + 1, depth, number => do
    if let some (some d) := (← get)[number]? then return d
    match o.find? number with
    | none => return .null
    | some object =>
      if o.looped.contains number then
        let shown := o.displayAlone number
        if depth = 0 then return .other (kindName object) shown
        return .cyclic shown (← datumOf (datum o fuel (depth - 1)) object)
      else
        let d ← datumOf (datum o fuel depth) object
        if o.looped.isEmpty then modify fun known => known.setIfInBounds number (some d)
        return d

end Objects

/-- The value of a document. -/
def Document.value (d : Document) : Except Error Datum := do
  let o := Objects.ofDocument d (← d.build)
  let known := Array.replicate o.all.size none
  return (o.datum (o.all.size + Objects.knownDepth + 1) Objects.knownDepth d.root known).1

/-- Characters that a text may hold. -/
def isPrintable (c : Char) : Bool :=
  c == '\t' || c == '\n' || c == '\r' || (0x20 ≤ c.toNat && c.toNat ≤ 0x7E) || c == '\x85' ||
    (0xA0 ≤ c.toNat && c.toNat ≤ 0xFFFD) || 0x10000 ≤ c.toNat

/-- The value of the document that a text holds. -/
def read (s : String) : Except Error Datum := do
  let text := Text.normalizeLineEnds s.toList
  if !text.all isPrintable then throw .malformed
  match ← Node.read (← readTokens text) with
  | some d => d.value
  | none => return .null

theorem read_empty : read "" = .ok .null := by rfl

end PlanCode.Yaml
