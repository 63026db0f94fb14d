import PlanCode.Entries
import PlanCode.Yaml.Tag
import PlanCode.Yaml.Token

/-!
# Nodes of a YAML document

The tokens of a text as scalars, lists and mappings, each with its kind and a number. An anchor
names a node, and an alias stands for the number of that node, so a node may lie in several places,
and inside itself. A text holds at most one document.

* `read_nil`: no tokens are no document.
-/
namespace PlanCode.Yaml

/-- What a node holds; parts are given by their numbers. -/
inductive Content where
  /-- A text with its display, where this does not follow from its characters. -/
  | scalar (text : String) (shown? : Option String)
  | list (items : List Nat)
  | map (entries : List (Nat × Nat))

structure Node where
  kind : Tag
  content : Content

/-- The nodes of a document by their numbers. -/
structure Document where
  nodes : Array Node
  root : Nat
  /-- Whether an alias stands for a node that it lies in. -/
  isLooped : Bool

namespace Node

structure Reading where
  tokens : List Token
  nodes : Array Node := #[]
  anchors : Entries Nat := []
  /-- The lists and mappings that are being read. -/
  opened : List Nat := []
  isLooped : Bool := false
  handles : Entries String := []

abbrev Reader := StateT Reading (Except Error)

def fail {α : Type} : Reader α := throw .malformed

def next? : Reader (Option Token) := return (← get).tokens.head?

def advance : Reader Unit := modify fun r => { r with tokens := r.tokens.tail }

/-- Whether one of some tokens is next. -/
def isNext (ts : List Token) : Reader Bool := return (← next?).any ts.contains

def expect (t : Token) : Reader Unit := do
  if ← isNext [t] then advance else fail

/-- The address that a tag stands for. -/
def addressOf (handle : Option String) (suffix : String) : Reader String := do
  match handle with
  | none => return suffix
  | some h =>
    match Entries.find? h (← get).handles with
    | some address => return address ++ suffix
    | none => fail

def readAnchor? : Reader (Option String) := do
  match ← next? with
  | some (.anchor name) => advance; return some name
  | _ => return none

def readTag? : Reader (Option String) := do
  match ← next? with
  | some (.tag handle suffix) =>
    advance
    return some (← addressOf handle suffix)
  | _ => return none

/-- An anchor and the address of a tag, in either order. -/
def readProperties : Reader (Option String × Option String) := do
  match ← readAnchor? with
  | some name => return (some name, ← readTag?)
  | none =>
    let tag ← readTag?
    return (← readAnchor?, tag)

/-- A tag that says nothing about the kind. -/
def isOpen (tag : Option String) : Bool := tag.isNone || tag == some "!"

def kindOr (standard : Tag) (tag : Option String) : Tag :=
  if isOpen tag then standard else (tag.map Tag.ofAddress).getD standard

/-- The kind of a scalar as its tag, or else its look if it is plain, tells. -/
def scalarKind (tag : Option String) (text : String) (isPlain : Bool) : Tag :=
  match tag with
  | none => if isPlain then Tag.ofPlain text else .text
  | some "!" => Tag.ofPlain text
  | some address => Tag.ofAddress address

/-- The number of a new node. -/
def add (n : Node) : Reader Nat := do
  let number := (← get).nodes.size
  modify fun r => { r with nodes := r.nodes.push n }
  return number

def setAnchor (anchor : Option String) (number : Nat) : Reader Unit :=
  match anchor with
  | some name => modify fun r => { r with anchors := Entries.put name number r.anchors }
  | none => pure ()

def addScalar (anchor tag : Option String) (text : String) (shown? : Option String)
    (isPlain : Bool) : Reader Nat := do
  let number ← add { kind := scalarKind tag text isPlain, content := .scalar text shown? }
  setAnchor anchor number
  return number

/-- A value of which nothing is written. -/
def addNothing : Reader Nat := add { kind := .null, content := .scalar "" none }

/-- A list or a mapping, which has its anchor while it is read. -/
def addOpened (anchor : Option String) (kind : Tag) (read : Reader Content) : Reader Nat := do
  let number ← add { kind, content := .list [] }
  setAnchor anchor number
  modify fun r => { r with opened := number :: r.opened }
  let content ← read
  modify fun r => { r with
    opened := r.opened.tail, nodes := r.nodes.setIfInBounds number { kind, content } }
  return number

def readAlias (name : String) : Reader Nat := do
  match Entries.find? name (← get).anchors with
  | some number =>
    modify fun r => { r with isLooped := r.isLooped || r.opened.contains number }
    return number
  | none => fail

mutual

/-- A node; blocks begin only where they may, and a list without indentation of its own only as a
value of a mapping. -/
def readNode (inBlock atKey : Bool) : Nat → Reader Nat
  | 0 => fail
  | fuel + 1 => do
    match ← next? with
    | some (.alias name) =>
      advance
      readAlias name
    | _ =>
      let (anchor, tag) ← readProperties
      match anchor with
      | some name => if (Entries.find? name (← get).anchors).isSome then fail
      | none => pure ()
      let ofItems (read : Reader (List Nat)) : Reader Nat :=
        addOpened anchor (kindOr .list tag) (.list <$> read)
      let ofEntries (read : Reader (List (Nat × Nat))) : Reader Nat :=
        addOpened anchor (kindOr .map tag) (.map <$> read)
      match ← next? with
      | some (.scalar text shown? isPlain) =>
        advance
        addScalar anchor tag text shown? isPlain
      | some .openList =>
        advance
        ofItems (readFlowItems true fuel)
      | some .openMap =>
        advance
        ofEntries (readFlowEntries true fuel)
      | t =>
        if t = some .entry && atKey then
          ofItems (readLooseItems fuel)
        else if t = some .blockSequence && inBlock then
          advance
          ofItems (readBlockItems fuel)
        else if t = some .blockMapping && inBlock then
          advance
          ofEntries (readBlockEntries fuel)
        else if anchor.isSome || tag.isSome then addScalar anchor tag "" none true
        else fail

/-- A node, or nothing where one of some tokens follows. -/
def readUnless (ends : List Token) (inBlock atKey : Bool) : Nat → Reader Nat
  | 0 => fail
  | fuel + 1 => do
    if ← isNext ends then addNothing else readNode inBlock atKey fuel

def readBlockItems : Nat → Reader (List Nat)
  | 0 => fail
  | fuel + 1 => do
    if ← isNext [.entry] then
      advance
      let n ← readUnless [.entry, .blockEnd] true false fuel
      return n :: (← readBlockItems fuel)
    else
      expect .blockEnd
      return []

def readLooseItems : Nat → Reader (List Nat)
  | 0 => fail
  | fuel + 1 => do
    if ← isNext [.entry] then
      advance
      let n ← readUnless [.entry, .key, .value, .blockEnd] true false fuel
      return n :: (← readLooseItems fuel)
    else return []

def readBlockEntries : Nat → Reader (List (Nat × Nat))
  | 0 => fail
  | fuel + 1 => do
    if ← isNext [.key] then
      let key ← readMember .key [.key, .value, .blockEnd] true true fuel
      let value ← readMember .value [.key, .value, .blockEnd] true true fuel
      return (key, value) :: (← readBlockEntries fuel)
    else
      expect .blockEnd
      return []

/-- The node after a sign; nothing where the sign is missing or one of some tokens follows it. -/
def readMember (sign : Token) (ends : List Token) (inBlock atKey : Bool) : Nat → Reader Nat
  | 0 => fail
  | fuel + 1 => do
    if ← isNext [sign] then
      advance
      readUnless ends inBlock atKey fuel
    else addNothing

def readFlowItems (isFirst : Bool) : Nat → Reader (List Nat)
  | 0 => fail
  | fuel + 1 => do
    if ← isNext [.closeList] then
      advance
      return []
    else
      if !isFirst then expect .comma
      if ← isNext [.key] then
        let n ← addOpened none .map do
          let key ← readMember .key [.value, .comma, .closeList] false false fuel
          let value ← readMember .value [.comma, .closeList] false false fuel
          return .map [(key, value)]
        return n :: (← readFlowItems false fuel)
      else if ← isNext [.closeList] then
        advance
        return []
      else
        let n ← readNode false false fuel
        return n :: (← readFlowItems false fuel)

def readFlowEntries (isFirst : Bool) : Nat → Reader (List (Nat × Nat))
  | 0 => fail
  | fuel + 1 => do
    if ← isNext [.closeMap] then
      advance
      return []
    else
      if !isFirst then expect .comma
      if ← isNext [.key] then
        let key ← readMember .key [.value, .comma, .closeMap] false false fuel
        let value ← readMember .value [.comma, .closeMap] false false fuel
        return (key, value) :: (← readFlowEntries false fuel)
      else if ← isNext [.closeMap] then
        advance
        return []
      else
        let key ← readNode false false fuel
        return (key, ← addNothing) :: (← readFlowEntries false fuel)

end

/-! ## Documents -/

def standardHandles : Entries String := [("!", "!"), ("!!", Tag.space)]

/-- The handles that directives declare, on top of the standard ones. Only versions of the first
kind are known, and nothing is declared twice. -/
def readDirectives (hasVersion : Bool) (seen : Entries String) : Nat → Reader (Entries String)
  | 0 => fail
  | fuel + 1 => do
    match ← next? with
    | some (.directive d) =>
      advance
      match d with
      | .version major =>
        if hasVersion || major != 1 then fail else readDirectives true seen fuel
      | .handle name address =>
        if (Entries.find? name seen).isSome then fail
        else readDirectives hasVersion (seen ++ [(name, address)]) fuel
      | .reserved => readDirectives hasVersion seen fuel
    | _ => return seen ++ standardHandles

def skipDocumentEnds : Nat → Reader Unit
  | 0 => pure ()
  | fuel + 1 => do
    if ← isNext [.documentEnd] then
      advance
      skipDocumentEnds fuel

/-- What a document holds after its opening sign. -/
def readContent (fuel : Nat) : Reader Nat := do
  match ← next? with
  | none | some .documentStart | some .documentEnd | some (.directive _) => addNothing
  | _ => readNode true false fuel

def isDirective : Option Token → Bool
  | some (.directive _) => true
  | _ => false

/-- The only document; none where there is nothing but signs that one ends. -/
def readDocument (fuel : Nat) : Reader (Option Document) := do
  let t ← next?
  let found ← if t.isNone then pure none
    else if t = some .documentStart || isDirective t then explicit
    else do
      modify fun r => { r with handles := standardHandles }
      pure (some (← readNode true false fuel))
  match found with
  | none => return none
  | some root =>
    skipDocumentEnds fuel
    if (← next?).isSome then fail
    let r ← get
    return some { nodes := r.nodes, root, isLooped := r.isLooped }
where
  explicit : Reader (Option Nat) := do
    let handles ← readDirectives false [] fuel
    modify fun r => { r with handles }
    expect .documentStart
    return some (← readContent fuel)

/-- The document that some tokens make. -/
def read (tokens : List Token) : Except Error (Option Document) :=
  (readDocument (3 * tokens.length + 8)).run' { tokens }

theorem read_nil : read [] = .ok none := rfl

end Node
end PlanCode.Yaml
