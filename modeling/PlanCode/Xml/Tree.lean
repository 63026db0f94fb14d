import PlanCode.Text.LineEnd
import PlanCode.Xml.Doctype

/-!
# The tree of an XML document

A document is read into nodes: the tag, with the address of its namespace in
braces before the local name, the attributes, the text before the first child,
and the children. Nothing but a tree comes of it, so a document that is not well
formed gives none, without saying why.

* `readTree?_nil`: the empty text is no document.
-/
namespace PlanCode.Xml

structure Node where
  tag : String
  attributes : Entries String := []
  /-- The text before the first child. -/
  text : String := ""
  children : List Node := []
deriving Inhabited

namespace Node

def attribute? (n : Node) (name : String) : Option String := Entries.find? name n.attributes

end Node

/-! ## Namespaces -/

def xmlSpace : String := "http://www.w3.org/XML/1998/namespace"
def bindingSpace : String := "http://www.w3.org/2000/xmlns/"

/-- The address that each qualifier is bound to, innermost first; no qualifier is the default. -/
abbrev Scope := List (Option String × String)

def Scope.start : Scope := [(some "xml", xmlSpace)]

def Scope.address? (s : Scope) (qualifier : Option String) : Option String :=
  (List.find? (fun (q, _) => q == qualifier) s).map (·.2)

/-- The scope with one more binding. The two reserved addresses belong to their own qualifiers, and
no qualifier can be bound to nothing. -/
def Scope.bind? (s : Scope) (qualifier : Option String) (address : String) : Option Scope :=
  if qualifier == some "xmlns" || address == bindingSpace then none
  else if (qualifier == some "xml") != (address == xmlSpace) then none
  else if qualifier.isSome && address == "" then none
  else if address.toList.contains '\x7d' then none
  else some ((qualifier, address) :: s)

/-- The qualifier that an attribute binds, if it is a binding. -/
def bound? (n : Name) : Option (Option String) :=
  match n with
  | ⟨none, "xmlns"⟩ => some none
  | ⟨some "xmlns", local_⟩ => some (some local_)
  | _ => none

def spacedName (address localPart : String) : String := "\x7b" ++ address ++ "\x7d" ++ localPart

/-- The full name of an element. -/
def Scope.tag? (s : Scope) (n : Name) : Option String :=
  match n.qualifier, s.address? n.qualifier with
  | none, none | none, some "" => some n.localPart
  | some _, none => none
  | _, some address => some (spacedName address n.localPart)

/-- The full name of an attribute, which no default namespace reaches. -/
def Scope.attributeName? (s : Scope) (n : Name) : Option String :=
  match n.qualifier with
  | none => some n.localPart
  | some _ => (s.address? n.qualifier).map (spacedName · n.localPart)

/-! ## Building -/

/-- An element whose end is not yet read; text and children are kept last first. -/
structure Frame where
  name : Name
  scope : Scope
  node : Node
  text : List (List Char) := []
  children : List Node := []

def Frame.finish (f : Frame) : Node :=
  { f.node with text := String.ofList f.text.reverse.flatten, children := f.children.reverse }

def Frame.addText (f : Frame) (s : List Char) : Frame :=
  if f.children.isEmpty then { f with text := s :: f.text } else f

def Frame.addChild (f : Frame) (n : Node) : Frame := { f with children := n :: f.children }

def hasTwice (names : List String) : Bool :=
  match names with
  | [] => false
  | n :: rest => rest.contains n || hasTwice rest

/-- The written attributes of an element and those that a declaration adds. -/
def allAttributes? (d : Declarations) (element : Name) (written : List (Name × List Reference)) :
    Option (List (Name × List Char)) := do
  if hasTwice (written.map (·.1.text)) then none
  let rules := d.attributes.filter (·.element == element.text)
  let given ← written.mapM fun (name, parts) => do
    let value ← d.value? parts
    let isWords := rules.any fun r => r.name == name && r.isWords
    return (name, if isWords then joinWords value else value)
  let added := rules.filterMap fun r =>
    if given.any (·.1 == r.name) then none else r.default.map (r.name, ·)
  return given ++ added

/-- The frame of an element that opens in a scope. -/
def open? (d : Declarations) (outer : Scope) (name : Name)
    (written : List (Name × List Reference)) :
    Option Frame := do
  let attributes ← allAttributes? d name written
  let scope ← attributes.foldlM (fun (s : Scope) (n, v) => match bound? n with
    | some qualifier => s.bind? qualifier (String.ofList v)
    | none => some s) outer
  let plain ← (attributes.filter fun (n, _) => (bound? n).isNone).mapM fun (n, v) => do
    return (← scope.attributeName? n, String.ofList v)
  if hasTwice (plain.map (·.1)) then none
  return { name, scope, node := { tag := ← scope.tag? name, attributes := plain } }

/-- The elements that are open, innermost first, or the finished root. -/
inductive Progress where
  | inside (frame : Frame) (outer : List Frame)
  | finished (root : Node)

def close (f : Frame) : List Frame → Progress
  | [] => .finished f.finish
  | f' :: outer => .inside (f'.addChild f.finish) outer

def step? (d : Declarations) : Progress → Token → Option Progress
  | .finished _, _ => none
  | .inside f outer, t =>
    match t with
    | .opening name attributes closed => do
      let inner ← open? d f.scope name attributes
      return if closed then close inner (f :: outer) else .inside inner (f :: outer)
    | .closing name => if name = f.name then some (close f outer) else none
    | .text s | .marked s => some (.inside (f.addText s) outer)
    | .entity _ => none

/-- The tokens of the root element, whose start is already read, and those after it. `depth` counts
the elements that are open. -/
def splitRoot? : Nat → List Token → Option (List Token × List Token)
  | 0, rest => some ([], rest)
  | _, [] => none
  | depth + 1, t :: rest =>
    let next := match t with
      | .opening _ _ false => depth + 2
      | .closing _ => depth
      | _ => depth + 1
    (splitRoot? next rest).map fun (inside, after) => (t :: inside, after)

def isBlankText : Token → Bool
  | .text s => s.all isBlank
  | _ => false

/-- The tree of a root element and what comes after it. -/
def buildTree? (d : Declarations) : List Token → Option Node
  | .opening name attributes closed :: rest => do
    let root ← open? d Scope.start name attributes
    let (inside, after) ← splitRoot? (if closed then 0 else 1) rest
    if !after.all isBlankText then none
    if closed then return root.finish
    match ← (← d.expand? inside).foldlM (step? d) (.inside root []) with
    | .finished root => some root
    | .inside _ _ => none
  | _ => none

/-! ## Documents -/

/-- A name and a plain quoted value after at least one blank; none at the end of the text. -/
def readSetting? (s : List Char) : Option (Option (String × String) × List Char) :=
  match skipBlanks s with
  | [] => some (none, [])
  | inside =>
    if !s.head?.any isBlank then none
    else
      let (name, rest) := inside.span fun c => c != '=' && !isBlank c
      match skipBlanks rest with
      | '=' :: rest => do
        let (value, rest) ← readQuoted? (skipBlanks rest)
        if value.all fun c => c.isAlphanum || c == '.' || c == '-' || c == '_' then
          return (some (String.ofList name, String.ofList value), rest)
        else none
      | _ => none

/-- Whether the opening declaration says that the document is standalone. -/
def readStandalone? (s : List Char) : Option Bool := do
  let (version, rest) ← readSetting? s
  if version.map (·.1) != some "version" then none
  let (next, rest) ← readSetting? rest
  let (next, rest) ← match next with
    | some ("encoding", name) =>
      if name.toList.head?.any Char.isAlpha then readSetting? rest else none
    | next => some (next, rest)
  match next with
  | none => some false
  | some ("standalone", "yes") => if (skipBlanks rest).isEmpty then some true else none
  | some ("standalone", "no") => if (skipBlanks rest).isEmpty then some false else none
  | _ => none

/-- The opening declaration, if there is one, and the text after it. -/
def readOpening? (s : List Char) : Option (Bool × List Char) :=
  match expect? "<?xml" s with
  | some (c :: rest) =>
    if isBlank c then do
      let (seen, after) ← splitAt? ['?', '>'] [] (c :: rest)
      return (← readStandalone? seen.reverse, after)
    else some (false, s)
  | _ => some (false, s)

/-- What stands before the root element: blanks, comments, instructions and at most one document
type. -/
def readProlog? (seen : Bool) (d : Declarations) :
    Nat → List Char → Option (Declarations × List Char)
  | 0, _ => none
  | fuel + 1, s =>
    match skipBlanks s with
    | '<' :: '?' :: rest => do readProlog? seen d fuel (← skipInstruction? rest)
    | '<' :: '!' :: '-' :: '-' :: rest => do readProlog? seen d fuel (← skipComment? rest)
    | '<' :: '!' :: rest => do
      if seen then none
      let (d, rest) ← readDoctype? d (← expect? "DOCTYPE" rest)
      readProlog? true d fuel rest
    | s => some (d, s)

/-- The root of the document that a text holds; one byte order mark before it is passed over. -/
def readTree? (s : String) : Option Node := do
  let text := match s.toList with
    | '\ufeff' :: rest => rest
    | text => text
  if !text.all isDocumentChar then none
  let (standalone, text) ← readOpening? (Text.normalizeLineEnds text)
  let (d, text) ← readProlog? false { standalone } (text.length + 1) text
  buildTree? d (← readTokens? text)

theorem readTree?_nil : readTree? "" = none := by rfl

end PlanCode.Xml
