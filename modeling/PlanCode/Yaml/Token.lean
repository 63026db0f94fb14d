import PlanCode.Yaml.ScalarText

/-!
# Tokens of a YAML text

Indentation becomes explicit: a block begins and ends with a token of its own. A
key that no `?` announces is known only when its colon comes, so the place where
it began is kept, and its tokens go in there. Such a key stands on one line and
has at most 1024 characters.

* `insert_count`: putting a token in makes the tokens one more.
-/
namespace PlanCode.Yaml

inductive Directive where
  | version (major : Nat)
  | handle (name address : String)
  | reserved
deriving DecidableEq, Repr

inductive Token where
  | directive (d : Directive)
  | documentStart
  | documentEnd
  | blockSequence
  | blockMapping
  | blockEnd
  | openList
  | closeList
  | openMap
  | closeMap
  | entry
  | comma
  | key
  | value
  | alias (name : String)
  | anchor (name : String)
  | tag (handle : Option String) (suffix : String)
  /-- A text with its display, where this does not follow from its characters. -/
  | scalar (text : String) (shown? : Option String) (plain : Bool)
deriving DecidableEq, Repr

/-- Where a key may have begun. -/
structure KeyStart where
  /-- How many tokens were there before it. -/
  position : Nat
  /-- A colon has to follow, as nothing else can begin here. -/
  isRequired : Bool
  index : Nat
  line : Nat
  column : Nat

structure Scan where
  cursor : Cursor
  /-- The tokens so far, last first. -/
  tokens : List Token := []
  count : Nat := 0
  /-- The column of the innermost block, and those around it. -/
  indent : Int := -1
  indents : List Int := []
  /-- Whether a key may begin without `?`. -/
  mayBeginKey : Bool := true
  /-- Where a key may have begun, in the innermost brackets and in those around them. -/
  keyStart : Option KeyStart := none
  outerKeyStarts : List (Option KeyStart) := []

namespace Scan

def inFlow (s : Scan) : Bool := !s.outerKeyStarts.isEmpty

def push (s : Scan) (t : Token) : Scan := { s with tokens := t :: s.tokens, count := s.count + 1 }

/-- A token put in after some number of tokens. -/
def insert (s : Scan) (position : Nat) (t : Token) : Scan :=
  let later := s.count - position
  { s with
    tokens := s.tokens.take later ++ t :: s.tokens.drop later
    count := s.count + 1 }

theorem insert_count (s : Scan) (position : Nat) (t : Token) :
    (s.insert position t).tokens.length = s.tokens.length + 1 := by
  simp only [insert, List.length_append, List.length_cons, List.length_take, List.length_drop]
  omega

/-- Forgets where a key may have begun. -/
def dropKey (s : Scan) : Except Error Scan :=
  match s.keyStart with
  | some k => if k.isRequired then .error .malformed else .ok { s with keyStart := none }
  | none => .ok s

def isStale (s : Scan) (k : KeyStart) : Bool :=
  k.line != s.cursor.line || 1024 < s.cursor.index - k.index

def dropStale (s : Scan) : Option KeyStart → Except Error (Option KeyStart)
  | none => .ok none
  | some k =>
    if s.isStale k then if k.isRequired then .error .malformed else .ok none else .ok (some k)

/-- Forgets the key starts that are too far away. -/
def dropStaleKeys (s : Scan) : Except Error Scan := do
  let keyStart ← s.dropStale s.keyStart
  let outerKeyStarts ← s.outerKeyStarts.mapM s.dropStale
  return { s with keyStart, outerKeyStarts }

/-- Notes that a key may begin here. -/
def noteKey (s : Scan) : Except Error Scan := do
  if !s.mayBeginKey then return s
  let isRequired := !s.inFlow && s.indent == (s.cursor.column : Int)
  let s ← s.dropKey
  return { s with
    keyStart := some {
      position := s.count, isRequired, index := s.cursor.index,
      line := s.cursor.line, column := s.cursor.column } }

/-- Ends the blocks that are indented deeper than a column. -/
def unwind (column : Int) (s : Scan) : Scan :=
  if s.inFlow then s else go column s.indents { s with indents := [] }
where
  go (column : Int) : List Int → Scan → Scan
    | [], s => s
    | outer :: outers, s =>
      if column < s.indent then go column outers ({ s with indent := outer }.push .blockEnd)
      else { s with indents := outer :: outers }

/-- A deeper block, if the column is one. -/
def deepen? (s : Scan) (column : Nat) : Option Scan :=
  if s.indent < column then some { s with indents := s.indent :: s.indents, indent := column }
  else none

def moveTo (s : Scan) (c : Cursor) : Scan := { s with cursor := c }

/-! ## Over blanks -/

def skipBlanksFrom : Nat → Scan → Scan
  | 0, s => s
  | fuel + 1, s =>
    let c := s.cursor.skipSpaces
    let c := if c.at? '#' then c.skipWhile (!isBreak ·) else c
    match c.break? with
    | some (_, c) =>
      skipBlanksFrom fuel { s with cursor := c, mayBeginKey := s.mayBeginKey || !s.inFlow }
    | none => s.moveTo c

/-- Over spaces, comments and line breaks. -/
def skipBlanks (s : Scan) : Scan := skipBlanksFrom (s.cursor.rest.length + 1) s

/-! ## Directives, anchors and tags -/

def isAddressChar (c : Char) : Bool := c.isAlphanum || "-;/?:@&=+$,_.!~*'()[]".toList.contains c

/-- Bytes written as `%` and two digits, as many as come one after another. -/
def readBytes? : Nat → List Char → Option (List UInt8)
  | 0, _ => some []
  | fuel + 1, '%' :: rest => do
    let n ← if (rest.take 2).length = 2 then Text.readHex? (rest.take 2) else none
    return UInt8.ofNat n :: (← readBytes? fuel (rest.drop 2))
  | _, _ => some []

/-- An address, in which `%` escapes bytes. -/
def readAddressFrom? (seen : List Char) : Nat → Cursor → Option (List Char × Cursor)
  | 0, c => some (seen.reverse, c)
  | fuel + 1, c =>
    let (run, c) := c.takeWhile isAddressChar
    if c.at? '%' then do
      let bytes ← readBytes? c.rest.length c.rest
      let text ← String.fromUTF8? ⟨bytes.toArray⟩
      readAddressFrom? (text.toList.reverse ++ run.reverse ++ seen) fuel
        (c.steps (3 * bytes.length))
    else some ((run.reverse ++ seen).reverse, c)

def readAddress? (c : Cursor) : Option (String × Cursor) := do
  let (text, c) ← readAddressFrom? [] (c.rest.length + 1) c
  if text.isEmpty then none else return (String.ofList text, c)

/-- A handle: `!`, or a word between two of them. -/
def readHandle? (c : Cursor) : Option (String × Cursor) := do
  if !c.at? '!' then none
  let c := c.step
  if c.at? ' ' then return ("!", c)
  let (word, c) := c.takeWhile isMarkChar
  if c.at? '!' then return (String.ofList ('!' :: word ++ ['!']), c.step) else none

def readNumber? (c : Cursor) : Option (Nat × Cursor) :=
  let (digits, c) := c.takeWhile Char.isDigit
  if digits.isEmpty then none
  else some (digits.foldl (fun n d => 10 * n + (d.toNat - '0'.toNat)) 0, c)

def readDirective? (c : Cursor) : Option (Directive × Cursor) := do
  let (name, c) := c.step.takeWhile isMarkChar
  if name.isEmpty || !endsField c.rest then none
  let (d, c) ← match String.ofList name with
    | "YAML" => do
      let (major, c) ← readNumber? c.skipSpaces
      if !c.at? '.' then none
      let (_, c) ← readNumber? c.step
      if endsField c.rest then some (Directive.version major, c) else none
    | "TAG" => do
      let (handle, c) ← readHandle? c.skipSpaces
      if !c.at? ' ' then none
      let (address, c) ← readAddress? c.skipSpaces
      if endsField c.rest then some (Directive.handle handle address, c) else none
    | _ => some (.reserved, c.skipWhile (!isBreak ·))
  return (d, ← c.finishLine?)

/-- The name after `&` or `*`. -/
def readMark? (c : Cursor) : Option (String × Cursor) :=
  let (name, c) := c.step.takeWhile isMarkChar
  let ends := match c.rest with
    | [] => true
    | ch :: _ => isBlankOrBreak ch || "?:,]\x7d%@`".toList.contains ch
  if name.isEmpty || !ends then none else some (String.ofList name, c)

/-- The handle and the rest of a tag. -/
def readTag? (c : Cursor) : Option (Token × Cursor) := do
  let (t, c) ← match c.rest with
    | _ :: '<' :: _ => do
      let (address, c) ← readAddress? (c.steps 2)
      if c.at? '>' then some (Token.tag none address, c.step) else none
    | _ :: rest =>
      if endsWord rest then some (Token.tag none "!", c.step)
      else do
        let word := rest.takeWhile fun ch => ch != ' ' && !isBreak ch
        let (handle, c) ← if word.contains '!' then readHandle? c else some ("!", c.step)
        let (suffix, c) ← readAddress? c
        pure (Token.tag (some handle) suffix, c)
    | [] => none
  if endsField c.rest then return (t, c) else none

/-! ## One token after another -/

def orMalformed {α : Type} : Option α → Except Error α
  | some a => .ok a
  | none => .error .malformed

/-- Whether plain text may begin here. -/
def beginsPlain (inFlow : Bool) : List Char → Bool
  | [] => false
  | c :: rest =>
    !(isBlankOrBreak c || "-?:,[]\x7b\x7d#&*!|>'\"%@`".toList.contains c) ||
      (!endsWord rest && (c == '-' || (!inFlow && (c == '?' || c == ':'))))

/-- A sign that a document begins or ends. -/
def separator (s : Scan) (t : Token) : Except Error Scan := do
  let s ← (s.unwind (-1)).dropKey
  return ({ s with mayBeginKey := false }.moveTo (s.cursor.steps 3)).push t

def openBrackets (s : Scan) (t : Token) : Except Error Scan := do
  let s ← s.noteKey
  return ({ s with
    outerKeyStarts := s.keyStart :: s.outerKeyStarts, keyStart := none,
    mayBeginKey := true }.moveTo s.cursor.step).push t

def closeBrackets (s : Scan) (t : Token) : Except Error Scan := do
  let s ← s.dropKey
  match s.outerKeyStarts with
  | [] => .error .malformed
  | keyStart :: outerKeyStarts =>
    return ({ s with keyStart, outerKeyStarts, mayBeginKey := false }.moveTo s.cursor.step).push t

/-- A sign that may begin a block at its column: an entry, a key or a value. -/
def beginBlock (s : Scan) (block : Token) : Except Error Scan :=
  if s.inFlow then .ok s
  else if !s.mayBeginKey then .error .malformed
  else match s.deepen? s.cursor.column with
    | some s => .ok (s.push block)
    | none => .ok s

def readEntry (s : Scan) : Except Error Scan := do
  let s ← ({ ← s.beginBlock .blockSequence with mayBeginKey := true }).dropKey
  return (s.moveTo s.cursor.step).push .entry

def readKey (s : Scan) : Except Error Scan := do
  let s ← s.beginBlock .blockMapping
  let s ← ({ s with mayBeginKey := !s.inFlow }).dropKey
  return (s.moveTo s.cursor.step).push .key

def readValue (s : Scan) : Except Error Scan := do
  match s.keyStart with
  | some k =>
    let s := { s with keyStart := none, mayBeginKey := false }.insert k.position .key
    let s := if s.inFlow then s else match s.deepen? k.column with
      | some s => s.insert k.position .blockMapping
      | none => s
    return (s.moveTo s.cursor.step).push .value
  | none =>
    let s ← s.beginBlock .blockMapping
    let s ← ({ s with mayBeginKey := !s.inFlow }).dropKey
    return (s.moveTo s.cursor.step).push .value

/-- Anything that may be a key, or the beginning of one. -/
def readKeyPart (s : Scan) (read : Cursor → Except Error (Token × Cursor)) :
    Except Error Scan := do
  let s ← s.noteKey
  let (t, c) ← read s.cursor
  return ({ s with mayBeginKey := false }.moveTo c).push t

def readQuotedToken (isDouble : Bool) (c : Cursor) : Except Error (Token × Cursor) := do
  let (q, c) ← readQuoted isDouble c
  return (.scalar (String.ofList q.text) q.shown? false, c)

def readBlockToken (s : Scan) (folds : Bool) : Except Error Scan := do
  let s ← ({ s with mayBeginKey := true }).dropKey
  let (text, c) ← readBlock folds s.indent s.cursor
  return (s.moveTo c).push (.scalar (String.ofList text) none false)

def readPlainToken (s : Scan) : Except Error Scan := do
  let s ← s.noteKey
  let p := readPlain s.inFlow (s.indent + 1) s.cursor
  return ({ s with mayBeginKey := p.newLine }.moveTo p.next).push
    (.scalar (String.ofList p.text) none true)

def readDirectiveToken (s : Scan) : Except Error Scan := do
  let s ← (s.unwind (-1)).dropKey
  let (d, c) ← orMalformed (readDirective? s.cursor)
  return ({ s with mayBeginKey := false }.moveTo c).push (.directive d)

/-- The scan after one more token, at a place that is no blank and not the end. -/
def readToken (s : Scan) (ch : Char) (rest : List Char) : Except Error Scan :=
  let c := s.cursor
  let lineBegins := c.column == 0
  if ch = '%' && lineBegins then s.readDirectiveToken
  else if ch = '-' && lineBegins && c.atSeparator then s.separator .documentStart
  else if ch = '.' && lineBegins && c.atSeparator then s.separator .documentEnd
  else if ch = '[' then s.openBrackets .openList
  else if ch = '\x7b' then s.openBrackets .openMap
  else if ch = ']' then s.closeBrackets .closeList
  else if ch = '\x7d' then s.closeBrackets .closeMap
  else if ch = ',' then do
    let s ← ({ s with mayBeginKey := true }).dropKey
    return (s.moveTo c.step).push .comma
  else if ch = '-' && endsWord rest then s.readEntry
  else if ch = '?' && (s.inFlow || endsWord rest) then s.readKey
  else if ch = ':' && (s.inFlow || endsWord rest) then s.readValue
  else if ch = '*' then
    s.readKeyPart fun c => orMalformed ((readMark? c).map fun (n, c) => (.alias n, c))
  else if ch = '&' then
    s.readKeyPart fun c => orMalformed ((readMark? c).map fun (n, c) => (.anchor n, c))
  else if ch = '!' then s.readKeyPart fun c => orMalformed (readTag? c)
  else if (ch = '|' || ch = '>') && !s.inFlow then s.readBlockToken (ch == '>')
  else if ch = '\'' || ch = '"' then s.readKeyPart (readQuotedToken (ch == '"'))
  else if beginsPlain s.inFlow c.rest then s.readPlainToken
  else .error .malformed

def run : Nat → Scan → Except Error (List Token)
  | 0, _ => .error .malformed
  | fuel + 1, s => do
    let s ← s.skipBlanks.dropStaleKeys
    let s := s.unwind s.cursor.column
    match s.cursor.rest with
    | [] =>
      let s ← (s.unwind (-1)).dropKey
      return s.tokens.reverse
    | ch :: rest => run fuel (← s.readToken ch rest)

end Scan

/-- The tokens of a text. -/
def readTokens (s : List Char) : Except Error (List Token) :=
  let c : Cursor := { rest := s }
  let c := if c.at? '\ufeff' then c.step else c
  Scan.run (s.length + 1) { cursor := c }

end PlanCode.Yaml
