import PlanCode.Text.Quoted
import PlanCode.Yaml.Cursor

/-!
# The text of YAML scalars

A scalar is plain, quoted, or a block of lines. Line breaks inside plain and
quoted text fold: a single one reads as a space, and of several all but the
first stay. A block keeps its lines, or folds those that begin with text.

* `folded_single`: a line break with no empty line after it reads as a space.
-/
namespace PlanCode.Yaml

/-- What a line break reads as, with the breaks of the empty lines after it. -/
def folded (lineBreak : Char) (empty : List Char) : List Char :=
  if lineBreak != '\n' then lineBreak :: empty
  else if empty.isEmpty then [' '] else empty

theorem folded_single : folded '\n' [] = [' '] := rfl

/-! ## Plain text -/

structure Plain where
  text : List Char
  /-- The place after the text and the blanks that follow it. -/
  next : Cursor
  /-- Whether those blanks include a line break. -/
  newLine : Bool

/-- Whether a colon ends plain text before these characters. -/
def colonEnds (inFlow : Bool) (rest : List Char) : Bool :=
  endsWord rest || (inFlow && rest.head?.any fun c => ",[]\x7b\x7d".toList.contains c)

/-- A run of plain text without blanks, and the characters after it. -/
def plainWord (inFlow : Bool) : List Char → List Char × List Char
  | [] => ([], [])
  | c :: rest =>
    if isBlankOrBreak c || (c == ':' && colonEnds inFlow rest) ||
        (inFlow && ",?[]\x7b\x7d".toList.contains c) then
      ([], c :: rest)
    else
      let (word, rest) := plainWord inFlow rest
      (c :: word, rest)

/-- The empty lines, and the spaces, at a place inside plain text; none at the border of a
document. -/
def plainGap (seen : List Char) : Nat → Cursor → Option (List Char) × Cursor
  | 0, c => (some seen.reverse, c)
  | fuel + 1, c =>
    let c := c.skipSpaces
    match c.break? with
    | none => (some seen.reverse, c)
    | some (b, c) => if c.atSeparator then (none, c) else plainGap (b :: seen) fuel c

/-- What the blanks between two words read as, whether a line ends among them, and the place after
them. -/
def plainBlanks (c : Cursor) : List Char × Bool × Cursor :=
  let (spaces, c) := c.takeWhile (· == ' ')
  match c.break? with
  | none => (spaces, false, c)
  | some (b, c) =>
    if c.atSeparator then ([], true, c)
    else match plainGap [] (c.rest.length + 1) c with
      | (none, c) => ([], true, c)
      | (some empty, c) => (folded b empty, true, c)

/-- Plain text goes on over blanks until a comment, or outside brackets a line that is not indented
far enough. -/
def readPlainFrom (inFlow : Bool) (indent : Int) (seen : List (List Char)) (blanks : List Char)
    (newLine : Bool) : Nat → Cursor → Plain
  | 0, c => { text := seen.reverse.flatten, next := c, newLine }
  | fuel + 1, c =>
    let (word, rest) := plainWord inFlow c.rest
    if word.isEmpty || c.at? '#' then { text := seen.reverse.flatten, next := c, newLine }
    else
      let c : Cursor := { c with
        rest
        index := c.index + word.length
        column := c.column + word.countP (· != '\ufeff') }
      let seen := word :: blanks :: seen
      let (blanks, newLine, c) := plainBlanks c
      if blanks.isEmpty || (!inFlow && (c.column : Int) < indent) then
        { text := seen.reverse.flatten, next := c, newLine }
      else readPlainFrom inFlow indent seen blanks newLine fuel c

def readPlain (inFlow : Bool) (indent : Int) (c : Cursor) : Plain :=
  readPlainFrom inFlow indent [] [] false (c.rest.length + 1) c

/-! ## Quoted text -/

/-- The character of an escape of one letter. -/
def escaped? : Char → Option Char
  | '0' => some '\x00'
  | 'a' => some '\x07'
  | 'b' => some '\x08'
  | 't' | '\t' => some '\t'
  | 'n' => some '\n'
  | 'v' => some '\x0b'
  | 'f' => some '\x0c'
  | 'r' => some '\r'
  | 'e' => some '\x1b'
  | ' ' => some ' '
  | '"' => some '"'
  | '\\' => some '\\'
  | '/' => some '/'
  | 'N' => some '\x85'
  | '_' => some '\xa0'
  | 'L' => some '\u2028'
  | 'P' => some '\u2029'
  | _ => none

/-- How many digits an escape by number has. -/
def escapeWidth? : Char → Option Nat
  | 'x' => some 2
  | 'u' => some 4
  | 'U' => some 8
  | _ => none

/-- Quoted text so far, last character first. Half of a pair is no character: the replacement
character stands in its place, and its place and number are kept. -/
structure Quotation where
  seen : List Char := []
  halves : List (Nat × Nat) := []

namespace Quotation

/-- The text with more characters, the last of them first. -/
def addAll (q : Quotation) (cs : List Char) : Quotation := { q with seen := cs ++ q.seen }

def add (q : Quotation) (c : Char) : Quotation := { q with seen := c :: q.seen }

/-- The text with the character of a number. -/
def addNumbered (q : Quotation) (n : Nat) : Except Error Quotation :=
  if n < 0x110000 then
    if n.isValidChar then .ok (q.add (Char.ofNat n))
    else .ok { seen := '\ufffd' :: q.seen, halves := (q.seen.length, n) :: q.halves }
  else if n < Nat.pow 2 31 then .error (.outOfRange "chr() arg not in range(0x110000)")
  else .error .tooLarge

def text (q : Quotation) : List Char := q.seen.reverse

/-- How messages show the text, where it holds half of a pair. -/
def shown? (q : Quotation) : Option String :=
  if q.halves.isEmpty then none
  else
    let quote := Text.quoteOf q.text
    let shown := q.text.zipIdx.flatMap fun (c, place) =>
      match q.halves.find? (·.1 == place) with
      | some (_, n) => '\\' :: 'u' :: Text.hexDigits 4 n
      | none => Text.quotedChar quote c
    some (String.ofList (quote :: shown ++ [quote]))

end Quotation

/-- The empty lines after a line break inside quotes, without the blanks before what follows. -/
def quotedGap (seen : List Char) : Nat → Cursor → Except Error (List Char × Cursor)
  | 0, c => .ok (seen.reverse, c)
  | fuel + 1, c =>
    if c.atSeparator then .error .malformed
    else
      let c := c.skipWhile fun ch => ch == ' ' || ch == '\t'
      match c.break? with
      | none => .ok (seen.reverse, c)
      | some (b, c) => quotedGap (b :: seen) fuel c

/-- The rest of a quoted text after its opening quote. -/
def readQuotedFrom (isDouble : Bool) (q : Quotation) :
    Nat → Cursor → Except Error (Quotation × Cursor)
  | 0, _ => .error .malformed
  | fuel + 1, c =>
    match c.rest with
    | [] => .error .malformed
    | ch :: rest =>
      if ch = '"' && isDouble then .ok (q, c.step)
      else if ch = '\'' && !isDouble then
        if rest.head? == some '\'' then readQuotedFrom isDouble (q.add ch) fuel (c.steps 2)
        else .ok (q, c.step)
      else if ch = '\\' && isDouble then
        match rest with
        | [] => .error .malformed
        | e :: digits =>
          match escaped? e, escapeWidth? e with
          | some r, _ => readQuotedFrom isDouble (q.add r) fuel (c.steps 2)
          | none, some width =>
            let digits := digits.take width
            match if digits.length = width then Text.readHex? digits else none with
            | none => .error .malformed
            | some n => do
              readQuotedFrom isDouble (← q.addNumbered n) fuel (c.steps (2 + width))
          | none, none =>
            match c.step.break? with
            | none => .error .malformed
            | some (_, c) => do
              let (empty, c) ← quotedGap [] fuel c
              readQuotedFrom isDouble (q.addAll empty.reverse) fuel c
      else if isBlankOrBreak ch then
        let (blanks, c) := c.takeWhile fun ch => ch == ' ' || ch == '\t'
        match c.break? with
        | none => readQuotedFrom isDouble (q.addAll blanks.reverse) fuel c
        | some (b, c) => do
          let (empty, c) ← quotedGap [] fuel c
          readQuotedFrom isDouble (q.addAll (folded b empty).reverse) fuel c
      else readQuotedFrom isDouble (q.add ch) fuel c.step

/-- A quoted text at its opening quote. -/
def readQuoted (isDouble : Bool) (c : Cursor) : Except Error (Quotation × Cursor) :=
  readQuotedFrom isDouble {} (c.rest.length + 1) c.step

/-! ## Blocks of lines -/

/-- What becomes of the line breaks at the end of a block. -/
inductive Ending where
  | clip
  | strip
  | keep
deriving DecidableEq, Repr

def ending? : Char → Option Ending
  | '+' => some .keep
  | '-' => some .strip
  | _ => none

def indentDigit? (c : Char) : Option Nat :=
  if c.isDigit && c != '0' then some (c.toNat - '0'.toNat) else none

/-- The signs after the mark of a block: how it ends, and how far it is indented. -/
def readHeader (c : Cursor) : Except Error (Ending × Option Nat × Cursor) :=
  let (ending, width, n) : Ending × Option Nat × Nat :=
    match c.rest with
    | a :: b :: _ =>
      match ending? a, indentDigit? a, ending? b, indentDigit? b with
      | some e, _, _, some w => (e, some w, 2)
      | some e, _, _, none => (e, none, 1)
      | none, some w, some e, _ => (e, some w, 2)
      | none, some w, none, _ => (.clip, some w, 1)
      | none, none, _, _ => (.clip, none, 0)
    | [a] =>
      match ending? a, indentDigit? a with
      | some e, _ => (e, none, 1)
      | none, some w => (.clip, some w, 1)
      | none, none => (.clip, none, 0)
    | [] => (.clip, none, 0)
  let c := c.steps n
  if !endsField c.rest then .error .malformed
  else match c.finishLine? with
    | some c => .ok (ending, width, c)
    | none => .error .malformed

/-- Over empty lines and spaces: the breaks, the deepest column, and the place. -/
def measureIndent (seen : List Char) (deepest : Nat) : Nat → Cursor → List Char × Nat × Cursor
  | 0, c => (seen.reverse, deepest, c)
  | fuel + 1, c =>
    let c := c.skipSpaces
    let deepest := max deepest c.column
    match c.break? with
    | some (b, c) => measureIndent (b :: seen) deepest fuel c
    | none => (seen.reverse, deepest, c)

/-- Over empty lines, and over spaces up to the indentation of a block. -/
def blockGap (indent : Nat) (seen : List Char) : Nat → Cursor → List Char × Cursor
  | 0, c => (seen.reverse, c)
  | fuel + 1, c =>
    let c := c.skipIndent indent
    match c.break? with
    | some (b, c) => blockGap indent (b :: seen) fuel c
    | none => (seen.reverse, c)

/-- The lines of a block from the first one on. `gap` are the breaks before the line, `last` the
break after the line before. -/
def readBlockLines (folds : Bool) (ending : Ending) (indent : Nat) (seen : List (List Char))
    (gap : List Char) (last : List Char) : Nat → Cursor → List Char × Cursor
  | fuel + 1, c =>
    if c.column = indent && !c.rest.isEmpty then
      let beginsWithText := !(c.at? ' ' || c.at? '\t')
      let (line, c) := c.takeWhile (!isBreak ·)
      let seen := line :: gap :: seen
      let (last, c) : List Char × Cursor := match c.break? with
        | some (b, c) => ([b], c)
        | none => ([], c)
      let (gap, c) := blockGap indent [] (c.rest.length + 1) c
      if c.column = indent && !c.rest.isEmpty then
        let joined : List Char :=
          if folds && last == ['\n'] && beginsWithText && !(c.at? ' ' || c.at? '\t') then
            if gap.isEmpty then [' '] else []
          else last
        readBlockLines folds ending indent (joined :: seen) gap last fuel c
      else finish seen gap last c
    else finish seen gap last c
  | 0, c => finish seen gap last c
where
  finish (seen : List (List Char)) (gap last : List Char) (c : Cursor) : List Char × Cursor :=
    let tail : List Char := match ending with
      | .strip => []
      | .clip => last
      | .keep => last ++ gap
    (seen.reverse.flatten ++ tail, c)

/-- A block at its mark, inside a structure of some indentation. -/
def readBlock (folds : Bool) (outer : Int) (c : Cursor) : Except Error (List Char × Cursor) := do
  let (ending, width, c) ← readHeader c.step
  let least : Nat := max 1 (outer + 1).toNat
  let fuel := c.rest.length + 1
  match width with
  | some w =>
    let indent := least + w - 1
    let (gap, c) := blockGap indent [] fuel c
    return readBlockLines folds ending indent [] gap [] fuel c
  | none =>
    let (gap, deepest, c) := measureIndent [] 0 fuel c
    return readBlockLines folds ending (max least deepest) [] gap [] fuel c

end PlanCode.Yaml
