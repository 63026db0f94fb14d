/-!
# Places in a YAML text

Reading walks over the characters of a text and keeps the place that it has
reached: line and column decide what belongs together. A byte order mark takes
no column.

* `step_line`: after a line break the next line begins in column zero.
-/
namespace PlanCode.Yaml

/-- Why a text gives no data. -/
inductive Error where
  /-- It is not well formed, or a tag does not fit its value. -/
  | malformed
  /-- A number, a character or a time that does not exist. -/
  | outOfRange (reason : String)
  /-- The number of a character is no number of 32 bits with a sign, or a weight is no double. -/
  | tooLarge
  /-- A value tagged as a flag is none of the words for one. -/
  | notAFlag
  /-- A value tagged as a number has no characters. -/
  | emptyNumber
  /-- A value tagged as a time does not look like one. -/
  | notATime
  /-- A mapping is tagged as a time. -/
  | timeNotText
  /-- A mapping stands for a value that it is part of. -/
  | endless
deriving DecidableEq, Repr

def isBreak (c : Char) : Bool := c == '\n' || c == '\x85' || c == '\u2028' || c == '\u2029'

def isBlankOrBreak (c : Char) : Bool := c == ' ' || c == '\t' || isBreak c

/-- Whether nothing more stands on the line. -/
def endsLine : List Char → Bool
  | [] => true
  | c :: _ => isBreak c

/-- Whether a word ends here: at the end, a blank or a line break. -/
def endsWord : List Char → Bool
  | [] => true
  | c :: _ => isBlankOrBreak c

/-- As `endsWord`, where a tab is no blank. -/
def endsField : List Char → Bool
  | [] => true
  | c :: _ => c == ' ' || isBreak c

def isMarkChar (c : Char) : Bool := c.isAlphanum || c == '-' || c == '_'

structure Cursor where
  rest : List Char
  index : Nat := 0
  line : Nat := 0
  column : Nat := 0

namespace Cursor

/-- The place after the next character. -/
def step (c : Cursor) : Cursor :=
  match c.rest with
  | [] => c
  | ch :: rest =>
    if isBreak ch then { rest, index := c.index + 1, line := c.line + 1 }
    else if ch = '\ufeff' then { c with rest, index := c.index + 1 }
    else { c with rest, index := c.index + 1, column := c.column + 1 }

def steps : Nat → Cursor → Cursor
  | 0, c => c
  | n + 1, c => steps n c.step

theorem step_line {c : Cursor} {ch : Char} {rest : List Char} (h : c.rest = ch :: rest)
    (hb : isBreak ch = true) : c.step.column = 0 ∧ c.step.line = c.line + 1 := by
  simp [step, h, hb]

def peek? (c : Cursor) : Option Char := c.rest.head?

/-- Whether the next character is a given one. -/
def at? (c : Cursor) (ch : Char) : Bool := c.peek? == some ch

/-- The characters up to the first one that fails a test, and the place after them. No line break
passes the test. -/
def takeWhile (p : Char → Bool) (c : Cursor) : List Char × Cursor :=
  let (run, rest) := c.rest.span p
  (run, { c with
    rest
    index := c.index + run.length
    column := c.column + run.countP (· != '\ufeff') })

def skipWhile (p : Char → Bool) (c : Cursor) : Cursor := (c.takeWhile p).2

def skipSpaces (c : Cursor) : Cursor := c.skipWhile (· == ' ')

/-- Over spaces, but not beyond a column. -/
def skipIndent (column : Nat) (c : Cursor) : Cursor :=
  let width := ((c.rest.take (column - c.column)).takeWhile (· == ' ')).length
  { c with
    rest := c.rest.drop width, index := c.index + width, column := c.column + width }

/-- A line break, which most often reads as a line feed, and the place after it. -/
def break? (c : Cursor) : Option (Char × Cursor) :=
  match c.rest with
  | ch :: _ =>
    if isBreak ch then some (if ch = '\x85' then '\n' else ch, c.step) else none
  | [] => none

/-- Whether a document begins or ends here: three signs that are a word of their own. -/
def atSeparator (c : Cursor) : Bool :=
  match c.rest with
  | '-' :: '-' :: '-' :: rest | '.' :: '.' :: '.' :: rest => endsWord rest
  | _ => false

/-- Over spaces and a comment to the end of the line, and over its end. -/
def finishLine? (c : Cursor) : Option Cursor :=
  let c := c.skipSpaces
  let c := if c.at? '#' then c.skipWhile (!isBreak ·) else c
  match c.break? with
  | some (_, c) => some c
  | none => if c.rest.isEmpty then some c else none

end Cursor
end PlanCode.Yaml
