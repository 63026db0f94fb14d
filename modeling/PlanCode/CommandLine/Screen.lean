import PlanCode.Text.Blank
import PlanCode.Text.CellWidth
import PlanCode.Text.Replace

/-!
# Lines on a screen

What becomes of a text on a screen of some width: controls that would move the cursor are left out,
tabs become spaces, and lines that are too wide are broken between words, or in the middle of a word
that is wider than the screen. Code is not broken but cut off.

* `withoutControls_plain`, `spread_plain`, `expandTabs_plain`: a text without controls and tabs
  stays as it is.
-/
namespace PlanCode.CommandLine

/-- Characters that would move the cursor. -/
def isControl (c : Char) : Bool :=
  c == '\x07' || c == '\x08' || c == '\x0b' || c == '\x0c' || c == '\r'

def withoutControls (s : List Char) : List Char := s.filter (!isControl ·)

theorem withoutControls_plain {s : List Char} (h : ∀ c ∈ s, isControl c = false) :
    withoutControls s = s := List.filter_eq_self.2 fun c hc => by simp [h c hc]

/-! ## Tabs -/

/-- Tabs as spaces up to the next column that the width divides, where every character takes a
column. -/
def expandTabs (width : Nat) : Nat → List Char → List Char
  | _, [] => []
  | column, '\t' :: rest =>
    let n := width - column % width
    List.replicate n ' ' ++ expandTabs width (column + n) rest
  | column, c :: rest =>
    c :: expandTabs width (if c = '\n' || c = '\r' then 0 else column + 1) rest

theorem expandTabs_plain {s : List Char} (h : '\t' ∉ s) (width column : Nat) :
    expandTabs width column s = s := by
  induction s generalizing column with
  | nil => rfl
  | cons c rest ih =>
    simp only [List.mem_cons, not_or] at h
    rw [expandTabs]
    · rw [ih h.2]
    · exact fun e => h.1 e.symm

/-- The width of a tab where cells are counted. -/
def tabCells : Nat := 8

/-- The parts of a line between its tabs, each but the last filled up to the next tab stop; `column`
is the cell where the first begins. -/
def spreadParts (column : Nat) : List (List Char) → List Char
  | [] => []
  | [part] => part
  | part :: parts =>
    let part := part ++ [' ']
    let reached := column + Text.cells part
    let missing := (tabCells - reached % tabCells) % tabCells
    part ++ List.replicate missing ' ' ++ spreadParts (reached + missing) parts

/-- A line with spaces for its tabs, where cells are counted. -/
def spread (line : List Char) : List Char := spreadParts 0 (Text.splitOnChar '\t' line)

theorem spread_plain {line : List Char} (h : '\t' ∉ line) : spread line = line := by
  simp [spread, Text.splitOnChar_of_not_mem h, spreadParts]

/-! ## Breaking lines -/

/-- The words of a line, each with the blanks after it, and the first with those before it. Blanks
alone are no word. -/
def spacedWordsFrom : Nat → List Char → List (List Char)
  | 0, _ => []
  | fuel + 1, s =>
    let (before, s) := s.span Text.isBlank
    let (word, s) := s.span (!Text.isBlank ·)
    let (after, s) := s.span Text.isBlank
    if word.isEmpty then [] else (before ++ word ++ after) :: spacedWordsFrom fuel s

def spacedWords (s : List Char) : List (List Char) := spacedWordsFrom s.length s

def trimEnd (s : List Char) : List Char := (s.reverse.dropWhile Text.isBlank).reverse

/-- A word in parts that fit; `part` is the part that is being filled, last character first. -/
def choppedFrom (width : Nat) (part : List Char) (filled : Nat) : List Char → List (List Char)
  | [] => [part.reverse]
  | c :: rest =>
    let n := Text.charCells c
    if filled + n ≤ width then choppedFrom width (c :: part) (filled + n) rest
    else part.reverse :: choppedFrom width [c] n rest

def chopped (width : Nat) (word : List Char) : List (List Char) := choppedFrom width [] 0 word

/-- How far a line is filled: its places so far, and the cells since the last break. -/
structure Filling where
  place : Nat := 0
  filled : Nat := 0
  breaks : List Nat := []
deriving DecidableEq, Repr

/-- Puts a break before the place, unless it is the first. -/
def Filling.break (f : Filling) : Filling :=
  if f.place = 0 then f else { f with breaks := f.breaks ++ [f.place] }

def Filling.addParts (f : Filling) : List (List Char) → Filling
  | [] => f
  | [part] => { f.break with place := f.place + part.length, filled := Text.cells part }
  | part :: parts =>
    addParts { f.break with place := f.place + part.length } parts

def Filling.add (width : Nat) (f : Filling) (word : List Char) : Filling :=
  let needed := Text.cells (trimEnd word)
  let next := f.place + word.length
  if f.filled + needed ≤ width then
    { f with place := next, filled := f.filled + Text.cells word }
  else if width < needed then f.addParts (chopped width word)
  else if f.filled = 0 then { f with place := next }
  else { f.break with place := next, filled := Text.cells word }

/-- The parts of a line between some places, in increasing order. -/
def splitAtPlaces (s : List Char) (start : Nat) : List Nat → List (List Char)
  | [] => [s]
  | place :: places =>
    s.take (place - start) :: splitAtPlaces (s.drop (place - start)) place places

/-- As much of a line as fits. A character of two cells of which one is left over is a space. -/
def cut (width : Nat) : List Char → List Char
  | [] => []
  | c :: rest =>
    let n := Text.charCells c
    if n ≤ width then c :: cut (width - n) rest else List.replicate width ' '

/-- The lines that a line becomes. -/
def wrapped (width : Nat) (line : List Char) : List (List Char) :=
  let breaks := ((spacedWords line).foldl (Filling.add width) {}).breaks
  (splitAtPlaces line 0 breaks).map (cut width)

/-! ## Texts -/

/-- A text without controls as the screen shows it. -/
def textLines (width : Nat) (s : String) : List String :=
  ((Text.splitOnChar '\n' s.toList).flatMap fun line => wrapped width (spread line)).map
    String.ofList

/-- The width of a tab in code. -/
def codeTab : Nat := 4

/-- Code as the screen shows it. -/
def codeLines (width : Nat) (s : String) : List String :=
  (Text.splitOnChar '\n' (withoutControls (expandTabs codeTab 0 s.toList))).map fun line =>
    String.ofList (cut width line)

end PlanCode.CommandLine
