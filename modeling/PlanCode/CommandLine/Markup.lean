import PlanCode.CommandLine.Emoji
import PlanCode.CommandLine.MarkValue
import PlanCode.CommandLine.Screen
import PlanCode.CommandLine.Style

/-!
# Marked-up lines

Lines for the console hold marks in brackets, such as `[bold]` and `[/bold]`, which are not shown. A
closing mark has to find an open one of its style; a backslash keeps a mark as text. What looks like
no mark is text, in which names between colons stand for emoji.

* `plain_of_not_mem`: text without brackets, colons and controls is shown as it is.
-/
namespace PlanCode.CommandLine

inductive Piece where
  | text (s : List Char)
  | mark (name : List Char)
deriving DecidableEq, Repr

def beginsMark (c : Char) : Bool :=
  ('a' ≤ c && c ≤ 'z') || c == '#' || c == '/' || c == '@'

/-- What stands in brackets, if it is a mark, and the text after it; the opening bracket is already
read. -/
def readMark? : List Char → Option (List Char × List Char)
  | [] => none
  | c :: rest =>
    if beginsMark c then
      match rest.span fun c => c != '[' && c != ']' with
      | (body, ']' :: rest) => some (c :: body, rest)
      | _ => none
    else none

/-- The pieces of a text; `seen` holds the plain characters so far, last first. -/
def piecesFrom (seen : List Char) : Nat → List Char → List Piece
  | 0, _ => [.text seen.reverse]
  | _, [] => [.text seen.reverse]
  | fuel + 1, c :: rest =>
    let (slashes, after) := (c :: rest).span (· == '\\')
    match after with
    | '[' :: inside =>
      match readMark? inside with
      | some (name, after) =>
        let kept := List.replicate (slashes.length / 2) '\\'
        let whole : Piece :=
          if slashes.length % 2 = 1 then .text ('[' :: name ++ [']']) else .mark name
        .text seen.reverse :: .text kept :: whole :: piecesFrom [] fuel after
      | none => piecesFrom ('[' :: slashes ++ seen) fuel inside
    | c :: after => piecesFrom (c :: slashes ++ seen) fuel after
    | [] => [.text (slashes ++ seen).reverse]

def pieces (s : List Char) : List Piece := piecesFrom [] s.length s

/-- A part of a line under a style. -/
structure Styled where
  words : List Char
  isEmpty : Bool
deriving DecidableEq, Repr

/-- A mark that is open: what it is compared by, its value after `=`, and how many characters are
shown before it. -/
structure OpenMark where
  key : String
  value : Option (List Char)
  place : Nat
deriving DecidableEq, Repr

namespace OpenMark

/-- A mark before and after its first `=`. -/
def ofName (place : Nat) (name : List Char) : Except MarkupFault OpenMark := do
  let (before, after) := name.span (· != '=')
  return { key := ← Style.key before, value := after.tail?, place }

/-- Whether a mark calls an action, which has a value instead of a style. -/
def isAction (m : OpenMark) : Bool := m.key.toList.head? == some '@'

/-- The style of the text up to a place, with the value of the mark. -/
def style (m : OpenMark) (stop : Nat) : Styled where
  words := m.key.toList ++ (m.value.map (' ' :: ·)).getD []
  isEmpty := m.place == stop

/-- A mark that is closed has to have a value that can be read, if it calls an action. -/
def checkValue (m : OpenMark) : Except MarkupFault Unit :=
  if m.isAction && !MarkValue.isValue (m.value.getD []) then .error .badMark else .ok ()

end OpenMark

/-- The name that a closing mark gives, if the mark is one. -/
def closedName? (name : List Char) : Option (List Char) :=
  match name.takeWhile (· != '=') with
  | '/' :: closed => some (Text.trimChars closed)
  | _ => none

/-- The mark that a closing one closes, the last one of its name, or the last of all where it has no
name. -/
def closing (opened : List OpenMark) (name : List Char) : Except MarkupFault OpenMark := do
  let key ← Style.key name
  match if name.isEmpty then opened.head? else opened.find? (·.key == key) with
  | some m => return m
  | none => throw .badMark

/-- A text that is shown: a backslash before a bracket is not. -/
def shownText (s : List Char) : List Char := withEmoji (Text.replaceAll ['\\', '['] ['['] s)

/-- The text between the marks, where some marks are open, the last one first, and the parts of it
that have a style; `place` counts the characters before. -/
def showPieces (opened : List OpenMark) (place : Nat) :
    List Piece → Except MarkupFault (List Char × List Styled)
  | [] => .ok ([], opened.map (·.style place))
  | .text s :: rest => do
    let shown := withoutControls (shownText s)
    let (more, styled) ← showPieces opened (place + shown.length) rest
    return (shown ++ more, styled)
  | .mark name :: rest =>
    match closedName? name with
    | some closed => do
      let m ← closing opened closed
      m.checkValue
      let (shown, styled) ← showPieces (opened.erase m) place rest
      return (shown, if m.isAction then styled else m.style place :: styled)
    | none => do showPieces ((← OpenMark.ofName place name) :: opened) place rest

/-- Reads the styles of a text, of which empty parts of a text of several lines have none. -/
def checkStyles (shown : List Char) (styled : List Styled) : Except MarkupFault Unit := do
  for s in styled do
    if !s.isEmpty || !shown.contains '\n' then
      let _ ← Style.read? s.words

/-- The text of a marked-up line. -/
def plain (s : String) : Except MarkupFault String := do
  if s.toList.contains '[' then
    let (shown, styled) ← showPieces [] 0 (pieces s.toList)
    checkStyles shown styled
    return String.ofList shown
  else return String.ofList (withoutControls (withEmoji s.toList))

theorem plain_of_not_mem {s : String} (h : '[' ∉ s.toList) (hc : ':' ∉ s.toList)
    (hp : ∀ c ∈ s.toList, isControl c = false) : plain s = .ok s := by
  simp [plain, h, withEmoji_of_not_mem hc, withoutControls_plain hp]
  rfl

end PlanCode.CommandLine
