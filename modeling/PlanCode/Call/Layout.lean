import PlanCode.Call.Node
import PlanCode.Text.Blank
import PlanCode.Text.Replace

/-!
# Layout of the code

How a tree of calls is written as Java source. Arguments stand on one line, each
child and each chained node on a line of its own, two spaces further in than
the call. Whatever is written as nothing leaves no separator and no line.

A call is laid out from the finished text of its parts: separators at line ends
lose their space, blank lines are closed up, and a call that is commented out
gets its mark on every line that starts at the call's indent or beyond.

* `closeBlankLines_cons`: closing up blank lines touches line feeds only.
-/
namespace PlanCode.Layout

open PlanCode.Text

/-- Two spaces, by which each level is indented. -/
def indentStep : List Char := [' ', ' ']

/-- Drops the space of a separator that ends its line. -/
def tightenCommas : List Char → List Char
  | ',' :: ' ' :: '\n' :: rest => ',' :: '\n' :: tightenCommas rest
  | c :: rest => c :: tightenCommas rest
  | [] => []

/-- Puts a line feed in front of a text whose blank lines are closed up; a blank line in between
goes. -/
def joinLine (rest : List Char) : List Char :=
  match rest.dropWhile fun c => c != '\n' && isBlank c with
  | '\n' :: after => '\n' :: after
  | _ => '\n' :: rest

/-- Closes up blank lines: a line feed and all blanks after it up to a last line feed become one
line feed. -/
def closeBlankLines : List Char → List Char
  | [] => []
  | c :: rest => if c = '\n' then joinLine (closeBlankLines rest) else c :: closeBlankLines rest

theorem closeBlankLines_cons {c : Char} (h : c ≠ '\n') (rest : List Char) :
    closeBlankLines (c :: rest) = c :: closeBlankLines rest := by simp [closeBlankLines, h]

/-- Arguments on one line. -/
def argumentList (parts : List (List Char)) : List Char :=
  closeBlankLines (tightenCommas ([',', ' '].intercalate parts))

/-- Children on lines of their own, at the given indent. -/
def childLines (indent : List Char) (parts : List (List Char)) : List Char :=
  if parts.isEmpty then []
  else '\n' :: indent ++ ([',', '\n'] ++ indent).intercalate parts ++ ['\n']

/-- A chained node on a line of its own. -/
def chainLine (indent : List Char) (dotted : Bool) (code : List Char) : List Char :=
  if code.isEmpty then []
  else '\n' :: indent ++ (if dotted then ['.'] else []) ++ code

def endsLine (s : List Char) : Bool := s.getLast? == some '\n'

/-- Marks a text as comment, at the given indent. -/
def commentOut (indent code : List Char) : List Char :=
  ['/', '/'] ++ replaceAll ('\n' :: indent) ('\n' :: indent ++ ['/', '/']) code

def commentText (text : String) : List Char := ['/', '/', ' '] ++ text.toList

def nameText : Option String → List Char
  | none => "None".toList
  | some name => name.toList

/-- A call from the text of its arguments and of its chain. After arguments that end a line the
chain goes on right behind the closing parenthesis. -/
def callText (head : Head) (indent arguments chain : List Char) : List Char :=
  let heading := match head.heading with
    | none => []
    | some text => commentText text ++ '\n' :: indent
  let open_ := heading ++ nameText head.name ++ '(' :: arguments
  let code :=
    if endsLine arguments then
      open_ ++ indent ++ ')' :: chain.drop (1 + indent.length + indentStep.length)
    else open_ ++ ')' :: chain
  if head.commented then commentOut indent code else code

/-- A `children(...)` segment from the text of its children. -/
def childrenText (indent children : List Char) : List Char :=
  if children.isEmpty then [] else "children(".toList ++ children ++ indent ++ [')']

mutual

/-- The code of a node whose first line starts at the given indent; later lines hold it. -/
def nodeText (indent : List Char) : Node → List Char
  | .empty => []
  | .comment text => commentText text
  | .call head arguments chain _ =>
    let inner := indent ++ indentStep
    callText head indent (argumentList (argumentParts inner arguments)) (chainText inner chain)
  | .children nodes =>
    let inner := indent ++ indentStep
    childrenText indent (argumentList [childLines inner (nodeParts inner nodes)])

/-- The code of an argument; a bare parameter has none. -/
def argumentText (indent : List Char) : Argument Node → List Char
  | .literal v => v.code.toList
  | .bare .. => []
  | .children _ nodes => childLines indent (nodeParts indent nodes)

/-- The arguments that are written: neither ignored nor empty. -/
def argumentParts (indent : List Char) : List (Argument Node) → List (List Char)
  | [] => []
  | a :: rest =>
    let code := argumentText indent a
    if a.isIgnored || code.isEmpty then argumentParts indent rest
    else code :: argumentParts indent rest

/-- The codes of the nodes that are written. -/
def nodeParts (indent : List Char) : List Node → List (List Char)
  | [] => []
  | n :: rest =>
    let code := nodeText indent n
    if code.isEmpty then nodeParts indent rest else code :: nodeParts indent rest

def chainText (indent : List Char) : List Node → List Char
  | [] => []
  | n :: rest => chainLine indent n.isCall (nodeText indent n) ++ chainText indent rest

end

end PlanCode.Layout

namespace PlanCode

namespace Node

/-- The Java source of a node at an indent. -/
def code (n : Node) (indent : String) : String :=
  String.ofList (Layout.nodeText indent.toList n)

/-- The Java source of a call as the right side of an assignment or a return: the closing
parenthesis of a call without chain moves to the indent of the statement. -/
def assignmentCode (n : Node) (indent : String) : String :=
  let text := Layout.nodeText indent.toList n
  match n with
  | .call _ _ [] _ =>
    match text.reverse with
    | ')' :: ' ' :: ' ' :: rest => String.ofList (rest.reverse ++ [')'])
    | _ => String.ofList text
  | _ => String.ofList text

mutual

/-- Whether a node can be written: no bare parameter is in it. -/
def isWritable : Node → Bool
  | .empty => true
  | .comment _ => true
  | .call _ arguments chain _ => writableArguments arguments && writableNodes chain
  | .children nodes => writableNodes nodes

def writableArgument : Argument Node → Bool
  | .literal _ => true
  | .bare .. => false
  | .children _ nodes => writableNodes nodes

def writableArguments : List (Argument Node) → Bool
  | [] => true
  | a :: rest => writableArgument a && writableArguments rest

def writableNodes : List Node → Bool
  | [] => true
  | n :: rest => n.isWritable && writableNodes rest

end

end Node
end PlanCode
