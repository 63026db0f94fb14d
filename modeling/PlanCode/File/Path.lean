import PlanCode.Text.Replace

/-!
# Paths

A path is a list of names, from the working directory or from the root. Empty
names and `.` do not count; `..` stays, as it may not lead back.

* `ofText_name`: one plain name is a path of that name.
-/
namespace PlanCode

structure Path where
  isAbsolute : Bool := false
  names : List String := []
deriving DecidableEq, Repr

namespace Path

def ofText (s : String) : Path where
  isAbsolute := s.toList.head? == some '/'
  names := ((Text.splitOnChar '/' s.toList).map String.ofList).filter fun n => n != "" && n != "."

/-- Whether the text of a path asks for what is inside of it. -/
def endsInside (s : String) : Bool :=
  match (Text.splitOnChar '/' s.toList).getLast? with
  | some name => name.isEmpty || name == ['.']
  | none => false

/-- No name in a path has more bytes than this. -/
def maxNameBytes : Nat := 255

def hasLongName (p : Path) : Bool := p.names.any (maxNameBytes < ·.utf8ByteSize)

/-- Whether a path holds a character that no name has. -/
def hasNul (p : Path) : Bool := p.names.any (·.toList.contains '\x00')

/-- The shortest text of a path. -/
def text (p : Path) : String :=
  let names := "/".intercalate p.names
  if p.isAbsolute then "/" ++ names else if p.names.isEmpty then "." else names

def parent (p : Path) : Path := { p with names := p.names.dropLast }

def child (p : Path) (name : String) : Path := { p with names := p.names ++ [name] }

/-- The paths that lead to a path, shortest first. -/
def ancestors (p : Path) : List Path :=
  (List.range p.names.length).map fun n => { p with names := p.names.take n }

theorem ofText_name : ofText "plan.jmx" = { names := ["plan.jmx"] } := by decide +kernel

theorem text_ofText_dot : (ofText "./a//b/.").text = "a/b" := by decide +kernel

end Path
end PlanCode
