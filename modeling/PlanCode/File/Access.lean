import PlanCode.File.Path

/-!
# Access to files

What the program needs of a file system, whatever holds the files: to look at a
path, read and write a file, make directories and list names.
-/
namespace PlanCode

/-- What stands at a path. -/
inductive EntryKind where
  | file
  | directory
deriving DecidableEq, Repr

/-- Why a file cannot be read, written or made. -/
inductive FileFault where
  | missing
  | isDirectory
  | notADirectory
  /-- A directory cannot be made, as a file stands there. -/
  | taken
  /-- A name is longer than names can be. -/
  | longName
  /-- A path holds a character that no name has. -/
  | badName
  | refused
deriving DecidableEq, Repr

/-- Why no file can stand at a path, if so. -/
def Path.fault? (p : Path) : Option FileFault :=
  if p.hasNul then some .badName else if p.hasLongName then some .longName else none

class FileAccess (m : Type → Type) where
  kind? : Path → m (Option EntryKind)
  read : Path → m (Except FileFault ByteArray)
  write : Path → String → m (Except FileFault Unit)
  /-- Makes one directory inside another. -/
  makeDirectory : Path → m (Except FileFault Unit)
  /-- The names in a directory, in any order. -/
  names : Path → m (List String)
  /-- A path from the root. -/
  absolute : Path → m Path

namespace FileAccess

variable {m : Type → Type} [Monad m] [FileAccess m]

def isFile (p : Path) : m Bool := return (← kind? p) == some .file

/-- Makes every directory on the way to a path, and the one at the path. -/
def makeDirectories (p : Path) : m (Except FileFault Unit) :=
  go (p.ancestors.tail ++ [p])
where
  go : List Path → m (Except FileFault Unit)
    | [] => return .ok ()
    | p :: rest => do
      match ← kind? (m := m) p with
      | some .directory => go rest
      | some .file => return .error (if rest.isEmpty then .taken else .notADirectory)
      | none =>
        match ← makeDirectory p with
        | .ok () => go rest
        | .error f => return .error f

/-- Writes a file, after making the directories on the way to it. -/
def writeMaking (p : Path) (content : String) : m (Except FileFault Unit) := do
  if let some f := p.parent.fault? then return .error f
  match ← makeDirectories (m := m) p.parent with
  | .ok () =>
    match p.fault? with
    | none => write p content
    | some f => return .error f
  | .error f => return .error f

end FileAccess
end PlanCode
