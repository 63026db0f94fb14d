import PlanCode.File.Access

/-!
# Files in memory

A tree of files around a working directory, kept as paths with what stands at
each. The working directory and what it lies in are always there.

* `kind?_put`: a file that was put is found.
-/
namespace PlanCode

inductive FileTree.Entry where
  | file (content : ByteArray)
  | directory

structure FileTree where
  /-- Places with what stands there; of two entries with one place the first counts. -/
  entries : List (List String × FileTree.Entry) := []
  /-- Where the working directory is. -/
  base : Path := { isAbsolute := true }

namespace FileTree

def Entry.kind : Entry → EntryKind
  | .file _ => .file
  | .directory => .directory

/-- The place from which paths from the root lead on, where the working directory is not on the
way. A place is given by names from the working directory, or from here. -/
def root : List String := ["/"]

/-- Whether a place is the working directory, one that it lies in, or the root. -/
def isAround (place : List String) : Bool := place.all (· == "..") || place == root

def find? (t : FileTree) (place : List String) : Option Entry :=
  if isAround place then some .directory
  else (t.entries.find? (·.1 == place)).map (·.2)

def put (t : FileTree) (place : List String) (e : Entry) : FileTree :=
  { t with entries := (place, e) :: t.entries }

theorem kind?_put (t : FileTree) {place : List String} (h : isAround place = false) (e : Entry) :
    (t.put place e).find? place = some e := by
  simp [find?, put, h]

/-- A file with the directories on the way to it. -/
def putFile (t : FileTree) (p : Path) (content : ByteArray) : FileTree :=
  let t := p.ancestors.foldl (fun t a =>
    if (t.find? a.names).isSome then t else t.put a.names .directory) t
  t.put p.names (.file content)

/-- The directory around a place; nothing is around the root. -/
def around (place : List String) : List String :=
  if place == root then root
  else if isAround place then place ++ [".."]
  else place.dropLast

/-- The place of a path, where `..` leads back. Every name but the last has to be that of a
directory. -/
def locate (t : FileTree) (p : Path) : Except FileFault (List String) :=
  if !p.isAbsolute then go [] p.names
  else if t.base.isAbsolute && t.base.names.isPrefixOf p.names then
    go [] (p.names.drop t.base.names.length)
  else go root p.names
where
  go (here : List String) : List String → Except FileFault (List String)
    | [] => .ok here
    | name :: rest =>
      match t.find? here with
      | none => .error .missing
      | some (.file _) => .error .notADirectory
      | some .directory =>
        if name = ".." then go (around here) rest else go (here ++ [name]) rest

def lookup? (t : FileTree) (p : Path) : Option Entry :=
  match t.locate p with
  | .ok names => t.find? names
  | .error _ => none

def read (t : FileTree) (p : Path) : Except FileFault ByteArray :=
  match t.locate p with
  | .error f => .error f
  | .ok names =>
    match t.find? names with
    | some (.file content) => .ok content
    | some .directory => .error .isDirectory
    | none => .error .missing

def parentIsDirectory (t : FileTree) (place : List String) : Bool :=
  ((t.find? (around place)).map Entry.kind) == some .directory

def write (t : FileTree) (p : Path) (content : String) : Except FileFault FileTree :=
  match t.locate p with
  | .error f => .error f
  | .ok names =>
    match t.find? names with
    | some .directory => .error .isDirectory
    | _ =>
      if t.parentIsDirectory names then .ok (t.put names (.file content.toUTF8))
      else .error .missing

def makeDirectory (t : FileTree) (p : Path) : Except FileFault FileTree :=
  match t.locate p with
  | .error f => .error f
  | .ok names =>
    match t.find? names with
    | some _ => .error .taken
    | none =>
      if t.parentIsDirectory names then .ok (t.put names .directory) else .error .missing

/-- The names in a directory. -/
def names (t : FileTree) (p : Path) : List String :=
  match t.locate p with
  | .error _ => []
  | .ok here =>
    ((t.entries.filter fun (names, _) => !names.isEmpty && names.dropLast == here).filterMap
      (·.1.getLast?)).eraseDups

def absolute (t : FileTree) (p : Path) : Path :=
  if p.isAbsolute then p else { t.base with names := t.base.names ++ p.names }

/-- Access to files in memory; a fault leaves the tree as it was. -/
instance : FileAccess (StateM FileTree) where
  kind? p := return ((← get).lookup? p).map Entry.kind
  read p := return (← get).read p
  write p content := modifyGet fun t => match t.write p content with
    | .ok t => (.ok (), t)
    | .error f => (.error f, t)
  makeDirectory p := modifyGet fun t => match t.makeDirectory p with
    | .ok t => (.ok (), t)
    | .error f => (.error f, t)
  names p := return (← get).names p
  absolute p := return (← get).absolute p

end FileTree
end PlanCode
