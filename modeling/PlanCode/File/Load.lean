import PlanCode.Failure
import PlanCode.TestClass
import PlanCode.Yaml.Document

/-!
# Loading files

Settings, surfaces and plans from files. Settings that are not named come from the first
of two files in the working directory, and where neither is there they have
their defaults.

* `ofYaml_empty`: an empty file leaves all settings as they are.
-/
namespace PlanCode

namespace Settings

/-- The names of settings files, in the order in which they are looked for. -/
def fileNames : List String := ["jmeter-codegen.yaml", ".jmeter-codegen.yaml"]

/-- The settings that the text of a file writes. -/
def ofYaml (path text : String) : Except Failure Settings :=
  match Yaml.read text with
  | .error .malformed => .error (.settings (.badSyntax path))
  | .error e => .error (.yaml e)
  | .ok d => (ofDocument path d).mapError .settings

theorem ofYaml_empty (path : String) : ofYaml path "" = .ok {} := by
  rw [ofYaml, Yaml.read_empty]
  rfl

/-- The settings that the bytes of a file write. -/
def ofBytes (path : String) (content : ByteArray) : Except Failure Settings := do
  ofYaml path (← (Text.decode content).mapError .notText)

variable {m : Type → Type} [Monad m] [FileAccess m]

/-- The settings file of a directory. -/
def findFile? (directory : Path) : m (Option Path) :=
  go fileNames
where
  go : List String → m (Option Path)
    | [] => return none
    | name :: rest => do
      let p := directory.child name
      if ← FileAccess.isFile p then return some p else go rest

def loadFile (p : Path) : m (Except Failure Settings) := do
  if p.fault? == some .longName then return .error (.file .longName)
  if !(← FileAccess.isFile p) then return .error (.settings (.fileMissing p.text))
  match ← FileAccess.read p with
  | .ok content => return ofBytes p.text content
  | .error f => return .error (.file f)

/-- The settings of a named file, or else of the one in the working directory. -/
def load (path : Option String) : m (Except Failure Settings) := do
  match path with
  | some s => loadFile (Path.ofText s)
  | none =>
    match ← findFile? {} with
    | some p => loadFile p
    | none => return .ok {}

end Settings

namespace Surface

/-- The surface that the text of a file declares. -/
def ofYaml (path text : String) : Except Failure Surface :=
  match Yaml.read text with
  | .error .malformed => .error (.surface (.unreadable path))
  | .error e => .error (.yaml e)
  | .ok d => (ofDatum d).mapError .surface

end Surface

namespace PlanFile

variable {m : Type → Type} [Monad m] [FileAccess m]

/-- The plan of a file. -/
def load (path : String) : m (Except Failure Element) := do
  let p := Path.ofText path
  if p.fault? == some .longName then return .error (.file .longName)
  match ← FileAccess.kind? p with
  | none => return .error (.planFile (.fileMissing path))
  | some _ =>
    match ← FileAccess.read p with
    | .ok content => return (readBytes content).mapError .planFile
    | .error f => return .error (.file f)

end PlanFile

namespace Generator

/-- The class that a plan in a text gives. -/
def ofText (g : Generator) (content : String) : Except Failure TestClass := do
  let plan ← (PlanFile.read content).mapError .planFile
  (g.generate plan).mapError .conversion

/-- The class that the plan of a file gives. -/
def ofFile {m : Type → Type} [Monad m] [FileAccess m] (g : Generator) (path : String) :
    m (Except Failure TestClass) := do
  match ← PlanFile.load path with
  | .ok plan => return (g.generate plan).mapError .conversion
  | .error e => return .error e

end Generator
end PlanCode
