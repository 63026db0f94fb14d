import PlanCode.File.Load
import PlanCode.Json.Writer
import PlanCode.Profile.Schedule
import PlanCode.Tools.Description

/-!
# Calling tools

A call names a tool and hands it arguments. The answer is one JSON document,
which tells either what came of it or, for what is wrong with the arguments, the
plan or the settings, what went wrong. Everything else that goes wrong ends the
call without an answer.

* `answer_reported`: what has a name to be reported by is an answer, not a failure of the call.
-/
namespace PlanCode
namespace Tool

open ToolDescription (record texts)

/-- The value of an argument, null where it is not given. -/
def argument (key : String) (arguments : List (Datum × Datum)) : Datum :=
  (Datum.field? key arguments).getD .null

/-- A failure as an answer, under the name by which it is reported. -/
def failureAnswer (name : String) (e : Failure) : Datum :=
  record [("success", .bool false), ("error", .text e.message), ("error_type", .text name)]

/-- The text of an answer; failures that are not reported stay failures. -/
def answer (outcome : Except Failure Datum) : Except Failure String :=
  match outcome with
  | .ok d => .ok (Json.write d)
  | .error e =>
    match e.reportName? with
    | some name => .ok (Json.write (failureAnswer name e))
    | none => .error e

theorem answer_reported {e : Failure} {name : String} (h : e.reportName? = some name) :
    answer (.error e) = .ok (Json.write (failureAnswer name e)) := by
  simp [answer, h]

/-- A given argument that has to be a text. -/
def givenText (d : Datum) : Except Failure String :=
  match d with
  | .text s => .ok s
  | _ => .error .wrongKind

section Convert

variable {m : Type → Type} [Monad m] [FileAccess m]

/-- A step that needs no files. -/
def settle {α : Type} (x : Except Failure α) : ExceptT Failure m α := ExceptT.mk (pure x)

/-- The plan at a path if one is given, else the plan in a text. -/
def readPlan (path content : Datum) : ExceptT Failure m Element := do
  if path.isGiven then
    let name ← settle (givenText path)
    ExceptT.mk (PlanFile.load name)
  else
    let text ← settle (givenText content)
    settle ((PlanFile.read text).mapError .planFile)

/-- Writes code to a path, and tells the path from the root. -/
def writeCode (output : Datum) (code : String) : ExceptT Failure m (List (String × Datum)) := do
  if !output.isGiven then return []
  let p := Path.ofText (← settle (givenText output))
  let written : Except FileFault Unit ← FileAccess.writeMaking (m := m) p code
  settle (written.mapError .file)
  let whole ← (FileAccess.absolute p : m Path)
  return [("output_path", .text whole.text)]

def convertPlan (arguments : List (Datum × Datum)) : ExceptT Failure m Datum := do
  let path := argument "jmx_path" arguments
  let content := argument "jmx_content" arguments
  if !path.isGiven && !content.isGiven then
    throw (.request "jmx_path or jmx_content is required")
  let found : Settings ← ExceptT.mk (Settings.load none)
  let className := argument Settings.classNameKey arguments
  let settings ← settle
    ((found.withOverrides [(.text Settings.classNameKey, className)]).mapError .settings)
  let plan ← readPlan path content
  let generator : Generator := { settings }
  let result ← settle ((generator.generate plan).mapError .conversion)
  let written ← writeCode (argument "output_path" arguments) result.code
  return record ([
    ("success", .bool true), ("code", .text result.code), ("warnings", texts result.warnings),
    ("imports", texts result.imports), ("static_imports", texts result.staticImports),
    ("elements_converted", .int result.elementsConverted)] ++ written)

end Convert

/-- A stage from the fields of an argument. -/
def readStage (d : Datum) : Except Failure Stage :=
  let invalid : Except Failure Stage :=
    .error (.request ("Invalid stage " ++ d.display ++ ": threads is required"))
  match d with
  | .map fields =>
    match argument "threads" fields with
    | .null => invalid
    | threads =>
      (Stage.ofValues threads (argument "duration" fields) (argument "iterations" fields)).mapError
        .stage
  | _ => invalid

/-- The name of a thread group; nothing that counts as not given is one. -/
def readName (d : Datum) : Except Failure (Option String) :=
  if !d.isGiven then .ok none
  else match d with
    | .text s => .ok (some s)
    | _ => .error .lacking

/-- The thread group that runs some stages. -/
def threadGroupOf (stages : List Stage) (name : Option String) : Except Failure (Draft Node) :=
  match Schedule.ofStages? stages with
  | none => .error .overflow
  | some schedule =>
    (Convert.threadGroup Surface.standard (schedule.toElement name)).mapError .conversion

def buildThreadGroup (arguments : List (Datum × Datum)) : Except Failure Datum := do
  match argument "stages" arguments with
  | .list items =>
    let stages ← items.mapM readStage
    let call := (← threadGroupOf stages (← readName (argument "name" arguments))).toNode
    return record [
      ("success", .bool true), ("code", .text (call.code "")),
      ("imports", texts (call.imports Surface.standard)),
      ("static_imports", texts (call.staticImports Surface.standard))]
  | _ => throw (.request "stages is required and must be a list")

/-- The answer of a tool to some arguments; none at all are no arguments. -/
def call {m : Type → Type} [Monad m] [FileAccess m] (name : String) (arguments : Datum) :
    m (Except Failure String) := do
  let isConvert := name == ToolDescription.convertPlan.name
  if !isConvert && name != ToolDescription.buildThreadGroup.name then
    return .error (.request ("Unknown tool: " ++ name))
  let fields? : Option (List (Datum × Datum)) := match arguments with
    | .map fields => some fields
    | d => if d.isGiven then none else some []
  match fields? with
  | none => return .error .lacking
  | some fields =>
    if isConvert then return answer (← (convertPlan (m := m) fields).run)
    else return answer (buildThreadGroup fields)

end Tool
end PlanCode
