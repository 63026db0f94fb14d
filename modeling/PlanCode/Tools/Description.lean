import PlanCode.Datum

/-!
# The tools on offer

What an assistant is told about each tool: its name, what it is for, and the
shape of the arguments that it takes.

* `names_nodup`: no two tools have one name.
-/
namespace PlanCode

structure ToolDescription where
  name : String
  purpose : String
  /-- The shape of the arguments. -/
  arguments : Datum

namespace ToolDescription

def record (fields : List (String × Datum)) : Datum := .map (fields.map fun (k, v) => (.text k, v))

def texts (items : List String) : Datum := .list (items.map .text)

/-- A field of one kind, or of any of several. -/
def field (name : String) (kinds : List String) (description : String)
    (more : List (String × Datum) := []) : String × Datum :=
  let kind : Datum := match kinds with
    | [kind] => .text kind
    | kinds => texts kinds
  (name, record ([("type", kind), ("description", .text description)] ++ more))

def object (fields : List (String × Datum)) (needed : List String) : Datum :=
  record [("type", .text "object"), ("properties", record fields), ("required", texts needed)]

/-- Converts a plan. -/
def convertPlan : ToolDescription where
  name := "convert_jmx_to_dsl"
  purpose :=
    "Convert a JMeter JMX test plan into a jmeter-java-dsl JUnit 5 test class. " ++
    "Accepts a JMX file path or the JMX content. Returns the Java code, " ++
    "warnings about unsupported elements and required imports."
  arguments := object [
    field "jmx_path" ["string"] "Path to JMX file to convert",
    field "jmx_content" ["string"] "JMX content to convert, used when jmx_path is not given",
    field "class_name" ["string"] "Name of generated test class (default: PerformanceTest)",
    field "output_path" ["string"] "Java file to write generated code to (optional)"] []

/-- Builds the thread group of a load profile. -/
def buildThreadGroup : ToolDescription where
  name := "reconstruct_thread_group"
  purpose :=
    "Build the simplest jmeter-java-dsl threadGroup call for a load profile given " ++
    "as stages. A stage with 0 threads is an initial delay. Durations are seconds " ++
    "or JMeter expressions such as $\x7b__P(RAMP)\x7d."
  arguments := object [
    field "stages" ["array"] "Load stages in order" [("items", object [
      field "threads" ["integer", "string"] "Threads of the stage",
      field "duration" ["integer", "string", "null"] "Stage duration in seconds (optional)",
      field "iterations" ["integer", "string", "null"] "Iterations per thread (optional)"]
      ["threads"])],
    field "name" ["string"] "Thread group name (default: Thread Group)"] ["stages"]

def all : List ToolDescription := [convertPlan, buildThreadGroup]

theorem names_nodup : (all.map (·.name)).Nodup := by decide +kernel

end ToolDescription
end PlanCode
