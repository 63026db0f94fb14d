import PlanCode.Call.Argument
import PlanCode.Element.Basic
import PlanCode.Number.Numeral

/-!
# Arguments from properties

What the properties of an element say as arguments of a call. A property that
should hold a number, flag or duration may hold an expression instead, such as
`${threads}`; it then becomes a string.

* `nameLiteral_ignored`: a name is left out exactly when it is the default one.
-/
namespace PlanCode.Element

/-- The name, or the default one for a nameless element; the default name is ignored. -/
def nameLiteral (e : Element) (default : String) : Literal :=
  let name := if e.name = "" then default else e.name
  .string (some name) (some default) (name == default)

def stringLiteral (e : Element) (path : String) (default : Option String := none) : Literal :=
  let value := e.textAt path
  .string (if value = "" then default else some value) default false

def intLiteral (e : Element) (path : String) (default : Option Int := none) : Literal :=
  let value := e.trimmedAt path
  if value = "" then .int default default
  else match Number.readWhole? value with
    | some n => .int (some n) default
    | none => .text value

def longLiteral (e : Element) (path : String) (default : Option Int := none) : Literal :=
  let value := e.trimmedAt path
  if value = "" then .long default default
  else match Number.readWhole? value with
    | some n => .long (some n) default
    | none => .text value

/-- A flag; any word but `true` and `false` is kept in lower case. -/
def boolLiteral (e : Element) (path : String) (default : Bool := false) : Literal :=
  let value := Text.lower (e.trimmedAt path)
  if value = "" then .bool (some default) (some default)
  else if value = "true" then .bool (some true) (some default)
  else if value = "false" then .bool (some false) (some default)
  else .text value

/-- A duration stored as a number of units; none when it leaves the range of durations. -/
def durationLiteral? (e : Element) (path : String) (default : Option Duration := none)
    (unit : Duration := Duration.second) : Option Literal :=
  let value := e.trimmedAt path
  if value = "" then some (.duration default default)
  else match Number.readWhole? value with
    | some n => (unit.times? n).map fun d => .duration (some d) default
    | none => some (.text value)

/-- A constant of an enumeration, by the stored text that stands for it. -/
def enumLiteral (e : Element) (path type qualified : String) (constants : Entries String)
    (default : Option String := none) : Literal :=
  .enum type qualified ((constants.find? (e.trimmedAt path)).orElse fun _ => default) default

theorem nameLiteral_ignored (e : Element) (default : String) :
    (e.nameLiteral default).isIgnored = true ↔ e.name = "" ∨ e.name = default := by
  by_cases h : e.name = "" <;> simp [nameLiteral, Literal.isIgnored, h]

end PlanCode.Element
