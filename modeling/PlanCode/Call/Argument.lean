import PlanCode.Duration
import PlanCode.Text.Quoted
import PlanCode.Text.StringLiteral

/-!
# Arguments of a call

What a call of the DSL is given: literal values of the DSL's types, each with
the value that the called method has by default, and the children of a call.

A literal without a value is written as nothing. An ignored literal takes part
neither in the choice of the method nor in the written call.

* `isDefault_of_code_eq_empty_string`: a string literal that is written as nothing is a default.
-/
namespace PlanCode

/-- A typed value with the default of the called method. -/
inductive Literal where
  | string (value default : Option String) (ignored : Bool)
  | int (value default : Option Int)
  | long (value default : Option Int)
  | bool (value default : Option Bool)
  | duration (value default : Option Duration)
  /-- A constant of an enumeration `type`, which is imported by its qualified name. -/
  | enum (type qualified : String) (value default : Option String)
  /-- The strings of a variable argument list; none of them is no value. -/
  | strings (values : List String)
  /-- A value written just as it is. -/
  | fixed (type : String) (value default : Option String) (ignored : Bool)

namespace Literal

/-- A string without a default. -/
def text (s : String) : Literal := .string (some s) none false

/-- A whole number without a default. -/
def number (n : Int) : Literal := .int (some n) none

def type : Literal → String
  | .string .. => "String"
  | .int .. => "int"
  | .long .. => "long"
  | .bool .. => "boolean"
  | .duration .. => "Duration"
  | .enum type .. => type
  | .strings _ => "String[]"
  | .fixed type .. => type

def hasValue : Literal → Bool
  | .string v .. => v.isSome
  | .int v _ => v.isSome
  | .long v _ => v.isSome
  | .bool v _ => v.isSome
  | .duration v _ => v.isSome
  | .enum _ _ v _ => v.isSome
  | .strings vs => !vs.isEmpty
  | .fixed _ v .. => v.isSome

/-- Whether the literal says no more than the called method would assume. -/
def isDefault : Literal → Bool
  | .string v d _ => v.isNone || v == d
  | .int v d => v.isNone || v == d
  | .long v d => v.isNone || v == d
  | .bool v d => v.isNone || v == d
  | .duration v d => v.isNone || v == d
  | .enum _ _ v d => v.isNone || v == d
  | .strings vs => vs.isEmpty
  | .fixed _ v d _ => v.isNone || v == d

def isIgnored : Literal → Bool
  | .string _ _ ignored => ignored
  | .fixed _ _ _ ignored => ignored
  | _ => false

/-- Whether the literal is a duration of no length. -/
def isZeroDuration : Literal → Bool
  | .duration (some d) _ => d.isZero
  | _ => false

def boolText (b : Bool) : String := if b then "true" else "false"

/-- The value as the plan holds it; durations are counted in whole seconds. -/
def expression : Literal → Option String
  | .string v .. => v
  | .int v _ => v.map toString
  | .long v _ => v.map toString
  | .bool v _ => v.map boolText
  | .duration v _ => v.map fun d => toString d.wholeSeconds
  | .enum _ _ v _ => v
  | .strings vs => if vs.isEmpty then none else some (", ".intercalate vs)
  | .fixed _ v .. => v

/-- A Java integer of type `long`: with a suffix when it does not fit an `int`. -/
def longText (n : Int) : String := if 2147483647 < n.natAbs then s!"{n}L" else toString n

/-- The Java expression of the value, empty when there is none. -/
def code : Literal → String
  | .string v .. => (v.map Text.StringLiteral.ofText).getD ""
  | .int v _ => (v.map toString).getD ""
  | .long v _ => (v.map longText).getD ""
  | .bool v _ => (v.map boolText).getD ""
  | .duration v _ => (v.map Duration.code).getD ""
  | .enum type _ v _ => (v.map fun c => type ++ "." ++ c).getD ""
  | .strings vs => ", ".intercalate (vs.map Text.StringLiteral.ofText)
  | .fixed _ v .. => v.getD ""

def durationClass : String := "java.time.Duration"

/-- The classes that the written value needs imported. -/
def imports : Literal → List String
  | .duration (some _) _ => [durationClass]
  | .enum _ qualified (some _) _ => [qualified]
  | _ => []

def kindName : Literal → String
  | .string .. => "StringParam"
  | .int .. => "IntParam"
  | .long .. => "LongParam"
  | .bool .. => "BoolParam"
  | .duration .. => "DurationParam"
  | .enum .. => "EnumParam"
  | .strings _ => "StringArrayParam"
  | .fixed .. => "FixedParam"

theorem isDefault_of_code_eq_empty_string {v d : Option String} {ignored : Bool}
    (h : (string v d ignored).code = "") : (string v d ignored).isDefault = true := by
  cases v with
  | none => rfl
  | some s => exact absurd h (Text.StringLiteral.ofText_ne_empty s)

end Literal

/-- An argument of a call whose children are of type `κ`. -/
inductive Argument (κ : Type) where
  | literal (value : Literal)
  /-- A parameter of which only type and expression are known; it cannot be written. -/
  | bare (type : String) (expression : Option String)
  /-- The variable argument list of the children. -/
  | children (type : String) (nodes : List κ)

namespace Argument

variable {κ : Type}

def type : Argument κ → String
  | .literal v => v.type
  | .bare type _ => type
  | .children type _ => type

def expression : Argument κ → Option String
  | .literal v => v.expression
  | .bare _ e => e
  | .children .. => none

def isDefault : Argument κ → Bool
  | .literal v => v.isDefault
  | _ => false

def isIgnored : Argument κ → Bool
  | .literal v => v.isIgnored
  | _ => false

def isBool : Argument κ → Bool
  | .literal (.bool ..) => true
  | _ => false

/-- An argument as messages show it. -/
def display : Argument κ → String
  | .children type nodes => s!"ChildrenParam({Text.quoted type}, {nodes.length} children)"
  | .literal v => v.kindName ++ "(" ++ shown v.expression ++ ")"
  | .bare _ e => "MethodParam(" ++ shown e ++ ")"
where
  shown : Option String → String
    | none => "None"
    | some e => Text.quoted e

/-- The arguments that count: those that are not ignored. -/
def active (arguments : List (Argument κ)) : List (Argument κ) :=
  arguments.filter (!·.isIgnored)

/-- The types that choose the called method. -/
def activeTypes (arguments : List (Argument κ)) : List String := (active arguments).map type

end Argument
end PlanCode
