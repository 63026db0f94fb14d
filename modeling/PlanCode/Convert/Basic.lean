import PlanCode.Call.Draft
import PlanCode.Element.Arguments

/-!
# Converting elements

What the conversions of single elements share: the errors they can end in, and
the steps of building a call from literals.
-/
namespace PlanCode

inductive ConversionError where
  | call (e : CallError)
  /-- A duration of the plan, or a difference of two, leaves the range of durations. -/
  | durationOverflow
  /-- The root of the plan has no call. -/
  | rootNotConverted (name kind : String)
deriving DecidableEq, Repr

def ConversionError.message : ConversionError → String
  | .call e => e.message
  | .durationOverflow => "duration out of range"
  | .rootNotConverted name kind =>
    "Test plan root '" ++ name ++ "' (" ++ kind ++ ") can't be converted to DSL code"

namespace Convert

/-- A conversion of an element against a surface. -/
abbrev Conversion := Except ConversionError (Draft Node)

def literals (values : List Literal) : List (Argument Node) := values.map .literal

/-- A slot for children in the arguments of a call. -/
def noChildren (type : String) : Argument Node := .children type []

/-- Starts the call of a factory method. -/
def start (surface : Surface) (name : String) (arguments : List (Argument Node)) : Conversion :=
  (Draft.ofFactory surface [name] arguments).mapError .call

/-- Chains a call given literals. -/
def chain (surface : Surface) (name : String) (values : List Literal) (d : Draft Node) :
    Conversion :=
  (d.chainCall surface name (literals values)).mapError .call

/-- A duration that has to be in range. -/
def inRange (literal? : Option Literal) : Except ConversionError Literal :=
  match literal? with
  | some l => .ok l
  | none => .error .durationOverflow

end Convert
end PlanCode
