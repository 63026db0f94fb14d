import PlanCode.Convert.Assertion
import PlanCode.Convert.Controller
import PlanCode.Convert.Http
import PlanCode.Convert.Leaf
import PlanCode.Convert.ThreadGroup

/-!
# Kinds of elements

The kinds of elements that can be converted, how an element of each kind is
recognised, and its conversion. The first kind that matches an element converts
it.
-/
namespace PlanCode

inductive ElementKind where
  | testPlan
  | threadGroup
  | transaction
  | testFragment
  | moduleController
  | httpSampler
  | httpHeaders
  | httpDefaults
  | responseAssertion
  | constantTimer
  | resultsTree
deriving DecidableEq, Repr

namespace ElementKind

/-- All kinds, in the order in which they are tried. -/
def all : List ElementKind := [
  .testPlan, .threadGroup, .transaction, .testFragment, .moduleController, .httpSampler,
  .httpHeaders, .httpDefaults, .responseAssertion, .constantTimer, .resultsTree]

/-- The class of the elements of a kind, and the class of their editor where that matters too. -/
def recognisedBy : ElementKind → String × Option String
  | .testPlan => ("TestPlan", none)
  | .threadGroup => ("ThreadGroup", none)
  | .transaction => ("TransactionController", none)
  | .testFragment => ("TestFragmentController", none)
  | .moduleController => ("ModuleController", none)
  | .httpSampler => ("HTTPSamplerProxy", none)
  | .httpHeaders => ("HeaderManager", none)
  | .httpDefaults => ("ConfigTestElement", some "HttpDefaultsGui")
  | .responseAssertion => ("ResponseAssertion", none)
  | .constantTimer => ("ConstantTimer", none)
  | .resultsTree => ("ResultCollector", some "ViewResultsFullVisualizer")

def isKindOf (k : ElementKind) (e : Element) : Bool :=
  let (kind, gui?) := k.recognisedBy
  e.kind == kind && (match gui? with
    | none => true
    | some gui => e.gui == gui)

/-- The call of an element of this kind; none for a module controller that refers to nothing. -/
def convert (surface : Surface) (k : ElementKind) (e : Element) :
    Except ConversionError (Option (Draft Node)) :=
  match k with
  | .testPlan => (Convert.testPlan surface e).map some
  | .threadGroup => (Convert.threadGroup surface e).map some
  | .transaction => (Convert.transaction surface e).map some
  | .testFragment => (Convert.testFragment surface e).map some
  | .moduleController => .ok (Convert.moduleCall? e)
  | .httpSampler => (Convert.httpSampler surface e).map some
  | .httpHeaders => (Convert.httpHeaders surface e).map some
  | .httpDefaults => (Convert.httpDefaults surface e).map some
  | .responseAssertion => (Convert.responseAssertion surface e).map some
  | .constantTimer => (Convert.constantTimer surface e).map some
  | .resultsTree => (Convert.resultsTree surface e).map some

end ElementKind
end PlanCode
