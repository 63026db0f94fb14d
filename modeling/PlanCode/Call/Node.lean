import PlanCode.Call.Argument

/-!
# The tree of calls

Finished code is a tree of nodes: calls with arguments, a chain of further
nodes and method definitions registered on them; `children(...)` segments, which
exist in chains only; line comments; and the empty node of elements that
produce no code.
-/
namespace PlanCode

/-- What a call says about itself, arguments and chain apart. -/
structure Head where
  /-- The called method, qualified or not. -/
  name : Option String
  /-- The type of the call, which chained calls are resolved on. -/
  target : String
  /-- Classes whose static members the call needs imported. -/
  staticImports : List String := []
  /-- Classes the call needs imported. -/
  imports : List String := []
  /-- Whether the call is commented out. -/
  commented : Bool := false
  /-- A comment on the line above the call. -/
  heading : Option String := none
deriving DecidableEq, Repr

/-- A call as messages show it. -/
def Head.display (h : Head) : String :=
  let name := match h.name with
    | none => "None"
    | some n => Text.quoted n
  "MethodCall(" ++ name ++ ", " ++ Text.quoted h.target ++ ")"

inductive Node where
  | empty
  | comment (text : String)
  | call (head : Head) (arguments : List (Argument Node)) (chain : List Node)
      (definitions : List (String × Node))
  /-- A chained call that only holds children, written when there are any. -/
  | children (nodes : List Node)

namespace Node

instance : Inhabited Node := ⟨.empty⟩

/-- Whether a node is written with a dot when chained. -/
def isCall : Node → Bool
  | .call .. => true
  | .children _ => true
  | _ => false

def isEmpty : Node → Bool
  | .empty => true
  | _ => false

/-- The type of the empty node, which stands for any element. -/
def emptyTarget : String := "MultiLevelTestElement"

/-- The type that a node stands for, none for comments. -/
def target? : Node → Option String
  | .call head .. => some head.target
  | .empty => some emptyTarget
  | _ => none

/-- The name of a call. -/
def name? : Node → Option String
  | .call head .. => head.name
  | .children _ => some "children"
  | _ => none

end Node
end PlanCode
