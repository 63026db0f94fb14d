import PlanCode.Convert.Basic

/-!
# Converting plans and controllers

The plan itself, transactions, test fragments and module controllers. A fragment
right under the root becomes a method of the generated class, and a module
controller that refers to it becomes a call of that method.
-/
namespace PlanCode.Convert

def serializeKey : String := "TestPlan.serialize_threadgroups"
def tearDownKey : String := "TestPlan.tearDown_on_shutdown"
def parentSampleKey : String := "TransactionController.parent"
def nodePathKey : String := "ModuleController.node_path"

/-- The type of fragments. -/
def fragmentType : String := "DslTestFragmentController"

/-- The runs of ASCII letters and digits in a text. -/
def words (s : List Char) : List (List Char) :=
  (split s).filter (!·.isEmpty)
where
  split : List Char → List (List Char)
    | [] => [[]]
    | c :: rest =>
      match split rest with
      | [] => [[c]]
      | word :: others => if c.isAlphanum then (c :: word) :: others else [] :: word :: others

def capitalized : List Char → List Char
  | [] => []
  | c :: rest => c.toUpper :: rest

def uncapitalized : List Char → List Char
  | [] => []
  | c :: rest => c.toLower :: rest

/-- The words of a name run together, each but the first with a capital; a name that would start
with a digit, and one without words, starts with `fragment`. -/
def fragmentMethodChars (name : List Char) : List Char :=
  match words name with
  | [] => "fragment".toList
  | first :: others =>
    let joined := uncapitalized first ++ others.flatMap capitalized
    match joined with
    | c :: _ => if c.isDigit then "fragment".toList ++ capitalized joined else joined
    | [] => joined

def fragmentMethod (name : String) : String := String.ofList (fragmentMethodChars name.toList)

def testPlan (surface : Surface) (e : Element) : Conversion := do
  let d ← start surface "testPlan" [noChildren "TestPlanChild[]"]
  let d ← chain surface "sequentialThreadGroups" [e.boolLiteral serializeKey] d
  chain surface "tearDownOnlyAfterMainThreadsDone" [e.boolLiteral tearDownKey] d

def transaction (surface : Surface) (e : Element) : Conversion := do
  let name := if e.name = "" then "Transaction Controller" else e.name
  let d ← start surface "transaction" [.literal (.text name), noChildren "ThreadGroupChild[]"]
  chain surface "generateParentSample" [e.boolLiteral parentSampleKey] d

def testFragment (surface : Surface) (e : Element) : Conversion :=
  start surface "fragment"
    [.literal (e.nameLiteral "Test Fragment"), noChildren "ThreadGroupChild[]"]

/-- The last name on the path to the element that a module controller refers to. -/
def referredName? (e : Element) : Option String :=
  ((e.listAt nodePathKey).filterMap Property.text?).getLast?

/-- A call of the referred fragment's method; none when nothing is referred to. -/
def moduleCall? (e : Element) : Option (Draft Node) :=
  (referredName? e).map fun name => .unresolved (some (fragmentMethod name)) fragmentType []

end PlanCode.Convert
