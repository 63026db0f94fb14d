import PlanCode.Call.Imports
import PlanCode.Call.Layout
import PlanCode.Convert.Kind
import PlanCode.Settings
import PlanCode.Surface.Default

/-!
# Test classes from plans

A plan is converted element by element: the call of an element takes the calls
of its children. An element that no kind matches is skipped with a warning,
together with its children. A disabled element is commented out, or dropped with
its children if the settings say so. A fragment right under the root becomes a
method of the class and is neither commented out nor dropped.

The class imports what its code needs, defines the methods of the fragments and
holds one test that builds the plan, and runs it if the settings say so.
-/
namespace PlanCode

/-- How plans are converted. -/
structure Generator where
  settings : Settings := {}
  surface : Surface := Surface.standard
  /-- The kinds of elements to convert, in the order in which they are tried. -/
  kinds : List ElementKind := ElementKind.all

/-- Where an element stands in its plan. -/
inductive Place where
  | root
  /-- Right under the root, which has a call or not. -/
  | top (rootHasCall : Bool)
  | inner
deriving DecidableEq, Repr

/-- What the conversion of an element comes to. -/
structure Converted where
  node : Node
  /-- The method that the node is the body of, if it is not a child of the parent's call. -/
  method : Option String := none
  warnings : List String := []
  /-- How many elements have been converted. -/
  count : Nat := 0

/-- A call with its children so far. -/
structure Growing where
  call : Option (Draft Node)
  warnings : List String := []
  count : Nat := 0

/-- A generated class. -/
structure TestClass where
  code : String
  warnings : List String
  imports : List String
  staticImports : List String
  elementsConverted : Nat
deriving DecidableEq, Repr

namespace Place

def below (p : Place) (hasCall : Bool) : Place :=
  match p with
  | .root => .top hasCall
  | _ => .inner

end Place

namespace Generator

def skipped (e : Element) : String :=
  let kind := if e.gui = "" then e.kind else e.kind ++ "/" ++ e.gui
  "Unsupported element '" ++ e.name ++ "' (" ++ kind ++ ") was skipped"

/-- The method that an element becomes: fragments right under a root with a call become one. -/
def methodFor (p : Place) (k : ElementKind) (e : Element) : Option String :=
  match p, k with
  | .top true, .testFragment => some (Convert.fragmentMethod e.name)
  | _, _ => none

/-- Gives a converted child to the call of its parent. -/
def attach (g : Generator) (call : Option (Draft Node)) (child : Converted) :
    Except ConversionError (Option (Draft Node)) :=
  match call with
  | none => .ok none
  | some d =>
    match child.method with
    | some name => .ok (some (d.define name child.node))
    | none =>
      if child.node.isEmpty then .ok (some d)
      else ((d.addChild g.surface child.node).mapError .call).map some

mutual

/-- Converts an element with everything below it. -/
def convertElement (g : Generator) (p : Place) : Element → Except ConversionError Converted
  | ⟨kind, name, gui, enabled, properties, children⟩ => do
    let e : Element := ⟨kind, name, gui, enabled, properties, children⟩
    match g.kinds.find? (·.isKindOf e) with
    | none => return { node := .empty, warnings := [skipped e] }
    | some k =>
      let call ← k.convert g.surface e
      let method := methodFor p k e
      let off := !enabled && method.isNone
      if off && !g.settings.commentDisabled then return { node := .empty }
      else
        let call := if off then call.map (·.setCommented true) else call
        let grown ← convertChildren g (p.below call.isSome) call children
        return {
          node := (grown.call.map (·.toNode)).getD .empty
          method
          warnings := grown.warnings
          count := grown.count + 1 }

/-- Converts children in order and gives them to the call. -/
def convertChildren (g : Generator) (p : Place) (call : Option (Draft Node)) :
    List Element → Except ConversionError Growing
  | [] => return { call }
  | e :: rest => do
    let child ← convertElement g p e
    let call ← g.attach call child
    let others ← convertChildren g p call rest
    return {
      call := others.call
      warnings := child.warnings ++ others.warnings
      count := child.count + others.count }

end

/-! ## The class -/

def testAnnotation : String := "org.junit.jupiter.api.Test"
def runException : String := "java.io.IOException"

/-- The method of a fragment, followed by an empty line. -/
def definitionLines (name : String) (body : Node) : List String := [
  "  private " ++ (body.target?).getD "" ++ " " ++ name ++ "() \x7b",
  "    return " ++ body.assignmentCode "      " ++ ";",
  "  \x7d",
  ""]

/-- The lines of the class for the call of a plan. -/
def classLines (s : Settings) (root : Node) (imports staticImports : List String)
    (definitions : Entries Node) : List String :=
  let statics := staticImports.map fun name => "import static " ++ name ++ ".*;"
  statics ++ (if statics.isEmpty then [] else [""]) ++
    imports.map (fun name => "import " ++ name ++ ";") ++
    ["", "public class " ++ s.className ++ " \x7b", ""] ++
    definitions.flatMap (fun (name, body) => definitionLines name body) ++
    ["  @Test",
     "  public void " ++ s.testMethodName ++ "()" ++
       (if s.includeRun then " throws IOException" else "") ++ " \x7b",
     "    " ++ root.code "    " ++ (if s.includeRun then ".run()" else "") ++ ";",
     "  \x7d", "", "\x7d"]

/-- The test class of a plan. -/
def generate (g : Generator) (plan : Element) : Except ConversionError TestClass := do
  let converted ← g.convertElement .root plan
  if converted.node.isEmpty then throw (.rootNotConverted plan.name plan.kind)
  let root := converted.node
  let needs := root.needs g.surface
  let own := testAnnotation :: (if g.settings.includeRun then [runException] else [])
  let imports := Node.sortedNames (own ++ needs.imports)
  let staticImports := Node.sortedNames needs.staticImports
  let lines := classLines g.settings root imports staticImports (root.definitions g.surface)
  return {
    code := "\n".intercalate lines ++ "\n"
    warnings := converted.warnings
    imports
    staticImports
    elementsConverted := converted.count }

end Generator
end PlanCode
