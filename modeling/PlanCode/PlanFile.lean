import PlanCode.Element.Basic
import PlanCode.Xml.Tree

/-!
# Plan files

A plan file is an XML document. In it a `hashTree` right after an element holds
the children of that element; one that follows no element is passed over. The
nodes inside an element that have a name are its properties.

* `readElements_lone`: an element without a tree after it has no children.
-/
namespace PlanCode

inductive PlanFileError where
  | fileMissing (path : String)
  /-- The text, or the file, is no XML document. -/
  | notXml (inFile : Bool)
  | wrongRoot (tag : String)
  | noPlan
deriving DecidableEq, Repr

namespace PlanFile

def rootTag : String := "jmeterTestPlan"
def treeTag : String := "hashTree"
def elementTag : String := "elementProp"
def listTag : String := "collectionProp"

/-- Properties of these kinds are texts. -/
def textTags : List String :=
  ["stringProp", "intProp", "longProp", "boolProp", "doubleProp", "floatProp"]

def planKind : String := "TestPlan"

end PlanFile

namespace PlanFileError

def message : PlanFileError → String
  | .fileMissing path => "JMX file not found: " ++ path
  | .notXml inFile => "Failed to parse JMX " ++ if inFile then "file" else "content"
  | .wrongRoot tag =>
    "Invalid JMX file: root element is '" ++ tag ++ "', expected '" ++ PlanFile.rootTag ++ "'"
  | .noPlan => "Invalid JMX file: no TestPlan element found"

end PlanFileError

namespace PlanFile

/-- The first of two texts that is not empty. -/
def orElse (first second : String) : String := if first = "" then second else first

/-- An attribute, empty where it is not written. -/
def label (n : Xml.Node) (name : String) : String := (n.attribute? name).getD ""

/-- An element is enabled unless it says otherwise. -/
def isEnabled (n : Xml.Node) : Bool :=
  Text.lower (Text.trim ((n.attribute? "enabled").getD "true")) != "false"

mutual

/-- The value of a property; other kinds of values are not kept. -/
def readValue? : Xml.Node → Option Property
  | ⟨tag, attributes, text, children⟩ =>
    let n : Xml.Node := { tag, attributes, text }
    if textTags.contains tag then some (.text text)
    else if tag = elementTag then
      some (.element {
        kind := orElse (label n "testclass") (label n "elementType")
        name := orElse (label n "testname") (label n "name")
        gui := label n "guiclass"
        enabled := isEnabled n
        properties := readProperties [] children })
    else if tag = listTag then some (.list (readItems children))
    else none

/-- Named values put after the entries seen. -/
def readProperties (seen : Entries Property) : List Xml.Node → Entries Property
  | [] => seen
  | n :: rest =>
    match n.attribute? "name", readValue? n with
    | some name, some value => readProperties (Entries.put name value seen) rest
    | _, _ => readProperties seen rest

def readItems : List Xml.Node → List Property
  | [] => []
  | n :: rest =>
    match readValue? n with
    | some value => value :: readItems rest
    | none => readItems rest

end

/-- An element without its children. -/
def readElement (n : Xml.Node) : Element where
  kind := orElse (label n "testclass") n.tag
  name := label n "testname"
  gui := label n "guiclass"
  enabled := isEnabled n
  properties := readProperties [] n.children

mutual

def readTree : Xml.Node → List Element
  | ⟨_, _, _, children⟩ => readElements children

/-- The elements among some nodes, with the children that a tree right after each gives it. -/
def readElements : List Xml.Node → List Element
  | [] => []
  | [n] => if n.tag = treeTag then [] else [readElement n]
  | n :: next :: rest =>
    if n.tag = treeTag then readElements (next :: rest)
    else if next.tag = treeTag then
      { readElement n with children := readTree next } :: readElements rest
    else readElement n :: readElements (next :: rest)

end

theorem readElements_lone {n : Xml.Node} (h : n.tag ≠ treeTag) :
    readElements [n] = [readElement n] := by
  simp [readElements, h]

/-- The plan of a document. -/
def ofRoot (root : Xml.Node) : Except PlanFileError Element :=
  if root.tag != rootTag then .error (.wrongRoot root.tag)
  else
    let elements := match root.children.find? (·.tag == treeTag) with
      | some tree => readTree tree
      | none => []
    match elements.find? (·.kind == planKind) with
    | some plan => .ok plan
    | none => .error .noPlan

/-- The plan that a text holds. -/
def read (content : String) : Except PlanFileError Element :=
  match Xml.readTree? content with
  | some root => ofRoot root
  | none => .error (.notXml false)

/-- The plan that the bytes of a file hold. -/
def readBytes (content : ByteArray) : Except PlanFileError Element :=
  match (String.fromUTF8? content).bind Xml.readTree? with
  | some root => ofRoot root
  | none => .error (.notXml true)

end PlanFile
end PlanCode
