import PlanCode.Entries
import PlanCode.Text.Blank
import PlanCode.Text.LowerCase
import PlanCode.Text.Replace

/-!
# Elements of a test plan

An element has a class, a name, the class of its editor, an enabled flag, named
properties and child elements. A property is a text, a nested element, a list of
further values, or null, which is as good as missing. Paths with `/` reach the
properties of nested elements.

* `get_single`: a path of one name is the property of that name.
* `get_set_of_ne`: a property that is set changes no path that starts with another name.
-/
namespace PlanCode

mutual

inductive Property where
  | null
  | text (s : String)
  | element (e : Element)
  | list (items : List Property)

structure Element where
  /-- The class under test, such as `ThreadGroup`. -/
  kind : String
  name : String := ""
  /-- The class of the editor, such as `ThreadGroupGui`. -/
  gui : String := ""
  enabled : Bool := true
  properties : List (String × Property) := []
  children : List Element := []

end

namespace Property

instance : Inhabited Property := ⟨.null⟩

def isNull : Property → Bool
  | .null => true
  | _ => false

/-- A text property; every other value counts as missing. -/
def text? : Property → Option String
  | .text s => some s
  | _ => none

def element? : Property → Option Element
  | .element e => some e
  | _ => none

/-- The property of an element, null for what is no element or lacks it. -/
def member (name : String) : Property → Property
  | .element e => (Entries.find? name e.properties).getD .null
  | _ => .null

end Property

namespace Element

instance : Inhabited Element := ⟨{ kind := "" }⟩

/-- The names of a path. -/
def pathNames (path : String) : List String := (Text.splitOnChar '/' path.toList).map String.ofList

/-- The value at a path. -/
def get (e : Element) (path : String) : Property :=
  (pathNames path).foldl (fun current name => current.member name) (.element e)

def has (e : Element) (path : String) : Bool := !(e.get path).isNull

/-- The text at a path; a default where there is none. -/
def textAt (e : Element) (path : String) (default : String := "") : String :=
  ((e.get path).text?).getD default

/-- The text at a path without the blanks around it. -/
def trimmedAt (e : Element) (path : String) : String := Text.trim (e.textAt path)

/-- Whether the text at a path says true, in letters of any case; a default where it is blank. -/
def flagAt (e : Element) (path : String) (default : Bool := false) : Bool :=
  let value := e.trimmedAt path
  if value = "" then default else Text.lower value == "true"

/-- The list at a path, empty where there is none. -/
def listAt (e : Element) (path : String) : List Property :=
  match e.get path with
  | .list items => items
  | _ => []

def set (e : Element) (name : String) (value : Property) : Element :=
  { e with properties := Entries.put name value e.properties }

def setText (e : Element) (name value : String) : Element := e.set name (.text value)

/-- Flags are stored as the words `true` and `false`. -/
def setFlag (e : Element) (name : String) (value : Bool) : Element :=
  e.setText name (if value then "true" else "false")

theorem get_single (e : Element) {path : String} (h : pathNames path = [path]) :
    e.get path = (Entries.find? path e.properties).getD .null := by
  simp [get, h, Property.member]

theorem get_set_self (e : Element) {name : String} (h : pathNames name = [name])
    (value : Property) : (e.set name value).get name = value := by
  simp [get_single _ h, set, Entries.find?_put]

theorem get_set_of_ne (e : Element) {name path first : String} {rest : List String}
    (h : pathNames path = first :: rest) (hne : first ≠ name) (value : Property) :
    (e.set name value).get path = e.get path := by
  simp [get, h, Property.member, set, Entries.find?_put_of_ne hne]

end Element
end PlanCode
