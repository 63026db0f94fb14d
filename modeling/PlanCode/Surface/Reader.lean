import PlanCode.Datum
import PlanCode.Surface.Basic
import PlanCode.Text.Replace

/-!
# Reading a surface declaration

A declaration is a mapping with a `types` list. Each type and each method of a
type needs a name; all else has a default. The first entry at fault is reported.
-/
namespace PlanCode

inductive SurfaceError where
  /-- The declaration is no mapping with a list under `types`. -/
  | noTypes
  | unnamedType (entry : Datum)
  | unnamedMethod (type : String) (method : Datum)
  /-- An entry is of a kind that has no fields, or a list is none. -/
  | wrongKind
  /-- The file that should hold the declaration does not. -/
  | unreadable (path : String)

namespace SurfaceError

def message : SurfaceError → String
  | .noTypes => "Invalid DSL API surface: expected a 'types' list"
  | .unnamedType entry => "Invalid DSL API type without name: " ++ entry.plain
  | .unnamedMethod type method =>
    "Invalid method without name in type " ++ type ++ ": " ++ method.plain
  | .wrongKind => "wrong kind of value"
  | .unreadable path => "Failed to load DSL API surface from " ++ path

end SurfaceError

namespace Surface

/-- The fields of an entry that has a name. A text, a list, a set or a pair has no fields, but
passes for nameless unless the word `name` is in it. -/
def namedFields (unnamed : SurfaceError) (entry : Datum) :
    Except SurfaceError (List (Datum × Datum)) :=
  match entry.bare with
  | .map fields =>
    match Datum.field? "name" fields with
    | some _ => .ok fields
    | none => .error unnamed
  | .text s => .error (if Text.occursIn "name".toList s.toList then .wrongKind else unnamed)
  | .list items | .set items =>
    .error (if items.any (·.same (.text "name")) then .wrongKind else unnamed)
  | .pair key value =>
    .error (if [key, value].any (·.same (.text "name")) then .wrongKind else unnamed)
  | _ => .error .wrongKind

/-- What a value yields item by item: a list its items, a set its members, a text its characters, a
mapping its keys. -/
def itemsOf (d : Datum) : Except SurfaceError (List Datum) :=
  match d.bare with
  | .list items | .set items => .ok items
  | .text s => .ok (s.toList.map fun c => .text (String.singleton c))
  | .map fields => .ok (fields.map (·.1))
  | _ => .error .wrongKind

/-- The items of an optional field, as names. -/
def namesIn (key : String) (fields : List (Datum × Datum)) : Except SurfaceError (List String) :=
  match Datum.field? key fields with
  | none => .ok []
  | some d => (itemsOf d).map (·.map Datum.plain)

/-- An optional name; null is none. -/
def nameIn? (key : String) (fields : List (Datum × Datum)) : Option String :=
  match Datum.field? key fields with
  | none | some .null => none
  | some d => some d.plain

def readMethod (owner : String) (entry : Datum) : Except SurfaceError Method := do
  let fields ← namedFields (.unnamedMethod owner entry) entry
  let parameters ← namesIn "params" fields
  return {
    name := (nameIn? "name" fields).getD "None"
    owner
    parameters
    returns := nameIn? "returns" fields
    isStatic := ((Datum.field? "static" fields).map Datum.isGiven).getD false
    visibility := match Datum.field? "visibility" fields with
      | none => some "public"
      | some .null => none
      | some d => some d.plain }

/-- The type of an entry. Types are looked up by text, so there is none under another name, which
still has to be one that a value can be kept under. -/
def readType? (entry : Datum) : Except SurfaceError (Option DslType) := do
  let fields ← namedFields (.unnamedType entry) entry
  let label := (Datum.field? "name" fields).getD .null
  let name := label.plain
  let entries ← itemsOf ((Datum.field? "methods" fields).getD (.list []))
  let methods ← entries.mapM (readMethod name)
  let interfaces ← namesIn "implements" fields
  if !label.isKey then throw .wrongKind
  if !label.isText then return none
  return some {
    name
    package := match Datum.field? "package" fields with
      | some d => if d.isGiven then d.plain else ""
      | none => ""
    parent := nameIn? "extends" fields
    interfaces
    methods }

/-- The surface that a declaration describes. -/
def ofDatum (d : Datum) : Except SurfaceError Surface :=
  match d.bare with
  | .map fields =>
    match (Datum.field? "types" fields).map Datum.bare with
    | some (.list entries) => (entries.mapM readType?).map fun types => ofTypes (types.filterMap id)
    | _ => .error .noTypes
  | _ => .error .noTypes

end Surface
end PlanCode
