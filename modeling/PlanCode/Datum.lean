import PlanCode.Entries
import PlanCode.Number.Shortest
import PlanCode.Text.Quoted

/-!
# Data of a document

The values that settings, surface declarations and tool requests are made of,
before they are checked: what a YAML or JSON document holds. Messages show a
value in one fixed spelling, and name its kind.

* `put_text`: entries with text keys are put as entries under names are.
-/
namespace PlanCode

inductive Datum where
  | null
  | bool (b : Bool)
  | int (n : Int)
  | real (d : Number.Double)
  | text (s : String)
  | list (items : List Datum)
  /-- Entries in the order of the document; no two keys are equal. -/
  | map (entries : List (Datum × Datum))
  /-- Different members, in the order in which they are shown. -/
  | set (members : List Datum)
  /-- An item of a list of entries. -/
  | pair (key value : Datum)
  /-- A value of a further kind, such as a date, known by the name of its kind and its display. -/
  | other (kind display : String)
  /-- A list or a mapping that lies inside itself, with its display. What it holds is known to some
  depth. -/
  | cyclic (display : String) (inside : Datum)
  deriving Inhabited

namespace Datum

/-- A list or a mapping as such, also where it lies inside itself. -/
def bare : Datum → Datum
  | .cyclic _ inside => inside
  | d => d

def isText : Datum → Bool
  | .text _ => true
  | _ => false

/-- Whether a value can be the key of an entry. -/
def isKey : Datum → Bool
  | .list _ | .map _ | .set _ | .pair .. | .cyclic .. => false
  | _ => true

/-- The name of a value's kind. -/
def kindName : Datum → String
  | .null => "NoneType"
  | .bool _ => "bool"
  | .int _ => "int"
  | .real _ => "float"
  | .text _ => "str"
  | .list _ => "list"
  | .map _ => "dict"
  | .set _ => "set"
  | .pair .. => "tuple"
  | .other kind _ => kind
  | .cyclic _ inside => inside.kindName

mutual

/-- A value as messages show it. -/
def display : Datum → String
  | .null => "None"
  | .bool b => if b then "True" else "False"
  | .int n => toString n
  | .real d => d.text
  | .text s => Text.quoted s
  | .list items => Text.bracketed (displayItems items)
  | .map entries => "\x7b" ++ ", ".intercalate (displayEntries entries) ++ "\x7d"
  | .set [] => "set()"
  | .set members => "\x7b" ++ ", ".intercalate (displayItems members) ++ "\x7d"
  | .pair key value => "(" ++ key.display ++ ", " ++ value.display ++ ")"
  | .other _ shown => shown
  | .cyclic shown _ => shown

def displayItems : List Datum → List String
  | [] => []
  | d :: rest => d.display :: displayItems rest

def displayEntries : List (Datum × Datum) → List String
  | [] => []
  | (key, value) :: rest => (key.display ++ ": " ++ value.display) :: displayEntries rest

end

/-- A value as it stands inside other text: a text is itself, other values are as displayed. -/
def plain : Datum → String
  | .text s => s
  | d => d.display

/-- Null, false, zero and everything empty do not count as given. -/
def isGiven : Datum → Bool
  | .null => false
  | .bool b => b
  | .int n => n != 0
  | .real (.finite _ m _) => m != 0
  | .real _ => true
  | .text s => s != ""
  | .list items => !items.isEmpty
  | .map entries => !entries.isEmpty
  | .set members => !members.isEmpty
  | .other _ shown => shown != "b''"
  | .pair .. | .cyclic .. => true

mutual

/-- Equality of values, where a number equals every number of the same value and true is one. -/
def same : Datum → Datum → Bool
  | .null, .null => true
  | .text a, .text b => a == b
  | .list a, .list b => sameItems a b
  | .other k a, .other l b => k == l && a == b
  | a, b =>
    match a.numeral?, b.numeral? with
    | some m, some n => m == n
    | none, none => match a, b with
      | .real x, .real y => x == y && x != .nan
      | _, _ => false
    | _, _ => false

def sameItems : List Datum → List Datum → Bool
  | [], [] => true
  | a :: r, b :: s => a.same b && sameItems r s
  | _, _ => false

/-- The whole number that a value equals, if any. -/
def numeral? : Datum → Option Int
  | .bool b => some (if b then 1 else 0)
  | .int n => some n
  | .real d => d.whole?
  | _ => none

end

/-- The value of a text key. -/
def field? (key : String) : List (Datum × Datum) → Option Datum
  | [] => none
  | (k, value) :: rest => match k with
    | .text s => if s = key then some value else field? key rest
    | _ => field? key rest

/-- An entry set to a value: in its place when the key is there, else at the end. -/
def put (key value : Datum) : List (Datum × Datum) → List (Datum × Datum)
  | [] => [(key, value)]
  | (k, v) :: rest => if k.same key then (k, value) :: rest else (k, v) :: put key value rest

theorem put_text (name : String) (value : Datum) (es : Entries Datum) :
    put (.text name) value (es.map fun (n, v) => (.text n, v)) =
      (es.put name value).map fun (n, v) => (.text n, v) := by
  induction es with
  | nil => rfl
  | cons e es ih =>
    obtain ⟨n, v⟩ := e
    have hs : (text n).same (.text name) = (n == name) := by rw [same]
    rw [List.map_cons, put, Entries.put, hs]
    by_cases hn : n = name
    · rw [if_pos hn, if_pos (beq_iff_eq.2 hn), List.map_cons]
    · rw [if_neg hn, if_neg (mt beq_iff_eq.1 hn), ih, List.map_cons]

end Datum
end PlanCode
