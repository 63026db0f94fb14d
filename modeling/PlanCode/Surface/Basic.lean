/-!
# The surface of the builder DSL

The types of the DSL with the methods that each of them declares, and the
resolution of a call against them: which method of a type, or of the types it
extends, takes arguments of given types.

A type's ancestry is the type, the type it extends, and so on. Nothing keeps the
`extends` entries of a surface from forming a cycle; the walk then has no end,
which `Ancestry.endless` records.

* `find?_register`: a registered type is found under its name.
-/
namespace PlanCode

/-- A method as its type declares it. -/
structure Method where
  name : String
  /-- The declaring type. -/
  owner : String
  /-- The types of the formal parameters, an array type for variable arguments. -/
  parameters : List String := []
  /-- The declared result; fluent methods declare none and return their receiver. -/
  returns : Option String := none
  isStatic : Bool := false
  visibility : Option String := some "public"
deriving DecidableEq, Repr

namespace Method

def isPublic (m : Method) : Bool := m.visibility == some "public"

/-- The type of a call on a receiver of the given type. -/
def resultType (m : Method) (receiver : String) : String :=
  match m.returns with
  | some r => if r = "" then receiver else r
  | none => receiver

def text (m : Method) : String :=
  m.owner ++ "." ++ m.name ++ "(" ++ ", ".intercalate m.parameters ++ ")"

end Method

/-- A type of the DSL with the methods it declares itself. -/
structure DslType where
  name : String
  package : String := ""
  /-- The type it extends. -/
  parent : Option String := none
  /-- The interfaces it implements. -/
  interfaces : List String := []
  methods : List Method := []
deriving DecidableEq, Repr

namespace DslType

/-- The name with its package, as imports need it. -/
def qualifiedName (t : DslType) : String :=
  if t.package = "" then t.name else t.package ++ "." ++ t.name

/-- The extended type; an empty name is none. -/
def parent? (t : DslType) : Option String := t.parent.filter (· != "")

/-- The names of the extended type and of the implemented interfaces. -/
def directSupertypes (t : DslType) : List String :=
  (t.parent.toList ++ t.interfaces).filter (· != "")

end DslType

/-- The known types, no two of one name. -/
structure Surface where
  types : List DslType := []
deriving Repr

/-- The types on the way up from a type, most derived first. -/
structure Ancestry where
  holders : List DslType
  /-- Whether the way up runs into a cycle. -/
  endless : Bool

namespace Surface

def find? (s : Surface) (name : String) : Option DslType := s.types.find? (·.name == name)

/-- Adds a type, in the place of the one with its name if there is one. -/
def register (s : Surface) (t : DslType) : Surface :=
  if s.types.any (·.name == t.name) then
    ⟨s.types.map fun u => if u.name == t.name then t else u⟩
  else ⟨s.types ++ [t]⟩

def ofTypes (types : List DslType) : Surface := types.foldl register {}

theorem find?_replaced (types : List DslType) (t : DslType)
    (h : types.any (·.name == t.name) = true) :
    (types.map fun u => if u.name == t.name then t else u).find? (·.name == t.name) = some t := by
  induction types with
  | nil => simp at h
  | cons u rest ih =>
    by_cases hu : u.name = t.name
    · simp [hu]
    · simp only [List.any_cons, beq_iff_eq, hu, Bool.or_eq_true, false_or] at h
      simpa [hu] using ih h

theorem find?_register (s : Surface) (t : DslType) : (s.register t).find? t.name = some t := by
  unfold register find?
  split
  · exact find?_replaced s.types t ‹_›
  · rename_i h
    have : s.types.find? (·.name == t.name) = none := by
      simpa [List.find?_eq_none] using h
    simp [List.find?_append, this]

/-! ## Ancestry -/

/-- The walk up from a type; as many steps as there are types reach every ancestor, so a type
still ahead after them means a cycle. -/
def walk (s : Surface) : Nat → Option String → Ancestry
  | fuel, name? =>
    match name?.bind s.find? with
    | none => ⟨[], false⟩
    | some t =>
      match fuel with
      | 0 => ⟨[], true⟩
      | fuel + 1 =>
        let rest := s.walk fuel t.parent?
        ⟨t :: rest.holders, rest.endless⟩

def ancestry (s : Surface) (name : String) : Ancestry := s.walk s.types.length (some name)

/-! ## Assignability -/

/-- Adds the direct supertypes of the names so far, as often as there is fuel. -/
def growSupertypes (s : Surface) : Nat → List String → List String
  | 0, names => names
  | fuel + 1, names =>
    let next := names.flatMap fun name => ((s.find? name).map (·.directSupertypes)).getD []
    let fresh := (next.filter fun name => !names.contains name).eraseDups
    if fresh.isEmpty then names else s.growSupertypes fuel (names ++ fresh)

/-- All names that a type is assignable to, its own first; every way up has at most as many steps
as there are types. -/
def supertypes (s : Surface) (name : String) : List String :=
  s.growSupertypes s.types.length [name]

/-- The element type of an array type. -/
def elementType? (name : String) : Option String :=
  match name.toList.reverse with
  | ']' :: '[' :: rest => some (String.ofList rest.reverse)
  | _ => none

/-- The type to which everything but a primitive value is assignable. -/
def objectType : String := "Object"

def primitiveTypes : List String := ["int", "long", "boolean", "double"]

def isAssignableUpTo (s : Surface) : Nat → String → String → Bool
  | 0, _, _ => false
  | fuel + 1, formal, actual =>
    if formal = actual then true
    else if formal = objectType then !primitiveTypes.contains actual
    else match elementType? formal, elementType? actual with
      | some f, some a => s.isAssignableUpTo fuel f a
      | none, none => (s.supertypes actual).contains formal
      | _, _ => false

/-- Whether a value of type `actual` can be passed where `formal` is expected; arrays follow their
element types. -/
def isAssignable (s : Surface) (formal actual : String) : Bool :=
  s.isAssignableUpTo (formal.length + 1) formal actual

/-! ## Methods -/

/-- Whether a method takes arguments of these types, position by position. -/
def accepts (s : Surface) (m : Method) (types : List String) : Bool :=
  m.parameters.length == types.length &&
    (m.parameters.zip types).all fun (formal, actual) => s.isAssignable formal actual

/-- The first of the methods that takes arguments of these types. -/
def firstAccepting? (s : Surface) (methods : List Method) (types : List String) : Option Method :=
  methods.find? (s.accepts · types)

/-- The methods of a type that can be chained under a name: public, not static, and either fluent
or returning something the type can stand for. -/
def chainable (s : Surface) (holder : DslType) (name : String) : List Method :=
  holder.methods.filter fun m =>
    m.name == name && m.isPublic && !m.isStatic &&
      (match m.returns with
        | none => true
        | some r => s.isAssignable r holder.name)

/-- A lookup walked up a cycle of `extends` entries without finding anything. -/
structure Endless where
  type : String
deriving DecidableEq, Repr

/-- The first answer on the way up from a type. -/
def searchUp (s : Surface) (type : String) (answer : DslType → Option Method) :
    Except Endless (Option Method) :=
  let way := s.ancestry type
  match way.holders.findSome? answer with
  | some m => .ok (some m)
  | none => if way.endless then .error ⟨type⟩ else .ok none

/-- The most derived method that a call chained on a type resolves to. -/
def findMethod (s : Surface) (type name : String) (types : List String) :
    Except Endless (Option Method) :=
  s.searchUp type fun holder => s.firstAccepting? (s.chainable holder name) types

/-- The name of the methods that take the children of an element. -/
def childrenName : String := "children"

/-- The method that takes the children of an element of the given type. -/
def findChildrenMethod (s : Surface) (type : String) : Except Endless (Option Method) :=
  s.searchUp type fun holder =>
    holder.methods.find? fun m =>
      m.name == childrenName && m.isPublic && !m.isStatic && m.parameters.length == 1

/-- Why a static method is not found. -/
inductive StaticFault where
  | unknownType
  | ambiguous (methods : List Method)
  | noMatch
deriving DecidableEq, Repr

/-- The only public static method of exactly this type that takes arguments of these types. -/
def findStaticMethod (s : Surface) (type name : String) (types : List String) :
    Except StaticFault Method :=
  match s.find? type with
  | none => .error .unknownType
  | some t =>
    match t.methods.filter fun m =>
        m.name == name && m.isStatic && m.isPublic && s.accepts m types with
    | [m] => .ok m
    | [] => .error .noMatch
    | several => .error (.ambiguous several)

end Surface
end PlanCode
