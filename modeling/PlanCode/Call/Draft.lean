import PlanCode.Call.Node
import PlanCode.Entries
import PlanCode.Surface.Default

/-!
# Calls being built

A draft is a call that is still growing. Calls are chained to it, resolved
against the surface, and children are put into its slot: the list of children in
its own last argument when nothing has been chained yet, else a `children(...)`
segment that is chained the moment the slot is first needed. Where the slot is
is decided once.

The children `κ` of a draft are finished nodes, or names of nodes that are
themselves still growing. A draft can take over the chain of another one; the
slot segment among it stays the other's, and shows whatever that one holds.
-/
namespace PlanCode

/-- A method that could not be resolved, with the arguments of the call as messages show them. -/
structure MissingMethod where
  name : String
  type : String
  arguments : List String
  /-- Why a static method was refused. -/
  fault : Option Surface.StaticFault := none
deriving DecidableEq, Repr

namespace MissingMethod

def faultText : Surface.StaticFault → String
  | .unknownType => "Type is not registered in the DSL API surface."
  | .ambiguous methods =>
    "Ambiguous methods: " ++ Text.bracketed (methods.map fun m => Text.quoted m.text) ++ "."
  | .noMatch => "Check that no dependencies or APIs have been changed."

def message (m : MissingMethod) : String :=
  "No public '" ++ m.name ++ "' method in " ++ m.type ++ " was found for parameters " ++
    Text.bracketed m.arguments ++ ". This is probably due to some change in " ++
    "DSL not reflected in associated code builder." ++
    (match m.fault with
      | none => ""
      | some fault => " " ++ faultText fault)

end MissingMethod

/-- Why a call cannot be built or extended. -/
inductive CallError where
  | missingMethod (m : MissingMethod)
  /-- The type has no method that takes children. -/
  | noChildrenMethod (type : String)
  /-- The node to replace is not in the slot of children of the given type. -/
  | notInSlot (child slotType : String)
  | endlessAncestry (type : String)
deriving DecidableEq, Repr

def CallError.message : CallError → String
  | .missingMethod m => m.message
  | .noChildrenMethod type =>
    "No children method found for " ++ type ++ ". This might be due to " ++
      "unexpected test plan structure or missing method in test element."
  | .notInSlot child slotType =>
    "Can't replace child " ++ child ++ " since it is not part of " ++ slotType ++ " children."
  | .endlessAncestry type => "The types that " ++ type ++ " extends form a cycle."

/-- A chained part of a draft. -/
inductive Segment (κ : Type) where
  | call (name : String) (target : String) (arguments : List (Argument κ))
  | comment (text : String)
  | node (n : κ)
  /-- The place of the draft's own slot. -/
  | slot
  /-- The slot of another draft. -/
  | borrowed (owner : κ)

/-- Where the children of a draft go. -/
inductive Slot (κ : Type) where
  | undecided
  /-- Into the draft's own last argument. -/
  | own
  /-- Into a chained segment, which holds these nodes. -/
  | chained (type : String) (nodes : List κ)

structure Draft (κ : Type) where
  head : Head
  arguments : List (Argument κ)
  chain : List (Segment κ) := []
  slot : Slot κ := .undecided
  definitions : Entries κ := []

namespace Draft

variable {κ : Type}

def displays (arguments : List (Argument κ)) : List String := arguments.map Argument.display

/-! ## Starting a call -/

/-- A call that is not resolved. -/
def unresolved (name : Option String) (target : String) (arguments : List (Argument κ)) : Draft κ :=
  { head := { name, target }, arguments }

/-- A call of a static method, which is imported with its class. -/
def ofMethod (surface : Surface) (m : Method) (arguments : List (Argument κ)) : Draft κ :=
  let owner := ((surface.find? m.owner).map (·.qualifiedName)).getD m.owner
  { head := { name := some m.name, target := m.resultType m.owner, staticImports := [owner] },
    arguments }

/-- The public static methods of the factory that have one of these names, in the order of the
surface. -/
def factoryMethods (surface : Surface) (names : List String) : List Method :=
  match surface.find? Surface.Default.factoryType with
  | none => []
  | some factory =>
    factory.methods.filter fun m => m.isStatic && m.isPublic && names.contains m.name

/-- A call of the first factory method of these names that takes the arguments. -/
def ofFactory (surface : Surface) (names : List String) (arguments : List (Argument κ)) :
    Except CallError (Draft κ) :=
  match surface.firstAccepting? (factoryMethods surface names) (Argument.activeTypes arguments) with
  | some m => .ok (ofMethod surface m arguments)
  | none =>
    .error (.missingMethod
      { name := "|".intercalate names, type := Surface.Default.factoryType,
        arguments := displays arguments })

/-- A call of a static method qualified by its class, which is imported. -/
def qualified (surface : Surface) (type name : String) (arguments : List (Argument κ)) :
    Except CallError (Draft κ) :=
  match surface.findStaticMethod type name (Argument.activeTypes arguments) with
  | .ok m =>
    .ok { head := { name := some (type ++ "." ++ m.name), target := m.resultType type,
                    imports := ((surface.find? type).map (·.qualifiedName)).toList },
          arguments }
  | .error fault =>
    .error (.missingMethod { name, type, arguments := displays arguments, fault := some fault })

/-! ## Chaining -/

def append (d : Draft κ) (s : Segment κ) : Draft κ := { d with chain := d.chain ++ [s] }

def resolve (surface : Surface) (type name : String) (arguments : List (Argument κ)) :
    Except CallError (Option Method) :=
  match surface.findMethod type name (Argument.activeTypes arguments) with
  | .ok m => .ok m
  | .error e => .error (.endlessAncestry e.type)

/-- The method for a chained call, with the arguments it is then given: a single boolean is
dropped when the method can be called without. -/
def resolveChained (surface : Surface) (type name : String) (arguments : List (Argument κ)) :
    Except CallError (Method × List (Argument κ)) := do
  let bareCall ←
    match arguments with
    | [a] => if a.isBool then resolve surface type name ([] : List (Argument κ)) else pure none
    | _ => pure none
  match bareCall with
  | some m => return (m, [])
  | none =>
    match ← resolve surface type name arguments with
    | some m => return (m, arguments)
    | none =>
      throw (.missingMethod { name, type, arguments := displays arguments })

/-- Chains a call, unless it has arguments and all of them are defaults. -/
def chainCall (surface : Surface) (d : Draft κ) (name : String) (arguments : List (Argument κ)) :
    Except CallError (Draft κ) :=
  if !arguments.isEmpty && arguments.all (·.isDefault) then .ok d
  else do
    let (m, arguments) ← resolveChained surface d.head.target name arguments
    return d.append (.call m.name (m.resultType d.head.target) arguments)

/-- The chain as another draft takes it over; `owner` is the name of this one. -/
def chainFor (owner : κ) (d : Draft κ) : List (Segment κ) :=
  d.chain.map fun s => match s with
    | .slot => .borrowed owner
    | s => s

/-- Drops every chained call of a name; `nodeName?` tells the names of chained nodes. -/
def dropChained (nodeName? : κ → Option String) (d : Draft κ) (name : String) : Draft κ :=
  { d with chain := d.chain.filter fun s => match s with
      | .call n .. => n != name
      | .comment _ => true
      | .node n => nodeName? n != some name
      | .slot | .borrowed _ => Surface.childrenName != name }

/-! ## Children -/

/-- Decides where children go, unless that is decided already. -/
def openSlot (surface : Surface) (d : Draft κ) : Except CallError (Draft κ) :=
  match d.slot with
  | .own | .chained .. => .ok d
  | .undecided =>
    match d.chain, d.arguments.getLast? with
    | [], some (.children ..) => .ok { d with slot := .own }
    | _, _ =>
      match surface.findChildrenMethod d.head.target with
      | .error e => .error (.endlessAncestry e.type)
      | .ok none => .error (.noChildrenMethod d.head.target)
      | .ok (some m) =>
        .ok { d.append .slot with slot := .chained (m.parameters.headD "") [] }

/-- The type and the nodes of the slot, once it is decided. -/
def slotContents? (d : Draft κ) : Option (String × List κ) :=
  match d.slot with
  | .undecided => none
  | .own => match d.arguments.getLast? with
    | some (.children type nodes) => some (type, nodes)
    | _ => none
  | .chained type nodes => some (type, nodes)

/-- The nodes in a chained slot, whether or not it is in the chain any more. -/
def slotNodes (d : Draft κ) : List κ :=
  match d.slot with
  | .chained _ nodes => nodes
  | _ => []

/-- Changes the nodes in the slot. -/
def mapSlot (f : List κ → List κ) (d : Draft κ) : Draft κ :=
  match d.slot with
  | .undecided => d
  | .own => match d.arguments.getLast? with
    | some (.children type nodes) =>
      { d with arguments := d.arguments.dropLast ++ [.children type (f nodes)] }
    | _ => d
  | .chained type nodes => { d with slot := .chained type (f nodes) }

def addChild (surface : Surface) (d : Draft κ) (n : κ) : Except CallError (Draft κ) :=
  (d.openSlot surface).map (mapSlot (· ++ [n]))

def prependChild (surface : Surface) (d : Draft κ) (n : κ) : Except CallError (Draft κ) :=
  (d.openSlot surface).map (mapSlot (n :: ·))

/-- The first occurrence of an item replaced. -/
def replaceFirst [BEq κ] (old new : κ) : List κ → List κ
  | [] => []
  | n :: rest =>
    if n == old then new :: rest else n :: replaceFirst old new rest

/-- Replaces a child. The slot is decided even when the child is not there, so the draft that the
attempt leaves comes with its outcome. -/
def replaceChild [BEq κ] (surface : Surface) (display : κ → String) (d : Draft κ)
    (old new : κ) : Draft κ × Except CallError Unit :=
  match d.openSlot surface with
  | .error e => (d, .error e)
  | .ok d =>
    match d.slotContents? with
    | some (type, nodes) =>
      if nodes.contains old then (d.mapSlot (replaceFirst old new), .ok ())
      else (d, .error (.notInSlot (display old) type))
    | none => (d, .ok ())

/-! ## Marks -/

def setCommented (d : Draft κ) (on : Bool) : Draft κ := { d with head.commented := on }

def setHeading (d : Draft κ) (text : String) : Draft κ := { d with head.heading := some text }

/-- Registers a method to define alongside the code, with its body. -/
def define (d : Draft κ) (name : String) (n : κ) : Draft κ :=
  { d with definitions := d.definitions.put name n }

/-! ## Finishing -/

/-- Replaces the children of an argument by what they stand for. -/
def finishArgument {ε : Type} (node : κ → Except ε Node) :
    Argument κ → Except ε (Argument Node)
  | .literal v => .ok (.literal v)
  | .bare type e => .ok (.bare type e)
  | .children type nodes => (nodes.mapM node).map (.children type)

/-- The node of a draft, from what its children, the bodies of its definitions and borrowed slots
stand for. A slot that is not in the chain any more is not looked at. -/
def finish {ε : Type} (node body : κ → Except ε Node) (borrowed : κ → Except ε (List Node))
    (d : Draft κ) : Except ε Node := do
  let arguments ← d.arguments.mapM (finishArgument node)
  let chain ← d.chain.mapM fun s => match s with
    | .call name target arguments => do
      return Node.call { name := some name, target } (← arguments.mapM (finishArgument node)) [] []
    | .comment text => pure (.comment text)
    | .node n => node n
    | .slot => do return Node.children (← d.slotNodes.mapM node)
    | .borrowed owner => do return Node.children (← borrowed owner)
  let definitions ← d.definitions.mapM fun (name, n) => do return (name, ← body n)
  return .call d.head arguments chain definitions

/-- The node of a draft whose children are finished. -/
def toNode (d : Draft Node) : Node :=
  let slotNodes := match d.slot with
    | .chained _ nodes => nodes
    | _ => []
  .call d.head d.arguments
    (d.chain.map fun s => match s with
      | .call name target arguments => .call { name := some name, target } arguments [] []
      | .comment text => .comment text
      | .node n => n
      | .slot => .children slotNodes
      | .borrowed n => n)
    d.definitions

end Draft
end PlanCode
