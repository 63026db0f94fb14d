import PlanCode.Datum
import PlanCode.Text.Identifier

/-!
# Settings of generated classes

The names of the class and of its test method, whether the plan is run, and
whether disabled elements stay as comments. Settings are read from a mapping of
known keys; names have to be identifiers. The first entry at fault, in the order
of the mapping, is reported, unknown keys before all else.
-/
namespace PlanCode

structure Settings where
  className : String := "PerformanceTest"
  testMethodName : String := "test"
  includeRun : Bool := true
  /-- Keep disabled elements as comments instead of dropping them. -/
  commentDisabled : Bool := true
deriving DecidableEq, Repr

inductive SettingsError where
  | unknownKeys (source : String) (keys : List String)
  /-- The keys are not all text. -/
  | keysNotText
  | wrongKind (key source expected actual : String)
  | notAnIdentifier (key source value : String)
  | fileMissing (path : String)
  | badSyntax (path : String)
  | notAMapping (path : String)
deriving DecidableEq, Repr

namespace SettingsError

def message : SettingsError → String
  | .unknownKeys source keys => "Unknown settings in " ++ source ++ ": " ++ ", ".intercalate keys
  | .keysNotText => "keys of settings have to be text"
  | .wrongKind key source expected actual =>
    "Invalid '" ++ key ++ "' in " ++ source ++ ": expected " ++ expected ++ ", got " ++ actual
  | .notAnIdentifier key source value =>
    "Invalid '" ++ key ++ "' in " ++ source ++ ": '" ++ value ++ "' is not a valid Java identifier"
  | .fileMissing path => "Settings file not found: " ++ path
  | .badSyntax path => "Invalid YAML syntax in " ++ path
  | .notAMapping path => "Invalid settings format in " ++ path ++ ": expected dictionary"

end SettingsError

namespace Settings

def classNameKey : String := "class_name"
def testMethodNameKey : String := "test_method_name"
def includeRunKey : String := "include_run"
def commentDisabledKey : String := "comment_disabled"

def nameKeys : List String := [classNameKey, testMethodNameKey]
def knownKeys : List String := nameKeys ++ [includeRunKey, commentDisabledKey]

/-- The settings as entries of a mapping. -/
def toEntries (s : Settings) : List (Datum × Datum) := [
  (.text classNameKey, .text s.className),
  (.text testMethodNameKey, .text s.testMethodName),
  (.text includeRunKey, .bool s.includeRun),
  (.text commentDisabledKey, .bool s.commentDisabled)]

def toDatum (s : Settings) : Datum := .map s.toEntries

/-- The keys, in order, that are not known. -/
def unknownKeys (entries : List (Datum × Datum)) : List Datum :=
  (entries.map (·.1)).filter fun k => match k with
    | .text s => !knownKeys.contains s
    | _ => true

/-- Texts only, in order. -/
def sortedTexts? (keys : List Datum) : Option (List String) :=
  let texts? : Option (List String) := keys.mapM fun k => match k with
    | .text s => some s
    | _ => none
  texts?.map fun texts => texts.mergeSort fun a b => decide (a ≤ b)

/-- Takes one entry of a known key over. -/
def readEntry (source : String) (s : Settings) : Datum × Datum → Except SettingsError Settings
  | (.text key, value) =>
    if nameKeys.contains key then
      match value with
      | .text name =>
        if !Text.isIdentifier name then .error (.notAnIdentifier key source name)
        else if key = classNameKey then .ok { s with className := name }
        else .ok { s with testMethodName := name }
      | _ => .error (.wrongKind key source "str" value.kindName)
    else
      match value with
      | .bool on =>
        if key = includeRunKey then .ok { s with includeRun := on }
        else .ok { s with commentDisabled := on }
      | _ => .error (.wrongKind key source "bool" value.kindName)
  | _ => .error .keysNotText

/-- Settings from a mapping; what it does not mention has its default. -/
def ofEntries (entries : List (Datum × Datum)) (source : String := "settings") :
    Except SettingsError Settings :=
  match unknownKeys entries with
  | [] => entries.foldlM (readEntry source) {}
  | unknown =>
    match sortedTexts? unknown with
    | some keys => .error (.unknownKeys source keys)
    | none => .error .keysNotText

/-- Settings with some values replaced; null replaces nothing. -/
def withOverrides (s : Settings) (overrides : List (Datum × Datum)) :
    Except SettingsError Settings :=
  let given := overrides.filter fun (_, value) => match value with
    | .null => false
    | _ => true
  ofEntries (given.foldl (fun acc (key, value) => Datum.put key value acc) s.toEntries) "overrides"

/-- Settings from the value of a whole document; nothing at all means the defaults. -/
def ofDocument (path : String) (d : Datum) : Except SettingsError Settings :=
  match d.bare with
  | .null => .ok {}
  | .map entries => ofEntries entries path
  | _ => .error (.notAMapping path)

end Settings
end PlanCode
