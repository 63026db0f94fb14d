import PlanCode.Text.Quoted
import PlanCode.Text.Similar

/-!
# Options on the command line

Words that begin with a hyphen are options, up to a lone `--`; the others are
arguments. A long option may carry its value after `=`, and several short ones
may stand behind one hyphen, the last with its value. What is wrong with a
command line is told in one sentence.

* `parse_nil`: no words give no options and no arguments.
-/
namespace PlanCode.CommandLine

structure OptionKind where
  /-- The spellings, the first of which names the option. -/
  spellings : List String
  takesValue : Bool := true
deriving DecidableEq, Repr

namespace OptionKind

def name (k : OptionKind) : String := k.spellings.headD ""

/-- A short spelling is a hyphen and one character. -/
def isShort (spelling : String) : Bool := spelling.length == 2

end OptionKind

inductive UsageError where
  | noSuchOption (name : String) (similar : List String)
  | noSuchCommand (name : String) (similar : List String)
  | missingCommand
  | valueMissing (name : String)
  | valueNotTaken (name : String)
  /-- The value of an option or an argument cannot be used. -/
  | badValue (place : Option String) (reason : String)
  | extraArguments (words : List String)
deriving DecidableEq, Repr

/-- The end of a sentence that proposes words. -/
def proposal : List String → String
  | [] => ""
  | [word] => " Did you mean " ++ Text.quoted word ++ "?"
  | words =>
    let sorted := words.mergeSort fun a b => decide (a ≤ b)
    " (Did you mean one of: " ++ ", ".intercalate (sorted.map Text.quoted) ++ "?)"

def UsageError.message : UsageError → String
  | .noSuchOption name similar => "No such option " ++ Text.quoted name ++ "." ++ proposal similar
  | .noSuchCommand name similar => "No such command " ++ Text.quoted name ++ "." ++ proposal similar
  | .missingCommand => "Missing command."
  | .valueMissing name => "Option " ++ Text.quoted name ++ " requires an argument."
  | .valueNotTaken name => "Option " ++ Text.quoted name ++ " does not take a value."
  | .badValue none reason => "Invalid value: " ++ reason
  | .badValue (some place) reason => "Invalid value for " ++ place ++ ": " ++ reason
  | .extraArguments words =>
    "Got unexpected extra argument" ++ (if words.length = 1 then "" else "s") ++ " (" ++
      " ".intercalate words ++ ")"

/-- Whether an error is told after the usage of the command. -/
def UsageError.showsUsage : UsageError → Bool
  | .valueMissing _ | .valueNotTaken _ => false
  | _ => true

/-- What a command line holds, in its order. -/
structure Parsed where
  /-- Options by name; one that takes no value has an empty one. -/
  options : List (String × String) := []
  arguments : List String := []
deriving DecidableEq, Repr

namespace Parsed

/-- The values given to an option. -/
def values (p : Parsed) (name : String) : List String :=
  (p.options.filter (·.1 == name)).map (·.2)

/-- The value given last. -/
def value? (p : Parsed) (name : String) : Option String := (p.values name).getLast?

def has (p : Parsed) (name : String) : Bool := !(p.values name).isEmpty

/-- The names of the options that are given, each where it is first. -/
def names (p : Parsed) : List String := (p.options.map (·.1)).eraseDups

end Parsed

def find? (kinds : List OptionKind) (spelling : String) : Option OptionKind :=
  kinds.find? (·.spellings.contains spelling)

/-- The spellings that are not short. -/
def longSpellings (kinds : List OptionKind) : List String :=
  (kinds.flatMap (·.spellings)).filter (!OptionKind.isShort ·)

/-- A word before and after its first `=`. -/
def splitValue (word : String) : String × Option String :=
  match word.toList.span (· != '=') with
  | (name, _ :: value) => (String.ofList name, some (String.ofList value))
  | (_, []) => (word, none)

/-- The short options behind one hyphen, and the words that are left. -/
def readShort (kinds : List OptionKind) (seen : List (String × String)) :
    List Char → List String → Except UsageError (List (String × String) × List String)
  | [], words => .ok (seen, words)
  | c :: more, words =>
    let spelling := String.ofList ['-', c]
    match find? kinds spelling with
    | none => .error (.noSuchOption spelling [])
    | some k =>
      if !k.takesValue then readShort kinds (seen ++ [(k.name, "")]) more words
      else if !more.isEmpty then .ok (seen ++ [(k.name, String.ofList more)], words)
      else match words with
        | value :: words => .ok (seen ++ [(k.name, value)], words)
        | [] => .error (.valueMissing spelling)

/-- The options of a word, and the words that are left. -/
def readOption (kinds : List OptionKind) (word : String) (words : List String) :
    Except UsageError (List (String × String) × List String) :=
  let (spelling, value?) := splitValue word
  match (find? kinds spelling).filter fun _ => !OptionKind.isShort spelling with
  | some k =>
    match k.takesValue, value?, words with
    | true, some value, words => .ok ([(k.name, value)], words)
    | true, none, value :: words => .ok ([(k.name, value)], words)
    | true, none, [] => .error (.valueMissing spelling)
    | false, some _, _ => .error (.valueNotTaken spelling)
    | false, none, words => .ok ([(k.name, "")], words)
  | none =>
    if word.toList.take 2 == ['-', '-'] then
      .error (.noSuchOption spelling (Text.similarTo spelling (longSpellings kinds)))
    else readShort kinds [] (word.toList.drop 1) words

def isOption (word : String) : Bool := word.toList.head? == some '-' && 1 < word.length

/-- Reads words. With `mixed` options may follow arguments, without it the first argument ends the
options. -/
def parseFrom (kinds : List OptionKind) (mixed : Bool) (seen : Parsed) :
    Nat → List String → Except UsageError Parsed
  | _, [] => .ok seen
  | 0, _ => .ok seen
  | fuel + 1, word :: words =>
    if word = "--" then .ok { seen with arguments := seen.arguments ++ words }
    else if isOption word then
      match readOption kinds word words with
      | .error e => .error e
      | .ok (options, words) =>
        parseFrom kinds mixed { seen with options := seen.options ++ options } fuel words
    else if mixed then
      parseFrom kinds mixed { seen with arguments := seen.arguments ++ [word] } fuel words
    else .ok { seen with arguments := seen.arguments ++ word :: words }

def parse (kinds : List OptionKind) (mixed : Bool) (words : List String) :
    Except UsageError Parsed :=
  parseFrom kinds mixed {} words.length words

theorem parse_nil (kinds : List OptionKind) (mixed : Bool) : parse kinds mixed [] = .ok {} := rfl

end PlanCode.CommandLine
