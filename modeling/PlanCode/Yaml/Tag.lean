import PlanCode.Text.Replace

/-!
# Kinds of YAML values

Plain text without a tag is a null, a flag, a number or a time when it looks
like one, and a text otherwise. Only the words and forms below count, so `1e3`
is a text.

* `ofPlain_empty`: nothing at all is null.
-/
namespace PlanCode.Yaml

inductive Tag where
  | null
  | flag
  | whole
  | real
  | time
  | text
  | bytes
  | list
  | map
  | set
  | orderedMap
  | pairs
  /-- The key under which a mapping takes over the entries of others. -/
  | merge
  /-- The key of a value that stands for its mapping. -/
  | default
  | unknown
deriving DecidableEq, Repr

namespace Tag

def space : String := "tag:yaml.org,2002:"

/-- The tags that have a name of their own. -/
def known : List (String × Tag) := [
  ("null", .null), ("bool", .flag), ("int", .whole), ("float", .real), ("timestamp", .time),
  ("str", .text), ("binary", .bytes), ("seq", .list), ("map", .map), ("set", .set),
  ("omap", .orderedMap), ("pairs", .pairs), ("merge", .merge), ("value", .default)]

def ofAddress (address : String) : Tag :=
  match known.find? fun (name, _) => space ++ name == address with
  | some (_, t) => t
  | none => .unknown

/-! ## Forms of plain text -/

/-- The words of null. -/
def nullWords : List String := ["", "~", "null", "Null", "NULL"]

/-- The words that mean yes, and those that mean no, in lower case. -/
def yesWords : List String := ["yes", "true", "on"]
def noWords : List String := ["no", "false", "off"]

/-- A word in lower case, with a capital, or in capitals. -/
def inEachCase (word : String) : List String := [word, word.capitalize, word.toUpper]

def flagWords : List String := (yesWords ++ noWords).flatMap inEachCase

def isDigitOrLow (c : Char) : Bool := c.isDigit || c == '_'

/-- The text after a sign, if there is one. -/
def unsigned : List Char → List Char
  | '+' :: rest | '-' :: rest => rest
  | s => s

/-- One or more parts after colons, each a number below sixty. -/
def areSixties (s : List Char) : Bool :=
  match Text.splitOnChar ':' s with
  | [] :: first :: more => (first :: more).all fun part => match part with
    | [a] => a.isDigit
    | [a, b] => '0' ≤ a && a ≤ '5' && b.isDigit
    | _ => false
  | _ => false

def isHexOrLow (c : Char) : Bool :=
  isDigitOrLow c || ('a' ≤ c && c ≤ 'f') || ('A' ≤ c && c ≤ 'F')

def isWhole (s : List Char) : Bool :=
  match unsigned s with
  | ['0'] => true
  | '0' :: 'b' :: rest => !rest.isEmpty && rest.all fun c => c == '0' || c == '1' || c == '_'
  | '0' :: 'x' :: rest => !rest.isEmpty && rest.all isHexOrLow
  | '0' :: rest => rest.all fun c => ('0' ≤ c && c ≤ '7') || c == '_'
  | c :: rest =>
    let after := rest.dropWhile isDigitOrLow
    c.isDigit && (after.isEmpty || areSixties after)
  | [] => false

/-- Nothing, or an exponent with a sign. -/
def isExponent : List Char → Bool
  | [] => true
  | e :: sign :: digits =>
    (e == 'e' || e == 'E') && (sign == '+' || sign == '-') && !digits.isEmpty &&
      digits.all Char.isDigit
  | _ => false

def isReal (s : List Char) : Bool :=
  let body := unsigned s
  let isSigned := body.length != s.length
  match body with
  | '.' :: c :: rest =>
    (!isSigned && c.isDigit && isExponent (rest.dropWhile isDigitOrLow)) ||
      ["inf", "Inf", "INF"].contains (String.ofList (c :: rest)) ||
      (!isSigned && ["nan", "NaN", "NAN"].contains (String.ofList (c :: rest)))
  | c :: rest =>
    let (_, after) := rest.span isDigitOrLow
    c.isDigit && match after with
      | '.' :: fraction => isExponent (fraction.dropWhile isDigitOrLow)
      | ':' :: _ =>
        let (sixties, fraction) := after.span (· != '.')
        areSixties sixties && match fraction with
          | '.' :: digits => digits.all isDigitOrLow
          | _ => false
      | _ => false
  | [] => false

/-- Leading digits, at least `least` and at most `most`, and the text after them. -/
def digits? (least most : Nat) (s : List Char) : Option (Nat × List Char) :=
  let found := (s.take most).takeWhile Char.isDigit
  if found.length < least then none
  else
    some (found.foldl (fun n c => 10 * n + (c.toNat - '0'.toNat)) 0, s.drop found.length)

def mark? (c : Char) : List Char → Option (List Char)
  | d :: rest => if d = c then some rest else none
  | [] => none

/-- How far local time is ahead, in minutes, and whether it is written as a distance. -/
inductive Zone where
  | unstated
  | universal
  | ahead (behind : Bool) (hours minutes : Nat)
deriving DecidableEq, Repr

structure Clock where
  hour : Nat
  minute : Nat
  second : Nat
  /-- The digits after the point. -/
  fraction : List Char
  zone : Zone
deriving DecidableEq, Repr

structure Time where
  year : Nat
  month : Nat
  day : Nat
  clock : Option Clock
deriving DecidableEq, Repr

def skipGap (s : List Char) : List Char := s.dropWhile fun c => c == ' ' || c == '\t'

def readZone? (s : List Char) : Option Zone :=
  match s with
  | [] => some .unstated
  | s =>
    match skipGap s with
    | ['Z'] => some .universal
    | c :: rest =>
      if c = '+' || c = '-' then do
        let (hours, rest) ← digits? 1 2 rest
        match rest with
        | [] => some (.ahead (c == '-') hours 0)
        | ':' :: rest =>
          let (minutes, rest) ← digits? 2 2 rest
          if rest.isEmpty then some (.ahead (c == '-') hours minutes) else none
        | _ => none
      else none
    | [] => none

def readClock? (s : List Char) : Option Clock := do
  let (hour, s) ← digits? 1 2 s
  let (minute, s) ← digits? 2 2 (← mark? ':' s)
  let (second, s) ← digits? 2 2 (← mark? ':' s)
  let (fraction, s) := match s with
    | '.' :: rest => rest.span Char.isDigit
    | s => ([], s)
  return { hour, minute, second, fraction, zone := ← readZone? s }

/-- A day, or a day and a clock after `T` or blanks. -/
def readTime? (s : List Char) : Option Time := do
  let (year, s) ← digits? 4 4 s
  let (month, s) ← digits? 1 2 (← mark? '-' s)
  let (day, s) ← digits? 1 2 (← mark? '-' s)
  match s with
  | [] => some { year, month, day, clock := none }
  | c :: rest =>
    let clock ← if c = 'T' || c = 't' then readClock? rest
      else if c = ' ' || c = '\t' then readClock? (skipGap rest)
      else none
    return { year, month, day, clock := some clock }

/-- A day alone has two digits for month and day; with a clock one will do. -/
def isTime (s : List Char) : Bool :=
  match readTime? s with
  | some t => t.clock.isSome || s.length == 10
  | none => false

/-- A text without the line break at its end, if more stands before it. -/
def withoutLastBreak (s : List Char) : List Char :=
  if s.getLast? == some '\n' && 1 < s.length then s.dropLast else s

/-- The kind of a text that its look decides. A line break at the end does not count. -/
def ofPlain (s : String) : Tag :=
  let cs := withoutLastBreak s.toList
  let s := String.ofList cs
  if flagWords.contains s then .flag
  else if isReal cs then .real
  else if isWhole cs then .whole
  else if s == "<<" then .merge
  else if nullWords.contains s then .null
  else if isTime cs then .time
  else if s == "=" then .default
  else if s == "!" || s == "&" || s == "*" then .unknown
  else .text

theorem ofPlain_empty : ofPlain "" = .null := by decide +kernel

end Tag
end PlanCode.Yaml
