import PlanCode.Datum
import PlanCode.Number.Numeral
import PlanCode.Text.Base64
import PlanCode.Text.LowerCase
import PlanCode.Yaml.Cursor
import PlanCode.Yaml.Tag

/-!
# Values of YAML scalars

What the text of a scalar stands for, once its kind is known. Low lines in
numbers do not count; a number with colons counts in sixties.

* `wholeOf_zero`: a lone zero is zero, whatever its sign.
-/
namespace PlanCode.Yaml

open Number

def withoutLow (s : List Char) : List Char := s.filter (· != '_')

/-- A number without its sign, and whether the sign is a minus. -/
def splitSign (s : List Char) : Bool × List Char := (s.head? == some '-', Tag.unsigned s)

def notANumeral (base : Nat) (s : List Char) : Error :=
  .outOfRange ("invalid literal for int() with base " ++ toString base ++ ": " ++
    Text.quoted (String.ofList s))

/-- A whole number in a base that has a mark. -/
def readBased (base : Nat) (mark : Char) (s : List Char) : Except Error Int :=
  match readBased? base mark s with
  | some n => .ok n
  | none => .error (notANumeral base s)

/-- A decimal number; more digits than can be read are an error. -/
def readDecimal (s : List Char) : Except Error Int :=
  match readWholeChars? s with
  | some n => .ok n
  | none =>
    let (_, digits) := spanSign (withoutMargins s)
    if digits.all (fun c => (Text.digitValue? c).isSome) && maxWholeDigits < digits.length then
      .error (.outOfRange ("Exceeds the limit (" ++ toString maxWholeDigits ++
        " digits) for integer string conversion: value has " ++ toString digits.length ++
        " digits; use sys.set_int_max_str_digits() to increase the limit"))
    else .error (notANumeral 10 s)

def wholeOf (text : List Char) : Except Error Int := do
  let s := withoutLow text
  if s.isEmpty then throw .emptyNumber
  let (negative, s) := splitSign s
  let n : Int ← match s with
    | [] => .error .emptyNumber
    | ['0'] => .ok 0
    | '0' :: 'b' :: digits => readBased 2 'b' digits
    | '0' :: 'x' :: digits => readBased 16 'x' digits
    | '0' :: _ => readBased 8 'o' s
    | _ =>
      if s.contains ':' then do
        let parts ← (Text.splitOnChar ':' s).mapM readDecimal
        pure (parts.foldl (fun n d => 60 * n + d) 0)
      else readDecimal s
  return if negative then -n else n

theorem wholeOf_zero : wholeOf ['0'] = .ok 0 ∧ wholeOf ['-', '0'] = .ok 0 := ⟨rfl, rfl⟩

def readFloat (s : List Char) : Except Error Double :=
  match readReal? (String.ofList s) with
  | some d => .ok d
  | none =>
    .error (.outOfRange ("could not convert string to float: " ++ Text.quoted (String.ofList s)))

/-- The sum of parts with the weights 1, 60, 3600 and so on, each weight, product and sum rounded to
a double. -/
def sumSixties (total : Double) (weight : Nat) : List Double → Except Error Double
  | [] => .ok total
  | part :: parts =>
    match Double.ofNat? weight with
    | some w => sumSixties (total.add (part.mul w)) (60 * weight) parts
    | none => .error .tooLarge

/-- The name of what is not a number, in small letters. -/
def nanName : List Char := ['.', 'n', 'a', 'n']

/-- A real number in small letters, without low lines, without its sign, and the sign. -/
def realParts (text : List Char) : Bool × List Char :=
  splitSign (Text.lower (String.ofList (withoutLow text))).toList

def realOf (text : List Char) : Except Error Double := do
  if (withoutLow text).isEmpty then throw .emptyNumber
  let (negative, s) := realParts text
  let d : Double ←
    if s == ['.', 'i', 'n', 'f'] then pure (.infinite false)
    else if s == nanName then pure .nan
    else if s.contains ':' then do
      let parts ← (Text.splitOnChar ':' s).mapM readFloat
      sumSixties (.finite false 0 0) 1 parts.reverse
    else readFloat s
  return if negative then d.neg else d

/-! ## Times -/

def isLeap (year : Nat) : Bool := (year % 4 == 0 && year % 100 != 0) || year % 400 == 0

def daysIn (year month : Nat) : Nat :=
  if month = 2 then if isLeap year then 29 else 28
  else if [4, 6, 9, 11].contains month then 30 else 31

/-- Why a day or a clock does not exist, if it does not. -/
def timeFault? (t : Tag.Time) : Option String :=
  let zone? : Option String := match t.clock with
    | some { zone := .ahead behind hours minutes, .. } =>
      if 24 * 60 ≤ 60 * hours + minutes then
        let shown := distanceText behind (60 * hours + minutes)
        some ("offset must be a timedelta strictly between -timedelta(hours=24) and " ++
          "timedelta(hours=24), not " ++ shown ++ ".")
      else none
    | _ => none
  let day? : Option String :=
    if t.year = 0 then some ("year " ++ toString t.year ++ " is out of range")
    else if t.month = 0 || 12 < t.month then some "month must be in 1..12"
    else if t.day = 0 || daysIn t.year t.month < t.day then some "day is out of range for month"
    else none
  let clock? : Option String := match t.clock with
    | some c =>
      if 24 ≤ c.hour then some "hour must be in 0..23"
      else if 60 ≤ c.minute then some "minute must be in 0..59"
      else if 60 ≤ c.second then some "second must be in 0..59"
      else none
    | none => none
  zone?.or (day?.or clock?)
where
  /-- A distance in minutes, forth or back. -/
  distanceText (behind : Bool) (minutes : Nat) : String :=
    let days : Int := if behind then Int.fdiv (-(minutes : Int)) 1440 else minutes / 1440
    let seconds : Int :=
      if behind then Int.fmod (-(minutes : Int)) 1440 * 60 else minutes % 1440 * 60
    let parts := (if days = 0 then [] else ["days=" ++ toString days]) ++
      (if seconds = 0 then [] else ["seconds=" ++ toString seconds])
    "datetime.timedelta(" ++ (if parts.isEmpty then "0" else ", ".intercalate parts) ++ ")"

/-- The first six digits after the point, as a number. -/
def micros (fraction : List Char) : Nat :=
  let six := fraction.take 6
  six.foldl (fun n c => 10 * n + (c.toNat - '0'.toNat)) 0 * Nat.pow 10 (6 - six.length)

def timeText (t : Tag.Time) : String :=
  let day := [t.year, t.month, t.day]
  match t.clock with
  | none => "datetime.date(" ++ ", ".intercalate (day.map toString) ++ ")"
  | some c =>
    let fraction := micros c.fraction
    let small :=
      if fraction ≠ 0 then [c.second, fraction] else if c.second = 0 then [] else [c.second]
    let zone := match c.zone with
      | .unstated => []
      | .universal => ["tzinfo=datetime.timezone.utc"]
      | .ahead behind hours minutes =>
        let all := 60 * hours + minutes
        if all = 0 then ["tzinfo=datetime.timezone.utc"]
        else ["tzinfo=datetime.timezone(" ++ timeFault?.distanceText behind all ++ ")"]
    "datetime.datetime(" ++
      ", ".intercalate ((day ++ [c.hour, c.minute] ++ small).map toString ++ zone) ++ ")"

/-- Values of one identity are the same key, however they are displayed. -/
inductive Identity where
  /-- What is not a number, if it is called by its name. -/
  | nan
  /-- A moment, in microseconds. -/
  | moment (n : Int)
deriving DecidableEq, Repr

/-- The value of a scalar. -/
structure Value where
  datum : Datum
  identity : Option Identity := none

namespace Value

/-- Whether two values are the same key. -/
def isSameKey (a b : Value) : Bool :=
  match a.identity, b.identity with
  | some i, some j => i == j
  | none, none => a.datum.same b.datum
  | _, _ => false

end Value

/-- The days before a day since the year zero. -/
def dayNumber (year month day : Nat) : Int :=
  let before := year - 1
  let leaps := before / 4 - before / 100 + before / 400
  let months := (List.range (month - 1)).foldl (fun n m => n + daysIn year (m + 1)) 0
  365 * before + leaps + months + day

/-- The moment of a time whose distance from the universal one is known. -/
def moment? (t : Tag.Time) : Option Int :=
  let since (c : Tag.Clock) (ahead : Int) : Int :=
    let minutes := 60 * (24 * dayNumber t.year t.month t.day + c.hour) + c.minute - ahead
    (60 * minutes + c.second) * 1000000 + micros c.fraction
  match t.clock with
  | none => none
  | some c =>
    match c.zone with
    | .unstated => none
    | .universal => some (since c 0)
    | .ahead behind hours minutes =>
      let distance : Int := 60 * hours + minutes
      some (since c (if behind then -distance else distance))

def timeOf (text : List Char) : Except Error Value :=
  match Tag.readTime? (Tag.withoutLastBreak text) with
  | none => .error .notATime
  | some t =>
    match timeFault? t with
    | some reason => .error (.outOfRange reason)
    | none => .ok {
        datum := .other (if t.clock.isSome then "datetime" else "date") (timeText t)
        identity := (moment? t).map .moment }

def bytesOf (text : String) : Except Error Datum :=
  if text.toList.any (0x80 ≤ ·.toNat) then .error .malformed
  else match Text.readBase64? text.toList with
    | some bytes => .ok (.other "bytes" (Text.quotedBytes bytes))
    | none => .error .malformed

def flagOf (text : String) : Except Error Bool :=
  let word := Text.lower text
  if Tag.yesWords.contains word then .ok true
  else if Tag.noWords.contains word then .ok false
  else .error .notAFlag

/-- The value of a scalar of some kind, whose text may have a display of its own. -/
def scalarValue (kind : Tag) (text : String) (shown? : Option String) : Except Error Value := do
  match kind with
  | .null => return { datum := .null }
  | .flag => return { datum := .bool (← flagOf text) }
  | .whole => return { datum := .int (← wholeOf text.toList) }
  | .real =>
    let isNamed := (realParts text.toList).2 == nanName
    return {
      datum := .real (← realOf text.toList)
      identity := if isNamed then some .nan else none }
  | .time => timeOf text.toList
  | .text =>
    match shown? with
    | some shown => return { datum := .other "str" shown }
    | none => return { datum := .text text }
  | .bytes => return { datum := ← bytesOf text }
  | _ => throw .malformed

end PlanCode.Yaml
