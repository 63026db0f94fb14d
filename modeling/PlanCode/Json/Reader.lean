import PlanCode.Datum
import PlanCode.Text.Hex

/-!
# Reading JSON

A JSON document as data. A number without fraction and exponent is a whole
number of any size, every other number is a double. Of two members with one
name the last value counts, at the place of the first.
-/
namespace PlanCode.Json

open Number

def skipBlanks (s : List Char) : List Char :=
  s.dropWhile fun c => c == ' ' || c == '\n' || c == '\t' || c == '\r'

/-- The text after an expected one. -/
def expect? (word : List Char) (s : List Char) : Option (List Char) :=
  if word.isPrefixOf s then some (s.drop word.length) else none

/-- Four hexadecimal digits and what comes after them. -/
def readUnit? (s : List Char) : Option (Nat × List Char) :=
  let digits := s.take 4
  if digits.length = 4 then (Text.readHex? digits).map (·, s.drop 4) else none

/-- The character of an escape whose unit is already read; a high surrogate takes the low one
after it along, and a lone surrogate becomes the replacement character. -/
def readEscapedUnit (unit : Nat) (s : List Char) : Char × List Char :=
  if 0xD800 ≤ unit && unit < 0xDC00 then
    match s with
    | '\\' :: 'u' :: rest =>
      match readUnit? rest with
      | some (low, rest) =>
        if 0xDC00 ≤ low && low < 0xE000 then
          (Char.ofNat (0x10000 + (unit - 0xD800) * 0x400 + (low - 0xDC00)), rest)
        else ('\ufffd', s)
      | none => ('\ufffd', s)
    | _ => ('\ufffd', s)
  else if 0xDC00 ≤ unit && unit < 0xE000 then ('\ufffd', s)
  else (Char.ofNat unit, s)

/-- The rest of a string after its opening quote; `seen` holds its characters, last first. -/
def readString? (seen : List Char) : Nat → List Char → Option (String × List Char)
  | 0, _ => none
  | fuel + 1, s =>
    match s with
    | [] => none
    | '"' :: rest => some (String.ofList seen.reverse, rest)
    | '\\' :: 'u' :: rest =>
      match readUnit? rest with
      | some (unit, rest) =>
        let (c, rest) := readEscapedUnit unit rest
        readString? (c :: seen) fuel rest
      | none => none
    | '\\' :: c :: rest =>
      let plain : Option Char := match c with
        | '"' => some '"'
        | '\\' => some '\\'
        | '/' => some '/'
        | 'b' => some '\x08'
        | 'f' => some '\x0c'
        | 'n' => some '\n'
        | 'r' => some '\r'
        | 't' => some '\t'
        | _ => none
      match plain with
      | some c => readString? (c :: seen) fuel rest
      | none => none
    | c :: rest => if c.toNat < 0x20 then none else readString? (c :: seen) fuel rest

def toNat (digits : List Char) : Nat :=
  digits.foldl (fun n c => 10 * n + (c.toNat - '0'.toNat)) 0

/-- A number at the start of a text. -/
def readNumber? (s : List Char) : Option (Datum × List Char) :=
  let (negative, s) := match s with
    | '-' :: rest => (true, rest)
    | s => (false, s)
  let (whole, s) := s.span Char.isDigit
  if whole.isEmpty then none
  else
    let (fraction, s) := match s with
      | '.' :: rest => let (ds, rest) := rest.span Char.isDigit; (some ds, rest)
      | s => (none, s)
    let (power, s) : Option Int × List Char := match s with
      | c :: rest =>
        if c = 'e' || c = 'E' then
          let (down, rest) := match rest with
            | '-' :: rest => (true, rest)
            | '+' :: rest => (false, rest)
            | rest => (false, rest)
          let (ds, rest) := rest.span Char.isDigit
          (some (Double.signed down (toNat ds)), rest)
        else (none, c :: rest)
      | [] => (none, [])
    match fraction, power with
    | none, none => some (.int (Double.signed negative (toNat whole)), s)
    | _, _ =>
      let ds := fraction.getD []
      some (.real (.ofDecimal negative (toNat (whole ++ ds)) (power.getD 0 - ds.length)), s)

mutual

def readValue? : Nat → List Char → Option (Datum × List Char)
  | 0, _ => none
  | fuel + 1, s =>
    match skipBlanks s with
    | '"' :: rest => (readString? [] (rest.length + 1) rest).map fun (t, rest) => (.text t, rest)
    | '[' :: rest =>
      match skipBlanks rest with
      | ']' :: rest => some (.list [], rest)
      | rest => (readItems? fuel rest).map fun (items, rest) => (.list items, rest)
    | '\x7b' :: rest =>
      match skipBlanks rest with
      | '\x7d' :: rest => some (.map [], rest)
      | rest => (readMembers? fuel rest []).map fun (entries, rest) => (.map entries, rest)
    | 'n' :: rest => (expect? ['u', 'l', 'l'] rest).map (.null, ·)
    | 't' :: rest => (expect? ['r', 'u', 'e'] rest).map (.bool true, ·)
    | 'f' :: rest => (expect? ['a', 'l', 's', 'e'] rest).map (.bool false, ·)
    | 'N' :: rest => (expect? ['a', 'N'] rest).map (.real .nan, ·)
    | 'I' :: rest => (expect? "nfinity".toList rest).map (.real (.infinite false), ·)
    | '-' :: 'I' :: rest => (expect? "nfinity".toList rest).map (.real (.infinite true), ·)
    | s => readNumber? s

def readItems? : Nat → List Char → Option (List Datum × List Char)
  | 0, _ => none
  | fuel + 1, s =>
    match readValue? fuel s with
    | none => none
    | some (item, rest) =>
      match skipBlanks rest with
      | ',' :: rest => (readItems? fuel rest).map fun (items, rest) => (item :: items, rest)
      | ']' :: rest => some ([item], rest)
      | _ => none

def readMembers? : Nat → List Char → List (Datum × Datum) →
    Option (List (Datum × Datum) × List Char)
  | 0, _, _ => none
  | fuel + 1, s, seen =>
    match skipBlanks s with
    | '"' :: rest =>
      match readString? [] (rest.length + 1) rest with
      | none => none
      | some (name, rest) =>
        match skipBlanks rest with
        | ':' :: rest =>
          match readValue? fuel rest with
          | none => none
          | some (value, rest) =>
            let seen := Datum.put (.text name) value seen
            match skipBlanks rest with
            | ',' :: rest => readMembers? fuel rest seen
            | '\x7d' :: rest => some (seen, rest)
            | _ => none
        | _ => none
    | _ => none

end

/-- The value that a whole text writes. -/
def read? (s : String) : Option Datum :=
  match readValue? (2 * s.length + 2) s.toList with
  | some (d, rest) => if (skipBlanks rest).isEmpty then some d else none
  | none => none

end PlanCode.Json
