import PlanCode.Datum
import PlanCode.Text.Hex

/-!
# Writing JSON

Data as JSON of ASCII characters only: as a document with one item or member a
line, each level two spaces further in, or all on one line. Characters outside
ASCII are escaped by their UTF-16 units.
-/
namespace PlanCode.Json

def escapedUnit (unit : Nat) : List Char := '\\' :: 'u' :: Text.hexDigits 4 unit

def escapedChar (c : Char) : List Char :=
  if c = '"' || c = '\\' then ['\\', c]
  else if c = '\n' then ['\\', 'n']
  else if c = '\r' then ['\\', 'r']
  else if c = '\t' then ['\\', 't']
  else if c = '\x08' then ['\\', 'b']
  else if c = '\x0c' then ['\\', 'f']
  else if 0x20 ≤ c.toNat && c.toNat < 0x7F then [c]
  else if c.toNat < 0x10000 then escapedUnit c.toNat
  else
    let rest := c.toNat - 0x10000
    escapedUnit (0xD800 + rest / 0x400) ++ escapedUnit (0xDC00 + rest % 0x400)

def stringText (s : String) : String :=
  "\"" ++ String.ofList (s.toList.flatMap escapedChar) ++ "\""

def lineBreak (level : Nat) : String := "\n" ++ String.ofList (List.replicate (2 * level) ' ')

/-- Items between brackets, each on a line of its own. -/
def block (opening closing : String) (level : Nat) (items : List String) : String :=
  if items.isEmpty then opening ++ closing
  else
    opening ++ lineBreak (level + 1) ++ ("," ++ lineBreak (level + 1)).intercalate items ++
      lineBreak level ++ closing

mutual

def writeAt (level : Nat) : Datum → String
  | .null => "null"
  | .bool b => if b then "true" else "false"
  | .int n => toString n
  | .real .nan => "NaN"
  | .real (.infinite negative) => if negative then "-Infinity" else "Infinity"
  | .real d => d.text
  | .text s => stringText s
  | .list items | .set items => block "[" "]" level (writeItems (level + 1) items)
  | .pair key value => block "[" "]" level [writeAt (level + 1) key, writeAt (level + 1) value]
  | .map entries => block "\x7b" "\x7d" level (writeEntries (level + 1) entries)
  | .other _ shown | .cyclic shown _ => stringText shown

def writeItems (level : Nat) : List Datum → List String
  | [] => []
  | d :: rest => writeAt level d :: writeItems level rest

def writeEntries (level : Nat) : List (Datum × Datum) → List String
  | [] => []
  | (key, value) :: rest =>
    (stringText key.plain ++ ": " ++ writeAt level value) :: writeEntries level rest

end

/-- A document of several lines. -/
def write (d : Datum) : String := writeAt 0 d

mutual

/-- A document on one line, without blanks. -/
def writeLine : Datum → String
  | .list items => "[" ++ ",".intercalate (lineItems items) ++ "]"
  | .map entries => "\x7b" ++ ",".intercalate (lineEntries entries) ++ "\x7d"
  | d => writeAt 0 d

def lineItems : List Datum → List String
  | [] => []
  | d :: rest => writeLine d :: lineItems rest

def lineEntries : List (Datum × Datum) → List String
  | [] => []
  | (key, value) :: rest => (stringText key.plain ++ ":" ++ writeLine value) :: lineEntries rest

end

end PlanCode.Json
