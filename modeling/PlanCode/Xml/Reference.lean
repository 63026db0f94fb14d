import PlanCode.Text.Hex
import PlanCode.Text.Replace
import PlanCode.Xml.Name

/-!
# References and attribute values

A reference stands for one character, given by number or as one of five
predefined names, or for an entity that the document declares. In an attribute
value every blank is a space, unless it is written as a reference.

* `predefined?_lt`: the opening bracket of a tag has a name.
-/
namespace PlanCode.Xml

inductive Reference where
  | char (c : Char)
  | entity (name : String)
deriving DecidableEq, Repr

/-- The characters that have a name in every document. -/
def predefined? (name : String) : Option Char :=
  match name with
  | "lt" => some '<'
  | "gt" => some '>'
  | "amp" => some '&'
  | "quot" => some '"'
  | "apos" => some '\''
  | _ => none

theorem predefined?_lt : predefined? "lt" = some '<' := rfl

/-- The character with a number, if a document may hold it. -/
def numbered? (n : Nat) : Option Char :=
  if n < 0xD800 || (0xE000 ≤ n && n < 0x110000) then
    let c := Char.ofNat n
    if isDocumentChar c then some c else none
  else none

def decimalValue? (digits : List Char) : Option Nat :=
  if digits.isEmpty || !digits.all Char.isDigit then none
  else some (digits.foldl (fun n c => 10 * n + (c.toNat - '0'.toNat)) 0)

/-- A reference whose `&` is already read. -/
def readReference? : List Char → Option (Reference × List Char)
  | '#' :: rest =>
    let (body, rest) := rest.span (· != ';')
    match rest with
    | ';' :: rest => do
      let n ← match body with
        | 'x' :: digits => if digits.isEmpty then none else Text.readHex? digits
        | digits => decimalValue? digits
      return (.char (← numbered? n), rest)
    | _ => none
  | s => do
    let (name, rest) ← readPlainName? s
    match rest with
    | ';' :: rest =>
      match predefined? name with
      | some c => return (.char c, rest)
      | none => return (.entity name, rest)
    | _ => none

/-! ## Attribute values -/

/-- The references and characters that a value is made of. -/
def readValueFrom? (seen : List Reference) : Nat → List Char → Option (List Reference)
  | _, [] => some seen.reverse
  | 0, _ => none
  | fuel + 1, c :: rest =>
    if c = '<' then none
    else if c = '&' then
      match readReference? rest with
      | some (r, rest) => readValueFrom? (r :: seen) fuel rest
      | none => none
    else readValueFrom? (.char (if isBlank c then ' ' else c) :: seen) fuel rest

def readValue? (s : List Char) : Option (List Reference) := readValueFrom? [] s.length s

/-- The text between two quotes of one kind, and the text after them. -/
def readQuoted? : List Char → Option (List Char × List Char)
  | [] => none
  | quote :: rest =>
    if quote = '"' || quote = '\'' then
      match rest.span (· != quote) with
      | (body, _ :: rest) => some (body, rest)
      | (_, []) => none
    else none

/-- A quoted attribute value at the start of a text. -/
def readQuotedValue? (s : List Char) : Option (List Reference × List Char) := do
  let (body, rest) ← readQuoted? s
  return (← readValue? body, rest)

/-- A value that is a list of words: one space between words, none around them. -/
def joinWords (s : List Char) : List Char :=
  [' '].intercalate ((Text.splitOnChar ' ' s).filter (!·.isEmpty))

end PlanCode.Xml
