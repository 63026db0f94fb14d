import PlanCode.Number.Double
import PlanCode.Text.Blank
import PlanCode.Text.Digit
import PlanCode.Text.Hex

/-!
# Numerals

The texts that write numbers. Blanks around a numeral do not count, digits may
be those of any script, and single low lines may stand between digits. A whole
numeral has at most 4300 digits. A real numeral may have a fraction and an
exponent, or name infinity or what is not a number. A numeral in base two,
eight or sixteen may have a mark for its base.

* `readBased?_marked`: the mark of a base changes nothing.
-/
namespace PlanCode.Number

open PlanCode.Text

/-- The blanks that may stand around a numeral: all but the information separators. -/
def isMargin (c : Char) : Bool := isBlank c && !(28 ≤ c.toNat && c.toNat ≤ 31)

def withoutMargins (s : List Char) : List Char :=
  ((s.dropWhile isMargin).reverse.dropWhile isMargin).reverse

/-- The digits that follow a digit, and what comes after them. -/
def digitsAfter : List Char → List Nat × List Char
  | [] => ([], [])
  | '_' :: c :: rest =>
    match digitValue? c with
    | some d => let (ds, after) := digitsAfter rest; (d :: ds, after)
    | none => ([], '_' :: c :: rest)
  | c :: rest =>
    match digitValue? c with
    | some d => let (ds, after) := digitsAfter rest; (d :: ds, after)
    | none => ([], c :: rest)

/-- The digits at the start of a text, and what comes after them. -/
def spanDigits : List Char → List Nat × List Char
  | [] => ([], [])
  | c :: rest =>
    match digitValue? c with
    | some d => let (ds, after) := digitsAfter rest; (d :: ds, after)
    | none => ([], c :: rest)

def digitsToNat (ds : List Nat) : Nat := ds.foldl (fun n d => 10 * n + d) 0

/-- A sign at the start, if any: whether it is a minus, and the rest. -/
def spanSign : List Char → Bool × List Char
  | '-' :: rest => (true, rest)
  | '+' :: rest => (false, rest)
  | s => (false, s)

/-- A whole numeral has no more digits than this. -/
def maxWholeDigits : Nat := 4300

def readWholeChars? (s : List Char) : Option Int :=
  let (negative, rest) := spanSign (withoutMargins s)
  match spanDigits rest with
  | (d :: ds, []) =>
    if (d :: ds).length ≤ maxWholeDigits then some (Double.signed negative (digitsToNat (d :: ds)))
    else none
  | _ => none

def readWhole? (s : String) : Option Int := readWholeChars? s.toList

/-- The value of a digit in a base up to sixteen: a decimal digit of any script, or a letter. -/
def basedDigit? (c : Char) : Option Nat := (digitValue? c).or (hexValue? c)

/-- The number that digits without low lines write in a base. -/
def basedToNat? (base : Nat) (s : List Char) : Option Nat :=
  if s.isEmpty then none
  else s.foldl (fun acc c => acc.bind fun n =>
    ((basedDigit? c).filter (· < base)).map (base * n + ·)) (some 0)

/-- The digits after the mark of a base, such as `0x`, if they are marked. -/
def withoutMark (mark : Char) (s : List Char) : List Char :=
  match s with
  | zero :: m :: digits =>
    if digitValue? zero = some 0 && m.toLower = mark then digits else s
  | s => s

/-- A numeral without low lines in a base that has a mark. -/
def readBased? (base : Nat) (mark : Char) (s : List Char) : Option Int :=
  let (negative, digits) := spanSign (withoutMargins s)
  (basedToNat? base (withoutMark mark digits)).map (Double.signed negative)

theorem readBased?_marked :
    readBased? 16 'x' "0x1f".toList = some 31 ∧ readBased? 16 'x' "1f".toList = some 31 := by
  decide +kernel

/-- An exponent part, or nothing, up to the end of the text. -/
def readExponent? : List Char → Option Int
  | [] => some 0
  | c :: rest =>
    if c = 'e' || c = 'E' then
      let (negative, rest) := spanSign rest
      match spanDigits rest with
      | (d :: ds, []) => some (Double.signed negative (digitsToNat (d :: ds)))
      | _ => none
    else none

/-- A fraction part, or nothing: its digits, and what comes after them. -/
def spanFraction : List Char → List Nat × List Char
  | '.' :: rest => spanDigits rest
  | s => ([], s)

def readReal? (s : String) : Option Double :=
  let (negative, rest) := spanSign (withoutMargins s.toList)
  let word := String.ofList (rest.map Char.toLower)
  if word == "inf" || word == "infinity" then some (.infinite negative)
  else if word == "nan" then some .nan
  else
    let (whole, rest) := spanDigits rest
    let (fraction, rest) := spanFraction rest
    if whole.isEmpty && fraction.isEmpty then none
    else
      (readExponent? rest).map fun power =>
        .ofDecimal negative (digitsToNat (whole ++ fraction)) (power - fraction.length)

end PlanCode.Number
