import PlanCode.Text.Hex

/-!
# Text in UTF-8

Bytes as text, and for bytes that are none the first fault: where it stands, and
whether a byte cannot start a character, cannot go on with one, or is missing.

* `decode_empty`: no bytes are the empty text.
-/
namespace PlanCode.Text

inductive Utf8Fault where
  | badStart (byte : UInt8) (position : Nat)
  /-- `length` bytes belong together before the one that does not go on. -/
  | badContinuation (byte : UInt8) (position length : Nat)
  /-- The last bytes begin a character that is not finished. -/
  | unfinished (first : UInt8) (length : Nat)
deriving DecidableEq, Repr

namespace Utf8Fault

def reason : Utf8Fault → String
  | .badStart .. => "invalid start byte"
  | .badContinuation .. => "invalid continuation byte"
  | .unfinished .. => "unexpected end of data"

/-- The first byte, the position and the number of bytes at fault. Of an unfinished character the
position counts from its own first byte. -/
def extent : Utf8Fault → UInt8 × Nat × Nat
  | .badStart byte position => (byte, position, 1)
  | .badContinuation byte position length => (byte, position, length)
  | .unfinished byte length => (byte, 0, length)

def message (f : Utf8Fault) : String :=
  let (byte, position, length) := f.extent
  let bytes :=
    if length = 1 then
      "byte 0x" ++ String.ofList (hexDigits 2 byte.toNat) ++ " in position " ++ toString position
    else "bytes in position " ++ toString position ++ "-" ++ toString (position + length - 1)
  "'utf-8' codec can't decode " ++ bytes ++ ": " ++ f.reason

end Utf8Fault

def isContinuation (b : UInt8) : Bool := 0x80 ≤ b && b < 0xC0

/-- How many bytes a character has that begins with this one. -/
def width? (b : UInt8) : Option Nat :=
  if b < 0x80 then some 1
  else if b < 0xC2 then none
  else if b < 0xE0 then some 2
  else if b < 0xF0 then some 3
  else if b < 0xF5 then some 4
  else none

/-- Whether the second byte may follow the first: no longer form than needed, no half of a pair,
nothing above the last code point. -/
def mayFollow (first second : UInt8) : Bool :=
  isContinuation second &&
    !(first == 0xE0 && second < 0xA0) && !(first == 0xED && 0xA0 ≤ second) &&
    !(first == 0xF0 && second < 0x90) && !(first == 0xF4 && 0x90 ≤ second)

/-- The first fault of some bytes, the first of which stands at a position. -/
def firstFault? (position : Nat) : Nat → List UInt8 → Option Utf8Fault
  | _, [] => none
  | 0, _ => none
  | fuel + 1, first :: rest =>
    match width? first with
    | none => some (.badStart first position)
    | some width =>
      let wanted := rest.take (width - 1)
      let fitting := match wanted with
        | [] => 0
        | second :: more =>
          if mayFollow first second then 1 + (more.takeWhile isContinuation).length else 0
      if fitting < wanted.length then some (.badContinuation first position (fitting + 1))
      else if fitting + 1 < width then some (.unfinished first (fitting + 1))
      else firstFault? (position + width) fuel (rest.drop (width - 1))

/-- The text that some bytes write. -/
def decode (bytes : ByteArray) : Except Utf8Fault String :=
  match String.fromUTF8? bytes with
  | some s => .ok s
  | none =>
    .error ((firstFault? 0 bytes.size bytes.toList).getD (.badStart 0 0))

theorem decode_empty : decode ByteArray.empty = .ok "" := by
  simp [decode, String.fromUTF8?]
  rfl

end PlanCode.Text
