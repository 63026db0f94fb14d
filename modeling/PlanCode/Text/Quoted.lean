import PlanCode.Text.Hex
import PlanCode.Text.Printable

/-!
# Quoted text

How messages show a text: between single quotes, or between double quotes when
the text holds a single quote and no double one. The quote in use and the
backslash are escaped, line feed, carriage return and tab have short escapes,
and every other character that is not printable is written by its code point. Bytes
are shown after a `b`, those outside of ASCII by their number.
-/
namespace PlanCode.Text

/-- The quote that a text is shown between. -/
def quoteOf (s : List Char) : Char :=
  if s.contains '\'' && !s.contains '"' then '"' else '\''

def quotedChar (quote c : Char) : List Char :=
  if c = quote || c = '\\' then ['\\', c]
  else if c = '\n' then ['\\', 'n']
  else if c = '\r' then ['\\', 'r']
  else if c = '\t' then ['\\', 't']
  else if isPrintable c then [c]
  else if c.toNat < 0x100 then '\\' :: 'x' :: hexDigits 2 c.toNat
  else if c.toNat < 0x10000 then '\\' :: 'u' :: hexDigits 4 c.toNat
  else '\\' :: 'U' :: hexDigits 8 c.toNat

def quotedChars (s : List Char) : List Char :=
  quoteOf s :: s.flatMap (quotedChar (quoteOf s)) ++ [quoteOf s]

def quoted (s : String) : String := String.ofList (quotedChars s.toList)

/-- Bytes as characters of the same numbers, of which ASCII alone is printable. -/
def quotedBytes (bytes : List UInt8) : String :=
  let s := bytes.map fun b => Char.ofNat b.toNat
  let quote := quoteOf s
  let shown (c : Char) : List Char :=
    if 0x80 ≤ c.toNat then '\\' :: 'x' :: hexDigits 2 c.toNat else quotedChar quote c
  String.ofList ('b' :: quote :: s.flatMap shown ++ [quote])

/-- Items between square brackets. -/
def bracketed (items : List String) : String := "[" ++ ", ".intercalate items ++ "]"

end PlanCode.Text
