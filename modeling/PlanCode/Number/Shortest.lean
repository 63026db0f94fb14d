import PlanCode.Number.Double

/-!
# The shortest decimal text of a double

The fewest decimal digits that read back as the same double, and of those the
digits nearest to it. The text is positional from `0.0001` up to below `10 ^ 16`,
always with a fraction, and has an exponent of at least two digits elsewhere.
-/
namespace PlanCode.Number

/-- Where a positive double lies: the numbers that round to it are those between `low` and `high`,
in units of `1 / den`; the ends belong to them when `closed`. -/
structure Interval where
  low : Nat
  value : Nat
  high : Nat
  den : Nat
  closed : Bool

namespace Interval

/-- The interval of `mantissa * 2 ^ exponent`, whose lower half is narrower at a power of two. -/
def ofDouble (mantissa : Nat) (exponent : Int) : Interval :=
  let below :=
    if mantissa = Nat.pow 2 52 && -1074 < exponent then 4 * mantissa - 1 else 4 * mantissa - 2
  let unit := exponent - 2
  let up := Nat.pow 2 unit.toNat
  { low := below * up, value := 4 * mantissa * up, high := (4 * mantissa + 2) * up,
    den := Nat.pow 2 (-unit).toNat, closed := mantissa % 2 = 0 }

/-- Whether the decimal `digits * 10 ^ power` lies in the interval. -/
def holds (i : Interval) (digits : Nat) (power : Int) : Bool :=
  let point := digits * Nat.pow 10 power.toNat * i.den
  let scale := Nat.pow 10 (-power).toNat
  if i.closed then i.low * scale ≤ point && point ≤ i.high * scale
  else i.low * scale < point && point < i.high * scale

/-- The place of the leading decimal digit of the value: a power of ten not above it. -/
def leadingPower (i : Interval) : Int :=
  if i.den ≤ i.value then ((toString (i.value / i.den)).length : Int) - 1
  else
    let rec search : Nat → Nat → Int
      | 0, shift => -(shift : Int)
      | fuel + 1, shift =>
        if i.den ≤ i.value * Nat.pow 10 shift then -(shift : Int) else search fuel (shift + 1)
    search 330 1

/-- The nearest hit on the grid of `10 ^ power`, an even digit first in a tie. -/
def hit? (i : Interval) (power : Int) : Option Nat :=
  let num := i.value * Nat.pow 10 (-power).toNat
  let den := i.den * Nat.pow 10 power.toNat
  let q := num / den
  let rest := num % den
  let lower := i.holds q power && q ≠ 0
  let upper := i.holds (q + 1) power
  if lower && upper then
    some (if 2 * rest < den || (2 * rest = den && q % 2 = 0) then q else q + 1)
  else if lower then some q
  else if upper then some (q + 1)
  else none

/-- The first hit on ever finer grids, as digits and a power of ten. -/
def shortest (i : Interval) (leading : Int) : Nat → Nat × Int
  | 0 => (0, 0)
  | fuel + 1 =>
    let power := leading - (17 - (fuel + 1) : Nat)
    match i.hit? power with
    | some digits => (digits, power)
    | none => i.shortest leading fuel

end Interval

/-- Digits with the decimal point after `point` of them, positional or with an exponent. -/
def decimalText (digits : List Char) (point : Int) : List Char :=
  if -4 < point && point ≤ 16 then
    if point ≤ 0 then '0' :: '.' :: List.replicate (-point).toNat '0' ++ digits
    else if (digits.length : Int) ≤ point then
      digits ++ List.replicate (point.toNat - digits.length) '0' ++ ['.', '0']
    else digits.take point.toNat ++ '.' :: digits.drop point.toNat
  else
    let power := point - 1
    let body := match digits with
      | [] => []
      | [d] => [d]
      | d :: rest => d :: '.' :: rest
    let size := (toString power.natAbs).toList
    body ++ 'e' :: (if power < 0 then '-' else '+') ::
      (if size.length < 2 then '0' :: size else size)

/-- Digits without the zeros at their end, which move into the power of ten. -/
def dropTrailingZeros (digits : List Char) : List Char :=
  (digits.reverse.dropWhile (· == '0')).reverse

def Double.text : Double → String
  | .nan => "nan"
  | .infinite negative => if negative then "-inf" else "inf"
  | .finite negative mantissa exponent =>
    let body :=
      if mantissa = 0 then ['0', '.', '0']
      else
        let i := Interval.ofDouble mantissa exponent
        let (digits, power) := i.shortest i.leadingPower 17
        let shown := (toString digits).toList
        decimalText (dropTrailingZeros shown) (power + shown.length)
    String.ofList (if negative then '-' :: body else body)

end PlanCode.Number
