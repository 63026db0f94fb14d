/-!
# Binary floating point numbers of double precision

A number is a sign, a whole mantissa and a power of two, kept exactly. Reading
a ratio or a decimal rounds to the nearest number with 53 binary digits, ties
to the even mantissa, and to infinity above the largest one.

* `roundHalfEven_mul`: rounding an exact quotient changes nothing.
* `neg_neg`: the opposite of the opposite is the number itself.
-/
namespace PlanCode.Number

inductive Double where
  /-- `mantissa * 2 ^ exponent`, negated when `negative`. -/
  | finite (negative : Bool) (mantissa : Nat) (exponent : Int)
  | infinite (negative : Bool)
  | nan
deriving DecidableEq, Repr

/-- The quotient rounded to the nearest whole number, a tie to the even one. -/
def roundHalfEven (num den : Nat) : Nat :=
  let q := num / den
  let r := num % den
  if 2 * r < den then q
  else if den < 2 * r then q + 1
  else if q % 2 = 0 then q else q + 1

theorem roundHalfEven_mul (q : Nat) {den : Nat} (h : 0 < den) :
    roundHalfEven (q * den) den = q := by
  simp [roundHalfEven, Nat.mul_div_cancel _ h, h]

namespace Double

/-- The binary exponent of the leading digit of `num / den`, both positive. -/
def leadingExponent (num den : Nat) : Int :=
  let k : Int := (Nat.log2 num : Int) - (Nat.log2 den : Int)
  let reached : Bool :=
    if 0 ≤ k then den * Nat.pow 2 k.toNat ≤ num else den ≤ num * Nat.pow 2 (-k).toNat
  if reached then k else k - 1

/-- `num / den` in units of `2 ^ exponent`, rounded. -/
def scaled (num den : Nat) (exponent : Int) : Nat :=
  if 0 ≤ exponent then roundHalfEven num (den * Nat.pow 2 exponent.toNat)
  else roundHalfEven (num * Nat.pow 2 (-exponent).toNat) den

/-- The double nearest to `num / den`, where `den` is positive. -/
def ofRatio (negative : Bool) (num den : Nat) : Double :=
  if num = 0 then .finite negative 0 0
  else
    let exponent := max (leadingExponent num den - 52) (-1074)
    let mantissa := scaled num den exponent
    let (mantissa, exponent) :=
      if mantissa = Nat.pow 2 53 then (Nat.pow 2 52, exponent + 1) else (mantissa, exponent)
    if 971 < exponent then .infinite negative else .finite negative mantissa exponent

/-- The double nearest to `digits * 10 ^ power`. -/
def ofDecimal (negative : Bool) (digits : Nat) (power : Int) : Double :=
  if digits = 0 then .finite negative 0 0
  else if 400 < power then .infinite negative
  else if power + (Nat.log2 digits / 3 + 1 : Nat) < -400 then .finite negative 0 0
  else if 0 ≤ power then ofRatio negative (digits * Nat.pow 10 power.toNat) 1
  else ofRatio negative digits (Nat.pow 10 (-power).toNat)

def signed (negative : Bool) (n : Nat) : Int := if negative then -(n : Int) else n

/-- The whole part, towards zero; none for infinities and for what is not a number. -/
def truncate? : Double → Option Int
  | .finite negative mantissa exponent =>
    some (signed negative
      (if 0 ≤ exponent then mantissa * Nat.pow 2 exponent.toNat
        else mantissa / Nat.pow 2 (-exponent).toNat))
  | _ => none

/-- The exact value, when it is a whole number. -/
def whole? : Double → Option Int
  | .finite negative mantissa exponent =>
    if 0 ≤ exponent || mantissa % Nat.pow 2 (-exponent).toNat = 0 then
      truncate? (.finite negative mantissa exponent)
    else none
  | _ => none

/-! ## Arithmetic -/

def neg : Double → Double
  | .finite negative mantissa exponent => .finite (!negative) mantissa exponent
  | .infinite negative => .infinite (!negative)
  | .nan => .nan

theorem neg_neg (d : Double) : d.neg.neg = d := by cases d <;> simp [neg]

/-- The exact value of a finite double, as a numerator and a denominator. -/
def ratio (negative : Bool) (mantissa : Nat) (exponent : Int) : Int × Nat :=
  (signed negative (if 0 ≤ exponent then mantissa * Nat.pow 2 exponent.toNat else mantissa),
    if 0 ≤ exponent then 1 else Nat.pow 2 (-exponent).toNat)

/-- The double nearest to a sum. -/
def add : Double → Double → Double
  | .nan, _ | _, .nan => .nan
  | .infinite a, .infinite b => if a = b then .infinite a else .nan
  | .infinite a, _ => .infinite a
  | _, .infinite b => .infinite b
  | .finite s m e, .finite t n f =>
    let (a, b) := ratio s m e
    let (c, d) := ratio t n f
    let sum := a * d + c * b
    ofRatio (sum < 0 || (sum = 0 && s && t)) sum.natAbs (b * d)

/-- The double nearest to a product. -/
def mul : Double → Double → Double
  | .nan, _ | _, .nan => .nan
  | .infinite a, .infinite b => .infinite (a != b)
  | .infinite a, .finite b n _ | .finite b n _, .infinite a =>
    if n = 0 then .nan else .infinite (a != b)
  | .finite s m e, .finite t n f =>
    let (a, b) := ratio s m e
    let (c, d) := ratio t n f
    ofRatio (s != t) (a * c).natAbs (b * d)

/-- The double nearest to a whole number, if there is a finite one. -/
def ofNat? (n : Nat) : Option Double :=
  match ofRatio false n 1 with
  | .infinite _ => none
  | d => some d

end Double
end PlanCode.Number
