/-!
# Base 64

Four signs of an alphabet of 64 write three bytes; two or three signs at the end
write one byte or two, and `=` fills them up. Characters outside the alphabet do
not count, and what comes after the filling is not read.

* `length_groupBytes`: signs write one byte fewer than they are.
-/
namespace PlanCode.Text

/-- The value of a sign. -/
def base64Value? (c : Char) : Option Nat :=
  if 'A' ≤ c && c ≤ 'Z' then some (c.toNat - 'A'.toNat)
  else if 'a' ≤ c && c ≤ 'z' then some (c.toNat - 'a'.toNat + 26)
  else if c.isDigit then some (c.toNat - '0'.toNat + 52)
  else if c = '+' then some 62
  else if c = '/' then some 63
  else none

/-- The bytes of up to four signs that belong together. -/
def groupBytes : List Nat → List UInt8
  | a :: b :: rest => UInt8.ofNat (a * 4 + b / 16) :: match rest with
    | c :: rest => UInt8.ofNat (b % 16 * 16 + c / 4) :: match rest with
      | d :: _ => [UInt8.ofNat (c % 4 * 64 + d)]
      | [] => []
    | [] => []
  | _ => []

theorem length_groupBytes {g : List Nat} (h : g.length ≤ 4) :
    (groupBytes g).length = g.length - 1 := by
  match g with
  | [] | [_] | [_, _] | [_, _, _] | [_, _, _, _] => rfl
  | _ :: _ :: _ :: _ :: _ :: _ =>
    simp only [List.length_cons] at h
    omega

/-- The bytes of a text, where some signs of a group are read already, and some filling after. -/
def readBase64From? (group : List Nat) (filling : Nat) : List Char → Option (List UInt8)
  | [] => if group.isEmpty then some [] else none
  | c :: rest =>
    if c = '=' then
      if group.length < 2 then readBase64From? group filling rest
      else if 4 ≤ group.length + filling + 1 then some (groupBytes group)
      else readBase64From? group (filling + 1) rest
    else match base64Value? c with
      | none => readBase64From? group filling rest
      | some d =>
        let group := group ++ [d]
        if group.length = 4 then (readBase64From? [] 0 rest).map (groupBytes group ++ ·)
        else readBase64From? group 0 rest

/-- The bytes that a text writes; none where the last group is not finished. -/
def readBase64? (s : List Char) : Option (List UInt8) := readBase64From? [] 0 s

end PlanCode.Text
