import Mathlib.Logic.Function.Basic

/-!
# UTF-16 code units

A text as the units that Java strings are made of: one for a character of the basic plane, and two
surrogates for any other. No character has the number of a surrogate, so a first unit tells whether
a second one belongs to it.

* `unitsOf_cases`: the units of a character, and how they tell it.
* `units_injective`: units tell their text.
-/
namespace PlanCode.Text

def unitsOf (c : Char) : List Nat :=
  if c.toNat < 0x10000 then [c.toNat]
  else [0xD800 + (c.toNat - 0x10000) / 0x400, 0xDC00 + (c.toNat - 0x10000) % 0x400]

def units (s : List Char) : List Nat := s.flatMap unitsOf

theorem units_append (s t : List Char) : units (s ++ t) = units s ++ units t := List.flatMap_append

theorem units_cons (c : Char) (s : List Char) : units (c :: s) = unitsOf c ++ units s := rfl

theorem unitsOf_of_lt {c : Char} (h : c.toNat < 0x10000) : unitsOf c = [c.toNat] := if_pos h

theorem toNat_lt (c : Char) : c.toNat < 0xD800 ∨ 0xE000 ≤ c.toNat ∧ c.toNat < 0x110000 := by
  have h := c.valid
  simp only [UInt32.isValidChar, Nat.isValidChar] at h
  change c.val.toNat < _ ∨ _ ≤ c.val.toNat ∧ c.val.toNat < _
  omega

/-- A character is its own unit, or two surrogates. -/
theorem unitsOf_cases (c : Char) :
    (unitsOf c = [c.toNat] ∧ ¬(0xD800 ≤ c.toNat ∧ c.toNat < 0xE000)) ∨
      ∃ high low, unitsOf c = [0xD800 + high, 0xDC00 + low] ∧ high < 0x400 ∧ low < 0x400 ∧
        c.toNat = 0x10000 + high * 0x400 + low := by
  have hvalid := toNat_lt c
  unfold unitsOf
  split
  · exact Or.inl ⟨rfl, by omega⟩
  · exact Or.inr ⟨_, _, rfl, by omega, by omega, by omega⟩

/-- Where the units of two texts agree, their first characters do. -/
theorem unitsOf_append_inj {c d : Char} {s t : List Nat}
    (h : unitsOf c ++ s = unitsOf d ++ t) : c = d ∧ s = t := by
  rw [← Char.toNat_inj]
  rcases unitsOf_cases c with ⟨hc, hcn⟩ | ⟨high, low, hc, hhigh, hlow, hcn⟩ <;>
    rcases unitsOf_cases d with ⟨hd, hdn⟩ | ⟨high', low', hd, hhigh', hlow', hdn⟩ <;>
    rw [hc, hd] at h <;>
    simp only [List.cons_append, List.nil_append, List.cons.injEq] at h
  · exact h
  · omega
  · omega
  · obtain ⟨hh, hl, hst⟩ := h
    exact ⟨by omega, hst⟩

theorem units_injective : Function.Injective units := by
  intro s t h
  induction s generalizing t with
  | nil =>
    cases t with
    | nil => rfl
    | cons d t => rcases unitsOf_cases d with ⟨hd, -⟩ | ⟨_, _, hd, -⟩ <;> simp [units, hd] at h
  | cons c s ih =>
    cases t with
    | nil => rcases unitsOf_cases c with ⟨hc, -⟩ | ⟨_, _, hc, -⟩ <;> simp [units, hc] at h
    | cons d t =>
      obtain ⟨hcd, hst⟩ := unitsOf_append_inj h
      rw [hcd, ih hst]

end PlanCode.Text
