import PlanCode.Duration

/-!
# Whole seconds

The seconds of a duration are a quotient of doubles. A quotient that is whole
and has at most 53 binary digits comes out exactly, and the seconds of every
duration are in that range.

* `truncate?_ofRatio_mul`: an exact quotient is its own nearest double.
* `wholeSeconds_eq`: a duration of whole seconds has that many seconds.
-/
namespace PlanCode

namespace Number

theorem pow_two_pos (k : Nat) : 0 < Nat.pow 2 k := Nat.pow_pos (by decide)

theorem log2_mul_le {s den : Nat} (hd : 0 < den) (hs : s < Nat.pow 2 53) :
    Nat.log2 (s * den) ≤ 53 + Nat.log2 den := by
  by_cases h0 : s * den = 0
  · rw [h0]
    exact Nat.zero_le _
  · have hden : den < Nat.pow 2 (Nat.log2 den + 1) := Nat.lt_log2_self
    have hlt : s * den < Nat.pow 2 (53 + (Nat.log2 den + 1)) := calc
      s * den < Nat.pow 2 53 * den := Nat.mul_lt_mul_of_pos_right hs hd
      _ ≤ Nat.pow 2 53 * Nat.pow 2 (Nat.log2 den + 1) := Nat.mul_le_mul_left _ (Nat.le_of_lt hden)
      _ = Nat.pow 2 (53 + (Nat.log2 den + 1)) := (Nat.pow_add 2 53 _).symm
    have := (Nat.log2_lt h0).2 hlt
    omega

/-- The leading binary digit of a quotient below two to the 53. -/
theorem leadingExponent_le {s den : Nat} (hd : 0 < den) (hs : s < Nat.pow 2 53) :
    Double.leadingExponent (s * den) den ≤ 52 := by
  have hk := log2_mul_le hd hs
  unfold Double.leadingExponent
  dsimp only
  by_cases he : Nat.log2 (s * den) = 53 + Nat.log2 den
  · have hkz : ((Nat.log2 (s * den) : Int) - (Nat.log2 den : Int)) = 53 := by omega
    have hn : ¬den * Nat.pow 2 53 ≤ s * den := by
      rw [Nat.mul_comm den]
      exact Nat.not_le.2 (Nat.mul_lt_mul_of_pos_right hs hd)
    have hr : decide (den * Nat.pow 2 (Int.toNat 53) ≤ s * den) = false := decide_eq_false hn
    rw [hkz, if_pos (show (0 : Int) ≤ 53 by decide), hr]
    decide
  · split <;> omega

/-- A mantissa in units that divide it. -/
theorem truncate?_mul_pow (negative : Bool) (s m : Nat) :
    (Double.finite negative (s * Nat.pow 2 m) (-m)).truncate? =
      some (Double.signed negative s) := by
  rw [Double.truncate?]
  congr 2
  cases m with
  | zero => simp
  | succ m =>
    have hm : (- -((m + 1 : Nat) : Int)).toNat = m + 1 := by omega
    rw [if_neg (by omega), hm, Nat.mul_div_cancel _ (pow_two_pos _)]

theorem scaled_mul (s m : Nat) {den : Nat} (hd : 0 < den) :
    Double.scaled (s * den) den (-m) = s * Nat.pow 2 m := by
  unfold Double.scaled
  cases m with
  | zero => simpa using roundHalfEven_mul s hd
  | succ m =>
    have hm : (- -((m + 1 : Nat) : Int)).toNat = m + 1 := by omega
    rw [if_neg (by omega), hm, Nat.mul_right_comm]
    exact roundHalfEven_mul _ hd

/-- **Exact quotients.** A whole quotient below two to the 53 is exact as a double. -/
theorem truncate?_ofRatio_mul (negative : Bool) {s den : Nat} (hd : 0 < den)
    (hs : s < Nat.pow 2 53) :
    (Double.ofRatio negative (s * den) den).truncate? = some (Double.signed negative s) := by
  unfold Double.ofRatio
  by_cases h0 : s * den = 0
  · have hz : s = 0 := by
      rcases Nat.mul_eq_zero.1 h0 with h | h
      · exact h
      · omega
    rw [if_pos h0, hz]
    rfl
  · have hl := leadingExponent_le hd hs
    obtain ⟨m, hm⟩ : ∃ m : Nat,
        max (Double.leadingExponent (s * den) den - 52) (-1074) = -(m : Int) :=
      ⟨(-(max (Double.leadingExponent (s * den) den - 52) (-1074))).toNat, by omega⟩
    rw [if_neg h0]
    dsimp only
    rw [hm, scaled_mul s m hd]
    by_cases hr : s * Nat.pow 2 m = Nat.pow 2 53
    · -- rounding up to a power of two takes one binary digit off
      cases m with
      | zero =>
        have : s = Nat.pow 2 53 := by simpa using hr
        omega
      | succ m =>
        have hp : Nat.pow 2 52 = s * Nat.pow 2 m := by
          have hs : Nat.pow 2 (m + 1) = Nat.pow 2 m * 2 := Nat.pow_succ 2 m
          have hd : Nat.pow 2 53 = Nat.pow 2 52 * 2 := rfl
          rw [hs, hd, ← Nat.mul_assoc] at hr
          exact (Nat.mul_right_cancel (by decide) hr).symm
        have he : -((m + 1 : Nat) : Int) + 1 = -(m : Int) := by omega
        rw [if_pos hr, he]
        dsimp only
        rw [if_neg (by omega), hp]
        exact truncate?_mul_pow negative s m
    · rw [if_neg hr]
      dsimp only
      rw [if_neg (by omega)]
      exact truncate?_mul_pow negative s m

end Number

namespace Duration

theorem natAbs_lt_of_micros {d : Duration} {s : Int} (h : d.micros = s * 1000000) :
    s.natAbs < Nat.pow 2 53 := by
  have hm : -86399999913600000000 ≤ d.micros := d.min_le
  have hd : d.micros < 86400000000000000000 := d.lt_end
  have hp : Nat.pow 2 53 = 9007199254740992 := by decide
  omega

/-- **Whole seconds.** Durations of whole seconds are counted exactly. -/
theorem wholeSeconds_eq {d : Duration} {s : Int} (h : d.micros = s * 1000000) :
    d.wholeSeconds = s := by
  have hn : decide (d.micros < 0) = decide (s < 0) := decide_eq_decide.2 (by omega)
  have ha : d.micros.natAbs = s.natAbs * 1000000 := by omega
  rw [wholeSeconds, hn, ha,
    Number.truncate?_ofRatio_mul _ (by decide) (natAbs_lt_of_micros h), Option.getD_some]
  unfold Number.Double.signed
  split
  · rename_i hs
    have := of_decide_eq_true hs
    omega
  · rename_i hs
    have := of_decide_eq_false (Bool.eq_false_iff.2 hs)
    omega

end Duration
end PlanCode
