import PlanCode.Proofs.Expression.Operand

/-!
# Masked expressions, restored

When an operand is evaluated, Groovy puts a dollar sign where it finds the mask.
It finds it wherever it stands, not only before a brace, and from the left. So a
run of number signs of the expression itself that is as long as the mask is lost,
and a sign right before a masked `${` goes into the mask. Nothing else happens.

* `restored_iff`: which texts come back from under some signs.
* `restores_groovyInt_iff`: which expressions JMeter is handed as they are.
-/
namespace PlanCode.Expression

open PlanCode.Text

/-! ## Taking the mask off -/

/-- The mask itself becomes a dollar sign. -/
theorem replaceAll_signs {n : Nat} (hn : 0 < n) (s : List Char) :
    replaceAll (signs n) ['$'] (signs n ++ s) = '$' :: replaceAll (signs n) ['$'] s := by
  obtain ⟨m, rfl⟩ : ∃ m, n = m + 1 := ⟨n - 1, by omega⟩
  exact replaceAll_pattern '#' (signs m) ['$'] s

/-- Fewer signs than the mask has stay. -/
theorem replaceAll_fewer {k n : Nat} (hk : k < n) {c : Char} (hc : c ≠ '#') (s : List Char) :
    replaceAll (signs n) ['$'] (signs k ++ c :: s) =
      signs k ++ c :: replaceAll (signs n) ['$'] s := by
  induction k with
  | zero =>
    have hp := signs_prefix_iff hc n 0 s
    exact replaceAll_cons (by rw [show c :: s = signs 0 ++ c :: s from rfl, hp]; omega) _
  | succ k ih =>
    have hp : ¬ signs n <+: '#' :: (signs k ++ c :: s) := by
      rw [← List.cons_append, ← signs_succ, signs_prefix_iff hc]
      omega
    rw [signs_succ, List.cons_append, replaceAll_cons hp, ih (by omega)]
    rfl

theorem replaceAll_fewer_end {k n : Nat} (hk : k < n) :
    replaceAll (signs n) ['$'] (signs k) = signs k := by
  induction k with
  | zero => rfl
  | succ k ih =>
    have hp : ¬ signs n <+: '#' :: signs k := by
      intro hp
      have hl := hp.length_le
      simp [signs] at hl
      omega
    rw [signs_succ, replaceAll_cons hp, ih (by omega)]

/-- What a text has to be like to come back from under some signs: no run of its own number signs is
as long, and none of them stands right before a `${`. -/
structure Survives (mask s : List Char) : Prop where
  shorter : ¬ mask <:+: s
  apart : ¬ ['#', '$', '\x7b'] <:+: s

theorem survives_iff {mask s : List Char} :
    Survives mask s ↔ ¬ mask <:+: s ∧ ¬ ['#', '$', '\x7b'] <:+: s :=
  ⟨fun h => ⟨h.shorter, h.apart⟩, fun h => ⟨h.1, h.2⟩⟩

/-- A character that is no sign ends a run that is short enough. -/
theorem survives_cons {k n : Nat} (hk : k < n) {c : Char} (hc : c ≠ '#') {s : List Char}
    (h : k = 0 ∨ ¬ ['$', '\x7b'] <+: c :: s) :
    Survives (signs n) (signs k ++ c :: s) ↔ Survives (signs n) s := by
  have hm : signs n <:+: signs k ++ c :: s ↔ signs n <:+: s := by
    rw [signs_infix_iff hc]
    exact or_iff_right (by omega)
  have ht : ['#', '$', '\x7b'] <:+: signs k ++ c :: s ↔ ['#', '$', '\x7b'] <:+: s := by
    refine (signs_append_infix_iff (by decide) hc 1 k ['\x7b'] s).trans (or_iff_right ?_)
    rintro ⟨h1, hp⟩
    rcases h with h0 | hno
    · omega
    · exact hno hp
  rw [survives_iff, survives_iff, hm, ht]

theorem survives_signs {k n : Nat} (hk : k < n) : Survives (signs n) (signs k) := by
  constructor
  · intro hi
    have hl := hi.length_le
    simp [signs] at hl
    omega
  · intro hi
    have hm : '$' ∈ signs k := hi.subset (by simp)
    simp [signs] at hm

theorem not_survives_run (mask s : List Char) : ¬ Survives mask (mask ++ s) :=
  fun h => h.shorter ⟨[], s, rfl⟩

theorem not_survives_touching (mask : List Char) (k : Nat) (s : List Char) :
    ¬ Survives mask (signs (k + 1) ++ '$' :: '\x7b' :: s) := by
  intro h
  apply h.apart
  rw [signs_succ_append]
  exact ⟨signs k, s, by simp⟩

/-- A text comes back from under `n` signs exactly if it survives them. By the text, with the fewer
than `n` signs right before it. -/
theorem restored_iff {k n : Nat} (hk : k < n) (s : List Char) :
    replaceAll (signs n) ['$'] (signs k ++ veil n s) = signs k ++ s ↔
      Survives (signs n) (signs k ++ s) := by
  have hn : 0 < n := by omega
  fun_induction veil n s generalizing k with
  | case1 rest ih =>
    cases k with
    | zero =>
      have hl : replaceAll (signs n) ['$'] (signs n ++ '\x7b' :: veil n rest) =
          '$' :: '\x7b' :: replaceAll (signs n) ['$'] (veil n rest) := by
        rw [replaceAll_signs hn]
        exact congrArg _ (replaceAll_fewer hn (by decide) _)
      have hd := survives_cons (c := '$') (s := '\x7b' :: rest) hn (by decide) (Or.inl rfl)
      have hb := survives_cons (c := '\x7b') (s := rest) hn (by decide) (Or.inl rfl)
      show replaceAll _ _ (signs n ++ '\x7b' :: veil n rest) = '$' :: '\x7b' :: rest ↔ _
      rw [hl, List.cons_inj_right, List.cons_inj_right]
      exact (ih hn).trans (hb.symm.trans hd.symm)
    | succ k =>
      -- the sign goes into the mask, of which the first signs become the dollar sign
      have hl : signs (k + 1) ++ (signs n ++ '\x7b' :: veil n rest) =
          signs n ++ (signs (k + 1) ++ '\x7b' :: veil n rest) := by
        simp only [signs, ← List.append_assoc, List.replicate_append_replicate, Nat.add_comm]
      rw [hl, replaceAll_signs hn]
      exact iff_of_false (by simp [signs_succ]) (not_survives_touching _ k rest)
  | case2 c rest hno ih =>
    by_cases hc : c = '#'
    · subst hc
      rw [← signs_succ_append, ← signs_succ_append]
      by_cases hk' : k + 1 < n
      · exact ih hk'
      · obtain rfl : n = k + 1 := by omega
        rw [replaceAll_signs hn]
        exact iff_of_false (by simp [signs_succ]) (not_survives_run _ rest)
    · have hp : ¬ ['$', '\x7b'] <+: c :: rest := by
        intro hp
        rw [List.cons_prefix_cons] at hp
        obtain ⟨rfl, t, rfl⟩ := hp
        exact hno t rfl rfl
      rw [replaceAll_fewer hk hc, List.append_cancel_left_eq, List.cons_inj_right]
      exact (ih hn).trans (survives_cons hk hc (Or.inr hp)).symm
  | case3 =>
    rw [List.append_nil, replaceAll_fewer_end hk]
    exact iff_of_true rfl (survives_signs hk)

/-! ## Expressions in operands -/

/-- **Operands.** The code of an operand hands over a text to JMeter, and it is the expression
exactly if that survives its mask. -/
theorem restores_groovyInt_iff {s : List Char} (h : '\n' ∉ s) :
    ∃ text, operandText? (groovyInt s) = some text ∧ (text = s ↔ Survives (mask s) s) := by
  refine ⟨_, operandText?_groovyInt h, ?_⟩
  rw [masked_eq]
  exact restored_iff (Nat.succ_pos (signsBeforeBrace 0 s)) s

/-- An expression that needs a mask of two signs, with what Groovy needs escaped. -/
def signedExpression : List Char := "$\x7b__P(a\\b,'1')\x7d#\x7bB\x7d".toList

/-- The mask has two signs, so the one of the expression is not taken for it. -/
theorem restores_groovyInt_iff_signedExpression : '\n' ∉ signedExpression ∧
    operandText? (groovyInt signedExpression) = some signedExpression := by
  have hs : Survives (mask signedExpression) signedExpression :=
    ⟨by decide +kernel, by decide +kernel⟩
  have hline : '\n' ∉ signedExpression := by decide +kernel
  obtain ⟨text, ht, hi⟩ := restores_groovyInt_iff hline
  rw [hi.2 hs] at ht
  exact ⟨hline, ht⟩

/-- A number sign before nothing is taken for the mask. -/
theorem not_restores_sign :
    ¬ ∀ s, '\n' ∉ s → operandText? (groovyInt s) = some s := by
  intro h
  have hs := h ['#'] (by decide)
  rw [operandText?_groovyInt (by decide)] at hs
  revert hs
  decide

end PlanCode.Expression
