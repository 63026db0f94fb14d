import PlanCode.Profile.Expression
import PlanCode.Proofs.Text.Replace

/-!
# Masks

The mask of an expression is a run of number signs that stands before no brace of
it. It is found by a search that starts with one sign and takes one more for as
long as the signs do stand before a brace. Under the mask, every `${` of the
expression is the mask and a brace.

* `signs_infix_iff`, `signs_append_infix_iff`: where runs of signs stand.
* `settles_iff`: the search ends, in the mask.
* `masked_eq`: an expression under its mask, from left to right.
-/
namespace PlanCode.Expression

open PlanCode.Text

/-! ## Runs of number signs -/

def signs (n : Nat) : List Char := List.replicate n '#'

theorem signs_succ (n : Nat) : signs (n + 1) = '#' :: signs n := rfl

theorem signs_succ_append (n : Nat) (s : List Char) : signs (n + 1) ++ s = signs n ++ '#' :: s := by
  rw [signs, List.replicate_succ', List.append_assoc]
  rfl

section

variable {c d : Char} (hc : c ≠ '#') (hd : d ≠ '#')
include hd

/-- Up to a character that is no sign, a text starts with so many signs. -/
theorem signs_prefix_iff (n k : Nat) (s : List Char) : signs n <+: signs k ++ d :: s ↔ n ≤ k := by
  induction n generalizing k with
  | zero => simp [signs]
  | succ n ih =>
    cases k with
    | zero => simp [signs, List.replicate_succ, hd.symm]
    | succ k =>
      rw [signs_succ, signs_succ, List.cons_append, List.cons_prefix_cons, ih]
      simp

theorem signs_infix_iff (n k : Nat) (s : List Char) :
    signs n <:+: signs k ++ d :: s ↔ n ≤ k ∨ signs n <:+: s := by
  induction k with
  | zero =>
    show signs n <:+: d :: s ↔ _
    rw [List.infix_cons_iff, ← signs_prefix_iff hd n 0 s]
    rfl
  | succ k ih =>
    have hp := signs_prefix_iff hd n (k + 1) s
    have hn : n ≤ k + 1 ↔ n ≤ k + 1 ∨ n ≤ k := by omega
    rw [signs_succ, List.cons_append] at hp ⊢
    rw [List.infix_cons_iff, ih, hp, ← or_assoc, ← hn]

include hc

theorem signs_append_prefix_iff (j k : Nat) (p s : List Char) :
    signs j ++ c :: p <+: signs k ++ d :: s ↔ j = k ∧ c :: p <+: d :: s := by
  induction j generalizing k with
  | zero =>
    cases k with
    | zero => simp [signs]
    | succ k => simp [signs, List.replicate_succ, hc]
  | succ j ih =>
    cases k with
    | zero => simp [signs, List.replicate_succ, hd.symm]
    | succ k =>
      rw [signs_succ, signs_succ, List.cons_append, List.cons_append, List.cons_prefix_cons, ih]
      simp

/-- Signs with what follows them stand at the end of the first run of signs, or behind it. -/
theorem signs_append_infix_iff (j k : Nat) (p s : List Char) :
    signs j ++ c :: p <:+: signs k ++ d :: s ↔
      j ≤ k ∧ c :: p <+: d :: s ∨ signs j ++ c :: p <:+: s := by
  induction k with
  | zero =>
    have hp := signs_append_prefix_iff hc hd j 0 p s
    show signs j ++ c :: p <:+: d :: s ↔ _
    rw [List.infix_cons_iff, Nat.le_zero, ← hp]
    rfl
  | succ k ih =>
    have hp := signs_append_prefix_iff hc hd j (k + 1) p s
    have hj : j ≤ k + 1 ↔ j = k + 1 ∨ j ≤ k := by omega
    rw [signs_succ, List.cons_append] at hp ⊢
    rw [List.infix_cons_iff, ih, hp, hj, or_and_right, or_assoc]

end

/-! ## The search for a mask -/

/-- The search for signs that stand before no brace of a text, and what it ends in. -/
inductive Settles (s : List Char) : List Char → List Char → Prop where
  | done {tried : List Char} (h : ¬ tried ++ ['\x7b'] <:+: s) : Settles s tried tried
  | more {tried found : List Char} (h : tried ++ ['\x7b'] <:+: s)
    (rest : Settles s (tried ++ ['#']) found) : Settles s tried found

theorem Settles.eq {s tried found found' : List Char} (h : Settles s tried found)
    (h' : Settles s tried found') : found = found' := by
  induction h with
  | done hn =>
    cases h' with
    | done => rfl
    | more hi => exact absurd hi hn
  | more hi _ ih =>
    cases h' with
    | done hn => exact absurd hi hn
    | more _ rest => exact ih rest

/-- The longest run of signs before a brace tells which runs stand before one. -/
theorem signs_brace_infix_iff {k : Nat} (hk : 0 < k) (run : Nat) (s : List Char) :
    signs k ++ ['\x7b'] <:+: signs run ++ s ↔ k ≤ signsBeforeBrace run s := by
  induction s generalizing run with
  | nil =>
    have hb : ¬ signs k ++ ['\x7b'] <:+: signs run ++ [] := by
      intro hi
      have hm : '\x7b' ∈ signs run ++ [] := hi.subset (by simp)
      simp [signs] at hm
    simp only [signsBeforeBrace]
    exact iff_of_false hb (by omega)
  | cons c s ih =>
    rw [signsBeforeBrace]
    by_cases hs : c = '#'
    · subst hs
      rw [if_pos rfl, ← ih, signs_succ_append]
    have hr : signs k ++ ['\x7b'] <:+: s ↔ k ≤ signsBeforeBrace 0 s := ih 0
    rw [if_neg hs, signs_append_infix_iff (by decide) hs, hr]
    by_cases hb : c = '\x7b'
    · subst hb
      simp only [List.cons_prefix_cons, List.nil_prefix, and_true, if_true]
      omega
    · simp [Ne.symm hb, hb]

theorem settles_mask (s : List Char) : Settles s ['#'] (mask s) := by
  have before : ∀ k, signs (k + 1) ++ ['\x7b'] <:+: s ↔ k + 1 ≤ signsBeforeBrace 0 s :=
    fun k => signs_brace_infix_iff (Nat.succ_pos k) 0 s
  -- by the number of signs that the search still has to take
  have settles : ∀ rest k, k + rest = signsBeforeBrace 0 s →
      Settles s (signs (k + 1)) (mask s) := by
    intro rest
    induction rest with
    | zero =>
      intro k hk
      have hn : ¬ signs (k + 1) ++ ['\x7b'] <:+: s := by
        rw [before]
        omega
      rw [mask, ← hk]
      exact .done hn
    | succ rest ih =>
      intro k hk
      have hi : signs (k + 1) ++ ['\x7b'] <:+: s := by
        rw [before]
        omega
      have hs : signs (k + 1) ++ ['#'] = signs (k + 1 + 1) := List.replicate_succ'.symm
      apply Settles.more hi
      rw [hs]
      exact ih (k + 1) (by omega)
  exact settles (signsBeforeBrace 0 s) 0 (Nat.zero_add _)

/-- **Search.** The search for a mask ends, and in nothing but the mask. -/
theorem settles_iff {s found : List Char} : Settles s ['#'] found ↔ found = mask s := by
  constructor
  · intro h
    exact h.eq (settles_mask s)
  · rintro rfl
    exact settles_mask s

/-! ## Under the mask -/

/-- A text with so many signs in place of each dollar sign before a brace. -/
def veil (n : Nat) : List Char → List Char
  | '$' :: '\x7b' :: rest => signs n ++ '\x7b' :: veil n rest
  | c :: rest => c :: veil n rest
  | [] => []

theorem replaceAll_opening (n : Nat) (s : List Char) :
    replaceAll ['$', '\x7b'] (signs n ++ ['\x7b']) s = veil n s := by
  fun_induction veil n s with
  | case1 rest ih =>
    show replaceAll _ _ (['$', '\x7b'] ++ rest) = _
    rw [replaceAll_pattern, ih, List.append_assoc]
    rfl
  | case2 c rest hno ih =>
    rw [replaceAll_cons, ih]
    intro hp
    rw [List.cons_prefix_cons] at hp
    obtain ⟨rfl, t, rfl⟩ := hp
    exact hno t rfl rfl
  | case3 => rfl

theorem masked_eq (s : List Char) : masked s = veil (signsBeforeBrace 0 s + 1) s :=
  replaceAll_opening _ s

end PlanCode.Expression
