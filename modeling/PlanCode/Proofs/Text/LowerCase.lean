import PlanCode.Text.LowerCase

/-!
# Lower case of words

A word of ASCII letters is the lower case of its spellings with capitals. It is that of
no other text, with one exception: the sign for kelvin has the letter k as its lower case.

* `lowerPoint_lt`: no other code point beyond ASCII has a lower case below it.
* `lower_eq_iff`: which texts have a word as their lower case.
-/
namespace PlanCode.Text

/-- Only the run of the kelvin sign leads below the code point that it starts with into ASCII. -/
theorem le_add_of_mem_lowerRuns {first last step : Nat} {shift : Int}
    (h : (first, last, step, shift) ∈ lowerRuns) :
    (first, last, step, shift) = (0x212A, 0x212A, 1, -8383) ∨ 0x80 ≤ first + shift := by
  have hall : ∀ r ∈ lowerRuns, r = (0x212A, 0x212A, 1, -8383) ∨ 0x80 ≤ r.1 + r.2.2.2 := by
    decide +kernel
  exact hall _ h

theorem lowerPoint_lt {n : Nat} (hn : 0x80 ≤ n) (h : lowerPoint n < 0x80) :
    lowerPoint n = 'k'.toNat := by
  unfold lowerPoint at h ⊢
  split at h
  · rename_i first last step shift hf
    have hrange := List.find?_some hf
    simp only [Bool.and_eq_true, decide_eq_true_eq] at hrange
    obtain hk | hle := le_add_of_mem_lowerRuns (List.mem_of_find?_eq_some hf)
    · simp only [Prod.mk.injEq] at hk
      obtain ⟨rfl, rfl, -, rfl⟩ := hk
      rw [Nat.le_antisymm hrange.1.2 hrange.1.1]
      rfl
    · omega
  · omega

theorem toNat_ofNat (n : Nat) : (Char.ofNat n).toNat = n ∨ (Char.ofNat n).toNat = 0 := by
  by_cases hv : n.isValidChar
  · have hc : Char.ofNat n = Char.ofNatAux n hv := dif_pos hv
    exact Or.inl (congrArg Char.toNat hc)
  · have hc : Char.ofNat n = '\x00' := dif_neg hv
    exact Or.inr (congrArg Char.toNat hc)

theorem toNat_of_isLower {c : Char} (h : c.isLower = true) : 97 ≤ c.toNat ∧ c.toNat < 0x80 := by
  have hl : (decide (c.val ≥ 'a'.val) && decide (c.val ≤ 'z'.val)) = true := h
  simp only [Bool.and_eq_true, decide_eq_true_eq, ge_iff_le, UInt32.le_iff_toNat_le] at hl
  have ha : 'a'.val.toNat = 97 := rfl
  have hz : 'z'.val.toNat = 122 := rfl
  rw [Char.toNat]
  omega

theorem eq_k_of_isLower_lowerChar {c : Char} (hc : 0x80 ≤ c.toNat)
    (h : (lowerChar c).isLower = true) : lowerChar c = 'k' := by
  rw [lowerChar, if_neg (Nat.not_lt.2 hc)] at h ⊢
  have hn := toNat_of_isLower h
  obtain hv | hv := toNat_ofNat (lowerPoint c.toNat)
  · rw [lowerPoint_lt hc (hv ▸ hn.2)]
    rfl
  · omega

theorem toLower_of_not_ascii {c : Char} (hc : 0x80 ≤ c.toNat) : c.toLower = c := by
  have hZ : 'Z'.val.toNat = 90 := rfl
  rw [Char.toNat] at hc
  unfold Char.toLower
  refine dif_neg fun h => ?_
  have := UInt32.le_iff_toNat_le.1 h.2
  omega

/-- What a character beyond ASCII becomes is no part of a word without the letter k. -/
theorem exists_of_not_ascii {c : Char} (hc : 0x80 ≤ c.toNat) (before rest : List Char) :
    ∃ d ∈ (if c.toNat == 0x3A3 then [lowerSigma before rest]
      else if c.toNat == 0x130 then ['i', '\u0307'] else [lowerChar c]),
      d.isLower = true → d = 'k' := by
  split
  · refine ⟨_, List.mem_singleton_self _, ?_⟩
    unfold lowerSigma
    split <;> exact fun h => absurd h (by decide)
  · split
    · exact ⟨'\u0307', by simp, fun h => absurd h (by decide)⟩
    · exact ⟨_, List.mem_singleton_self _, eq_k_of_isLower_lowerChar hc⟩

theorem lowerFrom_eq_iff {word : List Char} (hw : ∀ c ∈ word, c.isLower = true ∧ c ≠ 'k')
    (before s : List Char) : lowerFrom before s = word ↔ s.map Char.toLower = word := by
  induction s generalizing before word with
  | nil => rfl
  | cons c s ih =>
    rw [lowerFrom, List.map_cons]
    by_cases hc : c.toNat < 0x80
    · rw [if_neg (by simp; omega), if_neg (by simp; omega), lowerChar_ascii hc,
        List.singleton_append]
      cases word with
      | nil => simp
      | cons d word =>
        rw [List.forall_mem_cons] at hw
        rw [List.cons.injEq, List.cons.injEq, ih hw.2]
    · have hc := Nat.not_lt.1 hc
      refine iff_of_false ?_ ?_
      · rintro rfl
        obtain ⟨d, hd, hk⟩ := exists_of_not_ascii hc before s
        obtain ⟨hl, hne⟩ := hw d (List.mem_append_left _ hd)
        exact hne (hk hl)
      · rintro rfl
        have hl := (hw _ (List.mem_cons_self ..)).1
        rw [toLower_of_not_ascii hc] at hl
        exact absurd (toNat_of_isLower hl).2 (Nat.not_lt.2 hc)

/-- **Words.** A text has a word without the letter k as its lower case if it is that word in ASCII
letters of any case. -/
theorem lower_eq_iff (word : String) (hw : ∀ c ∈ word.toList, c.isLower = true ∧ c ≠ 'k')
    (s : String) : lower s = word ↔ s.toLower = word := by
  have htoLower : s.toLower = s.map Char.toLower := rfl
  rw [lower, htoLower, ← String.toList_inj, ← String.toList_inj, String.toList_ofList,
    String.toList_map]
  exact lowerFrom_eq_iff hw [] s.toList

end PlanCode.Text
