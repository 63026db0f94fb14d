import PlanCode.Number.Numeral
import PlanCode.Proofs.Text.Words

/-!
# Reading what was written

A whole number that was written as text is read back, unless it has more digits
than a numeral may have.

* `trim_trim`: a text is trimmed once.
* `readWhole?_toString`: what reading the text of a number gives.
-/
namespace PlanCode.Number

open PlanCode.Text

/-! ## Ends of texts -/

/-- A text without the characters at its two ends that are to be dropped. -/
def dropEnds (p : Char → Bool) (s : List Char) : List Char :=
  ((s.dropWhile p).reverse.dropWhile p).reverse

/-- A text that starts and ends in what stays. -/
def IsBare (p : Char → Bool) (s : List Char) : Prop :=
  (∀ c ∈ s.head?, p c = false) ∧ ∀ c ∈ s.getLast?, p c = false

theorem isBare_of_forall {p : Char → Bool} {s : List Char} (h : ∀ c ∈ s, p c = false) :
    IsBare p s :=
  ⟨fun c hc => h c (List.mem_of_mem_head? hc), fun c hc => h c (List.mem_of_mem_getLast? hc)⟩

theorem dropWhile_eq_self {p : Char → Bool} {s : List Char} (h : ∀ c ∈ s.head?, p c = false) :
    s.dropWhile p = s := by
  cases s with
  | nil => rfl
  | cons c s => rw [List.dropWhile_cons_of_neg (by simp [h c rfl])]

theorem dropEnds_eq_self {p : Char → Bool} {s : List Char} (h : IsBare p s) :
    dropEnds p s = s := by
  have hr : ∀ c ∈ s.reverse.head?, p c = false := by
    rw [List.head?_reverse]
    exact h.2
  rw [dropEnds, dropWhile_eq_self h.1, dropWhile_eq_self hr, List.reverse_reverse]

theorem of_mem_head?_dropWhile (p : Char → Bool) (s : List Char) :
    ∀ c ∈ (s.dropWhile p).head?, p c = false := by
  intro c hc
  have := List.head?_dropWhile_not p s
  rw [Option.mem_def.1 hc] at this
  simpa using this

theorem isBare_dropEnds (p : Char → Bool) (s : List Char) : IsBare p (dropEnds p s) := by
  constructor
  · -- what is left at the start is a prefix of what was left there first
    intro c hc
    have hr := List.reverse_prefix.2 (List.dropWhile_suffix p (l := (s.dropWhile p).reverse))
    rw [List.reverse_reverse] at hr
    obtain ⟨dropped, hp⟩ : dropEnds p s <+: s.dropWhile p := hr
    refine of_mem_head?_dropWhile p s c ?_
    rw [← hp, List.head?_append, Option.mem_def.1 hc]
    rfl
  · rw [dropEnds, List.getLast?_reverse]
    exact of_mem_head?_dropWhile p _

theorem trim_of_isBare {s : String} (h : IsBare isBlank s.toList) : trim s = s := by
  have hd : trimChars s.toList = s.toList := dropEnds_eq_self h
  rw [trim, hd, String.ofList_toList]

theorem trim_trim (s : String) : trim (trim s) = trim s := by
  refine trim_of_isBare ?_
  rw [trim, String.toList_ofList]
  exact isBare_dropEnds isBlank s.toList

/-! ## Texts of digits -/

/-- A text of digits only. -/
def IsDigits (s : List Char) : Prop := ∀ c ∈ s, c.isDigit = true

theorem toNat_of_isDigit {c : Char} (h : c.isDigit = true) : 48 ≤ c.toNat ∧ c.toNat ≤ 57 := by
  simp only [Char.isDigit, Bool.and_eq_true, decide_eq_true_eq] at h
  exact ⟨h.1, h.2⟩

theorem isBlank_of_isDigit {c : Char} (h : c.isDigit = true) : isBlank c = false := by
  have := toNat_of_isDigit h
  simp only [isBlank]
  simp
  omega

theorem isMargin_of_isDigit {c : Char} (h : c.isDigit = true) : isMargin c = false := by
  simp [isMargin, isBlank_of_isDigit h]

theorem digitValue?_of_isDigit {c : Char} (h : c.isDigit = true) :
    digitValue? c = some (c.toNat - '0'.toNat) := by
  have := toNat_of_isDigit h
  rw [digitValue?, if_pos (by omega), if_pos h]

theorem digitsAfter_of_isDigits {s : List Char} (h : IsDigits s) :
    digitsAfter s = (s.map fun c => c.toNat - '0'.toNat, []) := by
  induction s with
  | nil => rfl
  | cons c s ih =>
    have hc := h c (List.mem_cons_self ..)
    have ih := ih fun d hd => h d (List.mem_cons_of_mem _ hd)
    have hu : c ≠ '_' := by
      rintro rfl
      exact absurd hc (by decide)
    unfold digitsAfter
    split
    · rename_i he
      cases he
    · rename_i he
      exact absurd (List.cons.inj he).1 hu
    · rename_i he
      obtain ⟨rfl, rfl⟩ := List.cons.inj he
      simp [digitValue?_of_isDigit hc, ih]

theorem spanDigits_of_isDigits {s : List Char} (h : IsDigits s) :
    spanDigits s = (s.map fun c => c.toNat - '0'.toNat, []) := by
  cases s with
  | nil => rfl
  | cons c s =>
    have hc := h c (List.mem_cons_self ..)
    rw [spanDigits, digitValue?_of_isDigit hc,
      digitsAfter_of_isDigits fun d hd => h d (List.mem_cons_of_mem _ hd)]
    rfl

theorem spanSign_of_isDigits {s : List Char} (h : IsDigits s) : spanSign s = (false, s) := by
  unfold spanSign
  split
  · exact absurd (h '-' (List.mem_cons_self ..)) (by decide)
  · exact absurd (h '+' (List.mem_cons_self ..)) (by decide)
  · rfl

theorem readWholeChars?_of_isDigits {s : List Char} (h : IsDigits s) (hs : s ≠ []) :
    readWholeChars? s = if s.length ≤ maxWholeDigits
      then some (digitsToNat (s.map fun c => c.toNat - '0'.toNat) : Int) else none := by
  have hm : withoutMargins s = s :=
    dropEnds_eq_self (isBare_of_forall fun c hc => isMargin_of_isDigit (h c hc))
  rw [readWholeChars?, hm, spanSign_of_isDigits h]
  dsimp only
  rw [spanDigits_of_isDigits h]
  cases s with
  | nil => exact absurd rfl hs
  | cons c s => simp [Double.signed]

/-- With a minus in front, digits write the opposite. -/
theorem readWholeChars?_minus {s : List Char} (h : IsDigits s) :
    readWholeChars? ('-' :: s) = (readWholeChars? s).map (-·) := by
  have hd : ∀ c ∈ s, isMargin c = false := fun c hc => isMargin_of_isDigit (h c hc)
  have hm : withoutMargins s = s := dropEnds_eq_self (isBare_of_forall hd)
  have hn : withoutMargins ('-' :: s) = '-' :: s :=
    dropEnds_eq_self (isBare_of_forall (List.forall_mem_cons.2 ⟨by decide, hd⟩))
  rw [readWholeChars?, readWholeChars?, hm, hn, spanSign_of_isDigits h, spanSign]
  dsimp only
  rw [spanDigits_of_isDigits h]
  split
  · split <;> simp [Double.signed]
  · rfl

/-- No numeral starts with a character that is neither dropped nor a sign nor a digit. -/
theorem readWholeChars?_eq_none {c : Char} {s : List Char} (h : IsBare isMargin (c :: s))
    (hs : c ≠ '-' ∧ c ≠ '+') (hd : digitValue? c = none) : readWholeChars? (c :: s) = none := by
  have hm : withoutMargins (c :: s) = c :: s := dropEnds_eq_self h
  have hsign : spanSign (c :: s) = (false, c :: s) := by
    unfold spanSign
    split
    · rename_i he
      exact absurd (List.cons.inj he).1 hs.1
    · rename_i he
      exact absurd (List.cons.inj he).1 hs.2
    · rfl
  have hspan : spanDigits (c :: s) = ([], c :: s) := by simp [spanDigits, hd]
  rw [readWholeChars?, hm, hsign]
  dsimp only
  rw [hspan]

/-! ## Written numbers -/

theorem isDigits_toString (n : Nat) : IsDigits (toString n).toList := by
  rw [toList_toString_nat]
  exact fun c hc => Nat.isDigit_of_mem_toDigits (by decide) (by decide) hc

theorem digitsToNat_toDigits (n : Nat) :
    digitsToNat ((Nat.toDigits 10 n).map fun c => c.toNat - '0'.toNat) = n := by
  rw [digitsToNat, List.foldl_map, ← Nat.ofDigitChars_eq_foldl]
  exact Nat.ofDigitChars_ten_toDigits

theorem length_toString (n : Nat) : (toString n).length = (Nat.toDigits 10 n).length := by
  rw [← String.length_toList, toList_toString_nat]

theorem length_toString_le {n k : Nat} (hk : 0 < k) (h : n < Nat.pow 10 k) :
    (toString n).length ≤ k := by
  rw [length_toString]
  exact (Nat.length_toDigits_le_iff (by decide) hk).2 h

theorem readWhole?_toString_nat (n : Nat) :
    readWhole? (toString n) =
      if (toString n).length ≤ maxWholeDigits then some (n : Int) else none := by
  have hd := isDigits_toString n
  rw [toList_toString_nat] at hd
  rw [length_toString, readWhole?, toList_toString_nat,
    readWholeChars?_of_isDigits hd Nat.toDigits_ne_nil, digitsToNat_toDigits]

/-- **Numerals.** The text of a number is read as that number, as long as it has no more digits
than a numeral may have. -/
theorem readWhole?_toString (n : Int) :
    readWhole? (toString n) =
      if (toString n.natAbs).length ≤ maxWholeDigits then some n else none := by
  cases n with
  | ofNat n => exact readWhole?_toString_nat n
  | negSucc n =>
    have hn := readWhole?_toString_nat (n + 1)
    rw [readWhole?] at hn
    rw [readWhole?, toList_toString_negSucc, readWholeChars?_minus (isDigits_toString (n + 1)), hn,
      Int.natAbs_negSucc]
    split <;> rfl

theorem isBlank_of_mem_toString {n : Int} {c : Char} (h : c ∈ (toString n).toList) :
    isBlank c = false := by
  cases n with
  | ofNat n => exact isBlank_of_isDigit (isDigits_toString n c h)
  | negSucc n =>
    rw [toList_toString_negSucc] at h
    rcases List.mem_cons.1 h with rfl | h
    · decide
    · exact isBlank_of_isDigit (isDigits_toString (n + 1) c h)

theorem trim_toString (n : Int) : trim (toString n) = toString n :=
  trim_of_isBare (isBare_of_forall fun _ => isBlank_of_mem_toString)

end PlanCode.Number
