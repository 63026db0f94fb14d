import PlanCode.Text.Blank
import PlanCode.Text.Identifier

/-!
# Words of code

Names, numbers and constants of generated code hold none of the signs that
structure it.

* `free_of_isIdentifier`: identifiers are free of such signs.
* `word_toString`: so are written numbers, which also show something.
-/
namespace PlanCode.Text

/-- The signs that structure code: quotes, parentheses, commas, slashes and line ends. -/
def isMark (c : Char) : Bool :=
  c == '"' || c == '(' || c == ')' || c == ',' || c == '/' || c == '\n' || c == '\r'

def Free (s : List Char) : Prop := ∀ c ∈ s, isMark c = false

instance (s : List Char) : Decidable (Free s) := List.decidableBAll _ s

/-- A text free of marks that shows something. -/
def Word (s : List Char) : Prop := Free s ∧ ∃ c ∈ s, isBlank c = false

instance (s : List Char) : Decidable (Word s) :=
  have : Decidable (∃ c ∈ s, isBlank c = false) := List.decidableBEx _ s
  inferInstanceAs (Decidable (_ ∧ _))

theorem Free.not_mem {s : List Char} (h : Free s) {c : Char} (hc : isMark c = true) : c ∉ s :=
  fun hm => absurd (h c hm) (by simp [hc])

theorem free_append {s t : List Char} : Free (s ++ t) ↔ Free s ∧ Free t := by
  simp only [Free, List.mem_append, or_imp, forall_and]

theorem free_toList_append {s t : String} (hs : Free s.toList) (ht : Free t.toList) :
    Free (s ++ t).toList := by
  rw [String.toList_append]
  exact free_append.2 ⟨hs, ht⟩

/-- A text given by its characters, as string literals are. -/
theorem free_ofList {s : List Char} (h : Free s) : Free (String.ofList s).toList := by
  rwa [String.toList_ofList]

theorem not_mem_ofList {s : List Char} {c : Char} (h : c ∉ s) :
    c ∉ (String.ofList s).toList := by
  rwa [String.toList_ofList]

theorem not_mem_toList_append {s t : String} {c : Char} (hs : c ∉ s.toList)
    (ht : c ∉ t.toList) : c ∉ (s ++ t).toList := by
  rw [String.toList_append, List.mem_append, not_or]
  exact ⟨hs, ht⟩

theorem Word.append_free {s t : List Char} (h : Word s) (ht : Free t) : Word (s ++ t) := by
  obtain ⟨hs, c, hc, hb⟩ := h
  exact ⟨free_append.2 ⟨hs, ht⟩, c, List.mem_append_left _ hc, hb⟩

theorem word_ofList {s : List Char} (h : Word s) : Word (String.ofList s).toList := by
  rwa [String.toList_ofList]

theorem Word.ne_nil {s : List Char} (h : Word s) : s ≠ [] := by
  obtain ⟨-, c, hc, -⟩ := h
  exact List.ne_nil_of_mem hc

theorem isMark_of_isAlphanum {c : Char} (h : c.isAlphanum = true) : isMark c = false := by
  simp only [isMark, Bool.or_eq_false_iff, beq_eq_false_iff_ne]
  refine ⟨⟨⟨⟨⟨⟨?_, ?_⟩, ?_⟩, ?_⟩, ?_⟩, ?_⟩, ?_⟩ <;> rintro rfl <;> revert h <;> decide

theorem isAlphanum_iff {c : Char} : c.isAlphanum = true ↔
    48 ≤ c.val.toNat ∧ c.val.toNat ≤ 57 ∨ 65 ≤ c.val.toNat ∧ c.val.toNat ≤ 90 ∨
      97 ≤ c.val.toNat ∧ c.val.toNat ≤ 122 := by
  have hc : c.isAlphanum = (decide ('A'.val ≤ c.val ∧ c.val ≤ 'Z'.val) ||
      decide ('a'.val ≤ c.val) && decide (c.val ≤ 'z'.val) ||
      decide ('0'.val ≤ c.val) && decide (c.val ≤ '9'.val)) := rfl
  simp only [hc, Bool.or_eq_true, Bool.and_eq_true, decide_eq_true_eq, UInt32.le_iff_toNat_le]
  simp
  omega

theorem isBlank_of_isAlphanum {c : Char} (h : c.isAlphanum = true) : isBlank c = false := by
  rw [isAlphanum_iff] at h
  have hv : c.toNat = c.val.toNat := rfl
  simp only [isBlank, hv]
  simp
  omega

theorem isAlphanum_toUpper {c : Char} (h : c.isAlphanum = true) :
    c.toUpper.isAlphanum = true := by
  unfold Char.toUpper
  split
  · rename_i hc
    have h1 : 97 ≤ c.val.toNat := hc.1
    have h2 : c.val.toNat ≤ 122 := hc.2
    have hd : ('A'.val - 'a'.val).toNat = 4294967264 := by decide
    have hv : (c.val + ('A'.val - 'a'.val)).toNat = c.val.toNat - 32 := by
      rw [UInt32.toNat_add]
      omega
    rw [isAlphanum_iff, hv]
    omega
  · exact h

theorem isAlphanum_toLower {c : Char} (h : c.isAlphanum = true) :
    c.toLower.isAlphanum = true := by
  unfold Char.toLower
  split
  · rename_i hc
    have h1 : 65 ≤ c.val.toNat := hc.1
    have h2 : c.val.toNat ≤ 90 := hc.2
    have hd : ('a'.val - 'A'.val).toNat = 32 := by decide
    have hv : (c.val + ('a'.val - 'A'.val)).toNat = c.val.toNat + 32 := by
      rw [UInt32.toNat_add]
      omega
    rw [isAlphanum_iff, hv]
    omega
  · exact h

theorem word_of_isAlphanum {s : List Char} (h : ∀ c ∈ s, c.isAlphanum = true) (hs : s ≠ []) :
    Word s := by
  refine ⟨fun c hc => isMark_of_isAlphanum (h c hc), ?_⟩
  obtain ⟨c, hc⟩ := List.exists_mem_of_ne_nil s hs
  exact ⟨c, hc, isBlank_of_isAlphanum (h c hc)⟩

/-! ## Numbers -/

theorem toList_toString_nat (n : Nat) : (toString n).toList = Nat.toDigits 10 n := by
  rw [Nat.toString_eq_repr, Nat.toList_repr]

theorem mem_toString_nat {n : Nat} {c : Char} (h : c ∈ (toString n).toList) :
    c.isAlphanum = true := by
  rw [toList_toString_nat] at h
  have := Nat.isDigit_of_mem_toDigits (by decide) (by decide) h
  simp [Char.isAlphanum, this]

theorem word_toString_nat (n : Nat) : Word (toString n).toList := by
  refine word_of_isAlphanum (fun c => mem_toString_nat) ?_
  rw [toList_toString_nat]
  exact Nat.toDigits_ne_nil

theorem toList_toString_negSucc (n : Nat) :
    (toString (Int.negSucc n)).toList = '-' :: (toString (n + 1)).toList := by
  simp [Int.toString_eq_repr, Int.repr]

theorem word_toString (n : Int) : Word (toString n).toList := by
  cases n with
  | ofNat n => exact word_toString_nat n
  | negSucc n =>
    obtain ⟨hf, c, hc, hb⟩ := word_toString_nat (n + 1)
    rw [toList_toString_negSucc]
    refine ⟨?_, c, List.mem_cons_of_mem _ hc, hb⟩
    intro d hd
    rcases List.mem_cons.1 hd with rfl | hd
    · decide
    · exact hf d hd

/-! ## Identifiers -/

theorem isMark_of_isIdentifierContinue {c : Char} (h : isIdentifierContinue c = true) :
    isMark c = false := by
  simp only [isMark, Bool.or_eq_false_iff, beq_eq_false_iff_ne]
  refine ⟨⟨⟨⟨⟨⟨?_, ?_⟩, ?_⟩, ?_⟩, ?_⟩, ?_⟩, ?_⟩ <;> rintro rfl <;> revert h <;> decide

theorem isMark_of_isIdentifierStart {c : Char} (h : isIdentifierStart c = true) :
    isMark c = false := by
  simp only [isMark, Bool.or_eq_false_iff, beq_eq_false_iff_ne]
  refine ⟨⟨⟨⟨⟨⟨?_, ?_⟩, ?_⟩, ?_⟩, ?_⟩, ?_⟩, ?_⟩ <;> rintro rfl <;> revert h <;> decide

theorem free_of_isIdentifier {s : String} (h : isIdentifier s = true) : Free s.toList := by
  unfold isIdentifier at h
  intro c hc
  cases hs : s.toList with
  | nil => rw [hs] at hc; cases hc
  | cons d rest =>
    rw [hs, isIdentifierChars, Bool.and_eq_true, List.all_eq_true] at h
    rw [hs, List.mem_cons] at hc
    rcases hc with rfl | hc
    · exact isMark_of_isIdentifierStart h.1
    · exact isMark_of_isIdentifierContinue (h.2 c hc)

end PlanCode.Text
