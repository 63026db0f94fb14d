import Mathlib.Data.List.TakeWhile
import PlanCode.Proofs.Convert.Regular
import PlanCode.Proofs.Text.JavaName

/-!
# Names of fragments as names of methods

The method of a fragment is named by the runs of letters and digits in the
fragment's name. Such a name is always an identifier of Java. It is a reserved
word when the fragment's name has one run only and that is the word, with a capital
or without.

* `words_eq_singleton_iff`: when a text has one run only.
* `fragmentMethod_mem_reservedWords_iff`: which names become reserved words.
* `isJavaName_fragmentMethod_iff`: all others become names that may be declared.
-/
namespace PlanCode.Convert

open PlanCode.Text

/-! ## Runs of letters and digits -/

theorem words_nil : words [] = [] := by simp [words, words.split]

theorem words_cons_of_not {c : Char} (hc : c.isAlphanum = false) (rest : List Char) :
    words (c :: rest) = words rest := by
  unfold words
  rw [words.split]
  split
  · rename_i hs
    exact absurd hs (split_ne_nil rest)
  · rename_i word others hs
    rw [hc, if_neg (by decide), hs, List.filter_cons, List.isEmpty_nil]
    rfl

theorem words_append_of_not {marks : List Char} (h : ∀ c ∈ marks, c.isAlphanum = false)
    (s : List Char) : words (marks ++ s) = words s := by
  induction marks with
  | nil => rfl
  | cons c marks ih =>
    obtain ⟨hc, hmarks⟩ := List.forall_mem_cons.1 h
    rw [List.cons_append, words_cons_of_not hc]
    exact ih hmarks

/-- Letters and digits in front of a text belong to its first run, which may be empty. -/
theorem split_append_of_isAlphanum {w s first : List Char} {others : List (List Char)}
    (hw : ∀ c ∈ w, c.isAlphanum = true) (hs : words.split s = first :: others) :
    words.split (w ++ s) = (w ++ first) :: others := by
  induction w with
  | nil => exact hs
  | cons c w ih =>
    obtain ⟨hc, hw⟩ := List.forall_mem_cons.1 hw
    rw [List.cons_append, words.split, ih hw, List.cons_append]
    simp only [hc, if_true]

theorem words_append_of_isAlphanum {w s : List Char} (hw : ∀ c ∈ w, c.isAlphanum = true)
    (hne : w ≠ []) (hs : ∀ c ∈ s.head?, c.isAlphanum = false) : words (w ++ s) = w :: words s := by
  -- what follows starts a new run
  obtain ⟨others, ho⟩ : ∃ others, words.split s = [] :: others := by
    cases s with
    | nil => exact ⟨[], rfl⟩
    | cons c rest =>
      have hc : c.isAlphanum = false := hs c rfl
      rw [words.split]
      cases hr : words.split rest with
      | nil => exact absurd hr (split_ne_nil rest)
      | cons word others => exact ⟨word :: others, by simp [hc]⟩
  have hrun : (!w.isEmpty) = true := by simpa using hne
  rw [words, words, split_append_of_isAlphanum hw ho, ho, List.append_nil, List.filter_cons,
    if_pos hrun]
  rfl

theorem isAlphanum_of_words_eq_nil {s : List Char} (h : words s = []) :
    ∀ c ∈ s, c.isAlphanum = false := by
  induction s with
  | nil => simp
  | cons c rest ih =>
    cases hc : c.isAlphanum with
    | false =>
      rw [words_cons_of_not hc] at h
      exact List.forall_mem_cons.2 ⟨hc, ih h⟩
    | true =>
      obtain ⟨first, others, hs⟩ := List.exists_cons_of_ne_nil (split_ne_nil rest)
      have hsplit := split_append_of_isAlphanum (List.forall_mem_singleton.2 hc) hs
      rw [words, ← List.singleton_append, hsplit] at h
      simp at h

/-- The text is one run of letters and digits, with other characters around it. -/
structure HoldsOnly (s w : List Char) : Prop where
  around : ∃ before after : List Char, s = before ++ w ++ after ∧
    ∀ c ∈ before ++ after, c.isAlphanum = false
  isRun : w ≠ [] ∧ ∀ c ∈ w, c.isAlphanum = true

theorem words_eq_singleton_iff {s w : List Char} : words s = [w] ↔ HoldsOnly s w := by
  constructor
  · intro h
    have hrun := isAlphanum_words s w (by rw [h]; exact List.mem_singleton_self w)
    refine ⟨?_, hrun⟩
    induction s with
    | nil => rw [words_nil] at h; cases h
    | cons c rest ih =>
      cases hc : c.isAlphanum with
      | false =>
        rw [words_cons_of_not hc] at h
        obtain ⟨before, after, hr, hmarks⟩ := ih h
        refine ⟨c :: before, after, by rw [hr]; rfl, ?_⟩
        exact List.forall_mem_cons.2 ⟨hc, hmarks⟩
      | true =>
        -- the run starts here, and behind it there is none
        have hsplit : c :: rest = (c :: rest).takeWhile (·.isAlphanum) ++
            (c :: rest).dropWhile (·.isAlphanum) := List.takeWhile_append_dropWhile.symm
        have hw := words_append_of_isAlphanum
          (w := (c :: rest).takeWhile (·.isAlphanum)) (fun d hd => List.mem_takeWhile_imp hd)
          (by simp [hc]) (Number.of_mem_head?_dropWhile (·.isAlphanum) (c :: rest))
        rw [← hsplit, h] at hw
        obtain ⟨hw, hnone⟩ := List.cons.inj hw
        refine ⟨[], (c :: rest).dropWhile (·.isAlphanum), by rw [hw]; exact hsplit, ?_⟩
        exact isAlphanum_of_words_eq_nil hnone.symm
  · intro h
    obtain ⟨⟨before, after, hs, hmarks⟩, hne, hw⟩ := h
    obtain ⟨hb, ha⟩ := List.forall_mem_append.1 hmarks
    have hnone : words after = [] := by
      rw [← List.append_nil after, words_append_of_not ha, words_nil]
    rw [hs, List.append_assoc, words_append_of_not hb,
      words_append_of_isAlphanum hw hne fun c hc => ha c (List.mem_of_mem_head? hc), hnone]

/-! ## Methods -/

/-- What names a method: the runs together, or a word in front of a digit or of nothing. -/
theorem fragmentMethod_cases (name : String) :
    (∃ rest, (fragmentMethod name).toList = "fragment".toList ++ rest) ∨
      ∃ first others c rest, words name.toList = first :: others ∧
        uncapitalized first ++ others.flatMap capitalized = c :: rest ∧ c.isDigit = false ∧
        (fragmentMethod name).toList = c :: rest := by
  have hne := (isAlphanum_fragmentMethod name).2
  rw [fragmentMethod, String.toList_ofList] at hne ⊢
  unfold fragmentMethodChars at hne ⊢
  cases hwords : words name.toList with
  | nil => exact Or.inl ⟨[], rfl⟩
  | cons first others =>
    rw [hwords] at hne
    dsimp only at hne ⊢
    split
    · rename_i c rest hj
      cases hc : c.isDigit with
      | true => exact Or.inl ⟨_, rfl⟩
      | false => exact Or.inr ⟨first, others, c, rest, rfl, hj, hc, hj⟩
    · rename_i hj
      rw [hj] at hne
      exact absurd rfl hne

theorem fragmentMethod_of_words {name : String} {first : List Char} {c : Char} {rest : List Char}
    (h : words name.toList = [first]) (hf : uncapitalized first = c :: rest)
    (hc : c.isDigit = false) : (fragmentMethod name).toList = c :: rest := by
  rw [fragmentMethod, String.toList_ofList, fragmentMethodChars, h]
  simp [hf, hc]

theorem isJavaIdentifier_fragmentMethod (name : String) :
    isJavaIdentifier (fragmentMethod name).toList = true := by
  have ha := (isAlphanum_fragmentMethod name).1
  rcases fragmentMethod_cases name with ⟨rest, hm⟩ | ⟨_, _, c, rest, -, -, hc, hm⟩
  · rw [hm] at ha ⊢
    exact isJavaIdentifier_of_isAlphanum (by decide) ha
  · rw [hm] at ha ⊢
    exact isJavaIdentifier_of_isAlphanum hc ha

/-- What a fragment is named after when its method would be a reserved word. -/
def IsReservedName (name : String) : Prop :=
  ∃ w ∈ reservedWords, HoldsOnly name.toList w.toList ∨ HoldsOnly name.toList (capitalized w.toList)

/-- Reserved words have small letters only, so they are no two runs in one. -/
theorem others_eq_nil_of_reserved {w : String} (hw : w ∈ reservedWords) {first : List Char}
    {others : List (List Char)} (ho : ∀ u ∈ others, u ≠ [] ∧ ∀ c ∈ u, c.isAlphanum = true)
    (h : w.toList = first ++ others.flatMap capitalized) : others = [] := by
  cases others with
  | nil => rfl
  | cons u others =>
    obtain ⟨hne, hu⟩ := ho u (List.mem_cons_self ..)
    cases u with
    | nil => exact absurd rfl hne
    | cons c u =>
      have hsmall : ∀ w ∈ reservedWords,
          w.toList.all (fun c => c.isLower || c == '_') = true := by decide +kernel
      have hlarge : ∀ n : Fin 128, (Char.ofNat n).isAlphanum = true →
          ¬((Char.ofNat n).toUpper.isLower || (Char.ofNat n).toUpper == '_') = true := by
        decide +kernel
      have hmem : c.toUpper ∈ w.toList := by
        rw [h]
        simp [capitalized]
      have hc := hu c (List.mem_cons_self ..)
      obtain ⟨n, rfl⟩ := exists_ascii (toNat_lt_of_isAlphanum hc)
      exact absurd (List.all_eq_true.1 (hsmall w hw) _ hmem) (hlarge n hc)

/-- A first letter is made small or has been so. -/
theorem eq_or_eq_capitalized {first w : List Char} (hf : ∀ c ∈ first, c.isAlphanum = true)
    (h : uncapitalized first = w) : first = w ∨ first = capitalized w := by
  cases first with
  | nil => exact Or.inl h
  | cons c rest =>
    have hcase : ∀ n : Fin 128, (Char.ofNat n).isAlphanum = true →
        (Char.ofNat n).toLower = Char.ofNat n ∨
          (Char.ofNat n).toLower.toUpper = Char.ofNat n := by decide +kernel
    have hc := hf c (List.mem_cons_self ..)
    subst h
    obtain ⟨n, rfl⟩ := exists_ascii (toNat_lt_of_isAlphanum hc)
    rcases hcase n hc with hlow | hup
    · left
      rw [uncapitalized, hlow]
    · right
      rw [uncapitalized, capitalized, hup]

/-- The method of a fragment is a reserved word when its name is one, with other characters around
it. -/
theorem fragmentMethod_mem_reservedWords_iff {name : String} :
    fragmentMethod name ∈ reservedWords ↔ IsReservedName name := by
  constructor
  · intro h
    rcases fragmentMethod_cases name with ⟨rest, hm⟩ | ⟨first, others, c, rest, hw, hj, -, hm⟩
    · have hfragment : ∀ w ∈ reservedWords, "fragment".toList.isPrefixOf w.toList = false := by
        decide +kernel
      have hno := hfragment _ h
      rw [hm, List.isPrefixOf_iff_prefix.2 (List.prefix_append ..)] at hno
      cases hno
    · have hruns := isAlphanum_words name.toList
      rw [hw] at hruns
      obtain ⟨hfirst, hothers⟩ := List.forall_mem_cons.1 hruns
      have hnone := others_eq_nil_of_reserved h hothers (hm.trans hj.symm)
      rw [hnone, List.flatMap_nil, List.append_nil] at hj
      rw [hnone] at hw
      refine ⟨fragmentMethod name, h, ?_⟩
      rw [hm]
      rcases eq_or_eq_capitalized hfirst.2 hj with he | he
      · exact Or.inl (words_eq_singleton_iff.1 (he ▸ hw))
      · exact Or.inr (words_eq_singleton_iff.1 (he ▸ hw))
  · intro h
    obtain ⟨w, hmem, hw⟩ := h
    have hsmall : ∀ w ∈ reservedWords, uncapitalized w.toList = w.toList ∧
        uncapitalized (capitalized w.toList) = w.toList := by decide +kernel
    have hstart : ∀ w ∈ reservedWords, w.toList.head?.any (!·.isDigit) = true := by
      decide +kernel
    have hhead := hstart w hmem
    cases hc : w.toList with
    | nil =>
      rw [hc] at hhead
      cases hhead
    | cons c rest =>
      have hdigit : c.isDigit = false := by simpa [hc] using hhead
      have hm : (fragmentMethod name).toList = c :: rest := by
        rcases hw with hw | hw
        · exact fragmentMethod_of_words (words_eq_singleton_iff.2 hw)
            ((hsmall w hmem).1.trans hc) hdigit
        · exact fragmentMethod_of_words (words_eq_singleton_iff.2 hw)
            ((hsmall w hmem).2.trans hc) hdigit
      rw [String.toList_inj.1 (hm.trans hc.symm)]
      exact hmem

/-- **Methods of fragments.** They may be declared but for those named after reserved words. -/
theorem isJavaName_fragmentMethod_iff {name : String} :
    IsJavaName (fragmentMethod name) ↔ ¬ IsReservedName name := by
  rw [IsJavaName, fragmentMethod_mem_reservedWords_iff]
  exact and_iff_right (isJavaIdentifier_fragmentMethod name)

end PlanCode.Convert
