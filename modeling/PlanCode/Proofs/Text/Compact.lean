import PlanCode.Proofs.Text.Tokens

/-!
# Code without its layout

What is left of code when its line comments are deleted, and every blank that
stands outside of a string literal.

* `compact?_of_ends`: what is left of a text are the tokens that it shows, written in a row.
* `plain_of_isIdentifierChars`: identifiers are plain, so nothing of them is deleted.
-/
namespace PlanCode.Text

/-- A token as it stands in code. -/
def Token.text : Token → List Char
  | .sign c => [c]
  | .literal body => '"' :: body ++ ['"']

namespace Code

open StringLiteral

/-! ## Tokens in a row -/

def written (ts : List Token) : List Char := ts.flatMap Token.text

theorem written_append (ts us : List Token) : written (ts ++ us) = written ts ++ written us :=
  List.flatMap_append

theorem written_cons (t : Token) (ts : List Token) : written (t :: ts) = t.text ++ written ts := rfl

theorem written_signs (s : List Char) : written (s.map .sign) = s := by
  simp [written, List.flatMap_map, Token.text]

/-- A text of code without its line comments and without the blanks outside of its literals; none
where a literal is not closed. -/
def compact? (text : List Char) : Option (List Char) :=
  let r := ({} : Reading).read text
  match r.mode with
  | .literal _ | .escaping _ => none
  | _ => some (written r.finish)

theorem compact?_of_ends {mode : Mode} (hm : mode = .code ∨ mode = .comment) {text : List Char}
    {a : List Token} (h : Ends mode text a) : compact? text = some (written a) := by
  have h := h []
  rw [compact?, h]
  rcases hm with rfl | rfl <;> rfl

/-! ## Texts that leave others -/

/-- A text of code of which another one is left. -/
def Leaves (text left : List Char) : Prop := ∃ ts, Shows text ts ∧ written ts = left

theorem Leaves.append {text more left right : List Char} (h : Leaves text left)
    (h' : Leaves more right) : Leaves (text ++ more) (left ++ right) := by
  obtain ⟨ts, ht, rfl⟩ := h
  obtain ⟨us, hu, rfl⟩ := h'
  exact ⟨ts ++ us, ht.append hu, written_append ts us⟩

theorem leaves_nil : Leaves [] [] := ⟨[], shows_nil, rfl⟩

theorem leaves_blank {text : List Char} (h : ∀ c ∈ text, c = ' ') : Leaves text [] :=
  ⟨[], shows_blank h, rfl⟩

theorem leaves_ofText (s : String) : Leaves (ofText s).toList (ofText s).toList := by
  refine ⟨_, shows_ofText s, ?_⟩
  rw [toList_ofText, encode]
  simp [written, Token.text]

/-! ## Plain texts -/

/-- A text in which nothing is blank and nothing starts a literal or a comment. -/
def Plain (s : List Char) : Prop := ∀ c ∈ s, c ≠ '"' ∧ c ≠ '/' ∧ isBlank c = false

instance (s : List Char) : Decidable (Plain s) := List.decidableBAll _ s

theorem Plain.not_mem {s : List Char} (h : Plain s) {c : Char}
    (hc : c = '"' ∨ c = '/' ∨ isBlank c = true) : c ∉ s := by
  intro hm
  obtain ⟨hq, hs, hb⟩ := h c hm
  rcases hc with hc | hc | hc
  · exact hq hc
  · exact hs hc
  · rw [hb] at hc
    cases hc

theorem plain_append {s t : List Char} : Plain (s ++ t) ↔ Plain s ∧ Plain t :=
  List.forall_mem_append

theorem shows_plain {s : List Char} (h : Plain s) : Shows s (s.map .sign) := by
  have hs : signs s = s.map .sign := by
    rw [signs, List.filter_eq_self.2]
    intro c hc
    simp [(h c hc).2.2]
  rw [← hs]
  exact shows_of_not_mem (h.not_mem (by simp)) (h.not_mem (by simp))

theorem leaves_plain {s : List Char} (h : Plain s) : Leaves s s :=
  ⟨_, shows_plain h, written_signs s⟩

theorem plain_of_word_char {c : Char} (hm : isMark c = false) (hb : isBlank c = false) :
    Plain [c] := by
  simp only [isMark, Bool.or_eq_false_iff, beq_eq_false_iff_ne] at hm
  obtain ⟨⟨⟨⟨⟨⟨hq, -⟩, -⟩, -⟩, hs⟩, -⟩, -⟩ := hm
  simpa [Plain] using ⟨hq, hs, hb⟩

theorem plain_toString_nat (n : Nat) : Plain (toString n).toList := by
  intro c hc
  have ha := mem_toString_nat hc
  exact plain_of_word_char (isMark_of_isAlphanum ha) (isBlank_of_isAlphanum ha) c (by simp)

theorem plain_toString (n : Int) : Plain (toString n).toList := by
  cases n with
  | ofNat n => exact plain_toString_nat n
  | negSucc n =>
    rw [toList_toString_negSucc]
    exact plain_append.2 ⟨show Plain ['-'] by decide, plain_toString_nat (n + 1)⟩

/-! ## Identifiers -/

/-- The blanks outside of ASCII. -/
def wideBlanks : List Nat :=
  [0x85, 0xA0, 0x1680, 0x2000, 0x2001, 0x2002, 0x2003, 0x2004, 0x2005, 0x2006, 0x2007, 0x2008,
    0x2009, 0x200A, 0x2028, 0x2029, 0x202F, 0x205F, 0x3000]

theorem mem_wideBlanks {c : Char} (h : isBlank c = true) (hc : ¬c.toNat < 0x80) :
    c.toNat ∈ wideBlanks := by
  simp only [isBlank, Bool.or_eq_true, Bool.and_eq_true, decide_eq_true_eq, beq_iff_eq] at h
  simp only [wideBlanks, List.mem_cons, List.not_mem_nil, or_false]
  omega

theorem isBlank_of_inPoints {points : List Nat} {p : Char → Bool} {c : Char}
    (hw : p c = true → isBlank c = false)
    (hp : ∀ n ∈ wideBlanks, inPoints points n = false)
    (h : (if c.toNat < 0x80 then p c else inPoints points c.toNat) = true) :
    isBlank c = false := by
  by_cases hc : c.toNat < 0x80
  · rw [if_pos hc] at h
    exact hw h
  · rw [if_neg hc] at h
    rw [Bool.eq_false_iff]
    intro hb
    rw [hp _ (mem_wideBlanks hb hc)] at h
    cases h

theorem isBlank_of_isIdentifierStart {c : Char} (h : isIdentifierStart c = true) :
    isBlank c = false := by
  refine isBlank_of_inPoints (p := fun c => c.isAlpha || c == '_') ?_ (by decide +kernel) h
  intro hw
  rw [Bool.or_eq_true, beq_iff_eq] at hw
  rcases hw with hw | rfl
  · exact isBlank_of_isAlphanum (by simp [Char.isAlphanum, hw])
  · decide

theorem isBlank_of_isIdentifierContinue {c : Char} (h : isIdentifierContinue c = true) :
    isBlank c = false := by
  refine isBlank_of_inPoints (p := fun c => c.isAlphanum || c == '_') ?_ (by decide +kernel) h
  intro hw
  rw [Bool.or_eq_true, beq_iff_eq] at hw
  rcases hw with hw | rfl
  · exact isBlank_of_isAlphanum hw
  · decide

theorem plain_of_isIdentifierChars {s : List Char} (h : isIdentifierChars s = true) : Plain s := by
  cases s with
  | nil => cases h
  | cons c rest =>
    rw [isIdentifierChars, Bool.and_eq_true, List.all_eq_true] at h
    intro d hd
    rcases List.mem_cons.1 hd with rfl | hd
    · exact plain_of_word_char (isMark_of_isIdentifierStart h.1)
        (isBlank_of_isIdentifierStart h.1) d (by simp)
    · exact plain_of_word_char (isMark_of_isIdentifierContinue (h.2 d hd))
        (isBlank_of_isIdentifierContinue (h.2 d hd)) d (by simp)

end Code
end PlanCode.Text
