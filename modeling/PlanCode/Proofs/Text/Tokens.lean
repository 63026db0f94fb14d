import PlanCode.Proofs.Layout.Block
import PlanCode.Proofs.Text.Literals
import PlanCode.Proofs.Text.Words

/-!
# Reading live code

What a reader of Java takes from code: signs and string literals. Blanks and line
comments say nothing, and a comment goes from two slashes outside of a literal
to the end of its line.

* `shows_free`: text without marks shows its signs.
* `shows_ofText`: an encoded text shows one literal.
* `ends_tightenLine`: dropping the space of a separator changes nothing.
-/
namespace PlanCode.Text

open StringLiteral

inductive Token where
  | sign (c : Char)
  | literal (body : List Char)
deriving DecidableEq, Repr

namespace Code

/-! ## The reader -/

/-- Where a reader stands. -/
inductive Mode where
  | code
  /-- Behind a slash that may start a comment. -/
  | slash
  | literal (body : List Char)
  | escaping (body : List Char)
  | comment
deriving DecidableEq, Repr

structure Reading where
  tokens : List Token := []
  mode : Mode := .code
deriving DecidableEq, Repr

namespace Reading

/-- A character of code. -/
def sign (tokens : List Token) (c : Char) : Reading :=
  if c = '"' then ⟨tokens, .literal []⟩
  else if c = '/' then ⟨tokens, .slash⟩
  else if isBlank c then ⟨tokens, .code⟩
  else ⟨tokens ++ [.sign c], .code⟩

def next (r : Reading) (c : Char) : Reading :=
  match r.mode with
  | .code => sign r.tokens c
  | .slash => if c = '/' then { r with mode := .comment } else sign (r.tokens ++ [.sign '/']) c
  | .literal body =>
    if c = '"' then ⟨r.tokens ++ [.literal body], .code⟩
    else if c = '\\' then { r with mode := .escaping (body ++ [c]) }
    else { r with mode := .literal (body ++ [c]) }
  | .escaping body => { r with mode := .literal (body ++ [c]) }
  | .comment => if c = '\n' then { r with mode := .code } else r

def read (r : Reading) (text : List Char) : Reading := text.foldl next r

theorem read_append (r : Reading) (text more : List Char) :
    r.read (text ++ more) = (r.read text).read more := List.foldl_append

/-- The tokens read, with a slash that has turned out to start no comment. -/
def finish (r : Reading) : List Token :=
  match r.mode with
  | .slash => r.tokens ++ [.sign '/']
  | _ => r.tokens

end Reading

/-- The tokens of a text that is code. -/
def tokens (text : List Char) : List Token := (({} : Reading).read text).finish

/-! ## What texts show -/

/-- A reader in code takes these tokens from the text and is then in a mode. -/
def Ends (mode : Mode) (text : List Char) (shown : List Token) : Prop :=
  ∀ seen, Reading.read ⟨seen, .code⟩ text = ⟨seen ++ shown, mode⟩

/-- A text of code that stays code. -/
abbrev Shows (text : List Char) (shown : List Token) : Prop := Ends .code text shown

/-- A line of code, which may end in a comment. -/
def ShowsLine (text : List Char) (shown : List Token) : Prop :=
  Ends .code text shown ∨ Ends .comment text shown

/-- A line that is all comment. -/
abbrev IsRemark (text : List Char) : Prop := Ends .comment text []

theorem shows_nil : Shows [] [] := fun seen => by simp [Reading.read]

theorem Shows.append {text more : List Char} {a b : List Token} {mode : Mode} (h : Shows text a)
    (h' : Ends mode more b) : Ends mode (text ++ more) (a ++ b) := by
  intro seen
  rw [Reading.read_append, h, h', List.append_assoc]

theorem Shows.line {text : List Char} {a : List Token} (h : Shows text a) : ShowsLine text a :=
  Or.inl h

theorem Shows.append_line {text more : List Char} {a b : List Token} (h : Shows text a)
    (h' : ShowsLine more b) : ShowsLine (text ++ more) (a ++ b) :=
  h'.imp h.append h.append

theorem tokens_of_shows {text : List Char} {a : List Token} (h : Shows text a) :
    tokens text = a := by
  have h := h []
  rw [tokens, h]
  simp [Reading.finish]

/-- The signs of a text without marks. -/
def signs (text : List Char) : List Token := (text.filter (!isBlank ·)).map .sign

theorem shows_of_not_mem {text : List Char} (hq : '"' ∉ text) (hs : '/' ∉ text) :
    Shows text (signs text) := by
  induction text with
  | nil => exact shows_nil
  | cons c text ih =>
    rw [List.mem_cons, not_or] at hq hs
    have hc : Shows [c] (signs [c]) := by
      intro seen
      by_cases hb : isBlank c = true <;>
        simp [Reading.read, Reading.next, Reading.sign, Ne.symm hq.1, Ne.symm hs.1, hb, signs]
    have he : signs (c :: text) = signs [c] ++ signs text := by
      simp only [signs, ← List.map_append, ← List.filter_append]
      rfl
    rw [he]
    exact hc.append (ih hq.2 hs.2)

theorem shows_free {text : List Char} (h : Free text) : Shows text (signs text) :=
  shows_of_not_mem (h.not_mem rfl) (h.not_mem rfl)

theorem shows_blank {text : List Char} (h : ∀ c ∈ text, c = ' ') : Shows text [] := by
  have hf : Free text := fun c hc => by rw [h c hc]; decide
  have hs : signs text = [] := by
    rw [signs, List.map_eq_nil_iff, List.filter_eq_nil_iff]
    intro c hc
    rw [h c hc]
    decide
  have := shows_free hf
  rwa [hs] at this

/-- A sign that starts neither a literal nor a comment and is not blank. -/
theorem shows_sign {c : Char} (hq : c ≠ '"') (hs : c ≠ '/') (hb : isBlank c = false) :
    Shows [c] [.sign c] := by
  intro seen
  simp [Reading.read, Reading.next, Reading.sign, hq, hs, hb]

theorem read_escaped (seen : List Token) (body s : List Char) :
    Reading.read ⟨seen, .literal body⟩ (escaped s) = ⟨seen, .literal (body ++ escaped s)⟩ := by
  apply foldl_escaped fun body => Reading.mk seen (.literal body)
  · intro body c hq hb
    simp [Reading.next, hq, hb]
  · intro body d
    simp [Reading.next]

/-- Whatever the text, its literal shows one literal. -/
theorem shows_ofText (s : String) :
    Shows (ofText s).toList [.literal (escaped s.toList)] := by
  intro seen
  have ho : Reading.read ⟨seen, .code⟩ ['"'] = ⟨seen, .literal []⟩ := by
    simp [Reading.read, Reading.next, Reading.sign]
  have hc : Reading.read ⟨seen, .literal (escaped s.toList)⟩ ['"'] =
      ⟨seen ++ [.literal (escaped s.toList)], .code⟩ := by
    simp [Reading.read, Reading.next]
  rw [toList_ofText, encode, ← List.singleton_append, List.append_assoc,
    Reading.read_append, ho, Reading.read_append, read_escaped, List.nil_append, hc]

/-! ## Comments -/

theorem read_comment (seen : List Token) {text : List Char} (h : '\n' ∉ text) :
    Reading.read ⟨seen, .comment⟩ text = ⟨seen, .comment⟩ := by
  induction text with
  | nil => rfl
  | cons c text ih =>
    rw [List.mem_cons, not_or] at h
    have hn : Reading.next ⟨seen, .comment⟩ c = ⟨seen, .comment⟩ := by
      simp [Reading.next, Ne.symm h.1]
    rw [Reading.read, List.foldl_cons, hn]
    exact ih h.2

theorem isRemark_slashes {text : List Char} (h : '\n' ∉ text) :
    IsRemark (['/', '/'] ++ text) := by
  intro seen
  have hs : Reading.read ⟨seen, .code⟩ ['/', '/'] = ⟨seen, .comment⟩ := by
    simp [Reading.read, Reading.next, Reading.sign]
  rw [Reading.read_append, hs, read_comment seen h, List.append_nil]

theorem Ends.append_comment {text more : List Char} {a : List Token} (h : Ends .comment text a)
    (hm : '\n' ∉ more) : Ends .comment (text ++ more) a := by
  intro seen
  rw [Reading.read_append, h, read_comment _ hm]

/-- A line feed ends a comment, and nothing else. -/
theorem ShowsLine.feed {text : List Char} {a : List Token} (h : ShowsLine text a) :
    Shows (text ++ ['\n']) a := by
  intro seen
  rw [Reading.read_append]
  rcases h with h | h <;> rw [h] <;>
    simp [Reading.read, Reading.next, Reading.sign, isBlank]

/-! ## Separators at line ends -/

/-- No slash waits behind a comma, so the space behind it changes nothing. -/
theorem eq_of_next_space {r : Reading} {seen : List Token} {mode : Mode}
    (hm : mode = .code ∨ mode = .comment) (h : (r.next ',').next ' ' = ⟨seen, mode⟩) :
    r.next ',' = ⟨seen, mode⟩ := by
  obtain ⟨tokens, at_⟩ := r
  cases at_ with
  | code => simpa [Reading.next, Reading.sign, isBlank] using h
  | slash => simpa [Reading.next, Reading.sign, isBlank] using h
  | literal body =>
    rcases hm with rfl | rfl <;> simp [Reading.next] at h
  | escaping body =>
    rcases hm with rfl | rfl <;> simp [Reading.next] at h
  | comment => simpa [Reading.next] using h

theorem ends_tightenLine {mode : Mode} (hm : mode = .code ∨ mode = .comment) {l : List Char}
    {a : List Token} (h : Ends mode l a) : Ends mode (Layout.tightenLine l) a := by
  rcases Layout.tightenLine_cases l with ht | ⟨k, hk, ht⟩
  · rwa [ht]
  · intro seen
    have hs := h seen
    rw [hk, Reading.read_append] at hs
    rw [ht, Reading.read_append]
    exact eq_of_next_space hm hs

theorem ShowsLine.tightenLine {l : List Char} {a : List Token} (h : ShowsLine l a) :
    ShowsLine (Layout.tightenLine l) a :=
  h.imp (ends_tightenLine (Or.inl rfl)) (ends_tightenLine (Or.inr rfl))

end Code
end PlanCode.Text
