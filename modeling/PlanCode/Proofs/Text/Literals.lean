import PlanCode.Proofs.Layout.Block
import PlanCode.Text.StringLiteral

/-!
# Reading string literals

What a reader of Java finds between double quotes. It stands outside of literals
or in the body of one, and a backslash in a body takes the next character along.
The reader knows neither lines nor comments.

* `reads_ofText`: an encoded text reads as one literal, whatever the text.
* `decode?_escaped`: and its body decodes to the text.
* `Reads.tightenLine`: dropping the space of a separator changes no literal.
-/
namespace PlanCode.Text.StringLiteral

/-! ## The reader -/

/-- Where a reader stands, with the part of the body it has read. -/
inductive Position where
  | outside
  | inside (body : List Char)
  /-- Right behind a backslash. -/
  | escaping (body : List Char)
deriving DecidableEq, Repr

structure Scan where
  /-- The bodies of the literals closed so far. -/
  found : List (List Char) := []
  position : Position := .outside
deriving DecidableEq, Repr

namespace Scan

def next (s : Scan) (c : Char) : Scan :=
  match s.position with
  | .outside => if c = '"' then { s with position := .inside [] } else s
  | .inside body =>
    if c = '"' then ⟨s.found ++ [body], .outside⟩
    else if c = '\\' then { s with position := .escaping (body ++ [c]) }
    else { s with position := .inside (body ++ [c]) }
  | .escaping body => { s with position := .inside (body ++ [c]) }

def read (s : Scan) (text : List Char) : Scan := text.foldl next s

theorem read_append (s : Scan) (text more : List Char) :
    s.read (text ++ more) = (s.read text).read more := List.foldl_append

end Scan

/-- The bodies of the literals of a text in order, none when the last one is not closed. -/
def bodies? (text : List Char) : Option (List (List Char)) :=
  match ({} : Scan).read text with
  | ⟨found, .outside⟩ => some found
  | _ => none

/-- The character that an escape stands for. -/
def escapeValue? (c : Char) : Option Char :=
  if c = '\\' || c = '"' then some c
  else if c = 'n' then some '\n'
  else if c = 'r' then some '\r'
  else if c = 't' then some '\t'
  else none

/-- The text that the body of a literal stands for. -/
def decode? : List Char → Option (List Char)
  | [] => some []
  | ['\\'] => none
  | '\\' :: c :: rest => do return (← escapeValue? c) :: (← decode? rest)
  | c :: rest => (decode? rest).map (c :: ·)

/-! ## Bodies of encoded texts -/

/-- A character is escaped by itself or by one character that stands for it. -/
theorem escapedChar_cases (c : Char) :
    (escapedChar c = [c] ∧ c ≠ '"' ∧ c ≠ '\\') ∨
      ∃ d, escapedChar c = ['\\', d] ∧ escapeValue? d = some c := by
  unfold escapedChar
  split
  · rename_i h
    exact Or.inr ⟨c, rfl, by rw [escapeValue?, if_pos h]⟩
  · rename_i h
    simp only [Bool.or_eq_true, decide_eq_true_eq, not_or] at h
    split
    · rename_i hc; subst hc; exact Or.inr ⟨'n', rfl, by decide⟩
    split
    · rename_i hc; subst hc; exact Or.inr ⟨'r', rfl, by decide⟩
    split
    · rename_i hc; subst hc; exact Or.inr ⟨'t', rfl, by decide⟩
    · exact Or.inl ⟨rfl, h.2, h.1⟩

theorem decode?_escaped (s : List Char) : decode? (escaped s) = some s := by
  induction s with
  | nil => rfl
  | cons c s ih =>
    rw [escaped_cons]
    rcases escapedChar_cases c with ⟨he, -, hb⟩ | ⟨d, he, hv⟩
    · rw [he, List.singleton_append, decode?, ih, Option.map_some]
      · exact fun h _ => hb h
      · exact fun d rest h => absurd h hb
    · rw [he, List.cons_append, List.singleton_append, decode?, hv, ih]
      rfl

theorem mapM_decode?_escaped (texts : List String) :
    (texts.map fun s => escaped s.toList).mapM decode? = some (texts.map String.toList) := by
  induction texts with
  | nil => rfl
  | cons s texts ih => simp [decode?_escaped, ih]

/-- A reader that takes along every character of a body, and behind a backslash the next one
whatever it is, takes an encoded text along as a whole. -/
theorem foldl_escaped {σ : Type} {next : σ → Char → σ} (inside : List Char → σ)
    (hplain : ∀ body c, c ≠ '"' → c ≠ '\\' → next (inside body) c = inside (body ++ [c]))
    (hescape : ∀ body d, next (next (inside body) '\\') d = inside (body ++ ['\\', d]))
    (body s : List Char) : (escaped s).foldl next (inside body) = inside (body ++ escaped s) := by
  induction s generalizing body with
  | nil => simp [escaped]
  | cons c s ih =>
    rw [escaped_cons, List.foldl_append]
    rcases escapedChar_cases c with ⟨he, hq, hb⟩ | ⟨d, he, -⟩
    · rw [he, List.foldl_cons, List.foldl_nil, hplain body c hq hb, ih, List.append_assoc]
    · rw [he, List.foldl_cons, List.foldl_cons, List.foldl_nil, hescape, ih, List.append_assoc]

theorem read_escaped (found : List (List Char)) (body s : List Char) :
    Scan.read ⟨found, .inside body⟩ (escaped s) = ⟨found, .inside (body ++ escaped s)⟩ := by
  apply foldl_escaped fun body => Scan.mk found (.inside body)
  · intro body c hq hb
    simp [Scan.next, hq, hb]
  · intro body d
    simp [Scan.next]

/-! ## Texts that read as literals -/

/-- A reader outside of literals is so again at the end of the text, having found the literals of
these strings. -/
def Reads (text : List Char) (literals : List String) : Prop :=
  ∀ found, Scan.read ⟨found, .outside⟩ text =
    ⟨found ++ literals.map fun s => escaped s.toList, .outside⟩

theorem reads_of_not_mem {text : List Char} (h : '"' ∉ text) : Reads text [] := by
  intro found
  induction text with
  | nil => simp [Scan.read]
  | cons c text ih =>
    rw [List.mem_cons, not_or] at h
    have hn : Scan.next ⟨found, .outside⟩ c = ⟨found, .outside⟩ := by
      simp [Scan.next, Ne.symm h.1]
    rw [Scan.read, List.foldl_cons, hn]
    exact ih h.2

theorem Reads.append {text more : List Char} {a b : List String} (h : Reads text a)
    (h' : Reads more b) : Reads (text ++ more) (a ++ b) := by
  intro found
  rw [Scan.read_append, h, h', List.map_append, List.append_assoc]

theorem Reads.append_plain {text : List Char} {a : List String} (h : Reads text a)
    {plain : List Char} (hp : '"' ∉ plain) : Reads (text ++ plain) a := by
  simpa using h.append (reads_of_not_mem hp)

theorem Reads.plain_append {text : List Char} {a : List String} (h : Reads text a)
    {plain : List Char} (hp : '"' ∉ plain) : Reads (plain ++ text) a := by
  simpa using (reads_of_not_mem hp).append h

/-- **Encoding.** Whatever the text, its literal reads as one literal. -/
theorem reads_ofText (s : String) : Reads (ofText s).toList [s] := by
  intro found
  have ho : Scan.read ⟨found, .outside⟩ ['"'] = ⟨found, .inside []⟩ := by
    simp [Scan.read, Scan.next]
  have hc : Scan.read ⟨found, .inside (escaped s.toList)⟩ ['"'] =
      ⟨found ++ [escaped s.toList], .outside⟩ := by
    simp [Scan.read, Scan.next]
  rw [toList_ofText, encode, ← List.singleton_append, List.append_assoc,
    Scan.read_append, ho, Scan.read_append, read_escaped, List.nil_append, hc]
  rfl

theorem bodies?_of_reads {text : List Char} {literals : List String} (h : Reads text literals) :
    bodies? text = some (literals.map fun s => escaped s.toList) := by
  rw [bodies?, h]
  rfl

/-! ## Cutting off plain text -/

/-- A reader that is outside of literals behind a plain character was so in front of it. -/
theorem eq_of_next {s : Scan} {c : Char} (hc : c ≠ '"') {found : List (List Char)}
    (h : s.next c = ⟨found, .outside⟩) : s = ⟨found, .outside⟩ := by
  obtain ⟨f, position⟩ := s
  cases position with
  | outside => simpa [Scan.next, hc] using h
  | inside body => by_cases hb : c = '\\' <;> simp [Scan.next, hc, hb] at h
  | escaping body => simp [Scan.next] at h

theorem eq_of_read {s : Scan} {plain : List Char} (hp : '"' ∉ plain) {found : List (List Char)}
    (h : s.read plain = ⟨found, .outside⟩) : s = ⟨found, .outside⟩ := by
  induction plain generalizing s with
  | nil => exact h
  | cons c plain ih =>
    rw [List.mem_cons, not_or] at hp
    exact eq_of_next (Ne.symm hp.1) (ih hp.2 h)

theorem Reads.of_append_plain {text plain : List Char} {a : List String}
    (h : Reads (text ++ plain) a) (hp : '"' ∉ plain) : Reads text a := by
  intro found
  have hr := h found
  rw [Scan.read_append] at hr
  exact eq_of_read hp hr

theorem Reads.tightenLine {l : List Char} {a : List String} (h : Reads l a) :
    Reads (Layout.tightenLine l) a := by
  rcases Layout.tightenLine_cases l with ht | ⟨k, hk, ht⟩
  · rwa [ht]
  · rw [hk] at h
    rw [ht]
    exact (h.of_append_plain (by decide)).append_plain (by decide)

end PlanCode.Text.StringLiteral
