import Mathlib.Data.List.TakeWhile
import PlanCode.Element.Arguments
import PlanCode.Proofs.Number.Numeral
import PlanCode.Proofs.Text.Literals

/-!
# Expressions in place of values

A property that should hold a number, a flag or a duration may hold an expression,
and is then read as a string. Numbers and durations keep the text as it is but for
the blanks around it. Flags are compared in lower case, and what is no flag stays
in lower case: an expression keeps its text only if it has no capitals.

* `strips_iff`: a text is stripped of its blanks in one way only.
* `Reader.read?_eq_string_iff`: when a property is read as a string, and as which one.
* `keepsText_iff`: when a text is read as a string, and which texts are kept.
* `not_keepsText_parent`: a flag whose expression is not.
-/
namespace PlanCode

open PlanCode.Text PlanCode.Number

/-! ## Blanks around a text -/

/-- One text is the other without the blanks around it. -/
structure Text.Strips (s t : String) : Prop where
  around : ∃ before after : List Char, s.toList = before ++ t.toList ++ after ∧
    ∀ c ∈ before ++ after, isBlank c = true
  bare : IsBare isBlank t.toList

namespace Text

/-- A text falls into what is dropped at its start and the rest. -/
theorem exists_blanks (s : List Char) : ∃ blanks, s = blanks ++ s.dropWhile isBlank ∧
    ∀ c ∈ blanks, isBlank c = true :=
  ⟨s.takeWhile isBlank, List.takeWhile_append_dropWhile.symm, fun _ hc => List.mem_takeWhile_imp hc⟩

theorem strips_trim (s : String) : Strips s (trim s) := by
  obtain ⟨before, hs, hb⟩ := exists_blanks s.toList
  obtain ⟨after, ht, ha⟩ := exists_blanks (s.toList.dropWhile isBlank).reverse
  refine ⟨⟨before, after.reverse, ?_, ?_⟩, ?_⟩
  · have hr := congrArg List.reverse ht
    rw [List.reverse_reverse, List.reverse_append] at hr
    rw [trim, String.toList_ofList, trimChars, List.append_assoc, ← hr, ← hs]
  · intro c hc
    rcases List.mem_append.1 hc with hc | hc
    · exact hb c hc
    · exact ha c (List.mem_reverse.1 hc)
  · rw [trim, String.toList_ofList]
    exact isBare_dropEnds isBlank s.toList

theorem trimChars_of_around {before after t : List Char} (hb : ∀ c ∈ before, isBlank c = true)
    (ha : ∀ c ∈ after, isBlank c = true) (ht : IsBare isBlank t) :
    trimChars (before ++ t ++ after) = t := by
  cases t with
  | nil =>
    refine trimChars_blank fun c hc => ?_
    rw [List.append_nil] at hc
    exact (List.mem_append.1 hc).elim (hb c) (ha c)
  | cons c rest =>
    have hend : (c :: rest).reverse.dropWhile isBlank = (c :: rest).reverse := by
      refine dropWhile_eq_self ?_
      rw [List.head?_reverse]
      exact ht.2
    have hstart : (before ++ (c :: rest) ++ after).dropWhile isBlank = c :: rest ++ after := by
      rw [List.append_assoc, List.dropWhile_append_of_pos hb]
      exact dropWhile_eq_self fun d hd => ht.1 d hd
    rw [trimChars, hstart, List.reverse_append,
      List.dropWhile_append_of_pos fun d hd => ha d (List.mem_reverse.1 hd), hend,
      List.reverse_reverse]

/-- A text is stripped of its blanks in one way only. -/
theorem strips_iff {s t : String} : Strips s t ↔ t = trim s := by
  constructor
  · intro h
    obtain ⟨before, after, hs, hblank⟩ := h.around
    obtain ⟨hb, ha⟩ := List.forall_mem_append.1 hblank
    rw [trim, hs, trimChars_of_around hb ha h.bare, String.ofList_toList]
  · intro h
    rw [h]
    exact strips_trim s

end Text

/-! ## Readers of values -/

namespace Element

/-- How a property is read that holds a value or an expression in its place. -/
inductive Reader where
  | int (default : Option Int)
  | long (default : Option Int)
  | bool (default : Bool)
  | duration (default : Option Duration) (unit : Duration)

namespace Reader

def isFlag : Reader → Bool
  | .bool _ => true
  | _ => false

/-- What the property of an element is read as, if it is no duration out of range. The path is that
of the property, with the prefix for nested elements in front. -/
def read? (e : Element) (path : String) : Reader → Option Literal
  | .int default => some (e.intLiteral path default)
  | .long default => some (e.longLiteral path default)
  | .bool default => some (e.boolLiteral path default)
  | .duration default unit => e.durationLiteral? path default unit

/-- The word that is taken for a value or for an expression. -/
def word (r : Reader) (s : String) : String := if r.isFlag then lower s else s

/-- The words that are values. -/
def takes (r : Reader) (s : String) : Bool :=
  if r.isFlag then s == "true" || s == "false" else (readWhole? s).isSome

/-- A property is read as a string when its word is neither empty nor a value, and then the string
is that word. -/
theorem read?_eq_string_iff {r : Reader} {e : Element} {path : String}
    {value default : Option String} {ignored : Bool} :
    r.read? e path = some (.string value default ignored) ↔
      r.word (e.trimmedAt path) ≠ "" ∧ r.takes (r.word (e.trimmedAt path)) = false ∧
        Literal.text (r.word (e.trimmedAt path)) = .string value default ignored := by
  cases r with
  | int d =>
    simp only [read?, intLiteral, word, takes, isFlag]
    by_cases he : e.trimmedAt path = ""
    · simp [he]
    · cases hn : readWhole? (e.trimmedAt path) <;> simp [he, hn]
  | long d =>
    simp only [read?, longLiteral, word, takes, isFlag]
    by_cases he : e.trimmedAt path = ""
    · simp [he]
    · cases hn : readWhole? (e.trimmedAt path) <;> simp [he, hn]
  | bool d =>
    simp only [read?, boolLiteral, word, takes, isFlag]
    by_cases he : lower (e.trimmedAt path) = ""
    · simp [he]
    by_cases ht : lower (e.trimmedAt path) = "true"
    · simp [ht]
    by_cases hf : lower (e.trimmedAt path) = "false" <;> simp [he, ht, hf]
  | duration d unit =>
    simp only [read?, durationLiteral?, word, takes, isFlag]
    by_cases he : e.trimmedAt path = ""
    · simp [he]
    · cases hn : readWhole? (e.trimmedAt path) <;> simp [he, hn]

/-- The property is read as a string. -/
def IsSymbolic (r : Reader) (e : Element) (path : String) : Prop :=
  ∃ value default ignored, r.read? e path = some (.string value default ignored)

/-- If the property is read as a string, this is the text of the property without the blanks around
it, and what is written for it is one literal of that text. -/
def KeepsText (r : Reader) (e : Element) (path : String) : Prop :=
  ∀ value default ignored, r.read? e path = some (.string value default ignored) →
    ∃ text body, Strips (e.textAt path) text ∧ value = some text ∧
      StringLiteral.bodies? (Literal.string value default ignored).code.toList = some [body] ∧
      StringLiteral.decode? body = some text.toList

theorem word_eq_empty {r : Reader} {s : String} : r.word s = "" ↔ s = "" := by
  unfold word
  split
  · exact lower_eq_empty
  · exact Iff.rfl

theorem isSymbolic_iff {r : Reader} {e : Element} {path : String} : r.IsSymbolic e path ↔
    e.trimmedAt path ≠ "" ∧ r.takes (r.word (e.trimmedAt path)) = false := by
  constructor
  · intro h
    obtain ⟨value, default, ignored, h⟩ := h
    obtain ⟨hne, htakes, -⟩ := read?_eq_string_iff.1 h
    exact ⟨mt word_eq_empty.2 hne, htakes⟩
  · intro h
    exact ⟨_, _, _, read?_eq_string_iff.2 ⟨mt word_eq_empty.1 h.1, h.2, rfl⟩⟩

/-- The text is kept if the word that is taken for it is the text itself. -/
theorem keepsText_iff_word {r : Reader} {e : Element} {path : String} : r.KeepsText e path ↔
    (r.IsSymbolic e path → r.word (e.trimmedAt path) = e.trimmedAt path) := by
  constructor
  · intro hk hs
    obtain ⟨value, default, ignored, h⟩ := hs
    obtain ⟨text, body, hstrip, hv, -⟩ := hk _ _ _ h
    obtain ⟨-, -, htext⟩ := read?_eq_string_iff.1 h
    obtain ⟨hw, -, -⟩ := Literal.string.inj htext
    rw [Option.some_inj.1 (hw.trans hv), strips_iff.1 hstrip, trimmedAt]
  · intro hw value default ignored h
    have hword := hw ⟨_, _, _, h⟩
    obtain ⟨-, -, htext⟩ := read?_eq_string_iff.1 h
    rw [hword] at htext
    obtain ⟨rfl, rfl, rfl⟩ := Literal.string.inj htext
    refine ⟨e.trimmedAt path, StringLiteral.escaped (e.trimmedAt path).toList, strips_iff.2 rfl,
      rfl, ?_, StringLiteral.decode?_escaped _⟩
    exact StringLiteral.bodies?_of_reads (StringLiteral.reads_ofText _)

/-- **Symbolic values.** What is neither blank nor a value is read as a string. Numbers and
durations keep its text. A flag keeps it only if it is the same in lower case. -/
theorem keepsText_iff (r : Reader) (e : Element) (path : String) :
    (r.IsSymbolic e path ↔
      e.trimmedAt path ≠ "" ∧ r.takes (r.word (e.trimmedAt path)) = false) ∧
    (r.KeepsText e path ↔ (r.isFlag = true →
      lower (e.trimmedAt path) = "true" ∨ lower (e.trimmedAt path) = "false" ∨
        lower (e.trimmedAt path) = e.trimmedAt path)) := by
  refine ⟨isSymbolic_iff, ?_⟩
  rw [keepsText_iff_word, isSymbolic_iff]
  cases hr : r.isFlag with
  | false => simp [word, hr]
  | true =>
    simp only [word, takes, hr, if_true, Bool.or_eq_false_iff, beq_eq_false_iff_ne, forall_const]
    constructor
    · intro h
      by_cases ht : lower (e.trimmedAt path) = "true"
      · exact Or.inl ht
      by_cases hf : lower (e.trimmedAt path) = "false"
      · exact Or.inr (Or.inl hf)
      refine Or.inr (Or.inr ?_)
      by_cases he : e.trimmedAt path = ""
      · rw [he, lower_eq_empty.2 rfl]
      · exact h ⟨he, ht, hf⟩
    · intro h hs
      rcases h with ht | hf | he
      · exact absurd ht hs.2.1
      · exact absurd hf hs.2.2
      · exact he

/-- A controller that takes from a property of the test run whether it makes a parent sample. -/
def symbolicParent : Element where
  kind := "TransactionController"
  properties := [("TransactionController.parent", .text " ${__P(Parent)} ")]

/-- The name of the property comes out in lower case, which is the name of another one. -/
theorem not_keepsText_parent :
    ¬ (Reader.bool false).KeepsText symbolicParent "TransactionController.parent" := by
  intro h
  have hword : (Reader.bool false).word (symbolicParent.trimmedAt "TransactionController.parent") =
      "${__p(parent)}" := by decide +kernel
  have hread : (Reader.bool false).read? symbolicParent "TransactionController.parent" =
      some (.string (some "${__p(parent)}") none false) := by
    refine read?_eq_string_iff.2 ⟨?_, ?_, ?_⟩
    · decide +kernel
    · decide +kernel
    · rw [hword, Literal.text]
  obtain ⟨text, body, hstrip, hvalue, -⟩ := h _ _ _ hread
  have htext : text = "${__P(Parent)}" := by
    rw [strips_iff.1 hstrip]
    decide +kernel
  rw [htext] at hvalue
  exact absurd hvalue (by decide)

end Reader
end Element
end PlanCode
