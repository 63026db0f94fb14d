/-!
# Blank characters

The characters that count as blank around and between words: the Unicode
white space characters together with the four information separators.

* `isBlank_of_isWhitespace`: core's ASCII white space is blank.
* `trimChars_blank`: blank text trims to nothing.
* `words_blank`: and has no words.
-/
namespace PlanCode.Text

def isBlank (c : Char) : Bool :=
  let n := c.toNat
  (9 ≤ n && n ≤ 13) || (28 ≤ n && n ≤ 32) || n == 0x85 || n == 0xA0 || n == 0x1680 ||
    (0x2000 ≤ n && n ≤ 0x200A) || n == 0x2028 || n == 0x2029 || n == 0x202F || n == 0x205F ||
    n == 0x3000

/-- A text without the blanks at its two ends. -/
def trimChars (s : List Char) : List Char :=
  ((s.dropWhile isBlank).reverse.dropWhile isBlank).reverse

def trim (s : String) : String := String.ofList (trimChars s.toList)

theorem isBlank_of_isWhitespace {c : Char} (h : c.isWhitespace = true) : isBlank c = true := by
  simp only [Char.isWhitespace, Bool.or_eq_true, decide_eq_true_eq] at h
  rcases h with ((h | h) | h) | h <;> subst h <;> decide

theorem trimChars_blank {s : List Char} (h : ∀ c ∈ s, isBlank c = true) : trimChars s = [] := by
  have : s.dropWhile isBlank = [] := by
    induction s with
    | nil => rfl
    | cons c rest ih =>
      simp only [List.mem_cons, forall_eq_or_imp] at h
      simp [List.dropWhile, h.1, ih h.2]
  simp [trimChars, this]

/-- The words of a text; `seen` holds the word that is being read, last character first. -/
def wordsFrom (seen : List Char) : List Char → List (List Char)
  | [] => if seen.isEmpty then [] else [seen.reverse]
  | c :: rest =>
    if !isBlank c then wordsFrom (c :: seen) rest
    else if seen.isEmpty then wordsFrom [] rest
    else seen.reverse :: wordsFrom [] rest

/-- The longest parts of a text without blanks. -/
def words (s : List Char) : List (List Char) := wordsFrom [] s

theorem words_blank {s : List Char} (h : ∀ c ∈ s, isBlank c = true) : words s = [] := by
  unfold words
  induction s with
  | nil => rfl
  | cons c rest ih =>
    simp only [List.mem_cons, forall_eq_or_imp] at h
    simp [wordsFrom, h.1, ih h.2]

end PlanCode.Text
