import PlanCode.Call.Argument
import PlanCode.Proofs.Number.Numeral

/-!
# Integer literals

What a reader of Java finds for integer literals in code, and which of them a
compiler takes. A literal is a word of code that starts with a digit; the minus
in front of it counts as part of it. Without a suffix it has to fit an `int`,
with the suffix `L` a `long`.

* `toList_toString`: a number is written as its literal without a suffix.
* `read?_text`: a written literal is read back.
* `integersIn_call`: the one literal of a call that is given a number.
* `isLegal_ofInt`: for which numbers the literal is one that a compiler takes.
-/
namespace PlanCode.Number

open PlanCode.Text

/-- Digits without a zero in front, which would make them octal. -/
def IsNumeral (s : List Char) : Prop := s ≠ [] ∧ IsDigits s ∧ (s.head? = some '0' → s = ['0'])

instance (s : List Char) : Decidable (IsNumeral s) :=
  have : Decidable (IsDigits s) := List.decidableBAll _ s
  inferInstanceAs (Decidable (_ ∧ _ ∧ (_ → _)))

/-- An integer literal with the minus in front of it. -/
structure JavaInteger where
  negative : Bool
  digits : List Char
  /-- Whether the suffix of a `long` follows. -/
  isLong : Bool
deriving DecidableEq, Repr

namespace JavaInteger

def value (i : JavaInteger) : Int :=
  let magnitude := digitsToNat (i.digits.map fun c => c.toNat - '0'.toNat)
  if i.negative then -magnitude else magnitude

/-- The least number above those of the type. -/
def bound (i : JavaInteger) : Int := if i.isLong then 9223372036854775808 else 2147483648

/-- A compiler takes the literal: it is a decimal numeral, and its value is one of the type. -/
structure IsLegal (i : JavaInteger) : Prop where
  numeral : IsNumeral i.digits
  le_value : -i.bound ≤ i.value
  value_lt : i.value < i.bound

instance (i : JavaInteger) : Decidable i.IsLegal :=
  decidable_of_iff (IsNumeral i.digits ∧ -i.bound ≤ i.value ∧ i.value < i.bound)
    ⟨fun h => ⟨h.1, h.2.1, h.2.2⟩, fun h => ⟨h.1, h.2, h.3⟩⟩

/-! ## The reader -/

/-- The literal that is made of a word, with a minus in front or without. -/
def ofWord (negative : Bool) (word : List Char) : JavaInteger :=
  if word.getLast? = some 'L' then ⟨negative, word.dropLast, true⟩ else ⟨negative, word, false⟩

/-- A text that is one literal. -/
def read? : List Char → Option JavaInteger
  | '-' :: word => checked (ofWord true word)
  | word => checked (ofWord false word)
where
  checked (i : JavaInteger) : Option JavaInteger := if IsNumeral i.digits then some i else none

/-- Where a reader of code stands. -/
inductive Place where
  /-- Behind what belongs to no word, such as a minus. -/
  | between (minus : Bool)
  | name
  /-- In a word that starts with a digit. -/
  | number (minus : Bool) (word : List Char)
deriving DecidableEq, Repr

structure Scan where
  found : List JavaInteger := []
  place : Place := .between false
deriving DecidableEq, Repr

namespace Scan

def isWordChar (c : Char) : Bool := c.isAlphanum || c == '_' || c == '$'

/-- The literals up to here, if the code ends here. -/
def finish (s : Scan) : List JavaInteger :=
  match s.place with
  | .number minus word => s.found ++ [ofWord minus word]
  | _ => s.found

def next (s : Scan) (c : Char) : Scan :=
  if isWordChar c then
    match s.place with
    | .between minus => { s with place := if c.isDigit then .number minus [c] else .name }
    | .name => s
    | .number minus word => { s with place := .number minus (word ++ [c]) }
  else ⟨s.finish, .between (c == '-')⟩

def read (s : Scan) (text : List Char) : Scan := text.foldl next s

theorem read_append (s : Scan) (text more : List Char) :
    s.read (text ++ more) = (s.read text).read more := List.foldl_append

end Scan

/-- The integer literals of code that holds no strings. -/
def integersIn (text : List Char) : List JavaInteger := (({} : Scan).read text).finish

/-! ## Written numbers -/

/-- The literal of a number. -/
def ofInt (n : Int) (isLong : Bool) : JavaInteger :=
  ⟨decide (n < 0), (toString n.natAbs).toList, isLong⟩

/-- The characters behind the minus. -/
def word (i : JavaInteger) : List Char := i.digits ++ (if i.isLong then ['L'] else [])

def text (i : JavaInteger) : List Char := (if i.negative then ['-'] else []) ++ i.word

theorem head_toDigits {n : Nat} (h : 0 < n) : (Nat.toDigits 10 n).head? ≠ some '0' := by
  induction n using Nat.strongRecOn with
  | ind n ih =>
    rw [Nat.toDigits_eq_if (by decide)]
    split
    · rename_i hn
      have hd : ∀ d : Fin 10, 0 < d.val → (d.val).digitChar ≠ '0' := by decide
      have := hd ⟨n, hn⟩ h
      simpa using this
    · have hq := ih (n / 10) (by omega) (by omega)
      obtain ⟨c, rest, hc⟩ := List.exists_cons_of_ne_nil (@Nat.toDigits_ne_nil (n / 10) 10)
      rw [hc] at hq ⊢
      exact hq

theorem isNumeral_toString (n : Nat) : IsNumeral (toString n).toList := by
  refine ⟨?_, isDigits_toString n, fun hh => ?_⟩
  · rw [toList_toString_nat]
    exact Nat.toDigits_ne_nil
  · rw [toList_toString_nat] at hh ⊢
    by_cases hn : 0 < n
    · exact absurd hh (head_toDigits hn)
    · have h0 : n = 0 := by omega
      rw [h0]
      decide

theorem isNumeral_ofInt (n : Int) (isLong : Bool) : IsNumeral (ofInt n isLong).digits :=
  isNumeral_toString n.natAbs

@[simp] theorem value_ofInt (n : Int) (isLong : Bool) : (ofInt n isLong).value = n := by
  have hd : digitsToNat ((toString n.natAbs).toList.map fun c => c.toNat - '0'.toNat) =
      n.natAbs := by
    rw [toList_toString_nat]
    exact digitsToNat_toDigits n.natAbs
  unfold value ofInt
  rw [hd]
  by_cases hn : n < 0
  · simp only [hn, decide_true, if_true]
    omega
  · simp only [hn, decide_false, Bool.false_eq_true, if_false]
    omega

theorem isLegal_ofInt {n : Int} {isLong : Bool} : (ofInt n isLong).IsLegal ↔
    -(ofInt n isLong).bound ≤ n ∧ n < (ofInt n isLong).bound := by
  constructor
  · intro h
    have h1 := h.le_value
    have h2 := h.value_lt
    rw [value_ofInt] at h1 h2
    exact ⟨h1, h2⟩
  · intro h
    refine ⟨isNumeral_ofInt n isLong, ?_, ?_⟩
    · rw [value_ofInt]
      exact h.1
    · rw [value_ofInt]
      exact h.2

/-- A number is written as its literal without a suffix. -/
theorem toList_toString (n : Int) : (toString n).toList = (ofInt n false).text := by
  cases n with
  | ofNat n =>
    have hn : ¬ Int.ofNat n < 0 := by simp
    simp only [text, word, ofInt, hn, decide_false, Bool.false_eq_true, if_false, List.nil_append,
      List.append_nil]
    rfl
  | negSucc n =>
    have hn : Int.negSucc n < 0 := Int.negSucc_lt_zero n
    rw [toList_toString_negSucc]
    simp [text, word, ofInt, hn]

/-- A `long` is written as its literal, with a suffix where it does not fit an `int`. -/
theorem toList_longText (n : Int) : (Literal.longText n).toList =
    (ofInt n (decide (2147483647 < n.natAbs))).text := by
  unfold Literal.longText
  split
  · rename_i h
    have hs : (s!"{n}L").toList = (toString n).toList ++ ['L'] := by simp [toString]
    rw [decide_eq_true h, hs, toList_toString]
    simp [text, word, ofInt]
  · rename_i h
    rw [decide_eq_false h, toList_toString]

/-! ## Reading written numbers -/

section

variable {i : JavaInteger} (h : IsNumeral i.digits)

include h

theorem ofWord_word : ofWord i.negative i.word = i := by
  obtain ⟨negative, digits, isLong⟩ := i
  have hd : digits.getLast? ≠ some 'L' := by
    intro hl
    exact absurd (h.2.1 'L' (List.mem_of_mem_getLast? hl)) (by decide)
  unfold ofWord word
  cases isLong with
  | true => simp
  | false => simp [hd]

/-- A literal starts with a digit behind its minus. -/
theorem exists_word : ∃ c rest, i.word = c :: rest ∧ c.isDigit = true := by
  obtain ⟨hne, hd, -⟩ := h
  obtain ⟨c, rest, hc⟩ := List.exists_cons_of_ne_nil hne
  refine ⟨c, rest ++ (if i.isLong then ['L'] else []), ?_, ?_⟩
  · rw [word, hc, List.cons_append]
  · exact hd c (by rw [hc]; exact List.mem_cons_self ..)

/-- A written literal is read back. -/
theorem read?_text : read? i.text = some i := by
  have hchecked : read?.checked i = some i := if_pos h
  have hw := ofWord_word h
  obtain ⟨c, rest, hc, hd⟩ := exists_word h
  unfold text
  cases hn : i.negative with
  | true =>
    rw [hn] at hw
    rw [if_pos rfl, List.singleton_append, read?, hw, hchecked]
  | false =>
    rw [hn] at hw
    have hm : c ≠ '-' := by
      intro he
      rw [he] at hd
      exact absurd hd (by decide)
    rw [if_neg (by decide), List.nil_append, hc, read?, ← hc, hw, hchecked]
    intro rest' he
    exact hm (List.cons.inj he).1

theorem isWordChar_of_mem_word {c : Char} (hc : c ∈ i.word) : Scan.isWordChar c = true := by
  rcases List.mem_append.1 hc with hc | hc
  · have hd := h.2.1 c hc
    simp [Scan.isWordChar, Char.isAlphanum, hd]
  · split at hc
    · rw [List.mem_singleton.1 hc]
      decide
    · cases hc

end

namespace Scan

/-- A word goes on as long as its characters do. -/
theorem read_number (found : List JavaInteger) (minus : Bool) (word : List Char) {more : List Char}
    (h : ∀ c ∈ more, isWordChar c = true) :
    Scan.read ⟨found, .number minus word⟩ more = ⟨found, .number minus (word ++ more)⟩ := by
  induction more generalizing word with
  | nil => simp [Scan.read]
  | cons c more ih =>
    obtain ⟨hc, hmore⟩ := List.forall_mem_cons.1 h
    have hn : Scan.next ⟨found, .number minus word⟩ c = ⟨found, .number minus (word ++ [c])⟩ := by
      simp [Scan.next, hc]
    rw [Scan.read, List.foldl_cons, hn]
    have := ih (word ++ [c]) hmore
    rwa [List.append_assoc] at this

theorem read_text {i : JavaInteger} (h : IsNumeral i.digits) (found : List JavaInteger) :
    Scan.read ⟨found, .between false⟩ i.text = ⟨found, .number i.negative i.word⟩ := by
  obtain ⟨c, rest, hw, hd⟩ := exists_word h
  have hword : ∀ c ∈ i.word, isWordChar c = true := fun c => isWordChar_of_mem_word h
  rw [hw, List.forall_mem_cons] at hword
  have hfirst : ∀ minus, Scan.read ⟨found, .between minus⟩ i.word =
      ⟨found, .number minus i.word⟩ := by
    intro minus
    have hn : Scan.next ⟨found, .between minus⟩ c = ⟨found, .number minus [c]⟩ := by
      simp [Scan.next, hword.1, hd]
    rw [hw, Scan.read, List.foldl_cons, hn]
    exact read_number found minus [c] hword.2
  unfold text
  cases i.negative with
  | true =>
    have hn : Scan.read ⟨found, .between false⟩ ['-'] = ⟨found, .between true⟩ := by
      simp [Scan.read, Scan.next, isWordChar, finish]
    rw [if_pos rfl, read_append, hn, hfirst true]
  | false =>
    rw [if_neg (by decide), List.nil_append, hfirst false]

end Scan

/-- A literal with nothing around it. -/
theorem integersIn_text {i : JavaInteger} (h : IsNumeral i.digits) : integersIn i.text = [i] := by
  unfold integersIn
  rw [Scan.read_text h]
  exact congrArg List.singleton (ofWord_word h)

/-- The literal that a call is given. -/
theorem integersIn_call {callee : List Char} (hc : ({} : Scan).read callee = {})
    {i : JavaInteger} (h : IsNumeral i.digits) : integersIn (callee ++ i.text ++ [')']) = [i] := by
  have hclose : Scan.read ⟨[], .number i.negative i.word⟩ [')'] = ⟨[i], .between false⟩ := by
    simp [Scan.read, Scan.next, Scan.isWordChar, Scan.finish, ofWord_word h]
  unfold integersIn
  rw [Scan.read_append, Scan.read_append, hc, Scan.read_text h, hclose]
  rfl

end JavaInteger
end PlanCode.Number
