import Mathlib.Data.List.Basic
import PlanCode.Proofs.Expression.Mask

/-!
# Operands

The Groovy code of an operand is made of three literals between single quotes:
the masked expression, the mask, and the dollar sign that takes the place of the
mask before the text is handed over to JMeter. Here the code is read as Groovy
does.

* `literal?_quoted`: a quoted text is read as itself.
* `groovyInt_eq`: the literals of an operand.
* `operandText?_groovyInt`: the text that JMeter is handed.
-/
namespace PlanCode.Expression

open PlanCode.Text

/-! ## Groovy literals -/

/-- The rest of a literal behind its opening quote: its value, and the code behind the closing
quote. A backslash stands before a backslash or a quote; line feeds cannot stand in a literal. -/
def inLiteral? : List Char → Option (List Char × List Char)
  | [] => none
  | '\'' :: code => some ([], code)
  | '\\' :: c :: code =>
    if c = '\\' || c = '\'' then (inLiteral? code).map fun (text, code) => (c :: text, code)
    else none
  | c :: code =>
    if c = '\\' || c = '\n' then none
    else (inLiteral? code).map fun (text, code) => (c :: text, code)

/-- A literal at the start of some code: its value, and the code behind it. -/
def literal? : List Char → Option (List Char × List Char)
  | '\'' :: code => inLiteral? code
  | _ => none

def quoted (text : List Char) : List Char := '\'' :: groovyEscaped text ++ ['\'']

theorem inLiteral?_groovyEscaped {text : List Char} (h : '\n' ∉ text) (code : List Char) :
    inLiteral? (groovyEscaped text ++ '\'' :: code) = some (text, code) := by
  induction text with
  | nil => simp [groovyEscaped, inLiteral?]
  | cons c text ih =>
    rw [List.mem_cons, not_or] at h
    have ih := ih h.2
    rw [groovyEscaped, List.flatMap_cons, List.append_assoc, ← groovyEscaped]
    by_cases hb : c = '\\'
    · subst hb
      simp [inLiteral?, ih]
    by_cases hq : c = '\''
    · subst hq
      simp [inLiteral?, ih]
    simp [inLiteral?, ih, hb, hq, Ne.symm h.1]

theorem literal?_quoted {text : List Char} (h : '\n' ∉ text) (code : List Char) :
    literal? (quoted text ++ code) = some (text, code) := by
  rw [quoted, List.append_assoc]
  exact inLiteral?_groovyEscaped h code

/-! ## Operands -/

/-- The code around the literals of an operand. -/
def operandHead : List Char := "(new org.apache.jmeter.engine.util.CompoundVariable(".toList
def operandReplace : List Char := ".replace(".toList
def operandTail : List Char := ")).execute() as int)".toList

/-- The text that an operand hands over to JMeter: a literal, in which every occurrence of a second
one is replaced by a third. -/
def operandText? (code : List Char) : Option (List Char) := do
  let code ← operandHead.isPrefixOf? code
  let (text, code) ← literal? code
  let code ← operandReplace.isPrefixOf? code
  let (old, code) ← literal? code
  let code ← [','].isPrefixOf? code
  let (new, code) ← literal? code
  if code = operandTail then return replaceAll old new text else none

/-- The code of an operand. -/
def operand (text old new : List Char) : List Char :=
  operandHead ++ (quoted text ++ (operandReplace ++ (quoted old ++
    ([','] ++ (quoted new ++ operandTail)))))

theorem isPrefixOf?_append (p s : List Char) : p.isPrefixOf? (p ++ s) = some s :=
  List.isPrefixOf?_eq_some_iff_append_eq.2 rfl

theorem operandText?_operand {text old new : List Char} (ht : '\n' ∉ text) (ho : '\n' ∉ old)
    (hn : '\n' ∉ new) : operandText? (operand text old new) = some (replaceAll old new text) := by
  rw [operandText?, operand]
  simp only [Option.bind_eq_bind, Option.bind_some, isPrefixOf?_append, literal?_quoted ht,
    literal?_quoted ho, literal?_quoted hn, if_true, Option.pure_def]

theorem groovyEscaped_mask (s : List Char) : groovyEscaped (mask s) = mask s := by
  unfold mask
  generalize signsBeforeBrace 0 s + 1 = n
  induction n with
  | zero => rfl
  | succ n ih => simpa [groovyEscaped, List.replicate_succ] using ih

theorem groovyInt_eq (s : List Char) : groovyInt s = operand (masked s) (mask s) ['$'] := by
  have parts : ∀ head between tail, head = operandHead ++ ['\''] →
      between = '\'' :: (operandReplace ++ ['\'']) →
      tail = '\'' :: ([','] ++ (quoted ['$'] ++ operandTail)) →
      head ++ groovyEscaped (masked s) ++ between ++ mask s ++ tail =
        operand (masked s) (mask s) ['$'] := by
    rintro _ _ _ rfl rfl rfl
    simp [operand, quoted, groovyEscaped_mask]
  exact parts _ _ _ (by decide) (by decide) (by decide)

theorem feed_not_mem_masked {s : List Char} (h : '\n' ∉ s) : '\n' ∉ masked s := by
  intro hm
  rcases mem_replaceAll hm with hm | hm
  · simp [mask] at hm
  · exact h hm

theorem operandText?_groovyInt {s : List Char} (h : '\n' ∉ s) :
    operandText? (groovyInt s) = some (replaceAll (mask s) ['$'] (masked s)) := by
  rw [groovyInt_eq]
  exact operandText?_operand (feed_not_mem_masked h) (by simp [mask]) (by decide)

end PlanCode.Expression
