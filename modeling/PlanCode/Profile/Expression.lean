import PlanCode.Text.Replace

/-!
# Expressions that JMeter evaluates

A function call such as `${__P(users,5)}` holds its arguments between commas; a
comma inside an argument is escaped. Expressions are summed by a Groovy function.
JMeter would expand a `${` inside that function too early, so every `${` of the
operands is masked by number signs and a brace, with one sign more than stands
before any brace of the operand already, and put back when the function runs.

* `mask_ne_nil`: a mask has at least one number sign.
-/
namespace PlanCode.Expression

open PlanCode.Text

def escapeCommas (s : List Char) : List Char :=
  s.flatMap fun c => if c = ',' then ['\\', ','] else [c]

/-- A call of a JMeter function. -/
def callChars (name : List Char) (arguments : List (List Char)) : List Char :=
  ['$', '\x7b'] ++ name ++ '(' :: [','].intercalate (arguments.map escapeCommas) ++ [')', '\x7d']

def call (name : String) (arguments : List String) : String :=
  String.ofList (callChars name.toList (arguments.map String.toList))

/-- The longest run of number signs right before a brace; `run` signs stand before the text. -/
def signsBeforeBrace (run : Nat) : List Char → Nat
  | [] => 0
  | c :: rest =>
    if c = '#' then signsBeforeBrace (run + 1) rest
    else if c = '\x7b' then max run (signsBeforeBrace 0 rest)
    else signsBeforeBrace 0 rest

/-- The signs that stand for the dollar sign of an expression while it is masked. -/
def mask (s : List Char) : List Char := List.replicate (signsBeforeBrace 0 s + 1) '#'

def masked (s : List Char) : List Char := replaceAll ['$', '\x7b'] (mask s ++ ['\x7b']) s

/-- Escapes for a Groovy literal between single quotes. -/
def groovyEscaped (s : List Char) : List Char :=
  s.flatMap fun c => if c = '\\' || c = '\'' then ['\\', c] else [c]

/-- Groovy code for the whole number that an expression evaluates to. -/
def groovyInt (s : List Char) : List Char :=
  "(new org.apache.jmeter.engine.util.CompoundVariable('".toList ++ groovyEscaped (masked s) ++
    "'.replace('".toList ++ mask s ++ "','$')).execute() as int)".toList

/-- The sum of two expressions, evaluated when the plan runs. -/
def sum (a b : String) : String :=
  String.ofList (callChars "__groovy".toList
    [groovyInt a.toList ++ " + ".toList ++ groovyInt b.toList])

theorem mask_ne_nil (s : List Char) : mask s ≠ [] := by simp [mask]

end PlanCode.Expression
