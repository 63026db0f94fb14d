import PlanCode.Datum
import PlanCode.Duration
import PlanCode.Number.Numeral

/-!
# Stages of a load profile

A stage is reached with some threads and lasts for a time or a number of
iterations. Every part is a number or an expression that JMeter evaluates. A
stage of no threads is a delay.

Plain values become stages: numbers have to be whole, text that writes a number
becomes one, blank text is left out and all other text is an expression.

* `isDelay_iff`: only the number zero makes a stage a delay.
-/
namespace PlanCode

/-- A number of threads or iterations. -/
inductive Count where
  | number (n : Int)
  | expression (text : String)
deriving DecidableEq

namespace Count

def text : Count → String
  | .number n => toString n
  | .expression s => s

end Count

/-- A length of time. -/
inductive Span where
  | fixed (d : Duration)
  | expression (text : String)
deriving DecidableEq

namespace Span

/-- Fixed lengths are written in whole seconds. -/
def text : Span → String
  | .fixed d => toString d.wholeSeconds
  | .expression s => s

end Span

structure Stage where
  threads : Count
  duration : Option Span := none
  iterations : Option Count := none
deriving DecidableEq

inductive StageError where
  | missingThreads
  | notANumber (value : Datum)
  | notWhole (d : Number.Double)
  | durationOverflow

namespace StageError

def message : StageError → String
  | .missingThreads => "Stage thread count is required"
  | .notANumber value => "Expected a number or a JMeter expression, got " ++ value.display
  | .notWhole d => "Expected a whole number, got " ++ d.text
  | .durationOverflow => "duration out of range"

end StageError

namespace Stage

def isDelay (s : Stage) : Bool := s.threads == .number 0

theorem isDelay_iff (s : Stage) : s.isDelay = true ↔ s.threads = .number 0 := by
  simp [isDelay]

def wholeDouble (d : Number.Double) : Except StageError Int :=
  match d.whole? with
  | some n => .ok n
  | none => .error (.notWhole d)

/-- A value that has to be a whole number. -/
def wholeNumber : Datum → Except StageError Int
  | .int n => .ok n
  | .real d => wholeDouble d
  | value => .error (.notANumber value)

/-- A trimmed text as a count, none when it is empty. -/
def countOfText (s : String) : Except StageError (Option Count) :=
  if s = "" then .ok none
  else match Number.readWhole? s with
    | some n => .ok (some (.number n))
    | none =>
      match Number.readReal? s with
      | some d => (wholeDouble d).map fun n => some (.number n)
      | none => .ok (some (.expression s))

def countOf : Datum → Except StageError (Option Count)
  | .null => .ok none
  | .text s => countOfText (Text.trim s)
  | value => (wholeNumber value).map fun n => some (.number n)

def spanOfSeconds (n : Int) : Except StageError (Option Span) :=
  match Duration.ofSeconds? n with
  | some d => .ok (some (.fixed d))
  | none => .error .durationOverflow

def spanOf : Datum → Except StageError (Option Span)
  | .null => .ok none
  | .text s => do
    match ← countOfText (Text.trim s) with
    | none => return none
    | some (.number n) => spanOfSeconds n
    | some (.expression e) => return some (.expression e)
  | value => do spanOfSeconds (← wholeNumber value)

/-- A stage from plain values; null is what is not given. -/
def ofValues (threads duration iterations : Datum) : Except StageError Stage := do
  match ← countOf threads with
  | none => throw .missingThreads
  | some threads =>
    let duration ← spanOf duration
    let iterations ← countOf iterations
    return { threads, duration, iterations }

end Stage
end PlanCode
