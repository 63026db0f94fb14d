import PlanCode.Profile.Stage
import PlanCode.Text.Replace

/-!
# Stages on the command line

A stage is given as `THREADS[:DURATION[:ITERATIONS]]`: at most three parts
between colons, the first of them not blank. Durations are seconds.
-/
namespace PlanCode.StageOption

inductive OptionError where
  /-- Too many parts, or no threads. -/
  | badForm (value : String)
  | badStage (value : String) (e : StageError)

def OptionError.message : OptionError → String
  | .badForm value =>
    "Invalid stage '" ++ value ++ "', expected THREADS[:DURATION[:ITERATIONS]]"
  | .badStage value e => "Invalid stage '" ++ value ++ "': " ++ e.message

def parts (value : String) : List String :=
  (Text.splitOnChar ':' value.toList).map String.ofList

def read (value : String) : Except OptionError Stage :=
  let stage (threads duration iterations : String) : Except OptionError Stage :=
    if Text.trim threads = "" then .error (.badForm value)
    else (Stage.ofValues (.text threads) (.text duration) (.text iterations)).mapError
      (.badStage value)
  match parts value with
  | [threads] => stage threads "" ""
  | [threads, duration] => stage threads duration ""
  | [threads, duration, iterations] => stage threads duration iterations
  | _ => .error (.badForm value)

end PlanCode.StageOption
