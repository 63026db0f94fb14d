import PlanCode.Convert.Basic

/-!
# Converting timers and listeners

Elements whose calls take no children.
-/
namespace PlanCode.Convert

def timerDelayKey : String := "ConstantTimer.delay"

/-- A timer stores its delay in milliseconds. -/
def constantTimer (surface : Surface) (e : Element) : Conversion := do
  let delay ← inRange (e.durationLiteral? timerDelayKey (some Duration.zero) Duration.milli)
  start surface "constantTimer" (literals [delay])

def resultsTree (surface : Surface) (_ : Element) : Conversion :=
  start surface "resultsTreeVisualizer" []

end PlanCode.Convert
