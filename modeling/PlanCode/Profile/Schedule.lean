import PlanCode.Element.Basic
import PlanCode.Profile.Expression
import PlanCode.Profile.Stage

/-!
# Schedules of a thread group

A thread group runs some threads, reached over a ramp-up, for a duration or a
number of iterations, after a delay. Up to three stages make a schedule: a delay
stage first if there is one, then a stage that ramps up and a stage that holds.
Stages after those do not count.

The duration of a thread group runs from the start of the ramp-up, so the time
of a holding stage is added to it. Where one of the two is an expression, JMeter
evaluates the sum.

* `ofStages_nil`: no stages make the plain schedule of one thread and one iteration.
-/
namespace PlanCode

structure Schedule where
  threads : Count := .number 1
  /-- None to go on until the duration is over. -/
  iterations : Option Count := some (.number 1)
  rampUp : Option Span := none
  duration : Option Span := none
  delay : Option Span := none
deriving DecidableEq

namespace Span

/-- The sum of two lengths of time; none when it leaves the range of durations. -/
def add? : Span → Span → Option Span
  | .fixed a, .fixed b => (a.add? b).map .fixed
  | a, b => some (.expression (Expression.sum a.text b.text))

def isZero : Span → Bool
  | .fixed d => d.isZero
  | .expression _ => false

end Span

namespace Schedule

/-- What the first stage alone says. -/
def initial (first : Stage) : Schedule :=
  if first.isDelay then { delay := first.duration }
  else if first.iterations.isNone then
    { threads := first.threads, iterations := none, rampUp := first.duration }
  else { threads := first.threads, iterations := first.iterations, duration := first.duration }

/-- What the stages say, the time of a holding stage counted from the end of the ramp-up. -/
def ofStagesWithoutRampUp : List Stage → Schedule
  | [] => {}
  | [first] => initial first
  | first :: second :: rest =>
    let s := { initial first with threads := second.threads, iterations := second.iterations }
    if first.isDelay then
      let s := { s with rampUp := second.duration }
      match rest with
      | [] => s
      | third :: _ => { s with duration := third.duration, iterations := third.iterations }
    else { s with duration := second.duration }

/-- Lets the duration start with the ramp-up; none when it leaves the range of durations. -/
def includeRampUp? (s : Schedule) : Option Schedule :=
  match s.rampUp with
  | none => some s
  | some rampUp =>
    if rampUp.isZero then some s
    else match s.duration, s.iterations with
      | some d, _ => (d.add? rampUp).map fun sum => { s with duration := some sum }
      | none, none => some { s with duration := some rampUp }
      | none, some _ => some s

/-- The schedule of a list of stages; none when a sum leaves the range of durations. -/
def ofStages? (stages : List Stage) : Option Schedule :=
  match stages with
  | [] => some {}
  | stages => (ofStagesWithoutRampUp stages).includeRampUp?

theorem ofStages_nil : ofStages? [] = some {} := rfl

/-! ## The thread group of a schedule -/

def threadsKey : String := "ThreadGroup.num_threads"
def rampTimeKey : String := "ThreadGroup.ramp_time"
def durationKey : String := "ThreadGroup.duration"
def delayKey : String := "ThreadGroup.delay"
def schedulerKey : String := "ThreadGroup.scheduler"
def mainControllerKey : String := "ThreadGroup.main_controller"
def sameUserKey : String := "ThreadGroup.same_user_on_next_iteration"
def loopsKey : String := "LoopController.loops"
def continueForeverKey : String := "LoopController.continue_forever"

/-- The name of a thread group that is given none. -/
def defaultName : String := "Thread Group"

def loopController (s : Schedule) : Element :=
  let e : Element :=
    { kind := "LoopController", name := "Loop Controller", gui := "LoopControlPanel" }
  (e.setFlag continueForeverKey false).setText loopsKey ((s.iterations.map Count.text).getD "-1")

/-- The thread group element that runs a schedule. -/
def toElement (s : Schedule) (name : Option String := none) : Element :=
  let given := match name with
    | none => defaultName
    | some n => if n = "" then defaultName else n
  let e : Element := { kind := "ThreadGroup", name := given, gui := "ThreadGroupGui" }
  let e := e.setText threadsKey s.threads.text
  let e := e.setText rampTimeKey ((s.rampUp.map Span.text).getD "0")
  let e := e.set mainControllerKey (.element s.loopController)
  let e := match s.duration with
    | some d => e.setText durationKey d.text
    | none => e
  let e := match s.delay with
    | some d => e.setText delayKey d.text
    | none => e
  let e := e.setFlag schedulerKey (s.duration.isSome || s.delay.isSome)
  e.setFlag sameUserKey false

end Schedule
end PlanCode
