import PlanCode.Convert.Basic
import PlanCode.Profile.Schedule

/-!
# Converting thread groups

A thread group without ramp-up and delay, of literal values, becomes one flat
call. Any other schedule is chained: `holdFor` waits for the delay, `rampTo`,
`holdIterating` and `upTo` run iterations, and `rampToAndHold` runs for a time.
In the chained form durations are counted from the end of the ramp-up.
-/
namespace PlanCode.Convert

open Schedule

/-- What a thread group's properties say, as arguments. -/
structure ThreadGroupArguments where
  name : Literal
  threads : Literal
  rampUp : Literal
  duration : Literal
  delay : Literal
  iterations : Literal

def isInt : Literal → Bool
  | .int .. => true
  | _ => false

def isDuration : Literal → Bool
  | .duration .. => true
  | _ => false

def isDefaultOrZero (l : Literal) : Bool := l.isDefault || l.isZeroDuration

def noDuration : Literal := .duration none none

/-- Reads a thread group. Duration and delay count while the scheduler is on, which it is unless
said otherwise; a ramp-up that is not given takes a second; iterations go on forever unless
given. -/
def threadGroupArguments (e : Element) : Except ConversionError ThreadGroupArguments := do
  let rampUp ← inRange (e.durationLiteral? rampTimeKey (some Duration.second))
  let scheduled := e.flagAt schedulerKey true
  let duration ← if scheduled then inRange (e.durationLiteral? durationKey) else pure noDuration
  let delay ← if scheduled then inRange (e.durationLiteral? delayKey) else pure noDuration
  return {
    name := e.nameLiteral defaultName
    threads := e.intLiteral threadsKey
    rampUp
    duration
    delay
    iterations := e.intLiteral (mainControllerKey ++ "/" ++ loopsKey) (some (-1)) }

/-- Whether the whole schedule fits one flat call. -/
def ThreadGroupArguments.isFlat (a : ThreadGroupArguments) : Bool :=
  isInt a.threads && isDuration a.duration && isInt a.iterations &&
    isDefaultOrZero a.rampUp && isDefaultOrZero a.delay &&
    (isDefaultOrZero a.duration || a.iterations.isDefault)

/-- A value as a string argument. -/
def asString (l : Literal) : Literal := .string l.expression none false

/-- Threads, ramp-up and duration are all literal, or all become strings. -/
def ThreadGroupArguments.uniform (a : ThreadGroupArguments) : ThreadGroupArguments :=
  if isInt a.threads && isDuration a.rampUp && isDuration a.duration then a
  else { a with threads := asString a.threads, rampUp := asString a.rampUp,
                duration := asString a.duration }

/-- Said where the time to hold cannot be computed. -/
def holdRemark : String :=
  "To keep generated DSL simple, the original duration is used as hold for time. " ++
    "But, you should use as hold for time the original duration - ramp up period."

/-- The time to hold after the ramp-up, and the call that it is an argument of, with a remark where
the time is not exact. -/
def holdTime (a : ThreadGroupArguments) (d : Draft Node) :
    Except ConversionError (Literal × Draft Node) :=
  match a.duration, a.rampUp with
  | .duration (some total) _, .duration (some ramp) _ =>
    if a.rampUp.isDefault then .ok (.duration (some total) none, d)
    else match total.sub? ramp with
      | some rest => .ok (.duration (some rest) none, d)
      | none => .error .durationOverflow
  | duration, rampUp =>
    .ok (duration, if isDefaultOrZero rampUp then d else d.append (.comment holdRemark))

def threadGroup (surface : Surface) (e : Element) : Conversion := do
  let a ← threadGroupArguments e
  if a.isFlat then
    let length := if isDefaultOrZero a.duration then a.iterations else a.duration
    start surface "threadGroup"
      (literals [a.name, a.threads, length] ++ [noChildren "ThreadGroupChild[]"])
  else
    let a := a.uniform
    let d ← start surface "threadGroup" (literals [a.name])
    let d ← if isDefaultOrZero a.delay then pure d else chain surface "holdFor" [a.delay] d
    if !a.iterations.isDefault || isDefaultOrZero a.duration then
      let d ← chain surface "rampTo" [a.threads, a.rampUp] d
      let iterations := if a.iterations.isDefault then .number (-1) else a.iterations
      let d ← chain surface "holdIterating" [iterations] d
      if isDefaultOrZero a.duration then return d
      else
        let (hold, d) ← holdTime a d
        chain surface "upTo" [hold] d
    else
      let (hold, d) ← holdTime a d
      chain surface "rampToAndHold" [a.threads, a.rampUp, hold] d

end PlanCode.Convert
