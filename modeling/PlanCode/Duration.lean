import PlanCode.Number.Double

/-!
# Durations

A length of time in whole microseconds, maybe negative, of less than
1000000000 days. Sums and multiples that leave this range are refused.

* `ofMicros?_eq_some_iff`: exactly the counts in range are durations.
* `micros_ofSeconds?`: a duration of whole seconds has a million times as many microseconds.
-/
namespace PlanCode

/-- Microseconds of the least duration, and the first count above the greatest one. -/
def Duration.minMicros : Int := -86399999913600000000
def Duration.endMicros : Int := 86400000000000000000

structure Duration where
  micros : Int
  min_le : Duration.minMicros ≤ micros
  lt_end : micros < Duration.endMicros
deriving DecidableEq

namespace Duration

theorem eq_of_micros {a b : Duration} (h : a.micros = b.micros) : a = b := by
  cases a
  cases b
  cases h
  rfl

def ofMicros? (n : Int) : Option Duration :=
  if h : minMicros ≤ n ∧ n < endMicros then some ⟨n, h.1, h.2⟩ else none

theorem ofMicros?_eq_some_iff {n : Int} {d : Duration} :
    ofMicros? n = some d ↔ d.micros = n := by
  unfold ofMicros?
  constructor
  · intro h
    split at h
    · simp only [Option.some.injEq] at h; rw [← h]
    · simp at h
  · intro h
    subst h
    rw [dif_pos ⟨d.min_le, d.lt_end⟩]

def ofSeconds? (n : Int) : Option Duration := ofMicros? (n * 1000000)

theorem micros_ofSeconds? {n : Int} {d : Duration} (h : ofSeconds? n = some d) :
    d.micros = n * 1000000 := ofMicros?_eq_some_iff.1 h

def zero : Duration := ⟨0, by decide, by decide⟩
def second : Duration := ⟨1000000, by decide, by decide⟩
def milli : Duration := ⟨1000, by decide, by decide⟩

instance : Inhabited Duration := ⟨zero⟩

def isZero (d : Duration) : Bool := d.micros == 0

theorem isZero_of_micros {d : Duration} {n : Int} (h : d.micros = n * 1000000) :
    d.isZero = decide (n = 0) := by
  rw [isZero, h, Bool.beq_eq_decide_eq]
  exact decide_eq_decide.2 (by omega)

def add? (a b : Duration) : Option Duration := ofMicros? (a.micros + b.micros)
def sub? (a b : Duration) : Option Duration := ofMicros? (a.micros - b.micros)

/-- The duration `n` times over. -/
def times? (d : Duration) (n : Int) : Option Duration := ofMicros? (d.micros * n)

/-- The number of whole seconds, towards zero. The seconds are first rounded to a double, which
matters from about a hundred thousand years on. -/
def wholeSeconds (d : Duration) : Int :=
  ((Number.Double.ofRatio (d.micros < 0) d.micros.natAbs 1000000).truncate?).getD 0

/-- The number of whole milliseconds, rounded down. -/
def wholeMillis (d : Duration) : Int := d.micros / 1000

/-- The Java expression for a duration: the coarsest factory whose unit divides the whole
milliseconds. -/
def code (d : Duration) : String :=
  if d.isZero then "Duration.ZERO"
  else
    let millis := d.wholeMillis
    if millis % 1000 ≠ 0 then s!"Duration.ofMillis({millis})"
    else
      let seconds := millis / 1000
      if seconds % 60 ≠ 0 then s!"Duration.ofSeconds({seconds})"
      else
        let minutes := seconds / 60
        if minutes % 60 ≠ 0 then s!"Duration.ofMinutes({minutes})"
        else
          let hours := minutes / 60
          if hours % 24 ≠ 0 then s!"Duration.ofHours({hours})"
          else s!"Duration.ofDays({hours / 24})"

end Duration
end PlanCode
