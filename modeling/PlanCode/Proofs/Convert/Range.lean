import PlanCode.Convert.Kind
import PlanCode.Proofs.Yields

/-!
# Times out of range

A time of an element that is written as a number has to be a duration. Three
times of a thread group are read as they are; the fourth, the time to hold, is
the difference of two of them and may be out of range where both are in it.

* `durationLiteral?_eq_none`: which properties are no times.
* `ends_threadGroupArguments`: how the properties of a thread group are read.
* `Reads.holdIs_iff`: what the time to hold is, once they are read.
* `scheduleIsBeyond_iff`: what can be out of range once they are read.
-/
namespace PlanCode

/-- No duration has this number of microseconds. -/
def Duration.IsBeyond (micros : Int) : Prop := micros < minMicros ∨ endMicros ≤ micros

theorem Duration.ofMicros?_eq_none {n : Int} : ofMicros? n = none ↔ IsBeyond n := by
  unfold ofMicros? IsBeyond
  split
  · rename_i h
    exact iff_of_false (by simp) (by omega)
  · rename_i h
    exact iff_of_true rfl (by omega)

theorem Duration.not_isBeyond (d : Duration) : ¬ IsBeyond d.micros := by
  have := d.min_le
  have := d.lt_end
  unfold IsBeyond
  omega

namespace Element

/-- A property writes a number of units that no duration has. -/
def IsBeyond (e : Element) (path : String) (unit : Duration := Duration.second) : Prop :=
  ∃ n, Number.readWhole? (e.trimmedAt path) = some n ∧ Duration.IsBeyond (unit.micros * n)

/-- The time to hold of a thread group is out of range: it is the difference of the duration and the
ramp-up where these and the threads are written as numbers, unless the duration is zero or the
ramp-up is the usual second. -/
def HoldIsBeyond (e : Element) : Prop :=
  (e.trimmedAt Schedule.threadsKey = "" ∨
    ∃ n, Number.readWhole? (e.trimmedAt Schedule.threadsKey) = some n) ∧
  ∃ total ramp, Number.readWhole? (e.trimmedAt Schedule.durationKey) = some total ∧
    Number.readWhole? (e.trimmedAt Schedule.rampTimeKey) = some ramp ∧ total ≠ 0 ∧ ramp ≠ 1 ∧
    Duration.IsBeyond (1000000 * (total - ramp))

/-- The time to hold of a thread group is computed, and its microseconds satisfy `P`. It is the
difference of the duration and the ramp-up where these and the threads are written as numbers,
unless the duration is zero or the ramp-up is the usual second. -/
def HoldIs (e : Element) (P : Int → Prop) : Prop :=
  (e.trimmedAt Schedule.threadsKey = "" ∨
    ∃ n, Number.readWhole? (e.trimmedAt Schedule.threadsKey) = some n) ∧
  ∃ total ramp, Number.readWhole? (e.trimmedAt Schedule.durationKey) = some total ∧
    Number.readWhole? (e.trimmedAt Schedule.rampTimeKey) = some ramp ∧ total ≠ 0 ∧ ramp ≠ 1 ∧
    P (1000000 * (total - ramp))

/-- A property is blank or holds a whole number. -/
def IsPlain (e : Element) (path : String) : Prop :=
  e.trimmedAt path = "" ∨ ∃ n, Number.readWhole? (e.trimmedAt path) = some n

/-- A time that counts while the scheduler is on is given and is no zero; it may be an
expression. -/
def Counts (e : Element) (path : String) : Prop :=
  e.flagAt Schedule.schedulerKey true = true ∧ e.trimmedAt path ≠ "" ∧
    Number.readWhole? (e.trimmedAt path) ≠ some 0

/-- A time of a thread group is out of range; duration and delay count while the scheduler is on. -/
def ScheduleIsBeyond (e : Element) : Prop :=
  e.IsBeyond Schedule.rampTimeKey ∨ e.flagAt Schedule.schedulerKey true = true ∧
    (e.IsBeyond Schedule.durationKey ∨ e.IsBeyond Schedule.delayKey ∨ e.HoldIsBeyond)

variable {e : Element} {path : String} {default : Option Duration} {unit : Duration}

theorem readWhole?_empty : Number.readWhole? "" = none := by decide

theorem ne_empty_of_number {n : Int} (h : Number.readWhole? (e.trimmedAt path) = some n) :
    e.trimmedAt path ≠ "" := by
  intro he
  rw [he, readWhole?_empty] at h
  cases h

theorem durationLiteral?_eq_none :
    e.durationLiteral? path default unit = none ↔ e.IsBeyond path unit := by
  unfold durationLiteral? IsBeyond
  dsimp only
  split
  · rename_i he
    simp [he, readWhole?_empty]
  · cases hn : Number.readWhole? (e.trimmedAt path) with
    | none => simp
    | some n => simp [Duration.times?, Duration.ofMicros?_eq_none]

/-- What a property becomes that is a time: a number of units, or a text. -/
theorem durationLiteral?_eq_some {l : Literal}
    (h : e.durationLiteral? path default unit = some l) :
    (e.trimmedAt path = "" ∧ l = .duration default default) ∨
      (∃ n d, Number.readWhole? (e.trimmedAt path) = some n ∧ unit.times? n = some d ∧
        l = .duration (some d) default) ∨
      Number.readWhole? (e.trimmedAt path) = none ∧ e.trimmedAt path ≠ "" ∧
        l = .text (e.trimmedAt path) := by
  unfold durationLiteral? at h
  dsimp only at h
  split at h
  · rename_i he
    cases h
    exact Or.inl ⟨he, rfl⟩
  · rename_i he
    split at h
    · rename_i n hn
      obtain ⟨d, hd, rfl⟩ := Option.map_eq_some_iff.1 h
      exact Or.inr (Or.inl ⟨n, d, hn, hd, rfl⟩)
    · rename_i hn
      cases h
      exact Or.inr (Or.inr ⟨hn, he, rfl⟩)

end Element

/-- A time of an element of a kind is out of range. -/
def ElementKind.Overruns (k : ElementKind) (e : Element) : Prop :=
  match k with
  | .threadGroup => e.ScheduleIsBeyond
  | .constantTimer => e.IsBeyond Convert.timerDelayKey Duration.milli
  | _ => False

namespace Convert

open Schedule

/-- The arguments of a thread group are what its properties write, each time in range. -/
structure ThreadGroupArguments.Reads (e : Element) (a : ThreadGroupArguments) : Prop where
  name : a.name = e.nameLiteral defaultName
  threads : a.threads = e.intLiteral threadsKey
  rampUp : e.durationLiteral? rampTimeKey (some Duration.second) = some a.rampUp
  duration : if e.flagAt schedulerKey true then e.durationLiteral? durationKey = some a.duration
    else a.duration = noDuration
  delay : if e.flagAt schedulerKey true then e.durationLiteral? delayKey = some a.delay
    else a.delay = noDuration
  iterations : a.iterations = e.intLiteral (mainControllerKey ++ "/" ++ loopsKey) (some (-1))

/-- The time to hold is a difference that is out of range. -/
def ThreadGroupArguments.HoldOverruns (a : ThreadGroupArguments) : Prop :=
  ∃ total ramp default default', a.duration = .duration (some total) default ∧
    a.rampUp = .duration (some ramp) default' ∧ a.rampUp.isDefault = false ∧
    total.sub? ramp = none

/-- The time to hold is a difference whose microseconds satisfy `P`. -/
def ThreadGroupArguments.HoldIs (a : ThreadGroupArguments) (P : Int → Prop) : Prop :=
  ∃ total ramp default default', a.duration = .duration (some total) default ∧
    a.rampUp = .duration (some ramp) default' ∧ a.rampUp.isDefault = false ∧
    P (total.micros - ramp.micros)

theorem ends_inRange (literal? : Option Literal) : Ends (inRange literal?) (literal? = some ·)
    fun error => error = .durationOverflow ∧ literal? = none := by
  cases literal? with
  | some l => exact .ok rfl
  | none => exact .error ⟨rfl, rfl⟩

/-- The properties of a thread group are read unless one of its times is out of range. -/
theorem ends_threadGroupArguments (e : Element) :
    Ends (threadGroupArguments e) (ThreadGroupArguments.Reads e)
      fun error => error = .durationOverflow ∧ e.ScheduleIsBeyond := by
  have time : ∀ {path : String} {default : Option Duration},
      (e.IsBeyond path → e.ScheduleIsBeyond) →
      Ends (inRange (e.durationLiteral? path default)) (e.durationLiteral? path default = some ·)
        fun error => error = .durationOverflow ∧ e.ScheduleIsBeyond := fun hb =>
    (ends_inRange _).imp_error fun _ => And.imp id fun h =>
      hb (Element.durationLiteral?_eq_none.1 h)
  unfold threadGroupArguments
  cases hon : e.flagAt schedulerKey true with
  | false =>
    refine ends_bind (time Or.inl) fun rampUp hr => .ok ?_
    constructor <;> dsimp only
    case rampUp => exact hr
    case duration => rw [hon]; rfl
    case delay => rw [hon]; rfl
  | true =>
    refine ends_bind (time Or.inl) fun rampUp hr => ?_
    refine ends_bind (time fun hb => Or.inr ⟨hon, Or.inl hb⟩) fun duration hd => ?_
    refine ends_bind (time fun hb => Or.inr ⟨hon, Or.inr (Or.inl hb)⟩) fun delay hy => .ok ?_
    constructor <;> dsimp only
    case rampUp => exact hr
    case duration => rw [hon]; exact hd
    case delay => rw [hon]; exact hy

/-! ## The time to hold -/

section

variable {e : Element} {a : ThreadGroupArguments} {P : Int → Prop}

theorem isInt_intLiteral {path : String} {default : Option Int} :
    isInt (e.intLiteral path default) = true ↔
      e.trimmedAt path = "" ∨ ∃ n, Number.readWhole? (e.trimmedAt path) = some n := by
  unfold Element.intLiteral
  dsimp only
  split
  · rename_i he
    exact iff_of_true rfl (Or.inl he)
  · rename_i he
    rw [or_iff_right he]
    cases Number.readWhole? (e.trimmedAt path) <;> simp [isInt, Literal.text]

/-- A fixed time is the usual one or written as a number of seconds. -/
theorem seconds_of_fixed {path : String} {default default' : Option Duration} {d : Duration}
    (h : e.durationLiteral? path default = some (.duration (some d) default')) :
    default' = default ∧ (default = some d ∨
      ∃ n, Number.readWhole? (e.trimmedAt path) = some n ∧ d.micros = 1000000 * n) := by
  obtain ⟨he, hl⟩ | ⟨n, d', hn, hd', hl⟩ | ⟨hn, -, hl⟩ := Element.durationLiteral?_eq_some h
  · cases hl
    exact ⟨rfl, Or.inl rfl⟩
  · cases hl
    exact ⟨rfl, Or.inr ⟨n, hn, Duration.ofMicros?_eq_some_iff.1 hd'⟩⟩
  · cases hl

theorem fixed_of_number {path : String} {default : Option Duration} {l : Literal}
    (h : e.durationLiteral? path default = some l) {n : Int}
    (hn : Number.readWhole? (e.trimmedAt path) = some n) :
    ∃ d, d.micros = 1000000 * n ∧ l = .duration (some d) default := by
  obtain ⟨he, -⟩ | ⟨n', d, hn', hd, hl⟩ | ⟨hn', -⟩ := Element.durationLiteral?_eq_some h
  · rw [he, Element.readWhole?_empty] at hn
    cases hn
  · rw [hn'] at hn
    cases hn
    exact ⟨d, Duration.ofMicros?_eq_some_iff.1 hd, hl⟩
  · rw [hn'] at hn
    cases hn

theorem holdOverruns_iff : a.HoldOverruns ↔ a.HoldIs Duration.IsBeyond := by
  unfold ThreadGroupArguments.HoldOverruns ThreadGroupArguments.HoldIs
  simp only [Duration.sub?, Duration.ofMicros?_eq_none]

/-- Where all is written out as strings, there is no difference to take. -/
theorem holdIs_uniform : (isDefaultOrZero a.uniform.duration = false ∧ a.uniform.HoldIs P) ↔
    isInt a.threads = true ∧ isDefaultOrZero a.duration = false ∧ a.HoldIs P := by
  unfold ThreadGroupArguments.uniform
  split
  · rename_i h
    simp only [Bool.and_eq_true] at h
    rw [and_iff_right h.1.1]
  · rename_i h
    refine iff_of_false ?_ ?_
    · rintro ⟨-, _, _, _, _, hd, -⟩
      cases hd
    · rintro ⟨ht, -, _, _, _, _, hd, hr, -⟩
      simp [ht, hd, hr, isDuration] at h

/-- A flat call holds for the duration as it is. -/
theorem holdIs_of_isFlat (hf : a.isFlat = true) (h : a.HoldIs P) :
    ∃ total default, a.duration = .duration (some total) default ∧ P total.micros := by
  obtain ⟨total, ramp, default, _, hd, hr, hdef, hp⟩ := h
  have hz : isDefaultOrZero a.rampUp = true := by
    simp only [ThreadGroupArguments.isFlat, Bool.and_eq_true] at hf
    exact hf.1.1.2
  have hm : ramp.micros = 0 := by
    rw [isDefaultOrZero, hdef, hr, Bool.false_or] at hz
    simpa [Literal.isZeroDuration, Duration.isZero] using hz
  rw [hm, Int.sub_zero] at hp
  exact ⟨total, default, hd, hp⟩

/-- The difference is that of the numbers that duration and ramp-up are written as. -/
theorem holdIs_iff (hd : e.durationLiteral? durationKey = some a.duration)
    (hr : e.durationLiteral? rampTimeKey (some Duration.second) = some a.rampUp) :
    (isDefaultOrZero a.duration = false ∧ a.HoldIs P) ↔
      ∃ total ramp, Number.readWhole? (e.trimmedAt durationKey) = some total ∧
        Number.readWhole? (e.trimmedAt rampTimeKey) = some ramp ∧ total ≠ 0 ∧ ramp ≠ 1 ∧
        P (1000000 * (total - ramp)) := by
  have hzero : ∀ d : Duration, isDefaultOrZero (.duration (some d) none) = d.isZero := fun d => by
    simp [isDefaultOrZero, Literal.isDefault, Literal.isZeroDuration]
  constructor
  · rintro ⟨hz, total, ramp, _, _, hdu, hra, hdef, hp⟩
    rw [hdu] at hd hz
    rw [hra] at hr hdef
    obtain ⟨rfl, h | ⟨n, hn, hm⟩⟩ := seconds_of_fixed hd
    · cases h
    obtain ⟨rfl, h | ⟨m, hm', hr⟩⟩ := seconds_of_fixed hr
    · cases h
      simp [Literal.isDefault] at hdef
    rw [hm, hr, ← Int.mul_sub] at hp
    rw [hzero, Duration.isZero, hm] at hz
    refine ⟨n, m, hn, hm', by rintro rfl; simp at hz, ?_, hp⟩
    rintro rfl
    have hsecond : ramp = Duration.second := Duration.eq_of_micros hr
    simp [Literal.isDefault, hsecond] at hdef
  · rintro ⟨n, m, hn, hm, hne, hne', hp⟩
    obtain ⟨total, ht, hdu⟩ := fixed_of_number hd hn
    obtain ⟨ramp, hr', hra⟩ := fixed_of_number hr hm
    refine ⟨?_, total, ramp, _, _, hdu, hra, ?_, ?_⟩
    · rw [hdu, hzero, Duration.isZero, ht]
      simpa using hne
    · have hsecond : ramp ≠ Duration.second := by
        rintro rfl
        have hm1 : (1000000 : Int) = 1000000 * m := hr'
        omega
      simp [hra, Literal.isDefault, hsecond]
    · rw [ht, hr', ← Int.mul_sub]
      exact hp

/-- What is true of the time to hold of the arguments can be told from the properties. -/
theorem ThreadGroupArguments.Reads.holdIs_iff (h : a.Reads e) :
    (isDefaultOrZero a.uniform.duration = false ∧ a.uniform.HoldIs P) ↔
      e.flagAt schedulerKey true = true ∧ e.HoldIs P := by
  have hd := h.duration
  rw [holdIs_uniform]
  cases hs : e.flagAt schedulerKey true with
  | false =>
    rw [hs] at hd
    refine iff_of_false ?_ (by simp)
    rintro ⟨-, -, _, _, _, _, hdu, -⟩
    rw [hd] at hdu
    cases hdu
  | true =>
    rw [hs] at hd
    rw [and_iff_right rfl, h.threads, isInt_intLiteral, Convert.holdIs_iff hd h.rampUp]
    rfl

/-- **Thread groups.** Once the properties of a thread group are read, a time of it is out of range
only if it is the time to hold. -/
theorem ThreadGroupArguments.Reads.scheduleIsBeyond_iff (h : a.Reads e) : e.ScheduleIsBeyond ↔
    isDefaultOrZero a.uniform.duration = false ∧ a.uniform.HoldOverruns := by
  have inside : ∀ {path : String} {default : Option Duration} {l : Literal},
      e.durationLiteral? path default = some l → ¬ e.IsBeyond path := fun hl hb => by
    rw [Element.durationLiteral?_eq_none.2 hb] at hl
    cases hl
  have hd := h.duration
  have hy := h.delay
  unfold Element.ScheduleIsBeyond
  rw [or_iff_right (inside h.rampUp), holdOverruns_iff, h.holdIs_iff]
  refine and_congr_right fun hs => ?_
  rw [hs] at hd hy
  rw [or_iff_right (inside hd), or_iff_right (inside hy)]
  rfl

end

/-! ## Blank and default properties -/

section

variable {e : Element} {a : ThreadGroupArguments} {path : String} {l : Literal}

theorem hasValue_intLiteral {default : Option Int} :
    (e.intLiteral path default).hasValue = true ↔
      e.trimmedAt path ≠ "" ∨ default.isSome = true := by
  unfold Element.intLiteral
  dsimp only
  split
  · rename_i he
    exact (or_iff_right (not_not_intro he)).symm
  · rename_i he
    refine iff_of_true ?_ (Or.inl he)
    split
    · rfl
    · rfl

theorem isDefault_intLiteral {default : Int} :
    (e.intLiteral path (some default)).isDefault = true ↔
      e.trimmedAt path = "" ∨ Number.readWhole? (e.trimmedAt path) = some default := by
  unfold Element.intLiteral
  dsimp only
  split
  · rename_i he
    simp [Literal.isDefault, he]
  · rename_i he
    cases hn : Number.readWhole? (e.trimmedAt path) <;> simp [Literal.isDefault, Literal.text, he]

theorem isDuration_durationLiteral {default : Option Duration} {unit : Duration}
    (h : e.durationLiteral? path default unit = some l) : isDuration l = true ↔ e.IsPlain path := by
  obtain ⟨he, rfl⟩ | ⟨n, _, hn, -, rfl⟩ | ⟨hn, he, rfl⟩ := Element.durationLiteral?_eq_some h
  · exact iff_of_true rfl (Or.inl he)
  · exact iff_of_true rfl (Or.inr ⟨n, hn⟩)
  · exact iff_of_false nofun (by simp [Element.IsPlain, he, hn])

/-- A time has a value unless it is blank and has no default. -/
theorem hasValue_durationLiteral {default : Option Duration} {unit : Duration}
    (h : e.durationLiteral? path default unit = some l) :
    l.hasValue = true ↔ e.trimmedAt path ≠ "" ∨ default.isSome = true := by
  obtain ⟨he, rfl⟩ | ⟨n, _, hn, -, rfl⟩ | ⟨-, he, rfl⟩ := Element.durationLiteral?_eq_some h
  · exact (or_iff_right (not_not_intro he)).symm
  · exact iff_of_true rfl (Or.inl (Element.ne_empty_of_number hn))
  · exact iff_of_true rfl (Or.inl he)

/-- A ramp-up is the default one if it is not given or takes a second. -/
theorem isDefault_rampUp (h : e.durationLiteral? path (some Duration.second) = some l) :
    l.isDefault = true ↔
      e.trimmedAt path = "" ∨ Number.readWhole? (e.trimmedAt path) = some 1 := by
  obtain ⟨he, rfl⟩ | ⟨n, d, hn, hd, rfl⟩ | ⟨hn, he, rfl⟩ := Element.durationLiteral?_eq_some h
  · simp [Literal.isDefault, he]
  · have hm : d.micros = 1000000 * n := Duration.ofMicros?_eq_some_iff.1 hd
    have hsecond : d = Duration.second ↔ n = 1 := by
      constructor
      · rintro rfl
        have hm : (1000000 : Int) = 1000000 * n := hm
        omega
      · rintro rfl
        exact Duration.eq_of_micros hm
    simp [Literal.isDefault, Element.ne_empty_of_number hn, hn, hsecond]
  · simp [Literal.isDefault, Literal.text, he, hn]

/-- A time without a default counts if it is given and is no zero. -/
theorem isDefaultOrZero_durationLiteral (h : e.durationLiteral? path = some l) :
    isDefaultOrZero l = false ↔
      e.trimmedAt path ≠ "" ∧ Number.readWhole? (e.trimmedAt path) ≠ some 0 := by
  obtain ⟨he, rfl⟩ | ⟨n, d, hn, hd, rfl⟩ | ⟨hn, he, rfl⟩ := Element.durationLiteral?_eq_some h
  · simp [isDefaultOrZero, Literal.isDefault, he]
  · have hm : d.micros = 1000000 * n := Duration.ofMicros?_eq_some_iff.1 hd
    have hz : d.isZero = decide (n = 0) := Duration.isZero_of_micros (by omega)
    simp [isDefaultOrZero, Literal.isDefault, Literal.isZeroDuration, hz, hn,
      Element.ne_empty_of_number hn]
  · simp [isDefaultOrZero, Literal.isDefault, Literal.isZeroDuration, Literal.text, he, hn]

/-- The duration and the delay count while the scheduler is on. -/
theorem ThreadGroupArguments.Reads.counts (h : a.Reads e) :
    (isDefaultOrZero a.duration = false ↔ e.Counts durationKey) ∧
      (isDefaultOrZero a.delay = false ↔ e.Counts delayKey) := by
  have hd := h.duration
  have hy := h.delay
  unfold Element.Counts
  cases hs : e.flagAt schedulerKey true with
  | false =>
    rw [hs] at hd hy
    rw [hd, hy]
    exact ⟨iff_of_false nofun nofun, iff_of_false nofun nofun⟩
  | true =>
    rw [hs] at hd hy
    rw [and_iff_right rfl, and_iff_right rfl]
    exact ⟨isDefaultOrZero_durationLiteral hd, isDefaultOrZero_durationLiteral hy⟩

/-- Threads, ramp-up and duration are all literal, as far as the duration counts. -/
theorem ThreadGroupArguments.Reads.isLiteral (h : a.Reads e) :
    (isInt a.threads && isDuration a.rampUp && isDuration a.duration) = true ↔
      e.IsPlain threadsKey ∧ e.IsPlain rampTimeKey ∧
        (e.Counts durationKey → e.IsPlain durationKey) := by
  rw [Bool.and_eq_true, Bool.and_eq_true, and_assoc, h.threads]
  refine and_congr isInt_intLiteral (and_congr (isDuration_durationLiteral h.rampUp) ?_)
  have hd := h.duration
  unfold Element.Counts
  cases hs : e.flagAt schedulerKey true with
  | false =>
    rw [hs] at hd
    rw [hd]
    exact iff_of_true rfl nofun
  | true =>
    rw [hs] at hd
    refine (isDuration_durationLiteral hd).trans ⟨fun hp _ => hp, fun hp => ?_⟩
    by_cases he : e.trimmedAt durationKey = ""
    · exact Or.inl he
    by_cases hz : Number.readWhole? (e.trimmedAt durationKey) = some 0
    · exact Or.inr ⟨0, hz⟩
    · exact hp ⟨rfl, he, hz⟩

end

end Convert
end PlanCode
