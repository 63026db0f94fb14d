import PlanCode.Proofs.Convert.LoadProfile
import PlanCode.Proofs.Profile.Properties
import PlanCode.Tools.Call

/-!
# Load profiles from stages

Stages for a delay, a ramp-up and a time to hold become the properties of a
thread group, as text, and are read back from there. The hold time is written as
part of the duration and taken off again, so that the call holds for as long as
the stages say. A ramp-up of one second is taken for the default and not taken
off, and threads of more digits than a numeral may have are not read as a number.

* `ofStages?_profileStages`: the schedule of the stages.
* `steps_of_profileStages`: when the call has the steps of the stages.
-/
namespace PlanCode

open PlanCode.Schedule PlanCode.Convert PlanCode.LoadProfile

/-- The stages of a delay, unless it has no length, a ramp-up and a time to hold. -/
def profileStages (n : Nat) (delay rampUp hold : Duration) : List Stage :=
  (if delay.isZero then [] else [{ threads := .number 0, duration := some (.fixed delay) }]) ++
    [{ threads := .number n, duration := some (.fixed rampUp) },
     { threads := .number n, duration := some (.fixed hold) }]

/-- A schedule that ramps up and holds for the rest of its duration. -/
def holdingSchedule (n : Nat) (rampUp total : Duration) (wait : Option Duration) : Schedule where
  threads := .number n
  iterations := none
  rampUp := some (.fixed rampUp)
  duration := some (.fixed total)
  delay := wait.map .fixed

theorem ofStages?_profileStages {n : Nat} (hn : 1 ≤ n) (delay : Duration)
    {rampUp hold total : Duration} (hr : rampUp.isZero = false)
    (ht : hold.add? rampUp = some total) :
    ofStages? (profileStages n delay rampUp hold) =
      some (holdingSchedule n rampUp total ((some delay).filter (!·.isZero))) := by
  have hz : (Span.fixed rampUp).isZero = false := hr
  have hs : (Span.fixed hold).add? (.fixed rampUp) = some (.fixed total) := by
    rw [Span.add?, ht]
    rfl
  unfold profileStages
  cases hd : delay.isZero with
  | true =>
    have hf : ({ threads := .number n, duration := some (.fixed rampUp) } : Stage).isDelay =
        false := by
      have : (n : Int) ≠ 0 := by omega
      simpa [Stage.isDelay] using this
    simp [ofStages?, ofStagesWithoutRampUp, initial, hf, includeRampUp?, hz, hs,
      holdingSchedule, Option.filter, hd]
  | false =>
    have hf : ({ threads := .number 0, duration := some (.fixed delay) } : Stage).isDelay =
        true := rfl
    simp [ofStages?, ofStagesWithoutRampUp, initial, hf, includeRampUp?, hz, hs,
      holdingSchedule, Option.filter, hd]

/-! ## Properties of the thread group -/

section

variable {n d r t : Nat} {delay rampUp total : Duration} {wait : Option Duration}

/-- The thread group of a schedule that ramps up and holds. -/
def holdingGroup (n : Nat) (rampUp total : Duration) (wait : Option Duration) : Element :=
  (holdingSchedule n rampUp total wait).toElement

/-- Seconds that a duration can have are written and read back. -/
theorem readWhole?_wholeSeconds {x : Duration} (h : x.micros = t * 1000000) :
    Number.readWhole? (Text.trim (toString x.wholeSeconds)) = some (t : Int) := by
  rw [Duration.wholeSeconds_eq h, Number.trim_toString, readWhole?_seconds h]

/-- Threads are read as a number unless they have too many digits. -/
theorem intLiteral_threads : (holdingGroup n rampUp total wait).intLiteral threadsKey =
    if (toString n).length ≤ Number.maxWholeDigits then .int (some (n : Int)) none
    else .text (toString n) := by
  have ht : (holdingGroup n rampUp total wait).trimmedAt threadsKey = toString n := by
    rw [Element.trimmedAt, holdingGroup, textAt_threadsKey]
    exact Number.trim_toString n
  have hne : toString n ≠ "" := toString_ne_empty n
  rw [Element.intLiteral, ht, if_neg hne, Number.readWhole?_toString_nat]
  by_cases hl : (toString n).length ≤ Number.maxWholeDigits
  · rw [if_pos hl, if_pos hl]
  · rw [if_neg hl, if_neg hl]

theorem scheduled_holdingGroup : (holdingGroup n rampUp total wait).Scheduled := by
  have ht : (holdingGroup n rampUp total wait).textAt schedulerKey = "true" :=
    textAt_schedulerKey _ none
  refine Or.inr ?_
  rw [Element.trimmedAt, ht]
  decide +kernel

theorem isSome_ofSeconds {x : Duration} {s : Int} (h : x.micros = s * 1000000) :
    (Duration.ofSeconds? s).isSome = true :=
  Option.isSome_iff_exists.2 ⟨x, Duration.ofMicros?_eq_some_iff.2 h⟩

theorem holdsNumber_rampTime (hr : rampUp.micros = r * 1000000) :
    (holdingGroup n rampUp total wait).HoldsNumber rampTimeKey (some (r : Int)) :=
  (congrArg _ (congrArg _ (textAt_rampTimeKey _ none))).trans (readWhole?_wholeSeconds hr)

theorem holdsNumber_loops : (holdingGroup n rampUp total wait).HoldsNumber
    (mainControllerKey ++ "/" ++ loopsKey) (some (-1)) := by
  have hl : Number.readWhole? (Text.trim (toString (-1 : Int))) = some (-1) := by decide +kernel
  exact (congrArg _ (congrArg _ (textAt_loopsKey _ none))).trans hl

theorem holdsNumber_duration (ht : total.micros = t * 1000000) :
    (holdingGroup n rampUp total wait).HoldsNumber durationKey (some (t : Int)) :=
  (congrArg _ (congrArg _ (textAt_durationKey _ none))).trans (readWhole?_wholeSeconds ht)

/-- The seconds of a delay that has some length. -/
def delaySeconds (d : Nat) (delay : Duration) : Option Int :=
  if delay.isZero then none else some (d : Int)

theorem holdsNumber_delay (hd : delay.micros = d * 1000000) :
    (holdingGroup n rampUp total ((some delay).filter (!·.isZero))).HoldsNumber delayKey
      (delaySeconds d delay) := by
  unfold Element.HoldsNumber Element.trimmedAt delaySeconds
  rw [holdingGroup, textAt_delayKey, holdingSchedule]
  cases hz : delay.isZero with
  | true =>
    have hb : Text.trim "" = "" := by decide
    simpa [Option.filter, hz] using hb
  | false => simpa [Option.filter, hz, Span.text] using readWhole?_wholeSeconds hd

theorem scheduled_duration (ht0 : t ≠ 0) :
    (holdingGroup n rampUp total wait).scheduled? (some (t : Int)) = some (t : Int) := by
  rw [Element.scheduled?, if_pos scheduled_holdingGroup]
  simp [Option.filter, ht0]

theorem scheduled_delay (hd : delay.micros = d * 1000000) :
    (holdingGroup n rampUp total wait).scheduled? (delaySeconds d delay) =
      delaySeconds d delay := by
  rw [Element.scheduled?, if_pos scheduled_holdingGroup, delaySeconds]
  cases hz : delay.isZero with
  | true => rfl
  | false =>
    have hd0 : d ≠ 0 := by simpa [Duration.isZero_of_micros hd] using hz
    simp [Option.filter, hd0]

theorem noOverflow_holdingGroup (hr : rampUp.micros = r * 1000000)
    (ht : total.micros = t * 1000000) (ht0 : t ≠ 0) (hd : delay.micros = d * 1000000)
    {hold : Duration} (hh : total.sub? rampUp = some hold) :
    NoOverflow (holdingGroup n rampUp total wait) r (some (t : Int)) (delaySeconds d delay) where
  rampUp := isSome_ofSeconds hr
  duration := by
    rw [scheduled_duration ht0]
    rintro _ ⟨⟩
    exact isSome_ofSeconds ht
  rest := by
    have hm : hold.micros = total.micros - rampUp.micros := Duration.ofMicros?_eq_some_iff.1 hh
    rw [scheduled_duration ht0]
    rintro _ ⟨⟩
    exact isSome_ofSeconds (x := hold) (by omega)
  delay := by
    rw [scheduled_delay hd, delaySeconds]
    intro s hs
    split at hs
    · cases hs
    · cases hs
      exact isSome_ofSeconds hd

/-- What the properties are read as. -/
theorem arguments_holdingGroup (hr : rampUp.micros = r * 1000000)
    (ht : total.micros = t * 1000000) (ht0 : t ≠ 0) (hd : delay.micros = d * 1000000)
    {hold : Duration} (hh : total.sub? rampUp = some hold) {e : Element}
    (he : holdingGroup n rampUp total ((some delay).filter (!·.isZero)) = e) {threads : Literal}
    (hthreads : e.intLiteral threadsKey = threads) :
    ∃ a wait, threadGroupArguments e = .ok a ∧
      LiteralArguments e threads (-1) rampUp (some total) wait a ∧
      wait.filter (!·.isZero) = (some delay).filter (!·.isZero) := by
  have hrt := he ▸ holdsNumber_rampTime hr
  have hlt := he ▸ holdsNumber_loops
  have htt := he ▸ holdsNumber_duration ht
  have hdt := he ▸ holdsNumber_delay hd
  have ho := he ▸ noOverflow_holdingGroup hr ht ht0 hd hh
  obtain ⟨a, ha, rampUp', duration, wait, hargs, hru, hdu, hwa⟩ :=
    threadGroupArguments_delivers hthreads hrt hlt htt hdt ho
  rw [← he, scheduled_duration ht0] at hdu
  rw [← he, scheduled_delay hd] at hwa
  obtain rfl : rampUp' = rampUp := Duration.eq_of_micros (hru.trans hr.symm)
  obtain ⟨x, hx, hxm⟩ := Option.map_eq_some_iff.1 hdu
  obtain rfl : x = total := Duration.eq_of_micros (hxm.trans ht.symm)
  obtain rfl : duration = some x := (Option.filter_eq_some_iff.1 hx).1
  refine ⟨a, wait, ha, hargs, ?_⟩
  have hwd : (wait.filter (!·.isZero)).map Duration.micros =
      ((some delay).filter (!·.isZero)).map Duration.micros := by
    rw [hwa, delaySeconds]
    cases hz : delay.isZero with
    | true => simp [Option.filter, hz, micros]
    | false => simp [Option.filter, hz, micros, hd]
  exact Option.map_injective (fun _ _ h => Duration.eq_of_micros h) hwd

/-! ## Calls -/

theorem name_holdingGroup : (holdingGroup n rampUp total wait).name = defaultName := by
  cases wait <;> rfl

/-- A ramp-up that is not the whole flat schedule is chained. -/
theorem steps_of_chained {e : Element} (hname : e.name = defaultName) {a : ThreadGroupArguments}
    (h : threadGroupArguments e = .ok a)
    (ha : LiteralArguments e (.int (some (n : Int)) none) (-1) rampUp (some total) wait a)
    (ht : total.isZero = false) (hf : a.isFlat = false) {hold : Duration}
    (hh : holdOf? rampUp total = some hold) :
    ∃ call, threadGroup Surface.standard e = .ok call ∧
      steps? call.toNode = some (waitSteps wait ++ [.rampToAndHold n rampUp hold]) := by
  have hm : ((some total).filter (!·.isZero)).mapM (holdOf? rampUp) = some (some hold) := by
    simp [Option.filter, ht, Option.mapM_some, hh]
  obtain ⟨call, hc, hs⟩ := chains_threadGroup h ha hf hm
  refine ⟨call, hc, ?_⟩
  rw [hs.steps hname]
  rfl

theorem yields_start {name : String} {arguments : List (Argument Node)} :
    Yields (start Surface.standard name arguments) fun d => d.arguments = arguments := by
  refine yields_mapError ?_
  unfold Draft.ofFactory
  split
  · exact yields_ok rfl
  · exact yields_error _

/-- A flat call has arguments of its own. -/
theorem steps_of_flat {e : Element} {a : ThreadGroupArguments}
    (h : threadGroupArguments e = .ok a)
    (ha : LiteralArguments e (.int (some (n : Int)) none) (-1) rampUp (some total) wait a)
    (hf : a.isFlat = true) :
    Yields (threadGroup Surface.standard e) fun d => steps? d.toNode = none := by
  unfold threadGroup
  rw [h]
  refine yields_bind (P := (a = ·)) (yields_ok rfl) ?_
  rintro _ rfl
  rw [if_pos hf]
  intro d hd
  have hargs : d.arguments = _ := yields_start d hd
  rw [ha.threads] at hargs
  change steps? d.toNode = none
  rw [Draft.toNode_eq, LoadProfile.steps?, if_neg]
  rintro ⟨-, he⟩
  rw [hargs] at he
  simp [Argument.active, literals, Argument.isIgnored, Literal.isIgnored] at he

/-- A call that is no step of a schedule leaves a draft without steps. -/
theorem steps_append {d : Draft Node} {s : Segment Node}
    (hs : stepOf? (Draft.segmentNode d.slotNodes s) = none) :
    steps? (d.append s).toNode = none := by
  rw [Draft.toNode_eq, LoadProfile.steps?]
  split
  · change ((d.chain ++ [s]).map (Draft.segmentNode d.slotNodes)).mapM stepOf? = none
    rw [List.map_append, List.mapM_append]
    cases (d.chain.map (Draft.segmentNode d.slotNodes)).mapM stepOf? with
    | none => rfl
    | some steps => simp [hs]
  · rfl

/-- Chaining strings is no step of a schedule. -/
theorem yields_chain_strings {d : Draft Node} {name : String} {values : List Literal}
    (hv : (literals values).all (·.isDefault) = false)
    (hs : Step.of? name (given (literals values)) = none) :
    Yields (chain Surface.standard name values d) fun d => steps? d.toNode = none := by
  refine yields_mapError fun d' hd => ?_
  obtain ⟨he, -⟩ | ⟨target, arguments, hg, rfl⟩ := Draft.chainCall_cases hd
  · rw [hv] at he
    cases he
  · refine steps_append ?_
    obtain rfl | ⟨rfl, -⟩ := hg
    · simpa [Draft.segmentNode, stepOf?] using hs
    · rfl

/-- Threads that are no number make every argument a string. -/
theorem steps_of_text {e : Element} {a : ThreadGroupArguments} {s : String}
    (h : threadGroupArguments e = .ok a)
    (ha : LiteralArguments e (.text s) (-1) rampUp (some total) wait a) :
    Yields (threadGroup Surface.standard e) fun d => steps? d.toNode = none := by
  unfold threadGroup
  rw [h]
  refine yields_bind (P := (a = ·)) (yields_ok rfl) ?_
  rintro _ rfl
  have hf : a.isFlat = false := by
    rw [ThreadGroupArguments.isFlat, ha.threads]
    rfl
  have hu : a.uniform = { a with threads := asString a.threads, rampUp := asString a.rampUp,
                                 duration := asString a.duration } := by
    rw [ThreadGroupArguments.uniform, ha.threads]
    rfl
  rw [if_neg (by simp [hf]), hu]
  refine yields_bind_of_forall fun d => ?_
  extract_lets iterations finish
  have hfinish : ∀ d, Yields (finish d) fun d => steps? d.toNode = none := by
    intro d
    dsimp only [finish]
    rw [ha.iterations, ha.threads, ha.rampUp, ha.duration]
    refine yields_bind (P := fun held => held.1 = asString (.duration (some total) none)) ?_ ?_
    · exact yields_ok rfl
    · rintro ⟨hold, d⟩ rfl
      exact yields_chain_strings rfl rfl
  split
  · exact hfinish d
  · exact yields_bind_of_forall hfinish

end

/-! ## Stages and steps -/

/-- The steps of a delay, unless it has no length, a ramp-up and a time to hold. -/
def profileSteps (n : Int) (delay rampUp hold : Duration) : List Step :=
  (if delay.isZero then [] else [.holdFor delay]) ++ [.rampToAndHold n rampUp hold]

theorem profileSteps_eq {wait : Option Duration} {delay : Duration}
    (h : wait.filter (!·.isZero) = (some delay).filter (!·.isZero)) (n : Int)
    (rampUp hold : Duration) :
    waitSteps wait ++ [.rampToAndHold n rampUp hold] = profileSteps n delay rampUp hold := by
  rw [waitSteps, h, profileSteps]
  cases hz : delay.isZero <;> simp [Option.filter, hz]

section

variable {n d r h : Nat} {delay rampUp hold total : Duration}

/-- Stages whose times are whole seconds, with a ramp-up, some threads and sums in range. -/
structure WholeProfile (n d r h : Nat) (delay rampUp hold total : Duration) : Prop where
  threads : 1 ≤ n
  ramps : 1 ≤ r
  delay_micros : delay.micros = d * 1000000
  rampUp_micros : rampUp.micros = r * 1000000
  hold_micros : hold.micros = h * 1000000
  sum : hold.add? rampUp = some total

namespace WholeProfile

theorem total_micros (w : WholeProfile n d r h delay rampUp hold total) :
    total.micros = ((h + r : Nat) : Int) * 1000000 := by
  have ht : total.micros = hold.micros + rampUp.micros := Duration.ofMicros?_eq_some_iff.1 w.sum
  rw [ht, w.hold_micros, w.rampUp_micros]
  omega

/-- What was added is taken off again. -/
theorem sub_rampUp (w : WholeProfile n d r h delay rampUp hold total) :
    total.sub? rampUp = some hold := by
  refine Duration.ofMicros?_eq_some_iff.2 ?_
  rw [w.total_micros, w.rampUp_micros, w.hold_micros]
  omega

theorem isZero_delay (w : WholeProfile n d r h delay rampUp hold total) :
    delay.isZero = decide (d = 0) := by
  rw [Duration.isZero_of_micros w.delay_micros]
  exact decide_eq_decide.2 (by omega)

theorem isZero_rampUp (w : WholeProfile n d r h delay rampUp hold total) :
    rampUp.isZero = false := by
  have h1 := w.ramps
  rw [Duration.isZero_of_micros w.rampUp_micros, decide_eq_false_iff_not]
  omega

theorem isZero_total (w : WholeProfile n d r h delay rampUp hold total) :
    total.isZero = false := by
  have h1 := w.ramps
  rw [Duration.isZero_of_micros w.total_micros, decide_eq_false_iff_not]
  omega

theorem threadGroupOf_eq (w : WholeProfile n d r h delay rampUp hold total) :
    Tool.threadGroupOf (profileStages n delay rampUp hold) none =
      (threadGroup Surface.standard
        (holdingGroup n rampUp total ((some delay).filter (!·.isZero)))).mapError .conversion := by
  rw [Tool.threadGroupOf, ofStages?_profileStages w.threads delay w.isZero_rampUp w.sum]
  rfl

/-- What the stages are read as on the way to a call. -/
theorem exists_arguments (w : WholeProfile n d r h delay rampUp hold total) :
    ∃ e a wait, e.name = defaultName ∧
      Tool.threadGroupOf (profileStages n delay rampUp hold) none =
        (threadGroup Surface.standard e).mapError .conversion ∧
      threadGroupArguments e = .ok a ∧
      LiteralArguments e (if (toString n).length ≤ Number.maxWholeDigits then
        .int (some (n : Int)) none else .text (toString n)) (-1) rampUp (some total) wait a ∧
      wait.filter (!·.isZero) = (some delay).filter (!·.isZero) := by
  have hne : h + r ≠ 0 := by
    have h1 := w.ramps
    omega
  obtain ⟨a, wait, hargs, ha, hwait⟩ := arguments_holdingGroup w.rampUp_micros w.total_micros hne
    w.delay_micros w.sub_rampUp rfl intLiteral_threads
  exact ⟨_, a, wait, name_holdingGroup, w.threadGroupOf_eq, hargs, ha, hwait⟩

/-- Stages that are not flat become steps, which hold longer by a ramp-up that is taken for the
default. -/
theorem steps_of_not_flat (w : WholeProfile n d r h delay rampUp hold total)
    (hn : (toString n).length ≤ Number.maxWholeDigits) (hf : r ≠ 1 ∨ d ≠ 0) :
    ∃ call, Tool.threadGroupOf (profileStages n delay rampUp hold) none = .ok call ∧
      steps? call.toNode =
        some (profileSteps n delay rampUp (if r = 1 then total else hold)) := by
  obtain ⟨e, a, wait, hname, he, hargs, ha, hwait⟩ := w.exists_arguments
  rw [if_pos hn] at ha
  have hflat : a.isFlat = false := by
    rw [isFlat_eq ha w.rampUp_micros, hwait]
    obtain hr | hd := hf
    · have h1 : (r : Int) ≠ 1 := by omega
      have h0 : (r : Int) ≠ 0 := Int.natCast_ne_zero.2 (Nat.ne_of_gt w.ramps)
      rw [decide_eq_false h1, decide_eq_false h0]
      rfl
    · simp [Option.filter, w.isZero_delay, hd]
  have hhold : holdOf? rampUp total = some (if r = 1 then total else hold) := by
    have hsecond : rampUp = Duration.second ↔ r = 1 := by
      rw [eq_second_iff w.rampUp_micros]
      omega
    rw [holdOf?]
    by_cases hr : r = 1
    · rw [if_pos (hsecond.2 hr), if_pos hr]
    · rw [if_neg (mt hsecond.1 hr), if_neg hr, w.sub_rampUp]
  obtain ⟨call, hc, hs⟩ := steps_of_chained hname hargs ha w.isZero_total hflat hhold
  refine ⟨call, ?_, ?_⟩
  · rw [he, hc]
    rfl
  · rw [hs, profileSteps_eq hwait]

/-- A ramp-up of one second without a delay is flat. -/
theorem steps_of_second (w : WholeProfile n d r h delay rampUp hold total)
    (hn : (toString n).length ≤ Number.maxWholeDigits) (hr : r = 1) (hd : d = 0) :
    Yields (Tool.threadGroupOf (profileStages n delay rampUp hold) none)
      fun call => steps? call.toNode = none := by
  obtain ⟨e, a, wait, -, he, hargs, ha, hwait⟩ := w.exists_arguments
  rw [if_pos hn] at ha
  have hflat : a.isFlat = true := by
    rw [isFlat_eq ha w.rampUp_micros, hwait]
    simp [Option.filter, w.isZero_delay, hr, hd]
  rw [he]
  exact yields_mapError (steps_of_flat hargs ha hflat)

/-- Threads of too many digits are not read. -/
theorem steps_of_digits (w : WholeProfile n d r h delay rampUp hold total)
    (hn : ¬ (toString n).length ≤ Number.maxWholeDigits) :
    Yields (Tool.threadGroupOf (profileStages n delay rampUp hold) none)
      fun call => steps? call.toNode = none := by
  obtain ⟨e, a, wait, -, he, hargs, ha, -⟩ := w.exists_arguments
  rw [if_neg hn] at ha
  rw [he]
  exact yields_mapError (steps_of_text hargs ha)

end WholeProfile

/-- **Reconstruction.** Stages become the call of their own steps exactly if the ramp-up is not the
default of one second and the threads are no longer than a numeral may be. -/
theorem steps_of_profileStages (hn : 1 ≤ n) (hd : delay.micros = d * 1000000) (h1 : 1 ≤ r)
    (hr : rampUp.micros = r * 1000000) (hh : hold.micros = h * 1000000)
    (hs : (hold.add? rampUp).isSome = true) :
    (∃ call, Tool.threadGroupOf (profileStages n delay rampUp hold) none = .ok call ∧
      steps? call.toNode = some (profileSteps n delay rampUp hold)) ↔
      r ≠ 1 ∧ (toString n).length ≤ Number.maxWholeDigits := by
  obtain ⟨total, ht⟩ := Option.isSome_iff_exists.1 hs
  have w : WholeProfile n d r h delay rampUp hold total := ⟨hn, h1, hd, hr, hh, ht⟩
  constructor
  · rintro ⟨call, hc, hsteps⟩
    have hlen : (toString n).length ≤ Number.maxWholeDigits := by
      refine Decidable.by_contra fun hlen => ?_
      rw [w.steps_of_digits hlen call hc] at hsteps
      cases hsteps
    refine ⟨?_, hlen⟩
    intro hr1
    by_cases hd0 : d = 0
    · rw [w.steps_of_second hlen hr1 hd0 call hc] at hsteps
      cases hsteps
    · obtain ⟨call', hc', hlonger⟩ := w.steps_of_not_flat hlen (Or.inr hd0)
      obtain rfl : call' = call := Except.ok.inj (hc'.symm.trans hc)
      rw [hsteps, if_pos hr1] at hlonger
      have he : hold = total := by simpa [profileSteps] using hlonger
      have hm := w.total_micros
      rw [← he, hh] at hm
      omega
  · rintro ⟨hr1, hlen⟩
    have hsteps := w.steps_of_not_flat hlen (Or.inl hr1)
    rwa [if_neg hr1] at hsteps

end

def fiveSeconds : Duration := ⟨5000000, by decide, by decide⟩

def tenSeconds : Duration := ⟨10000000, by decide, by decide⟩

def elevenSeconds : Duration := ⟨11000000, by decide, by decide⟩

theorem steps_of_profileStages_fiveSeconds :
    ∃ call, Tool.threadGroupOf (profileStages 3 fiveSeconds fiveSeconds tenSeconds) none =
        .ok call ∧
      steps? call.toNode = some [.holdFor fiveSeconds, .rampToAndHold 3 fiveSeconds tenSeconds] :=
  (steps_of_profileStages (n := 3) (d := 5) (r := 5) (h := 10) (by decide) rfl (by decide) rfl rfl
    (by decide)).2 ⟨by decide, by decide⟩

/-- A ramp-up of one second is held on to for one second more. -/
theorem not_steps_second :
    ¬ ∃ call, Tool.threadGroupOf (profileStages 3 fiveSeconds .second tenSeconds) none =
        .ok call ∧
      steps? call.toNode =
        some [.holdFor fiveSeconds, .rampToAndHold 3 Duration.second tenSeconds] := by
  rintro ⟨call, hc, hsteps⟩
  have w : WholeProfile 3 5 1 10 fiveSeconds .second tenSeconds elevenSeconds :=
    ⟨by decide, by decide, rfl, rfl, rfl, rfl⟩
  obtain ⟨call', hc', hlonger⟩ := w.steps_of_not_flat (by decide) (Or.inr (by decide))
  obtain rfl : call' = call := Except.ok.inj (hc'.symm.trans hc)
  rw [hsteps] at hlonger
  exact absurd hlonger (by decide)

end PlanCode
