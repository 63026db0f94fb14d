import PlanCode.Proofs.Convert.Links
import PlanCode.Proofs.Convert.OwnData
import PlanCode.Proofs.Convert.Regular
import PlanCode.Proofs.Layout.Strings

/-!
# Durations of no length

A duration of zero counts as little as none where it is looked at as a duration. But
threads, ramp-up and duration become strings together once the threads or the ramp-up
are an expression, and a zero that is a string is no default: the call then
holds for it.

* `threadGroupArguments_zero`: a zero changes one argument at most.
* `parts?_zero`: among literals the zero has no part in the call.
* `strings_zero`: among strings it is one more string of the call.
* `code_zero_iff`: when the zero changes the code.
-/
namespace PlanCode

open PlanCode.Schedule PlanCode.Convert

/-! ## The strings of a call -/

namespace Node

theorem nodeStrings_append (nodes more : List Node) :
    nodeStrings (nodes ++ more) = nodeStrings nodes ++ nodeStrings more := by
  induction nodes with
  | nil => rfl
  | cons n nodes ih => simp [nodeStrings, ih]

theorem argumentStrings_literals (values : List Literal) :
    argumentStrings (literals values) = values.flatMap Layout.literalStrings := by
  induction values with
  | nil => rfl
  | cons v values ih =>
    rw [List.flatMap_cons, ← ih]
    rfl

end Node

namespace Convert

/-- The strings that a link adds to a call. -/
def Link.strings : Link → List String
  | .remark _ => []
  | .call _ values => if isElided values then [] else values.flatMap Layout.literalStrings

section

variable {surface : Surface} {target : String}

/-- A flag that is dropped is no string. -/
theorem argumentStrings_kept (surface : Surface) (target name : String) (values : List Literal) :
    Node.argumentStrings (kept surface target name values) =
      values.flatMap Layout.literalStrings := by
  unfold kept
  split
  · rename_i v
    split
    · rename_i hb
      cases v with
      | bool => rfl
      | _ => cases hb
    · exact Node.argumentStrings_literals [v]
  · exact Node.argumentStrings_literals values

theorem nodeStrings_segments {l : Link} (h : l.Resolves surface target) (slot : List Node) :
    Node.nodeStrings ((l.segments surface target).map (Draft.segmentNode slot)) = l.strings := by
  cases l with
  | remark => rfl
  | call name values =>
    cases he : isElided values with
    | true => rw [segments_elided he, Link.strings, if_pos he, List.map_nil, Node.nodeStrings]
    | false =>
      obtain ⟨m, hm⟩ := Option.isSome_iff_exists.1 (h he)
      rw [segments_of_overload he hm, Link.strings, if_neg (by simp [he]),
        ← argumentStrings_kept surface target name values]
      simp [Draft.segmentNode, Node.nodeStrings, Node.strings]

theorem nodeStrings_links {links : List Link} (h : ∀ l ∈ links, l.Resolves surface target)
    (slot : List Node) :
    Node.nodeStrings ((links.flatMap (·.segments surface target)).map (Draft.segmentNode slot)) =
      links.flatMap Link.strings := by
  induction links with
  | nil => rfl
  | cons l links ih =>
    rw [List.forall_mem_cons] at h
    rw [List.flatMap_cons, List.map_append, Node.nodeStrings_append, nodeStrings_segments h.1,
      List.flatMap_cons, ih h.2]

/-- **Strings.** The strings of a call are those of its parts, in order. -/
theorem strings_assembled (surface : Surface) (name : String) (p : Parts) :
    Yields (assembled surface name p) fun d =>
      d.toNode.strings = Node.argumentStrings p.arguments ++ p.links.flatMap Link.strings := by
  refine (yields_assembled surface name p).imp ?_
  rintro _ ⟨m, -, hl, rfl⟩
  rw [Draft.toNode_eq, Node.strings]
  exact congrArg _ (nodeStrings_links hl _)

end

/-! ## Reading a zero -/

section

variable {e : Element}

/-- The duration has no part in the other properties that a thread group is read from. -/
theorem trimmedAt_zero (e : Element) : ∀ path ∈ [threadsKey, rampTimeKey, delayKey, schedulerKey,
    mainControllerKey ++ "/" ++ loopsKey],
    (e.setText durationKey "0").trimmedAt path = e.trimmedAt path := by
  have unchanged : ∀ (path first : String) (rest : List String),
      Element.pathNames path = first :: rest → first ≠ durationKey →
      (e.setText durationKey "0").trimmedAt path = e.trimmedAt path := fun _ _ _ h hne =>
    congrArg (fun p : Property => Text.trim (p.text?.getD "")) (e.get_set_of_ne h hne _)
  simp only [List.forall_mem_cons]
  refine ⟨unchanged _ threadsKey [] ?_ ?_, unchanged _ rampTimeKey [] ?_ ?_,
    unchanged _ delayKey [] ?_ ?_, unchanged _ schedulerKey [] ?_ ?_,
    unchanged _ mainControllerKey [loopsKey] ?_ ?_, List.forall_mem_nil _⟩
  all_goals decide +kernel

/-- A zero in place of a blank duration changes one argument, and only while the scheduler is
on. -/
theorem threadGroupArguments_zero (h : e.trimmedAt durationKey = "") :
    threadGroupArguments (e.setText durationKey "0") = (threadGroupArguments e).map fun a =>
      { a with duration :=
        if e.flagAt schedulerKey true then .duration (some .zero) none else noDuration } := by
  have hkeys := trimmedAt_zero e
  simp only [List.forall_mem_cons] at hkeys
  obtain ⟨hthreads, hramp, hdelay, hscheduler, hloops, -⟩ := hkeys
  have hblank : e.durationLiteral? durationKey = some noDuration := if_pos h
  have hzero : (e.setText durationKey "0").durationLiteral? durationKey =
      some (.duration (some .zero) none) := by
    have ht : (e.setText durationKey "0").trimmedAt durationKey = "0" := by
      rw [Element.trimmedAt, Element.textAt, Element.setText, e.get_set_self (by decide +kernel)]
      decide
    have hread : Number.readWhole? "0" = some 0 := by decide
    have hlength : Duration.second.times? 0 = some .zero := by decide
    simp [Element.durationLiteral?, ht, hread, hlength]
  have hname : (e.setText durationKey "0").nameLiteral defaultName = e.nameLiteral defaultName :=
    rfl
  unfold threadGroupArguments
  rw [Element.durationLiteral?_congr hramp, Element.durationLiteral?_congr hdelay,
    Element.flagAt_congr hscheduler, hblank, hzero, Element.intLiteral_congr hthreads,
    Element.intLiteral_congr hloops, hname]
  generalize e.nameLiteral defaultName = name, e.intLiteral threadsKey = threads,
    e.intLiteral (mainControllerKey ++ "/" ++ loopsKey) (some (-1)) = iterations
  cases inRange (e.durationLiteral? rampTimeKey (some Duration.second)) with
  | error => rfl
  | ok rampUp =>
    cases e.flagAt schedulerKey true with
    | false => rfl
    | true => cases inRange (e.durationLiteral? delayKey) <;> rfl

end

/-! ## What becomes of a zero -/

section

variable {e : Element} {a : ThreadGroupArguments}

theorem isDefaultOrZero_noDuration : isDefaultOrZero noDuration = true := by decide

theorem isDefaultOrZero_zero : isDefaultOrZero (.duration (some .zero) none) = true := by decide

theorem isDuration_noDuration : isDuration noDuration = true := rfl

theorem isDuration_zero : isDuration (.duration (some .zero) none) = true := rfl

/-- A zero is no duration to the flat call. -/
theorem isFlat_zero (hd : a.duration = noDuration) :
    { a with duration := .duration (some .zero) none }.isFlat = a.isFlat := by
  simp only [ThreadGroupArguments.isFlat, hd, isDefaultOrZero_zero, isDefaultOrZero_noDuration,
    isDuration_zero, isDuration_noDuration]

/-- Among literals a zero has no part in the call. -/
theorem parts?_zero (hd : a.duration = noDuration) (hi : isInt a.threads = true)
    (hr : isDuration a.rampUp = true) :
    { a with duration := .duration (some .zero) none }.parts? = a.parts? := by
  simp only [ThreadGroupArguments.parts?, isFlat_zero hd, ThreadGroupArguments.flatArguments,
    ThreadGroupArguments.uniform, ThreadGroupArguments.running?, ThreadGroupArguments.iterating,
    ThreadGroupArguments.rounds, ThreadGroupArguments.waiting, hd, hi, hr, isDefaultOrZero_zero,
    isDefaultOrZero_noDuration, isDuration_zero, isDuration_noDuration, Bool.and_true, if_true]

theorem isDefault_rounds (a : ThreadGroupArguments) : a.rounds.isDefault = false := by
  unfold ThreadGroupArguments.rounds
  split
  · rfl
  · rename_i h
    exact Bool.eq_false_iff.2 h

/-- A schedule of strings that waits, ramps up and goes by iterations. -/
theorem strings_iterating {ramp : String} (h : a.rampUp = .string (some ramp) none false) :
    a.iterating.flatMap Link.strings =
      Layout.literalStrings a.threads ++ [ramp] ++ Layout.literalStrings a.rounds := by
  have hrounds : isElided [a.rounds] = false := by simp [isElided, isDefault_rounds]
  have hramp : isElided [a.threads, .string (some ramp) none false] = false := by
    simp [isElided, Literal.isDefault]
  simp [ThreadGroupArguments.iterating, Link.strings, hrounds, hramp, h, Layout.literalStrings]

/-- A duration that is a string is held for at the end. -/
theorem strings_running? {ramp length : String} (h : a.rampUp = .string (some ramp) none false)
    (hd : a.duration = .string (some length) none false) : ∃ links, a.running? = some links ∧
      links.flatMap Link.strings = a.iterating.flatMap Link.strings ++ [length] := by
  have hz : isDefaultOrZero a.duration = false := by rw [hd]; rfl
  have hzr : isDefaultOrZero a.rampUp = false := by rw [h]; rfl
  have hhold : a.hold? = some (a.duration, [.remark holdRemark]) := by
    simp [ThreadGroupArguments.hold?, hd, hzr]
  rw [ThreadGroupArguments.running?, if_neg (by simp [hz]), hhold, Option.map_some]
  refine ⟨_, rfl, ?_⟩
  cases hi : a.iterations.isDefault with
  | true =>
    have hrounds : a.rounds = .number (-1) := if_pos hi
    rw [strings_iterating h, hrounds]
    simp [Link.strings, isElided, h, hd, Literal.isDefault, Layout.literalStrings, Literal.number]
  | false =>
    simp [Link.strings, isElided, hd, Literal.isDefault, Layout.literalStrings]

/-- Among strings a zero is held for: the call has one string more. -/
theorem strings_zero (hd : a.duration = noDuration)
    (hl : (isInt a.threads && isDuration a.rampUp) = false) (hv : a.rampUp.hasValue = true)
    (hf : a.isFlat = false) :
    ∃ p p' zero, a.parts? = some p ∧
      { a with duration := .duration (some .zero) none }.parts? = some p' ∧
      p'.arguments = p.arguments ∧
      p'.links.flatMap Link.strings = p.links.flatMap Link.strings ++ [zero] := by
  obtain ⟨ramp, hramp⟩ : ∃ ramp, a.rampUp.expression = some ramp :=
    Option.isSome_iff_exists.1 ((hasValue_asString a.rampUp).trans hv)
  let strings (length : Option String) : ThreadGroupArguments :=
    { a with threads := asString a.threads, rampUp := .string (some ramp) none false,
             duration := .string length none false }
  have hr : asString a.rampUp = .string (some ramp) none false := by rw [asString, hramp]
  have hu : a.uniform = strings none := by
    rw [ThreadGroupArguments.uniform, if_neg (by simp [hl]), hr, hd]
    rfl
  have hu' : { a with duration := .duration (some .zero) none }.uniform =
      strings (some (toString Duration.zero.wholeSeconds)) := by
    rw [ThreadGroupArguments.uniform, if_neg (by simp [hl]), hr]
    rfl
  have hf' := (isFlat_zero hd).trans hf
  obtain ⟨links, hlinks, hstrings⟩ := strings_running?
    (a := strings (some (toString Duration.zero.wholeSeconds))) rfl rfl
  refine ⟨⟨literals [a.name], (strings none).waiting ++ (strings none).iterating⟩,
    ⟨literals [a.name], (strings none).waiting ++ links⟩, toString Duration.zero.wholeSeconds,
    ?_, ?_, rfl, ?_⟩
  · rw [ThreadGroupArguments.parts?, if_neg (by simp [hf]), hu]
    rfl
  · rw [ThreadGroupArguments.parts?, if_neg (by simp [hf']), hu', hlinks]
    rfl
  · rw [List.flatMap_append, List.flatMap_append, hstrings, List.append_assoc]
    rfl

end

/-! ## The code of a zero -/

theorem length_of_reads {text : List Char} {strings more : List String}
    (h : Text.StringLiteral.Reads text strings) (h' : Text.StringLiteral.Reads text more) :
    strings.length = more.length := by
  have he := (h []).symm.trans (h' [])
  simpa using congrArg (fun s => s.found.length) he

/-- Calls with the same code have as many strings. -/
theorem length_strings_of_code_eq {m n : Node} (hm : Layout.Regular m) (hn : Layout.Regular n)
    (h : m.code "" = n.code "") : m.strings.length = n.strings.length := by
  have hi : Layout.IsIndent "".toList := by simp [Layout.IsIndent]
  have hr := Layout.reads_code hm hi
  rw [h] at hr
  exact length_of_reads hr (Layout.reads_code hn hi)

section

variable {e : Element} {a : ThreadGroupArguments} {d : Draft Node}

theorem regular_threadGroup (h : threadGroup Surface.standard e = .ok d) :
    Layout.Regular d.toNode :=
  Draft.regular_toNode ((built_threadGroup Surface.standard e d h).regular freeSurface_standard
    (ElementKind.word_factoryMethod? (k := .threadGroup) _ rfl))

theorem ThreadGroupArguments.Reads.not_scheduleIsBeyond (h : a.Reads e)
    (hz : isDefaultOrZero a.duration = true) : ¬ e.ScheduleIsBeyond := by
  rw [h.scheduleIsBeyond_iff, holdOverruns_iff, holdIs_uniform]
  simp [hz]

/-- A thread group without a duration that counts has a call. -/
theorem exists_assembled (ha : threadGroupArguments e = .ok a)
    (hz : isDefaultOrZero a.duration = true) : ∃ d p, threadGroup Surface.standard e = .ok d ∧
      a.parts? = some p ∧ assembled Surface.standard "threadGroup" p = .ok d := by
  have hin := ((ends_threadGroupArguments e).yields a ha).not_scheduleIsBeyond hz
  obtain ⟨d, hd, -⟩ := (ends_threadGroup e).delivers fun _ he => hin he.2
  obtain ⟨a', p, ha', hp, hasm⟩ := yields_threadGroup Surface.standard e d hd
  rw [ha] at ha'
  cases ha'
  exact ⟨d, p, hd, hp, hasm⟩

theorem ThreadGroupArguments.Reads.duration_blank (h : a.Reads e)
    (hb : e.trimmedAt durationKey = "") : a.duration = noDuration := by
  have hd := h.duration
  split at hd
  · exact (Option.some.inj ((if_pos hb).symm.trans hd)).symm
  · exact hd

/-- A ramp-up that is an expression is neither the default one nor zero. -/
theorem ThreadGroupArguments.Reads.isDuration_rampUp (h : a.Reads e)
    (hz : isDefaultOrZero a.rampUp = true) : isDuration a.rampUp = true := by
  obtain ⟨-, hl⟩ | ⟨_, _, -, -, hl⟩ | ⟨-, -, hl⟩ := Element.durationLiteral?_eq_some h.rampUp
  · rw [hl]
    rfl
  · rw [hl]
    rfl
  · rw [hl] at hz
    cases hz

theorem isFlat_eq_false (h : a.Reads e) (hl : (isInt a.threads && isDuration a.rampUp) = false) :
    a.isFlat = false := by
  by_contra hf
  rw [Bool.not_eq_false] at hf
  simp only [ThreadGroupArguments.isFlat, Bool.and_eq_true] at hf
  rw [hf.1.1.1.1.1, h.isDuration_rampUp hf.1.1.2] at hl
  cases hl

/-- Once it is read, a thread group with a duration of zero has the same code as one with none
exactly if the zero does not become a string. -/
theorem code_zero_iff_of_read (h : e.trimmedAt durationKey = "")
    (ha : threadGroupArguments e = .ok a) :
    (∀ indent, (threadGroup Surface.standard (e.setText durationKey "0")).map
        (·.toNode.code indent) =
      (threadGroup Surface.standard e).map (·.toNode.code indent)) ↔
      e.flagAt schedulerKey true = false ∨ (isInt a.threads && isDuration a.rampUp) = true := by
  have hr := (ends_threadGroupArguments e).yields a ha
  have hd := hr.duration_blank h
  have hz := threadGroupArguments_zero h
  rw [ha] at hz
  have hnone : isDefaultOrZero a.duration = true := hd ▸ isDefaultOrZero_noDuration
  obtain ⟨d, p, hok, hp, hasm⟩ := exists_assembled ha hnone
  have hsame : ∀ {e' : Element} {p' : Parts} {d' : Draft Node}, p' = p →
      threadGroup Surface.standard e' = .ok d' →
      assembled Surface.standard "threadGroup" p' = .ok d' → ∀ indent,
      (threadGroup Surface.standard e').map (·.toNode.code indent) =
        (threadGroup Surface.standard e).map (·.toNode.code indent) := by
    rintro e' _ d' rfl hok' hasm' indent
    rw [hasm] at hasm'
    rw [hok, hok', Except.ok.inj hasm']
  cases hon : e.flagAt schedulerKey true with
  | false =>
    have hself : { a with duration := noDuration } = a := by rw [← hd]
    have hz : threadGroupArguments (e.setText durationKey "0") = .ok a := by
      rw [hz, hon]
      exact congrArg Except.ok hself
    obtain ⟨d', p', hok', hp', hasm'⟩ := exists_assembled hz hnone
    exact iff_of_true (hsame (Option.some.inj (hp'.symm.trans hp)) hok' hasm') (Or.inl rfl)
  | true =>
    have hz : threadGroupArguments (e.setText durationKey "0") =
        .ok { a with duration := .duration (some .zero) none } := by
      rw [hz, hon]
      rfl
    obtain ⟨d', p', hok', hp', hasm'⟩ := exists_assembled hz isDefaultOrZero_zero
    cases hl : isInt a.threads && isDuration a.rampUp with
    | true =>
      obtain ⟨hi, hdr⟩ := Bool.and_eq_true_iff.1 hl
      rw [parts?_zero hd hi hdr] at hp'
      exact iff_of_true (hsame (Option.some.inj (hp'.symm.trans hp)) hok' hasm') (Or.inr rfl)
    | false =>
      refine iff_of_false (fun hc => ?_) (by simp)
      obtain ⟨_, _, zero, hq, hq', hargs, hstrings⟩ := strings_zero hd hl
        ((hasValue_durationLiteral hr.rampUp).2 (Or.inr rfl)) (isFlat_eq_false hr hl)
      obtain rfl := Option.some.inj (hq.symm.trans hp)
      obtain rfl := Option.some.inj (hq'.symm.trans hp')
      have hcode : d'.toNode.code "" = d.toNode.code "" := by
        have hc := hc ""
        rw [hok, hok'] at hc
        exact Except.ok.inj hc
      have hlength := length_strings_of_code_eq (regular_threadGroup hok')
        (regular_threadGroup hok) hcode
      rw [strings_assembled _ _ _ _ hasm', strings_assembled _ _ _ _ hasm, hargs,
        hstrings] at hlength
      simp at hlength

/-- **Zero durations.** A thread group with a duration of zero has the same code as one with none,
unless its scheduler is on and its threads or its ramp-up are an expression. -/
theorem code_zero_iff (h : e.trimmedAt durationKey = "") :
    (∀ indent, (threadGroup Surface.standard (e.setText durationKey "0")).map
        (·.toNode.code indent) =
      (threadGroup Surface.standard e).map (·.toNode.code indent)) ↔
      e.flagAt schedulerKey true = false ∨ e.ScheduleIsBeyond ∨
        e.IsPlain threadsKey ∧ e.IsPlain rampTimeKey := by
  have hends := ends_threadGroupArguments e
  have hzero := threadGroupArguments_zero h
  cases ha : threadGroupArguments e with
  | error error =>
    -- A time that is out of range is refused before the duration counts.
    rw [ha] at hends hzero
    cases hends with
    | error hb =>
      have hf : ∀ e' : Element, threadGroupArguments e' = .error error →
          threadGroup Surface.standard e' = .error error := fun e' he => by
        rw [threadGroup, he]
        rfl
      refine iff_of_true (fun indent => ?_) (Or.inr (Or.inl hb.2))
      rw [hf _ ha, hf _ hzero]
  | ok a =>
    rw [ha] at hends
    cases hends with
    | ok hr =>
      have hnone : isDefaultOrZero a.duration = true :=
        hr.duration_blank h ▸ isDefaultOrZero_noDuration
      have hin := hr.not_scheduleIsBeyond hnone
      rw [code_zero_iff_of_read h ha, or_iff_right hin, Bool.and_eq_true, hr.threads]
      exact or_congr_right (and_congr isInt_intLiteral (isDuration_durationLiteral hr.rampUp))

/-- Three threads, next to an expression for the iterations. -/
def countedGroup : Element where
  kind := "ThreadGroup"
  name := "Users"
  properties := [(threadsKey, .text "3"), (mainControllerKey, .element
    { kind := "LoopController", properties := [(loopsKey, .text "$\x7bloops\x7d")] })]

theorem code_zero_iff_countedGroup : countedGroup.trimmedAt durationKey = "" ∧
    ∀ indent, (threadGroup Surface.standard (countedGroup.setText durationKey "0")).map
        (·.toNode.code indent) =
      (threadGroup Surface.standard countedGroup).map (·.toNode.code indent) := by
  have hblank : countedGroup.trimmedAt durationKey = "" := by decide +kernel
  have hthreads : Number.readWhole? (countedGroup.trimmedAt threadsKey) = some 3 := by
    decide +kernel
  have hramp : countedGroup.trimmedAt rampTimeKey = "" := by decide +kernel
  exact ⟨hblank, (code_zero_iff hblank).2 (Or.inr (Or.inr ⟨Or.inr ⟨3, hthreads⟩, Or.inl hramp⟩))⟩

/-- As many threads as JMeter evaluates. -/
def evaluatedGroup : Element where
  kind := "ThreadGroup"
  name := "Users"
  properties := [(threadsKey, .text "$\x7busers\x7d")]

/-- With a duration of zero it is held for `"0"`, without one it goes by iterations. -/
theorem not_code_zero : ¬ ∀ e : Element, e.trimmedAt durationKey = "" → ∀ indent,
    (threadGroup Surface.standard (e.setText durationKey "0")).map (·.toNode.code indent) =
      (threadGroup Surface.standard e).map (·.toNode.code indent) := by
  intro h
  have hblank : evaluatedGroup.trimmedAt durationKey = "" := by decide +kernel
  have hcode := congrArg Except.toOption (h evaluatedGroup hblank "")
  revert hcode
  decide +kernel

end

end Convert
end PlanCode
