import PlanCode.File.Tree
import PlanCode.Proofs.Json.RoundTrip
import PlanCode.Proofs.Plan.Overrun
import PlanCode.Proofs.Profile.Overrun
import PlanCode.Proofs.Settings.Reading
import PlanCode.Proofs.Tools.Schema

/-!
# Answers of tools

A tool that is given arguments of its published shape gives an answer, which
says whether it succeeded, unless a time is out of range: that ends the call
without an answer. For each part of a call it is shown which failures it has,
and that one for a time out of range comes exactly when there is such a time.

* `ends_answer`: which outcomes of a tool are answered.
* `endsIdle_convertPlan`, `ends_buildThreadGroup`: the outcomes of the tools.
* `call_answers_iff`: which calls are answered.
-/
namespace PlanCode

namespace Failure

/-- A time is out of range. -/
def IsOverflow (f : Failure) : Prop :=
  f = .overflow ∨ f = .stage .durationOverflow ∨ f = .conversion .durationOverflow

theorem reportName?_of_isOverflow {f : Failure} (h : f.IsOverflow) : f.reportName? = none := by
  obtain rfl | rfl | rfl := h <;> rfl

theorem isReported_stage {e : StageError} (h : e ≠ .durationOverflow) :
    (Failure.stage e).reportName?.isSome = true := by
  cases e <;> first | rfl | exact absurd rfl h

theorem isReported_settings {e : SettingsError} (h : e ≠ .keysNotText) :
    (Failure.settings e).reportName?.isSome = true := by
  cases e <;> first | rfl | exact absurd rfl h

end Failure

/-! ## Answers -/

namespace Tool

open ToolDescription (record texts)

/-- A text is an object that tells whether a call succeeded. -/
def IsAnswer (text : String) : Prop :=
  ∃ entries b, Json.read? text = some (.map entries) ∧
    Datum.field? "success" entries = some (.bool b)

/-- An outcome that is answered. -/
def IsReport (d : Datum) : Prop :=
  Json.IsJson d ∧ ∃ b more, d = record (("success", .bool b) :: more)

theorem isAnswer_write {d : Datum} (h : IsReport d) : IsAnswer (Json.write d) := by
  obtain ⟨hj, b, more, rfl⟩ := h
  exact ⟨_, b, Json.read?_write hj, rfl⟩

theorem isJson_texts (items : List String) : Json.IsJson (texts items) :=
  .list (by simpa using fun s _ => .text s)

theorem isReport_failureAnswer (name : String) (f : Failure) : IsReport (failureAnswer name f) :=
  ⟨.map (by simp [Json.IsJson.bool, Json.IsJson.text]) (by simp), false, _, rfl⟩

/-- A failure is one for a time out of range if the condition holds, else it is reported. -/
def Fits (X : Prop) (f : Failure) : Prop :=
  f.IsOverflow ∧ X ∨ f.reportName?.isSome = true ∧ ¬ X

theorem fits_of_not {X : Prop} {f : Failure} (hf : f.reportName?.isSome = true) (h : ¬ X) :
    Fits X f := Or.inr ⟨hf, h⟩

/-- Failures that are reported are answers as well. -/
theorem ends_answer {X : Prop} {outcome : Except Failure Datum}
    (h : Ends outcome (fun d => IsReport d ∧ ¬ X) (Fits X)) :
    Ends (answer outcome) (fun text => IsAnswer text ∧ ¬ X) fun f => f.IsOverflow ∧ X := by
  cases h with
  | ok h => exact .ok ⟨isAnswer_write h.1, h.2⟩
  | @error _ _ f h =>
    obtain ⟨ho, hx⟩ | ⟨hr, hx⟩ := h
    · rw [answer, Failure.reportName?_of_isOverflow ho]
      exact .error ⟨ho, hx⟩
    · obtain ⟨name, hn⟩ := Option.isSome_iff_exists.1 hr
      rw [answer_reported hn]
      exact .ok ⟨isAnswer_write (isReport_failureAnswer name f), hx⟩

/-! ## Runs over files -/

section Idle

variable {α β : Type} {t : FileTree} {P : α → Prop} {Q : β → Prop} {E : Failure → Prop}

/-- A run over some files leaves them as they are, and ends in a known way. -/
def EndsIdle (x : ExceptT Failure (StateM FileTree) α) (t : FileTree) (P : α → Prop)
    (E : Failure → Prop) : Prop := ∃ r, x.run t = (r, t) ∧ Ends r P E

theorem endsIdle_settle {c : Except Failure α} (h : Ends c P E) : EndsIdle (settle c) t P E :=
  ⟨c, rfl, h⟩

theorem endsIdle_bind {x : ExceptT Failure (StateM FileTree) α}
    {f : α → ExceptT Failure (StateM FileTree) β} (h : EndsIdle x t P E)
    (hf : ∀ a, P a → EndsIdle (f a) t Q E) : EndsIdle (x >>= f) t Q E := by
  obtain ⟨r, hx, hr⟩ := h
  cases hr with
  | ok ha =>
    obtain ⟨r, hy, hr⟩ := hf _ ha
    refine ⟨r, ?_, hr⟩
    rw [ExceptT.run_bind]
    simp only [bind, StateT.bind, hx]
    exact hy
  | @error _ _ e he =>
    refine ⟨.error e, ?_, .error he⟩
    rw [ExceptT.run_bind]
    simp only [bind, StateT.bind, hx]
    rfl

theorem EndsIdle.imp_error {x : ExceptT Failure (StateM FileTree) α} {E' : Failure → Prop}
    (h : EndsIdle x t P E) (he : ∀ f, E f → E' f) : EndsIdle x t P E' := by
  obtain ⟨r, hx, hr⟩ := h
  exact ⟨r, hx, hr.imp_error he⟩

end Idle

/-! ## Plans -/

/-- A conversion reads no file and writes none. -/
structure NeedsNoFiles (fields : List (Datum × Datum)) (t : FileTree) : Prop where
  path : (argument "jmx_path" fields).isGiven = false
  output : (argument "output_path" fields).isGiven = false
  settings : ∀ name ∈ Settings.fileNames, ∀ content,
    t.lookup? { names := [name] } ≠ some (.file content)

theorem load_none {t : FileTree} (h : ∀ name ∈ Settings.fileNames, ∀ content,
    t.lookup? { names := [name] } ≠ some (.file content)) :
    Settings.load (m := StateM FileTree) none t = (.ok {}, t) := by
  have hfile : ∀ name ∈ Settings.fileNames,
      FileAccess.isFile (m := StateM FileTree) (Path.child {} name) t = (false, t) := by
    intro name hn
    have hne := h name hn
    change ((((t.lookup? { names := [name] }).map FileTree.Entry.kind) == some .file), t) = _
    cases hl : t.lookup? { names := [name] } with
    | none => rfl
    | some e =>
      cases e with
      | file content => exact absurd hl (hne content)
      | directory => rfl
  simp only [Settings.fileNames, List.forall_mem_cons] at hfile
  simp only [Settings.load, Settings.findFile?, Settings.findFile?.go, Settings.fileNames, bind,
    StateT.bind, hfile.1, hfile.2.1, Bool.false_eq_true, if_false]
  rfl

/-- The settings of a conversion that finds no settings file. -/
def settingsOf (fields : List (Datum × Datum)) : Except SettingsError Settings :=
  ({} : Settings).withOverrides
    [(.text Settings.classNameKey, argument Settings.classNameKey fields)]

/-- The conversion of the plan in some arguments comes to a time out of range before anything else
makes it fail. -/
def PlanOverruns (fields : List (Datum × Datum)) : Prop :=
  ∃ (settings : Settings) (text : String) (plan : Element), settingsOf fields = .ok settings ∧
    argument "jmx_content" fields = .text text ∧ PlanFile.read text = .ok plan ∧
    Element.Overruns settings .root plan

theorem planOverruns_iff {fields : List (Datum × Datum)} {settings : Settings} {text : String}
    {plan : Element} (hs : settingsOf fields = .ok settings)
    (hc : argument "jmx_content" fields = .text text) (hr : PlanFile.read text = .ok plan) :
    PlanOverruns fields ↔ Element.Overruns settings .root plan := by
  constructor
  · rintro ⟨settings', text', plan', hs', hc', hr', h⟩
    cases hs.symm.trans hs'
    cases hc.symm.trans hc'
    cases hr.symm.trans hr'
    exact h
  · exact fun h => ⟨settings, text, plan, hs, hc, hr, h⟩

theorem ends_settingsOf (fields : List (Datum × Datum)) :
    Ends ((settingsOf fields).mapError Failure.settings) (settingsOf fields = .ok ·)
      fun f => f.reportName?.isSome = true ∧ ∀ settings, settingsOf fields ≠ .ok settings := by
  have h : Ends (settingsOf fields) (fun _ => True) (· ≠ .keysNotText) :=
    Settings.ends_withOverrides _ (by simp [Datum.isText])
  refine ends_mapError (h.eq.imp_ok fun _ => And.left) fun e he => ?_
  exact ⟨Failure.isReported_settings he.2, by simp [he.1]⟩

theorem hasCall_of_read {text : String} {plan : Element} (h : PlanFile.read text = .ok plan) :
    plan.hasCall = true := by
  have hkind : plan.kind = PlanFile.planKind := by
    unfold PlanFile.read PlanFile.ofRoot at h
    split at h
    · dsimp only at h
      split at h
      · cases h
      · split at h
        · rename_i hf
          cases h
          simpa using List.find?_some hf
        · cases h
    · cases h
  simp [Element.hasCall, ElementKind.isKindOf, ElementKind.recognisedBy, hkind, PlanFile.planKind]

theorem ends_generate_mapError (s : Settings) {plan : Element} (hcall : plan.hasCall = true) :
    Ends ((({ settings := s } : Generator).generate plan).mapError Failure.conversion)
      (fun _ => ¬ Element.Overruns s .root plan) (Fits (Element.Overruns s .root plan)) := by
  rw [← Generator.generate_eq_overflow (g := { settings := s }) rfl rfl hcall]
  refine ends_mapError ((Generator.ends_generate (g := { settings := s }) rfl rfl plan).eq.imp
    (fun _ h => by simp [h.1]) fun _ h => h) ?_
  rintro e ⟨he, rfl | ⟨hr, -⟩⟩
  · exact Or.inl ⟨Or.inr (Or.inr rfl), he⟩
  · refine fits_of_not (Failure.reportName?_of_isExpected hr) ?_
    rw [he]
    rintro ⟨⟩
    cases hr

/-- A plan that comes in a text. -/
theorem endsIdle_readPlan {path : Datum} (hp : path.isGiven = false) (text : String)
    (t : FileTree) : EndsIdle (readPlan path (.text text)) t (PlanFile.read text = .ok ·)
      fun f => f.reportName?.isSome = true ∧ ∀ plan, PlanFile.read text ≠ .ok plan := by
  unfold readPlan
  rw [hp, if_neg (by decide)]
  refine endsIdle_bind (P := (text = ·)) (endsIdle_settle (.ok rfl)) ?_
  rintro _ rfl
  refine endsIdle_settle ?_
  cases PlanFile.read text with
  | ok plan => exact .ok rfl
  | error e => exact .error ⟨rfl, nofun⟩

/-- Code that goes to no file is only told. -/
theorem endsIdle_writeCode {output : Datum} (h : output.isGiven = false) (code : String)
    {E : Failure → Prop} (t : FileTree) : EndsIdle (writeCode output code) t ([] = ·) E := by
  refine ⟨.ok [], ?_, .ok rfl⟩
  rw [writeCode, h]
  rfl

/-- **Plans.** A conversion that needs no files is reported unless it comes to a time out of
range. -/
theorem endsIdle_convertPlan {fields : List (Datum × Datum)} {t : FileTree}
    (ha : Accepts ToolDescription.convertPlan.arguments (.map fields)) (h : NeedsNoFiles fields t) :
    EndsIdle (Tool.convertPlan (m := StateM FileTree) fields) t
      (fun d => IsReport d ∧ ¬ PlanOverruns fields) (Fits (PlanOverruns fields)) := by
  unfold Tool.convertPlan
  dsimp only
  rw [h.path, Bool.not_false, Bool.true_and]
  cases hg : (argument "jmx_content" fields).isGiven with
  | false =>
    -- Nothing to convert: no text, or one that holds no plan.
    refine ⟨.error (.request "jmx_path or jmx_content is required"), rfl,
      .error (fits_of_not rfl ?_)⟩
    rintro ⟨_, text, plan, -, hc, hr, -⟩
    obtain rfl : text = "" := by simpa [hc, Datum.isGiven] using hg
    cases hr
  | true =>
    obtain hc | ⟨text, hc⟩ : argument "jmx_content" fields = .null ∨
        ∃ text, argument "jmx_content" fields = .text text := argument_of_text ha rfl
    · rw [hc] at hg
      cases hg
    rw [hc, if_neg (by decide)]
    refine endsIdle_bind (P := (({} : Settings) = ·)) ⟨_, load_none h.settings, .ok rfl⟩ ?_
    rintro _ rfl
    refine endsIdle_bind (endsIdle_settle ((ends_settingsOf fields).imp_error ?_)) ?_
    · rintro f ⟨hf, hs⟩
      refine fits_of_not hf ?_
      rintro ⟨settings, _, _, hs', -⟩
      exact hs settings hs'
    intro settings hs
    refine endsIdle_bind ((endsIdle_readPlan h.path text t).imp_error ?_) ?_
    · rintro f ⟨hf, hr⟩
      refine fits_of_not hf ?_
      rintro ⟨_, text', plan, -, hc', hr', -⟩
      cases hc.symm.trans hc'
      exact hr plan hr'
    intro plan hr
    rw [planOverruns_iff hs hc hr]
    refine endsIdle_bind (endsIdle_settle (ends_generate_mapError settings (hasCall_of_read hr))) ?_
    intro result hin
    refine endsIdle_bind (endsIdle_writeCode h.output result.code t) ?_
    rintro _ rfl
    refine ⟨.ok _, rfl, .ok ⟨⟨.map ?_ (by simp), true, _, rfl⟩, hin⟩⟩
    simp [Json.IsJson.bool, Json.IsJson.text, Json.IsJson.int, isJson_texts]

/-! ## Stages -/

/-- A stage has threads and a time out of range. -/
def StageOverruns (d : Datum) : Prop :=
  ∃ fields, d = .map fields ∧ (∃ c, Stage.countOf (argument "threads" fields) = .ok (some c)) ∧
    Stage.IsBeyond (argument "duration" fields)

/-- Among the stages in some arguments one has a time out of range and all before it are read, or
all are read and the times that make a thread group add up to one out of range. -/
def StagesOverrun (fields : List (Datum × Datum)) : Prop :=
  ∃ items, argument "stages" fields = .list items ∧
    (ComesTo (fun d => ∃ s, readStage d = .ok s) StageOverruns items ∨
      ∃ stages, items.mapM readStage = .ok stages ∧ Schedule.SumIsBeyond stages)

theorem stageOverruns_map {fields : List (Datum × Datum)} : StageOverruns (.map fields) ↔
    (∃ c, Stage.countOf (argument "threads" fields) = .ok (some c)) ∧
      Stage.IsBeyond (argument "duration" fields) := by
  simp [StageOverruns]

/-- A stage is read with a time that can be written, unless that is out of range. -/
theorem ends_readStage (d : Datum) : Ends (readStage d)
    (fun s => (∀ t ∈ s.duration, t.IsReadable) ∧ ¬ StageOverruns d) (Fits (StageOverruns d)) := by
  unfold readStage
  dsimp only
  split
  · rename_i fields
    rw [stageOverruns_map]
    split
    · rename_i ht
      refine .error (fits_of_not rfl ?_)
      rw [ht]
      rintro ⟨⟨c, ⟨⟩⟩, -⟩
    · have hends := Stage.ends_ofValues (argument "threads" fields) (argument "duration" fields)
        (argument "iterations" fields)
      have hread := Stage.yields_duration (argument "threads" fields) (argument "duration" fields)
        (argument "iterations" fields)
      refine ends_mapError (hends.eq_ok.imp_ok fun s h => ⟨hread s h.1, h.2⟩) fun e he => ?_
      by_cases ho : e = .durationOverflow
      · exact Or.inl ⟨Or.inr (Or.inl (congrArg _ ho)), he.1 ho⟩
      · exact fits_of_not (Failure.isReported_stage ho) (mt he.2 ho)
  · rename_i hm
    refine .error (fits_of_not rfl ?_)
    rintro ⟨fields, rfl, -⟩
    exact hm fields rfl

/-- Stages are read in order, so what ends their reading is the first of them that is not read. -/
theorem ends_readStages (items : List Datum) : Ends (items.mapM readStage)
    (fun stages => (∀ s ∈ stages, ∀ t ∈ s.duration, t.IsReadable) ∧
      ¬ ComesTo (fun d => ∃ s, readStage d = .ok s) StageOverruns items)
    (Fits (ComesTo (fun d => ∃ s, readStage d = .ok s) StageOverruns items)) := by
  induction items with
  | nil => exact .ok ⟨by simp, not_comesTo_nil _ _⟩
  | cons d items ih =>
    rw [List.mapM_cons, comesTo_cons]
    refine ends_bind ((ends_readStage d).eq.imp_error ?_) ?_
    · rintro f ⟨hf, ⟨ho, hd⟩ | ⟨hr, hd⟩⟩
      · exact Or.inl ⟨ho, Or.inl hd⟩
      · refine fits_of_not hr ?_
        rintro (h | ⟨⟨s, hs⟩, -⟩)
        · exact hd h
        · cases hf.symm.trans hs
    · rintro s ⟨hs, ht, hd⟩
      rw [or_iff_right hd, and_iff_right ⟨s, hs⟩]
      refine ends_bind ih fun stages h => .ok ⟨List.forall_mem_cons.2 ⟨ht, h.1⟩, h.2⟩

/-- Stages make a thread group unless their times add up to one out of range. -/
theorem ends_threadGroupOf {stages : List Stage}
    (h : ∀ s ∈ stages, ∀ t ∈ s.duration, t.IsReadable) (name : Option String) :
    Ends (threadGroupOf stages name) (fun _ => ¬ Schedule.SumIsBeyond stages)
      (Fits (Schedule.SumIsBeyond stages)) := by
  rw [← Schedule.ofStages?_eq_none]
  unfold threadGroupOf
  cases hs : Schedule.ofStages? stages with
  | none => exact .error (Or.inl ⟨Or.inl rfl, rfl⟩)
  | some schedule =>
    have hin := not_scheduleIsBeyond_toElement (hasReadableTimes_ofStages? h hs)
      (Schedule.holdsInRange_ofStages? hs) name
    refine ends_mapError ((Convert.ends_threadGroup (schedule.toElement name)).imp_ok
      fun _ _ => nofun) ?_
    exact fun _ h => absurd h.2 hin

theorem stagesOverrun_iff {fields : List (Datum × Datum)} {items : List Datum}
    (h : argument "stages" fields = .list items) : StagesOverrun fields ↔
      ComesTo (fun d => ∃ s, readStage d = .ok s) StageOverruns items ∨
        ∃ stages, items.mapM readStage = .ok stages ∧ Schedule.SumIsBeyond stages := by
  simp [StagesOverrun, h]

theorem exists_readName {d : Datum} (h : d = .null ∨ ∃ s, d = .text s) :
    ∃ name, readName d = .ok name := by
  obtain rfl | ⟨s, rfl⟩ := h
  · exact ⟨none, rfl⟩
  · unfold readName
    split
    · exact ⟨none, rfl⟩
    · exact ⟨some s, rfl⟩

/-- **Stages.** What stages make is reported unless a time is out of range. -/
theorem ends_buildThreadGroup {fields : List (Datum × Datum)}
    (ha : Accepts ToolDescription.buildThreadGroup.arguments (.map fields)) :
    Ends (Tool.buildThreadGroup fields) (fun d => IsReport d ∧ ¬ StagesOverrun fields)
      (Fits (StagesOverrun fields)) := by
  have hgiven : argument "name" fields = .null ∨ ∃ s, argument "name" fields = .text s :=
    argument_of_text ha rfl
  obtain ⟨name, hname⟩ := exists_readName hgiven
  unfold Tool.buildThreadGroup
  split
  · rename_i items hitems
    rw [stagesOverrun_iff hitems]
    refine ends_bind ((ends_readStages items).eq.imp_error ?_) ?_
    · rintro f ⟨hf, hfits⟩
      rwa [or_iff_left (by simp [hf])]
    rintro stages ⟨hs, hread, hin⟩
    have hsum : (∃ stages, items.mapM readStage = .ok stages ∧ Schedule.SumIsBeyond stages) ↔
        Schedule.SumIsBeyond stages := by simp [hs]
    rw [or_iff_right hin, hsum, hname]
    refine ends_bind (P := (name = ·)) (.ok rfl) ?_
    rintro _ rfl
    refine ends_bind (ends_threadGroupOf hread name) fun d hd => ?_
    refine .ok ⟨⟨.map ?_ (by simp), true, _, rfl⟩, hd⟩
    simp [Json.IsJson.bool, Json.IsJson.text, isJson_texts]
  · rename_i hl
    refine .error (fits_of_not rfl ?_)
    rintro ⟨items, hitems, -⟩
    exact hl items hitems

/-! ## Calls -/

/-- Some arguments lead a tool to a time out of range. -/
def Overruns (tool : ToolDescription) (fields : List (Datum × Datum)) : Prop :=
  if tool.name = ToolDescription.convertPlan.name then PlanOverruns fields
  else StagesOverrun fields

theorem call_convertPlan {fields : List (Datum × Datum)} {t : FileTree} {r : Except Failure Datum}
    (h : (Tool.convertPlan (m := StateM FileTree) fields).run t = (r, t)) :
    call (m := StateM FileTree) ToolDescription.convertPlan.name (.map fields) t =
      (answer r, t) := by
  rw [call]
  simp only [beq_self_eq_true, Bool.not_true, Bool.false_and, Bool.false_eq_true, if_false,
    if_true, bind, StateT.bind, h]
  rfl

theorem call_buildThreadGroup (fields : List (Datum × Datum)) (t : FileTree) :
    call (m := StateM FileTree) ToolDescription.buildThreadGroup.name (.map fields) t =
      (answer (Tool.buildThreadGroup fields), t) := by
  have hname : (ToolDescription.buildThreadGroup.name == ToolDescription.convertPlan.name) =
    false := by decide
  rw [call]
  simp only [hname, bne_self_eq_false, Bool.and_false, Bool.false_eq_true, if_false]
  rfl

theorem ends_call {tool : ToolDescription} (htool : tool ∈ ToolDescription.all)
    {fields : List (Datum × Datum)} (ha : Accepts tool.arguments (.map fields)) {t : FileTree}
    (ht : tool = ToolDescription.convertPlan → NeedsNoFiles fields t) :
    ∃ outcome, call (m := StateM FileTree) tool.name (.map fields) t = (outcome, t) ∧
      Ends outcome (fun text => IsAnswer text ∧ ¬ Overruns tool fields)
        fun f => f.IsOverflow ∧ Overruns tool fields := by
  simp only [ToolDescription.all, List.mem_cons, List.not_mem_nil, or_false] at htool
  obtain rfl | rfl := htool
  · obtain ⟨r, hr, hends⟩ := endsIdle_convertPlan ha (ht rfl)
    exact ⟨answer r, call_convertPlan hr, ends_answer hends⟩
  · exact ⟨_, call_buildThreadGroup fields t, ends_answer (ends_buildThreadGroup ha)⟩

/-- **Calls.** A tool that is given arguments of its published shape, and needs no files, answers
unless they lead to a time out of range. In that case the call fails. -/
theorem call_answers_iff {tool : ToolDescription} (htool : tool ∈ ToolDescription.all)
    {fields : List (Datum × Datum)} (ha : Accepts tool.arguments (.map fields)) {t : FileTree}
    (ht : tool = ToolDescription.convertPlan → NeedsNoFiles fields t) :
    ((∃ text, call (m := StateM FileTree) tool.name (.map fields) t = (.ok text, t) ∧
        IsAnswer text) ↔ ¬ Overruns tool fields) ∧
      ((∃ f, call (m := StateM FileTree) tool.name (.map fields) t = (.error f, t) ∧
        f.IsOverflow) ↔ Overruns tool fields) := by
  obtain ⟨outcome, hcall, hends⟩ := ends_call htool ha ht
  rw [hcall]
  cases hends with
  | ok h => exact ⟨iff_of_true ⟨_, rfl, h.1⟩ h.2, iff_of_false nofun h.2⟩
  | error h => exact ⟨iff_of_false nofun (not_not_intro h.2), iff_of_true ⟨_, rfl, h.1⟩ h.2⟩

/-! ### A plan with nothing in it, and a stage that is too long -/

def bareText : String := "<jmeterTestPlan><hashTree><TestPlan/></hashTree></jmeterTestPlan>"

def bareArguments : List (Datum × Datum) := [(.text "jmx_content", .text bareText)]

def longStage : Datum := .map [(.text "threads", .int 1), (.text "duration", .int 100000000000000)]

def longArguments : List (Datum × Datum) := [(.text "stages", .list [longStage])]

theorem not_planOverruns_bareArguments : ¬ PlanOverruns bareArguments := by
  have hread : ((PlanFile.read bareText).toOption.map fun e => (e.kind, e.children.isEmpty)) =
      some ("TestPlan", true) := by decide +kernel
  rintro ⟨settings, text, plan, -, hc, hr, h⟩
  cases hc
  rw [hr] at hread
  simp only [Except.toOption, Option.map_some, Option.some.injEq, Prod.mk.injEq,
    List.isEmpty_iff] at hread
  have hk : ElementKind.testPlan.isKindOf plan = true := by
    simp [ElementKind.isKindOf, ElementKind.recognisedBy, hread.1]
  rw [Element.overruns_iff hk] at h
  obtain h | ⟨-, -, h⟩ := h
  · exact h
  · rw [hread.2] at h
    exact not_comesTo_nil _ _ h

theorem call_answers_iff_bareArguments : ∃ text,
    call (m := StateM FileTree) ToolDescription.convertPlan.name (.map bareArguments) {} =
      (.ok text, {}) ∧ IsAnswer text := by
  have ha : Accepts ToolDescription.convertPlan.arguments (.map bareArguments) := by
    refine accepts_object (by simp) fun name inner value hi hv => ?_
    obtain ⟨rfl, rfl⟩ : "jmx_content" = name ∧ Datum.text bareText = value := by
      simpa [bareArguments, Datum.field?] using hv
    cases hi
    exact accepts_ofKind (Or.inr (Or.inr (Or.inl ⟨rfl, _, rfl⟩)))
  refine (call_answers_iff (List.mem_cons_self ..) ha fun _ => ⟨rfl, rfl, ?_⟩).1.2
    not_planOverruns_bareArguments
  intro name hn content
  have hfile : (({} : FileTree).lookup? { names := [name] }).isNone = true := by
    revert name
    decide
  simp [Option.isNone_iff_eq_none.1 hfile]

theorem not_answered_longArguments :
    Accepts ToolDescription.buildThreadGroup.arguments (.map longArguments) ∧
      ¬ ∃ text, (call (m := StateM FileTree) ToolDescription.buildThreadGroup.name
        (.map longArguments) {}).1 = .ok text := by
  constructor
  · refine accepts_object (by simp [longArguments, Datum.field?]) fun name inner value hi hv => ?_
    obtain ⟨rfl, rfl⟩ : "stages" = name ∧ Datum.list [longStage] = value := by
      simpa [longArguments, Datum.field?] using hv
    cases hi
    refine accepts_items (List.forall_mem_singleton.2 ?_)
    refine accepts_object (by simp [Datum.field?]) fun name inner value hi hv => ?_
    obtain ⟨rfl, rfl⟩ | ⟨rfl, rfl⟩ : "threads" = name ∧ Datum.int 1 = value ∨
        "duration" = name ∧ Datum.int 100000000000000 = value := by
      simp only [Datum.field?] at hv
      split_ifs at hv <;> simp_all
    all_goals
      cases hi
      exact accepts_ofKinds (List.mem_cons_self ..)
        (Or.inr (Or.inr (Or.inr (Or.inl ⟨rfl, _, rfl, nofun⟩))))
  · have h : call (m := StateM FileTree) ToolDescription.buildThreadGroup.name
        (.map longArguments) {} = (.error (.stage .durationOverflow), {}) := rfl
    rw [h]
    rintro ⟨text, ⟨⟩⟩

end Tool
end PlanCode
