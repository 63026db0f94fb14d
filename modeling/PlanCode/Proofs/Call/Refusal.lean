import PlanCode.Proofs.Call.Attachment

/-!
# Edits that fail

An edit that fails leaves the workbench as it was, with one exception: a child is
replaced that is not there, and until then no edit has concerned the children of
the call. That attempt decides for the place of the children, and what is done to
the call later shows it.

* `editDraft_of_error`: what an edit that fails leaves behind.
* `not_indistinguishable_of_decides`: that the place was decided for can be told.
* `indistinguishable_iff_of_error`: which edits that fail leave no trace.
-/
namespace PlanCode

namespace Workbench

open Draft

/-! ## What can be told of a workbench -/

/-- How many segments are chained to a call. -/
def chainSize? (w : Workbench) (n : Nat) : Option Nat :=
  match w.cells[n]? with
  | some (.draft d) => some d.chain.length
  | _ => none

/-- All nodes look alike on two workbenches. -/
structure SameView (w w' : Workbench) : Prop where
  chainSize : ∀ n, w.chainSize? n = w'.chainSize? n
  code : ∀ n indent, w.code n indent = w'.code n indent
  assignmentCode : ∀ n indent, w.assignmentCode n indent = w'.assignmentCode n indent

def outcome (w : Workbench) : Move → Except WorkError Unit
  | .add _ => .ok ()
  | .edit on e => (w.edit on e).2

/-- How each of some moves ends. -/
def outcomes (w : Workbench) : List Move → List (Except WorkError Unit)
  | [] => []
  | move :: rest => w.outcome move :: (w.move move).outcomes rest

/-- Whatever is done on two workbenches, it ends alike, and the nodes look alike after it. -/
def Indistinguishable (w w' : Workbench) : Prop :=
  ∀ moves, w.outcomes moves = w'.outcomes moves ∧ SameView (w.after moves) (w'.after moves)

theorem Indistinguishable.refl (w : Workbench) : Indistinguishable w w :=
  fun _ => ⟨rfl, fun _ => rfl, fun _ _ => rfl, fun _ _ => rfl⟩

/-- An edit replaces a child of a call whose place for children was open, and finds one. -/
def Decides (w : Workbench) (n : Nat) (e : Edit) : Prop :=
  ∃ d old new opened, w.cells[n]? = some (.draft d) ∧ e = .replaceChild old new ∧
    d.slot = .undecided ∧ d.openSlot w.surface = .ok opened

/-! ## What an edit that fails leaves behind -/

variable {w : Workbench} {n : Nat} {e : Edit} {d : Draft Nat} {error : WorkError}

theorem step_of_error {result : Except CallError (Draft Nat)}
    (h : (editDraft.step d result).2 = .error error) : (editDraft.step d result).1 = d := by
  cases result with
  | ok d' => cases h
  | error e => rfl

/-- The attempt to replace a child that is not there decides for the slot. -/
theorem replaceChild_of_error {old new : Nat} {opened : Draft Nat}
    (ho : d.openSlot w.surface = .ok opened)
    (h : (w.editDraft d (.replaceChild old new)).2 = .error error) :
    (w.editDraft d (.replaceChild old new)).1 = opened := by
  unfold editDraft replaceChild at h ⊢
  dsimp only at h ⊢
  rw [ho] at h ⊢
  dsimp only at h ⊢
  split at h
  · split at h
    · cases h
    · rename_i hm
      rw [if_neg hm]
  · cases h

/-- A call is left as it was, or with its slot decided. -/
theorem editDraft_of_error (h : (w.editDraft d e).2 = .error error) :
    (w.editDraft d e).1 = d ∨ ∃ old new opened, e = .replaceChild old new ∧
      d.openSlot w.surface = .ok opened ∧ (w.editDraft d e).1 = opened := by
  cases e with
  | chain name arguments => exact Or.inl (step_of_error h)
  | child m => exact Or.inl (step_of_error h)
  | prependChild m => exact Or.inl (step_of_error h)
  | takeChain other =>
    unfold editDraft at h ⊢
    dsimp only at h ⊢
    split at h
    · cases h
    · exact Or.inl rfl
  | replaceChild old new =>
    cases ho : d.openSlot w.surface with
    | error callError => exact Or.inl (by simp [editDraft, replaceChild, ho])
    | ok opened => exact Or.inr ⟨old, new, opened, rfl, rfl, replaceChild_of_error ho h⟩
  | _ => cases h

/-- Unless it decides for the place of children, an edit that fails leaves the workbench as it
was. -/
theorem edit_of_error (h : (w.edit n e).2 = .error error) (hd : ¬ w.Decides n e) :
    (w.edit n e).1 = w := by
  cases hn : w.cells[n]? with
  | none => simp [edit, hn]
  | some c =>
    cases c with
    | empty => simp [edit, hn]
    | comment text => simp [edit, hn]
    | draft d =>
      have hsame : (w.editDraft d e).1 = d := by
        rw [(cells_edit_draft hn e).2] at h
        obtain hsame | ⟨old, new, opened, he, ho, hopened⟩ := editDraft_of_error h
        · exact hsame
        · obtain ⟨rfl, -⟩ | ⟨hs, -⟩ | ⟨hs, -⟩ := openSlot_cases ho
          · exact hopened
          · exact absurd ⟨d, old, new, opened, hn, he, hs, ho⟩ hd
          · exact absurd ⟨d, old, new, opened, hn, he, hs, ho⟩ hd
      obtain ⟨hlt, hget⟩ := List.getElem?_eq_some_iff.1 hn
      simp only [edit, hn, hsame]
      rw [← hget, List.set_getElem_self]

/-! ## How a decided slot shows -/

/-- An edit that fails and decides for the place of children leaves a call with an open place as
one with the place it has found. -/
theorem cells_of_decides (h : (w.edit n e).2 = .error error) (hd : w.Decides n e) :
    ∃ d opened, w.cells[n]? = some (.draft d) ∧ d.slot = .undecided ∧
      d.openSlot w.surface = .ok opened ∧ (w.edit n e).1.cells[n]? = some (.draft opened) := by
  obtain ⟨d, old, new, opened, hn, rfl, hs, ho⟩ := hd
  obtain ⟨hcell, hout⟩ := cells_edit_draft hn (.replaceChild old new)
  rw [hout] at h
  rw [replaceChild_of_error ho h] at hcell
  exact ⟨d, opened, hn, hs, ho, hcell⟩

theorem chainSize?_eq (hn : w.cells[n]? = some (.draft d)) :
    w.chainSize? n = some d.chain.length := by
  rw [chainSize?, hn]

/-- A remark, and a child behind it. -/
def probe (n : Nat) : List Move := [.edit n (.chainComment ""), .edit n (.child emptyName)]

theorem outcomes_probe (hn : w.cells[n]? = some (.draft d)) : ∃ w' : Workbench,
    w.outcomes (probe n) =
        [.ok (), (w'.editDraft (d.append (.comment "")) (.child emptyName)).2] ∧
      (w.after (probe n)).cells[n]? =
        some (.draft (w'.editDraft (d.append (.comment "")) (.child emptyName)).1) := by
  obtain ⟨hcell, hout⟩ := cells_edit_draft hn (.chainComment "")
  obtain ⟨hcell', hout'⟩ := cells_edit_draft hcell (.child emptyName)
  refine ⟨(w.edit n (.chainComment "")).1, ?_, hcell'⟩
  simp only [probe, outcomes, outcome, Workbench.move, hout, hout']
  rfl

theorem chain_mapSlot (f : List Nat → List Nat) (d : Draft Nat) :
    (d.mapSlot f).chain = d.chain := by
  obtain h | ⟨init, type, nodes, -, -, h⟩ | ⟨type, nodes, -, h⟩ := mapSlot_cases f d
  · rw [h]
  · rw [h]
  · rw [h]

/-- A child goes into the last argument when that was decided before the remark. -/
theorem probe_of_own (hn : w.cells[n]? = some (.draft d)) (hs : d.slot = .own) :
    w.outcomes (probe n) = [.ok (), .ok ()] ∧
      (w.after (probe n)).chainSize? n = some (d.chain.length + 1) := by
  obtain ⟨w', hout, hcell⟩ := outcomes_probe hn
  have ho : (d.append (.comment "")).openSlot w'.surface = .ok (d.append (.comment "")) := by
    simp [openSlot, append, hs]
  rw [hout, chainSize?_eq hcell]
  unfold editDraft addChild
  rw [ho]
  refine ⟨rfl, congrArg some ?_⟩
  change ((d.append (.comment "")).mapSlot _).chain.length = _
  rw [chain_mapSlot, append, List.length_append]
  rfl

/-- Otherwise it goes into a segment behind the remark, if at all. -/
theorem probe_of_undecided (hn : w.cells[n]? = some (.draft d)) (hs : d.slot = .undecided)
    (ho : w.outcomes (probe n) = [.ok (), .ok ()]) :
    (w.after (probe n)).chainSize? n = some (d.chain.length + 2) := by
  obtain ⟨w', hout, hcell⟩ := outcomes_probe hn
  rw [hout] at ho
  simp only [List.cons.injEq, and_true, true_and] at ho
  obtain ⟨opened, f, hopen, hedit, -⟩ := opened_of_child (Or.inl rfl) ho
  rw [chainSize?_eq hcell, hedit, chain_mapSlot]
  obtain ⟨-, hdecided⟩ | ⟨-, hchain, -⟩ | ⟨-, type, rfl⟩ := openSlot_cases hopen
  · exact absurd hs hdecided
  · simp [append] at hchain
  · simp [append]

/-- **Traces.** That the place of children was decided for can be told: by the chain of the call, or
by what becomes of a remark and a child behind it. -/
theorem not_indistinguishable_of_decides (h : (w.edit n e).2 = .error error)
    (hd : w.Decides n e) : ¬ Indistinguishable w (w.edit n e).1 := by
  intro hsame
  obtain ⟨d, opened, hn, hs, ho, hn'⟩ := cells_of_decides h hd
  obtain ⟨-, hdecided⟩ | ⟨-, -, -, rfl⟩ | ⟨-, type, rfl⟩ := openSlot_cases ho
  · exact hdecided hs
  · obtain ⟨hout, hsize⟩ := probe_of_own hn' rfl
    have hview := hsame (probe n)
    have hsize' := probe_of_undecided hn hs (hview.1.trans hout)
    rw [hview.2.chainSize, hsize] at hsize'
    simp at hsize'
  · have hsize := (hsame []).2.chainSize n
    have hl : (d.append Segment.slot).chain.length = d.chain.length + 1 := by simp [append]
    change w.chainSize? n = (w.edit n e).1.chainSize? n at hsize
    rw [chainSize?_eq hn, chainSize?_eq hn', hl] at hsize
    simp at hsize

/-- **Failures.** An edit that fails leaves no trace, now or later, unless it is the attempt to
replace a child that is not there and it decides for the place of children. -/
theorem indistinguishable_iff_of_error (h : (w.edit n e).2 = .error error) :
    Indistinguishable w (w.edit n e).1 ↔ ¬ w.Decides n e := by
  refine ⟨fun hsame hd => not_indistinguishable_of_decides h hd hsame, fun hd => ?_⟩
  rw [edit_of_error h hd]
  exact .refl w

/-- The call of a plan, with a thread group next to it. -/
def openBench : Workbench where
  surface := Surface.standard
  cells := [.empty, .draft planCall, .draft (groupCall "buyers")]

/-- The same after the call of the plan has taken a child, so its place for children is decided. -/
def decidedBench : Workbench := (openBench.edit 1 (.child 2)).1

theorem indistinguishable_decidedBench : ∃ error,
    (decidedBench.edit 1 (.replaceChild 1 2)).2 = .error error ∧
      Indistinguishable decidedBench (decidedBench.edit 1 (.replaceChild 1 2)).1 := by
  have hfail : (decidedBench.edit 1 (.replaceChild 1 2)).2 = .error
      (.call (.notInSlot planCall.head.display "TestPlanChild[]")) := rfl
  refine ⟨_, hfail, (indistinguishable_iff_of_error hfail).2 ?_⟩
  rintro ⟨d, _, _, _, hn, -, hs, -⟩
  cases hn
  cases hs

/-- After an attempt that fails, a remark and a child are written in another way. -/
theorem not_indistinguishable_openBench : ∃ error,
    (openBench.edit 1 (.replaceChild 1 2)).2 = .error error ∧
      ¬ Indistinguishable openBench (openBench.edit 1 (.replaceChild 1 2)).1 := by
  refine ⟨.call (.notInSlot planCall.head.display "TestPlanChild[]"), rfl, fun hsame => ?_⟩
  have hcode := congrArg Except.toOption
    ((hsame [.edit 1 (.chainComment "nightly"), .edit 1 (.child 2)]).2.code 1 "")
  revert hcode
  decide +kernel

end Workbench
end PlanCode
