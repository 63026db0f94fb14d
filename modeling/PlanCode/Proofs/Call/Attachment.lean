import PlanCode.Proofs.Call.Children

/-!
# Slots that are cut off

Where the children of a call go is decided once. A slot that is a segment of the
chain can be dropped from the chain again, with all other segments of its name;
the call goes on putting children into it, and nothing shows them. They are shown
again when the call takes over a chain that the slot still stands in, of another
call that had taken it over before.

* `isLost_editDraft`, `lost_move`: which edits cut a slot off, and which bring it back.
* `lost_after`: a slot is not in the chain exactly when an edit has cut it off since.
* `nested_of_shown`: the lists that a call shows are in what is written of it.
* `shown_of_child`: a child is shown exactly when the slot is not cut off.
-/
namespace PlanCode

/-! ## Where a slot stands -/

/-- A segment in the chain of a call is the slot of a node. -/
def Segment.IsSlotOf (self n : Nat) (s : Segment Nat) : Prop :=
  s = .borrowed n ∨ s = .slot ∧ self = n

namespace Draft

/-- The slot of the draft was chained once. -/
def IsChained (d : Draft Nat) : Prop := ∃ type nodes, d.slot = .chained type nodes

/-- The slot of a node is in the chain of a draft with the name `self`. -/
def Carries (self n : Nat) (d : Draft Nat) : Prop := ∃ s ∈ d.chain, s.IsSlotOf self n

/-- The slot of the draft was chained and is not in its chain. -/
def IsLost (n : Nat) (d : Draft Nat) : Prop := d.IsChained ∧ ¬ d.Carries n n

/-- Children that go into the last argument have a place there. -/
def IsPlaced (d : Draft Nat) : Prop :=
  d.slot = .own → ∃ init type nodes, d.arguments = init ++ [.children type nodes]

end Draft

namespace Workbench

def Carries (w : Workbench) (self n : Nat) : Prop :=
  ∃ d, w.cells[self]? = some (.draft d) ∧ d.Carries self n

def IsChained (w : Workbench) (n : Nat) : Prop :=
  ∃ d, w.cells[n]? = some (.draft d) ∧ d.IsChained

/-- The edit that drops the segments for children from the chain of a call. -/
def cut (n : Nat) : Move := .edit n (.unchain Surface.childrenName)

/-- A move takes over, for a call, a chain that the slot of the call stands in. -/
def BringsBack (w : Workbench) (n : Nat) (move : Move) : Prop :=
  ∃ other, move = .edit n (.takeChain other) ∧ w.Carries other n

/-- The slot of a call was dropped from its chain and has not been brought back since. -/
def CutOff (w : Workbench) (n : Nat) (moves : List Move) : Prop :=
  ∃ before after, moves = before ++ cut n :: after ∧ (w.after before).IsChained n ∧
    ∀ taken move rest, after = taken ++ move :: rest →
      ¬ (w.after (before ++ cut n :: taken)).BringsBack n move

/-- The list that a segment shows, if it is one for children. -/
def shownIn (w : Workbench) (slot : List Nat) : Segment Nat → Option (List Nat)
  | .slot => some slot
  | .borrowed owner =>
    match w.cells[owner]? with
    | some (.draft o) => some o.slotNodes
    | _ => none
  | _ => none

/-- The lists of children that a call shows: the one in its last argument, if that is for children,
and those of the segments for children in its chain. -/
def shownLists (w : Workbench) (n : Nat) : List (List Nat) :=
  match w.cells[n]? with
  | some (.draft d) =>
    (match d.arguments.getLast? with
      | some (.children _ nodes) => [nodes]
      | _ => []) ++ d.chain.filterMap (w.shownIn d.slotNodes)
  | _ => []

end Workbench

/-! ## What an edit does to a slot -/

namespace Draft

variable {surface : Surface} {n : Nat} {d d' : Draft Nat}

/-- Opening a slot does nothing, or decides for one that is in its place. -/
theorem openSlot_cases (h : d.openSlot surface = .ok d') :
    (d' = d ∧ d.slot ≠ .undecided) ∨
      (d.slot = .undecided ∧ d.chain = [] ∧ (∃ init type nodes,
        d.arguments = init ++ [.children type nodes]) ∧ d' = { d with slot := .own }) ∨
      (d.slot = .undecided ∧ ∃ type, d' = { d.append .slot with slot := .chained type [] }) := by
  unfold openSlot at h
  split at h
  · rename_i hs
    cases h
    exact Or.inl ⟨rfl, by rw [hs]; simp⟩
  · rename_i hs
    cases h
    exact Or.inl ⟨rfl, by rw [hs]; simp⟩
  · rename_i hs
    split at h
    · rename_i type nodes hc hl
      cases h
      obtain ⟨init, ha⟩ := List.getLast?_eq_some_iff.1 hl
      exact Or.inr (Or.inl ⟨hs, hc, ⟨init, type, nodes, ha⟩, rfl⟩)
    · split at h
      · cases h
      · cases h
      · cases h
        exact Or.inr (Or.inr ⟨hs, _, rfl⟩)

theorem isLost_openSlot (h : d.openSlot surface = .ok d') : d'.IsLost n ↔ d.IsLost n := by
  have undecided : d.slot = .undecided → ¬ d.IsLost n := by
    rintro hs ⟨⟨type, nodes, hc⟩, -⟩
    rw [hs] at hc
    cases hc
  obtain ⟨rfl, -⟩ | ⟨hs, -, -, rfl⟩ | ⟨hs, type, rfl⟩ := openSlot_cases h
  · rfl
  · refine iff_of_false ?_ (undecided hs)
    rintro ⟨⟨type, nodes, hc⟩, -⟩
    cases hc
  · refine iff_of_false ?_ (undecided hs)
    rintro ⟨-, hc⟩
    exact hc ⟨.slot, List.mem_append_right _ (List.mem_singleton_self _), Or.inr ⟨rfl, rfl⟩⟩

theorem mapSlot_cases (f : List Nat → List Nat) (d : Draft Nat) :
    d.mapSlot f = d ∨
      (∃ init type nodes, d.slot = .own ∧ d.arguments = init ++ [.children type nodes] ∧
        d.mapSlot f = { d with arguments := init ++ [.children type (f nodes)] }) ∨
      ∃ type nodes, d.slot = .chained type nodes ∧
        d.mapSlot f = { d with slot := .chained type (f nodes) } := by
  unfold mapSlot
  split
  · exact Or.inl rfl
  · rename_i hs
    split
    · rename_i type nodes hl
      obtain ⟨init, ha⟩ := List.getLast?_eq_some_iff.1 hl
      exact Or.inr (Or.inl ⟨init, type, nodes, hs, ha, by rw [ha, List.dropLast_concat]⟩)
    · exact Or.inl rfl
  · rename_i type nodes hs
    exact Or.inr (Or.inr ⟨type, nodes, hs, rfl⟩)

theorem mapSlot_id (d : Draft Nat) : d.mapSlot id = d := by
  obtain h | ⟨init, type, nodes, -, ha, h⟩ | ⟨type, nodes, hs, h⟩ := mapSlot_cases id d
  · exact h
  · rw [h, id, ← ha]
  · rw [h, id, ← hs]

theorem isLost_mapSlot (f : List Nat → List Nat) : (d.mapSlot f).IsLost n ↔ d.IsLost n := by
  obtain h | ⟨init, type, nodes, hs, -, h⟩ | ⟨type, nodes, hs, h⟩ := mapSlot_cases f d
  · rw [h]
  · rw [h]
    rfl
  · rw [h]
    exact and_congr_left fun _ => iff_of_true ⟨_, _, rfl⟩ ⟨_, _, hs⟩

theorem isPlaced_openSlot (hp : d.IsPlaced) (h : d.openSlot surface = .ok d') : d'.IsPlaced := by
  obtain ⟨rfl, -⟩ | ⟨-, -, ha, rfl⟩ | ⟨-, type, rfl⟩ := openSlot_cases h
  · exact hp
  · exact fun _ => ha
  · intro hs
    cases hs

theorem isPlaced_mapSlot (hp : d.IsPlaced) (f : List Nat → List Nat) : (d.mapSlot f).IsPlaced := by
  obtain h | ⟨init, type, nodes, -, -, h⟩ | ⟨type, nodes, -, h⟩ := mapSlot_cases f d
  · rw [h]
    exact hp
  · rw [h]
    exact fun _ => ⟨init, type, _, rfl⟩
  · rw [h]
    intro hs
    cases hs

end Draft

namespace Workbench

open Draft

variable {w : Workbench} {n : Nat} {e : Edit}

/-- Edits of children open the slot and change the nodes in it, or do nothing. -/
theorem editDraft_child_cases (hc : e.isChild = true) (d : Draft Nat) :
    (w.editDraft d e).1 = d ∨ ∃ opened f, d.openSlot w.surface = .ok opened ∧
      (w.editDraft d e).1 = opened.mapSlot f := by
  cases e with
  | child m =>
    unfold editDraft addChild
    cases ho : d.openSlot w.surface with
    | error error => exact Or.inl rfl
    | ok opened => exact Or.inr ⟨opened, _, rfl, rfl⟩
  | prependChild m =>
    unfold editDraft prependChild
    cases ho : d.openSlot w.surface with
    | error error => exact Or.inl rfl
    | ok opened => exact Or.inr ⟨opened, _, rfl, rfl⟩
  | replaceChild old new =>
    unfold editDraft replaceChild
    cases ho : d.openSlot w.surface with
    | error error => exact Or.inl rfl
    | ok opened =>
      dsimp only
      split
      · split
        · exact Or.inr ⟨opened, _, rfl, rfl⟩
        · exact Or.inr ⟨opened, id, rfl, (mapSlot_id opened).symm⟩
      · exact Or.inr ⟨opened, id, rfl, (mapSlot_id opened).symm⟩
  | _ => cases hc

/-- The slot of a node is in a chain that is taken over exactly when it is in that of the owner. -/
theorem isSlotOf_chainFor {other : Nat} {o : Draft Nat} :
    (∃ s ∈ o.chainFor other, s.IsSlotOf n n) ↔ o.Carries other n := by
  unfold chainFor Draft.Carries
  simp only [List.mem_map, exists_exists_and_eq_and]
  refine exists_congr fun s => and_congr_right fun _ => ?_
  cases s <;> simp [Segment.IsSlotOf]

theorem isLost_of_isChild (he : e.isChild = true) (d : Draft Nat) :
    (w.editDraft d e).1.IsLost n ↔ d.IsLost n := by
  obtain h | ⟨opened, f, ho, h⟩ := editDraft_child_cases (w := w) he d
  · rw [h]
  · rw [h, isLost_mapSlot, isLost_openSlot ho]

/-- Segments that are appended are no slots. -/
theorem isLost_of_isPlain (hp : e.isPlain = true) (he : e.isChild = false) (d : Draft Nat) :
    (w.editDraft d e).1.IsLost n ↔ d.IsLost n := by
  rw [editDraft_of_not_isChild d hp he]
  refine and_congr_right fun _ => not_congr ?_
  unfold Draft.Carries
  simp only [List.mem_append, or_and_right, exists_or, or_iff_left_iff_imp]
  rintro ⟨s, hs, hn⟩
  have hs : s ∈ Edit.allSegments w.surface d.head.target [e] := by
    simpa [Edit.allSegments] using hs
  obtain ⟨hslot, hborrowed⟩ := Edit.not_slot_of_mem hs
  obtain rfl | ⟨rfl, -⟩ := hn
  · exact absurd rfl (hborrowed n)
  · exact absurd rfl hslot

theorem isLost_takeChain (d : Draft Nat) (other : Nat) :
    (w.editDraft d (.takeChain other)).1.IsLost n ↔ d.IsLost n ∧ ¬ w.Carries other n := by
  by_cases hd : ∃ o, w.cells[other]? = some (.draft o)
  · obtain ⟨o, ho⟩ := hd
    have hedit : (w.editDraft d (.takeChain other)).1 =
        { d with chain := d.chain ++ o.chainFor other } := by simp [editDraft, ho]
    have hc : (∃ s ∈ d.chain ++ o.chainFor other, s.IsSlotOf n n) ↔
        d.Carries n n ∨ w.Carries other n := by
      simp only [List.mem_append, or_and_right, exists_or, isSlotOf_chainFor]
      simp [Workbench.Carries, ho, Draft.Carries]
    rw [hedit]
    refine (and_congr_right fun _ => (not_congr hc).trans not_or).trans ?_
    rw [← and_assoc]
    rfl
  · have hedit : (w.editDraft d (.takeChain other)).1 = d := by
      unfold editDraft
      dsimp only
      split
      · rename_i ho
        exact absurd ⟨_, ho⟩ hd
      · rfl
    rw [hedit, and_iff_left]
    rintro ⟨o, ho, -⟩
    exact hd ⟨o, ho⟩

theorem isLost_unchain (d : Draft Nat) (name : String) :
    (w.editDraft d (.unchain name)).1.IsLost n ↔
      (name = Surface.childrenName ∧ d.IsChained) ∨ d.IsLost n := by
  by_cases hn : name = Surface.childrenName
  · subst hn
    refine ⟨fun h => Or.inl ⟨rfl, h.1⟩, fun h => ⟨h.elim (·.2) (·.1), ?_⟩⟩
    rintro ⟨s, hs, rfl | ⟨rfl, -⟩⟩
    · simp [editDraft, dropChained] at hs
    · simp [editDraft, dropChained] at hs
  · rw [or_iff_right (by simp [hn])]
    refine and_congr_right fun _ => not_congr (exists_congr fun s => and_congr_left fun hs => ?_)
    obtain rfl | ⟨rfl, -⟩ := hs
    · simp [editDraft, dropChained, Ne.symm hn]
    · simp [editDraft, dropChained, Ne.symm hn]

/-- **One edit.** A slot is lost when it is cut off, and until it is brought back. -/
theorem isLost_editDraft (d : Draft Nat) : (w.editDraft d e).1.IsLost n ↔
    (e = .unchain Surface.childrenName ∧ d.IsChained) ∨
      d.IsLost n ∧ ¬ ∃ other, e = .takeChain other ∧ w.Carries other n := by
  cases e with
  | child | prependChild | replaceChild => simpa using isLost_of_isChild rfl d
  | chain | chainNode | chainComment | setCommented | heading =>
    simpa using isLost_of_isPlain rfl rfl d
  | takeChain other => simpa using isLost_takeChain d other
  | unchain name => simpa using isLost_unchain d name
  | define name m => exact ⟨fun h => Or.inr ⟨h, by simp⟩, fun h => h.elim (nomatch ·.1) (·.1)⟩

/-- The place of a slot in the last argument stays. -/
theorem isPlaced_editDraft {d : Draft Nat} (h : d.IsPlaced) : (w.editDraft d e).1.IsPlaced := by
  cases hc : e.isChild with
  | true =>
    obtain hd | ⟨opened, f, ho, hd⟩ := editDraft_child_cases (w := w) hc d
    · rw [hd]
      exact h
    · rw [hd]
      exact isPlaced_mapSlot (isPlaced_openSlot h ho) f
  | false =>
    cases hp : e.isPlain with
    | true =>
      rw [editDraft_of_not_isChild d hp hc]
      exact h
    | false =>
      cases e with
      | takeChain other =>
        unfold editDraft
        dsimp only
        split
        · exact h
        · exact h
      | unchain name => exact h
      | define name m => exact h
      | _ => cases hp

/-! ## What all moves do to a slot -/

def IsLost (w : Workbench) (n : Nat) : Prop := ∃ d, w.cells[n]? = some (.draft d) ∧ d.IsLost n

/-- A move makes an edit on a call, or leaves it as it is. -/
theorem move_cases {d : Draft Nat} (hn : w.cells[n]? = some (.draft d)) (move : Move) :
    (∃ e, move = .edit n e ∧ (w.move move).cells[n]? = some (.draft (w.editDraft d e).1)) ∨
      (∀ e, move ≠ .edit n e) ∧ (w.move move).cells[n]? = some (.draft d) := by
  cases move with
  | add c => exact Or.inr ⟨by simp, cells_move hn rfl⟩
  | edit on e =>
    by_cases hon : on = n
    · subst hon
      exact Or.inl ⟨e, rfl, (cells_edit_draft hn e).1⟩
    · exact Or.inr ⟨by simp [hon], cells_move hn (by simp [editsOn, hon])⟩

/-- **One move.** A slot is lost when it is cut off, and until it is brought back. -/
theorem lost_move {d : Draft Nat} (hn : w.cells[n]? = some (.draft d)) (move : Move) :
    (w.move move).IsLost n ↔
      (move = cut n ∧ w.IsChained n) ∨ w.IsLost n ∧ ¬ w.BringsBack n move := by
  unfold IsLost IsChained BringsBack cut
  obtain ⟨e, rfl, hm⟩ | ⟨hne, hm⟩ := move_cases hn move
  · simp only [hn, hm, Option.some.injEq, Cell.draft.injEq, exists_eq_left', Move.edit.injEq,
      true_and]
    exact isLost_editDraft d
  · simp only [hn, hm, Option.some.injEq, Cell.draft.injEq, exists_eq_left', hne, false_and,
      exists_false, not_false_eq_true, and_true, false_or]

/-- A slot is cut off by the last move, or was before and is not brought back by it. -/
theorem cutOff_concat (w : Workbench) (n : Nat) (moves : List Move) (move : Move) :
    w.CutOff n (moves ++ [move]) ↔ (move = cut n ∧ (w.after moves).IsChained n) ∨
      w.CutOff n moves ∧ ¬ (w.after moves).BringsBack n move := by
  constructor
  · rintro ⟨before, after, hm, hc, hback⟩
    rcases List.eq_nil_or_concat after with rfl | ⟨after, last, rfl⟩
    · obtain ⟨rfl, hlast⟩ := List.append_inj' hm rfl
      cases hlast
      exact Or.inl ⟨rfl, hc⟩
    · rw [List.concat_eq_append, ← List.cons_append, ← List.append_assoc] at hm
      obtain ⟨rfl, hlast⟩ := List.append_inj' hm rfl
      cases hlast
      refine Or.inr ⟨⟨before, after, rfl, hc, fun taken m rest ha => ?_⟩, ?_⟩
      · exact hback taken m (rest ++ [move]) (by rw [ha]; simp)
      · exact hback after move [] (by simp)
  · rintro (⟨rfl, hc⟩ | ⟨⟨before, after, rfl, hc, hback⟩, hm⟩)
    · exact ⟨moves, [], rfl, hc, by simp⟩
    · refine ⟨before, after ++ [move], by simp, hc, fun taken m rest ha => ?_⟩
      rcases List.eq_nil_or_concat rest with rfl | ⟨rest, last, rfl⟩
      · obtain ⟨rfl, hlast⟩ := List.append_inj' ha rfl
        cases hlast
        exact hm
      · rw [List.concat_eq_append, ← List.cons_append, ← List.append_assoc] at ha
        exact hback taken m rest (List.append_inj' ha rfl).1

/-- **All moves.** What becomes of a call whose slot was not decided: its slot is lost exactly when
it is cut off. -/
theorem lost_after {start : Draft Nat} (hn : w.cells[n]? = some (.draft start))
    (hs : start.slot = .undecided) (moves : List Move) :
    ∃ d, (w.after moves).cells[n]? = some (.draft d) ∧ d.IsPlaced ∧
      (d.IsLost n ↔ w.CutOff n moves) := by
  induction moves using List.reverseRecOn with
  | nil =>
    refine ⟨start, hn, fun h => ?_, iff_of_false ?_ ?_⟩
    · rw [hs] at h
      cases h
    · rintro ⟨⟨type, nodes, hc⟩, -⟩
      rw [hs] at hc
      cases hc
    · rintro ⟨before, after, hm, -⟩
      simp at hm
  | append_singleton moves move ih =>
    obtain ⟨d, hd, hp, hl⟩ := ih
    have hlost := lost_move hd move
    rw [← after_concat] at hlost
    have hw : (w.after moves).IsLost n ↔ d.IsLost n := by simp [IsLost, hd]
    rw [hw, hl, ← cutOff_concat] at hlost
    rw [← hlost, after_concat]
    unfold IsLost
    obtain ⟨e, -, hm⟩ | ⟨-, hm⟩ := move_cases hd move
    · exact ⟨_, hm, isPlaced_editDraft hp, by simp [hm]⟩
    · exact ⟨_, hm, hp, by simp [hm]⟩

/-! ## What is shown -/

theorem shown_of_own {d : Draft Nat} (hn : w.cells[n]? = some (.draft d))
    {init : List (Argument Nat)} {type : String} {nodes : List Nat}
    (ha : d.arguments = init ++ [.children type nodes]) : nodes ∈ w.shownLists n := by
  unfold shownLists
  rw [hn]
  simp [ha]

theorem shown_of_carried {d : Draft Nat} (hn : w.cells[n]? = some (.draft d))
    (hc : d.Carries n n) : d.slotNodes ∈ w.shownLists n := by
  obtain ⟨s, hs, hslot⟩ := hc
  have hin : w.shownIn d.slotNodes s = some d.slotNodes := by
    obtain rfl | ⟨rfl, -⟩ := hslot
    · simp [shownIn, hn]
    · rfl
  unfold shownLists
  rw [hn]
  exact List.mem_append_right _ (List.mem_filterMap.2 ⟨s, hs, hin⟩)

/-- The nodes of a list that a call shows are in what is written of the call. -/
theorem nested_of_shown {tree : Node} (hr : w.read .code n = .ok tree) {list : List Nat}
    (hl : list ∈ w.shownLists n) {c : Nat} (hc : c ∈ list) :
    ∃ t ∈ tree.nested, w.read .code c = .ok t := by
  unfold shownLists at hl
  split at hl
  · rename_i d hn
    cases reads_of_read hn hr with
    | @intro arguments chain ha hchain =>
      rw [Node.nested]
      rcases List.mem_append.1 hl with hl | hl
      · split at hl
        · rename_i type nodes hlast
          obtain rfl := List.mem_singleton.1 hl
          obtain ⟨a, hm, hread⟩ := exists_of_mem_forall₂ ha (List.mem_of_getLast? hlast)
          cases hread with
          | children _ htrees =>
            obtain ⟨t, ht, hct⟩ := exists_of_mem_forall₂ htrees hc
            exact ⟨t, List.mem_append_left _ (List.mem_flatMap.2 ⟨_, hm, ht⟩), hct⟩
        · cases hl
      · obtain ⟨s, hs, hshown⟩ := List.mem_filterMap.1 hl
        obtain ⟨node, hm, hread⟩ := exists_of_mem_forall₂ hchain hs
        have htrees : ∃ trees, node = .children trees ∧
            List.Forall₂ (fun n t => w.read .code n = .ok t) list trees := by
          cases hread with
          | slot htrees =>
            cases hshown
            exact ⟨_, rfl, htrees⟩
          | borrowed howner =>
            obtain ⟨o, ho, htrees⟩ := howner
            simp only [shownIn, ho, Option.some.injEq] at hshown
            subst hshown
            exact ⟨_, rfl, htrees⟩
          | _ => cases hshown
        obtain ⟨trees, rfl, htrees⟩ := htrees
        obtain ⟨t, ht, hct⟩ := exists_of_mem_forall₂ htrees hc
        exact ⟨t, List.mem_append_right _ (List.mem_flatMap.2 ⟨_, hm, ht⟩), hct⟩
  · cases hl

/-- A child that is taken goes into the slot, which is decided then. -/
theorem opened_of_child {c : Nat} (he : e = .child c ∨ e = .prependChild c) {d : Draft Nat}
    (ho : (w.editDraft d e).2 = .ok ()) : ∃ opened f, d.openSlot w.surface = .ok opened ∧
      (w.editDraft d e).1 = opened.mapSlot f ∧ ∀ nodes, c ∈ f nodes := by
  rcases he with rfl | rfl
  · unfold editDraft addChild at ho ⊢
    cases hs : d.openSlot w.surface with
    | error error => simp [hs, Except.map, editDraft.step] at ho
    | ok opened => exact ⟨opened, (· ++ [c]), rfl, rfl, by simp⟩
  · unfold editDraft prependChild at ho ⊢
    cases hs : d.openSlot w.surface with
    | error error => simp [hs, Except.map, editDraft.step] at ho
    | ok opened => exact ⟨opened, (c :: ·), rfl, rfl, by simp⟩

/-- Nodes in a slot that is not lost are shown. -/
theorem shown_of_not_lost {d opened : Draft Nat} (hp : d.IsPlaced)
    (ho : d.openSlot w.surface = .ok opened) {w' : Workbench} {f : List Nat → List Nat}
    (hn : w'.cells[n]? = some (.draft (opened.mapSlot f))) (hl : ¬ d.IsLost n) :
    ∃ nodes, f nodes ∈ w'.shownLists n := by
  rw [← isLost_openSlot ho, ← isLost_mapSlot f] at hl
  cases hs : opened.slot with
  | undecided =>
    obtain ⟨rfl, h⟩ | ⟨-, -, -, rfl⟩ | ⟨-, type, rfl⟩ := openSlot_cases ho
    · exact absurd hs h
    · cases hs
    · cases hs
  | own =>
    obtain ⟨init, type, nodes, ha⟩ := isPlaced_openSlot hp ho hs
    have hm : (opened.mapSlot f).arguments = init ++ [.children type (f nodes)] := by
      unfold mapSlot
      simp [hs, ha]
    exact ⟨nodes, shown_of_own hn hm⟩
  | chained type nodes =>
    have hm : opened.mapSlot f = { opened with slot := .chained type (f nodes) } := by
      simp [mapSlot, hs]
    have hc : (opened.mapSlot f).Carries n n := by
      by_contra hc
      exact hl ⟨⟨type, f nodes, by rw [hm]⟩, hc⟩
    have hshown := shown_of_carried hn hc
    rw [hm] at hshown
    exact ⟨nodes, hshown⟩

/-- What a call shows does not depend on the nodes in a slot that is lost. -/
theorem shownLists_of_lost {d : Draft Nat} (hn : w.cells[n]? = some (.draft d)) (hl : d.IsLost n)
    {w' : Workbench} {type : String} {nodes : List Nat}
    (hn' : w'.cells[n]? = some (.draft { d with slot := .chained type nodes }))
    (hw : ∀ other, other ≠ n → w'.cells[other]? = w.cells[other]?) :
    w'.shownLists n = w.shownLists n := by
  unfold shownLists
  rw [hn, hn']
  dsimp only
  congr 1
  refine List.filterMap_congr fun s hs => ?_
  cases s with
  | slot => exact absurd ⟨_, hs, Or.inr ⟨rfl, rfl⟩⟩ hl.2
  | borrowed owner =>
    have ho : owner ≠ n := by
      rintro rfl
      exact hl.2 ⟨_, hs, Or.inl rfl⟩
    simp only [shownIn, hw owner ho]
  | _ => rfl

/-- **Children.** A child that a call takes is among the children that it shows, and in what is
written of it, as long as the slot is not cut off; if it is, what the call shows stays the same. -/
theorem shown_of_child {start : Draft Nat} (hn : w.cells[n]? = some (.draft start))
    (hs : start.slot = .undecided) {moves : List Move} {c : Nat}
    (he : e = .child c ∨ e = .prependChild c) (ho : ((w.after moves).edit n e).2 = .ok ()) :
    (¬ w.CutOff n moves →
      (∃ list ∈ ((w.after moves).edit n e).1.shownLists n, c ∈ list) ∧
        ∀ tree, ((w.after moves).edit n e).1.read .code n = .ok tree →
          ∃ t ∈ tree.nested, ((w.after moves).edit n e).1.read .code c = .ok t) ∧
    (w.CutOff n moves →
      ((w.after moves).edit n e).1.shownLists n = (w.after moves).shownLists n) := by
  obtain ⟨d, hd, hp, hl⟩ := lost_after hn hs moves
  obtain ⟨hcell, hout⟩ := cells_edit_draft hd e
  rw [hout] at ho
  obtain ⟨opened, f, hopen, hedit, hf⟩ := opened_of_child he ho
  rw [hedit] at hcell
  rw [← hl]
  constructor
  · intro hlost
    obtain ⟨nodes, hshown⟩ := shown_of_not_lost hp hopen hcell hlost
    exact ⟨⟨_, hshown, hf nodes⟩, fun tree hr => nested_of_shown hr hshown (hf nodes)⟩
  · intro hlost
    obtain ⟨type, nodes, hslot⟩ := hlost.1
    have hm : opened.mapSlot f = { d with slot := .chained type (f nodes) } := by
      unfold openSlot at hopen
      rw [hslot] at hopen
      cases hopen
      simp [mapSlot, hslot]
    rw [hm] at hcell
    exact shownLists_of_lost hd hlost hcell fun other ho => cells_edit _ n other e ho

/-- Two thread groups and two samplers. -/
def groupBench : Workbench where
  surface := Surface.standard
  cells := [.empty, .draft (groupCall "buyers"), .draft (groupCall "readers"),
    .draft (.unresolved (some "httpSampler") "DslHttpSampler" [.literal (.text "/cart")]),
    .draft (.unresolved (some "httpSampler") "DslHttpSampler" [.literal (.text "/pay")])]

/-- The segment for the first child is dropped. -/
def cutMoves : List Move := [.edit 1 (.child 3), cut 1]

/-- The other group has taken the segment over before, and gives it back. -/
def lentMoves : List Move :=
  [.edit 1 (.child 3), .edit 2 (.takeChain 1), cut 1, .edit 1 (.takeChain 2)]

theorem shown_of_child_lentMoves :
    ((groupBench.after lentMoves).edit 1 (.child 4)).2 = .ok () ∧ ¬ groupBench.CutOff 1 lentMoves ∧
      ∃ list ∈ ((groupBench.after lentMoves).edit 1 (.child 4)).1.shownLists 1, 4 ∈ list := by
  have hback : (groupBench.after [.edit 1 (.child 3), .edit 2 (.takeChain 1), cut 1]).BringsBack 1
      (.edit 1 (.takeChain 2)) :=
    ⟨2, rfl, _, rfl, .borrowed 1, List.mem_singleton_self _, Or.inl rfl⟩
  have hkept : ¬ groupBench.CutOff 1 lentMoves := by
    refine mt (cutOff_concat groupBench 1 [.edit 1 (.child 3), .edit 2 (.takeChain 1), cut 1]
      (.edit 1 (.takeChain 2))).1 ?_
    rintro (⟨h, -⟩ | ⟨-, h⟩)
    · cases h
    · exact h hback
  have hok : ((groupBench.after lentMoves).edit 1 (.child 4)).2 = .ok () := rfl
  exact ⟨hok, hkept, ((shown_of_child rfl rfl (Or.inl rfl) hok).1 hkept).1⟩

/-- A child that nothing shows. -/
theorem not_shown_cutMoves :
    ((groupBench.after cutMoves).edit 1 (.child 4)).2 = .ok () ∧
      ∀ list ∈ ((groupBench.after cutMoves).edit 1 (.child 4)).1.shownLists 1, 4 ∉ list :=
  ⟨rfl, by decide +kernel⟩

end Workbench
end PlanCode
