import Mathlib.Data.List.Induction
import PlanCode.Proofs.Call.Reading

/-!
# The list of children of a call

A call that is built step by step has one list of children, wherever it is kept.
The first edit that concerns children decides for its place: the last argument of
the call, if that is for children and nothing has been chained yet, or else a
segment behind what has been chained so far. From then on edits of children act
on that list as on any other one, and all other edits leave it alone.

* `edited_step`: what one more edit makes of a call.
* `edited_after`: what a call comes to, whatever else happens on the workbench.
* `written_of_read`: a call that is read has the list in one place.
* `children_of_edits`: the list of children, and where it is written.
-/
namespace PlanCode

/-! ## Edits of a list and of a chain -/

namespace Edit

/-- Edits that concern the children of a call. -/
def isChild : Edit → Bool
  | .child _ | .prependChild _ | .replaceChild .. => true
  | _ => false

/-- Edits other than those that take over a chain or drop parts of it, or define methods. -/
def isPlain : Edit → Bool
  | .takeChain _ | .unchain _ | .define .. => false
  | _ => true

/-- What an edit makes of a list of children. -/
def onList : Edit → List Nat → List Nat
  | .child n, ns => ns ++ [n]
  | .prependChild n, ns => n :: ns
  | .replaceChild old new, ns => ns.replace old new
  | _, ns => ns

/-- Only a child that is there can be replaced. -/
def Suits (ns : List Nat) : Edit → Prop
  | .replaceChild old _ => old ∈ ns
  | _ => True

/-- The segments that an edit appends to the chain of a call of a type. -/
def segments (surface : Surface) (type : String) : Edit → List (Segment Nat)
  | .chain name arguments =>
    if !arguments.isEmpty && arguments.all (·.isDefault) then []
    else match Draft.resolveChained surface type name arguments with
      | .ok (m, given) => [.call m.name (m.resultType type) given]
      | .error _ => []
  | .chainNode n => [.node n]
  | .chainComment text => [.comment text]
  | _ => []

/-- What an edit says about a call. -/
def onHead : Edit → Head → Head
  | .setCommented on, h => { h with commented := on }
  | .heading text, h => { h with heading := some text }
  | _, h => h

/-- A list of children after edits. -/
def listAfter (es : List Edit) (ns : List Nat) : List Nat := es.foldl (fun ns e => e.onList ns) ns

def headAfter (es : List Edit) (h : Head) : Head := es.foldl (fun h e => e.onHead h) h

/-- All segments that edits append. -/
def allSegments (surface : Surface) (type : String) (es : List Edit) : List (Segment Nat) :=
  es.flatMap (segments surface type)

theorem target_onHead (e : Edit) (h : Head) : (e.onHead h).target = h.target := by
  cases e <;> rfl

theorem target_headAfter (es : List Edit) (h : Head) : (headAfter es h).target = h.target := by
  induction es generalizing h with
  | nil => rfl
  | cons e es ih => exact (ih _).trans (target_onHead e h)

variable {surface : Surface} {type : String} {e : Edit}

theorem allSegments_concat (es : List Edit) (e : Edit) : allSegments surface type (es ++ [e]) =
    allSegments surface type es ++ e.segments surface type := by
  unfold allSegments
  rw [List.flatMap_append, List.flatMap_singleton]

theorem headAfter_concat (es : List Edit) (e : Edit) (h : Head) :
    headAfter (es ++ [e]) h = e.onHead (headAfter es h) := List.foldl_append

theorem listAfter_concat (first : Edit) (es : List Edit) (e : Edit) (ns : List Nat) :
    listAfter (first :: (es ++ [e])) ns = e.onList (listAfter (first :: es) ns) := List.foldl_append

/-- Edits append no slots. -/
theorem not_slot_of_mem {es : List Edit} {s : Segment Nat}
    (h : s ∈ allSegments surface type es) : s ≠ .slot ∧ ∀ owner, s ≠ .borrowed owner := by
  obtain ⟨e, -, hs⟩ := List.mem_flatMap.1 h
  cases e with
  | chain name arguments =>
    unfold segments at hs
    dsimp only at hs
    split at hs
    · cases hs
    · split at hs
      · rw [List.mem_singleton.1 hs]
        simp
      · cases hs
  | chainNode n =>
    rw [List.mem_singleton.1 hs]
    simp
  | chainComment text =>
    rw [List.mem_singleton.1 hs]
    simp
  | _ => cases hs

theorem segments_of_isChild (h : e.isChild = true) : e.segments surface type = [] := by
  cases e <;> first | rfl | cases h

theorem onHead_of_isChild (h : e.isChild = true) (head : Head) : e.onHead head = head := by
  cases e <;> first | rfl | cases h

theorem onList_of_not_isChild (h : e.isChild = false) (ns : List Nat) : e.onList ns = ns := by
  cases e <;> first | rfl | cases h

end Edit

open Edit

/-! ## What one edit does -/

namespace Draft

theorem replaceFirst_eq (old new : Nat) (ns : List Nat) :
    replaceFirst old new ns = ns.replace old new := by
  induction ns with
  | nil => rfl
  | cons n rest ih =>
    rw [replaceFirst, List.replace_cons, ih]
    by_cases h : n = old
    · simp [h]
    · rw [if_neg (by simpa using h), beq_false_of_ne (Ne.symm h)]

/-- Changes of the slot that leave its nodes alone leave the draft alone. -/
theorem mapSlot_eq_self {d : Draft Nat} {f : List Nat → List Nat} {type : String} {ns : List Nat}
    (hs : d.slotContents? = some (type, ns)) (hf : f ns = ns) : d.mapSlot f = d := by
  obtain ⟨head, arguments, chain, slot, definitions⟩ := d
  cases slot with
  | undecided => rfl
  | own =>
    unfold slotContents? at hs
    dsimp only at hs
    split at hs
    · rename_i hl
      cases hs
      obtain ⟨init, rfl⟩ := List.getLast?_eq_some_iff.1 hl
      unfold mapSlot
      simp only [List.getLast?_concat, List.dropLast_concat, hf]
    · cases hs
  | chained type nodes =>
    cases hs
    unfold mapSlot
    dsimp only
    rw [hf]

end Draft

namespace Workbench

variable {w : Workbench} {e : Edit}

/-- Edits that do not concern children. -/
theorem editDraft_of_not_isChild (d : Draft Nat) (hp : e.isPlain = true) (hc : e.isChild = false) :
    (w.editDraft d e).1 = { d with
      head := e.onHead d.head
      chain := d.chain ++ e.segments w.surface d.head.target } := by
  cases e with
  | chain name arguments =>
    unfold editDraft Draft.chainCall Edit.segments
    dsimp only
    split
    · simp [editDraft.step, Edit.onHead]
    · cases Draft.resolveChained w.surface d.head.target name arguments with
      | ok resolved => rfl
      | error e => simp [editDraft.step, Edit.onHead, bind, Except.bind]
  | chainNode n => rfl
  | chainComment text => rfl
  | setCommented on => simp [editDraft, Draft.setCommented, Edit.onHead, Edit.segments]
  | heading text => simp [editDraft, Draft.setHeading, Edit.onHead, Edit.segments]
  | takeChain => cases hp
  | unchain => cases hp
  | define => cases hp
  | child => cases hc
  | prependChild => cases hc
  | replaceChild => cases hc

/-- Edits of children act on the list in the slot, and succeed when they suit it. -/
theorem editDraft_of_isChild (hc : e.isChild = true) {d opened : Draft Nat}
    (ho : d.openSlot w.surface = .ok opened) {type : String} {ns : List Nat}
    (hs : opened.slotContents? = some (type, ns)) :
    (w.editDraft d e).1 = opened.mapSlot e.onList ∧
      ((w.editDraft d e).2 = .ok () ↔ e.Suits ns) := by
  cases e with
  | child n =>
    unfold editDraft Draft.addChild
    dsimp only
    rw [ho]
    exact ⟨rfl, ⟨fun _ => trivial, fun _ => rfl⟩⟩
  | prependChild n =>
    unfold editDraft Draft.prependChild
    dsimp only
    rw [ho]
    exact ⟨rfl, ⟨fun _ => trivial, fun _ => rfl⟩⟩
  | replaceChild old new =>
    unfold editDraft Draft.replaceChild
    dsimp only
    rw [ho]
    dsimp only
    rw [hs]
    dsimp only
    by_cases hm : old ∈ ns
    · rw [if_pos (List.contains_iff_mem.2 hm)]
      refine ⟨congrArg (opened.mapSlot ·) (funext (Draft.replaceFirst_eq old new)), ?_⟩
      exact ⟨fun _ => hm, fun _ => rfl⟩
    · rw [if_neg (mt List.contains_iff_mem.1 hm)]
      refine ⟨(Draft.mapSlot_eq_self hs (List.replace_of_not_mem hm)).symm, ?_⟩
      exact ⟨by rintro ⟨⟩, fun h => absurd h hm⟩
  | _ => cases hc

end Workbench

/-! ## What a call comes to -/

namespace Draft

/-- The nodes in the last argument of a call, if that is for children. -/
def ownNodes (d : Draft Nat) : List Nat :=
  match d.arguments.getLast? with
  | some (.children _ ns) => ns
  | _ => []

/-- What a call that was just started comes to after edits, with the list of its children. The slot
is where the first edit of children found or put it. -/
inductive Edited (surface : Surface) (slotType : String) (start : Draft Nat) :
    List Edit → Draft Nat → List Nat → Prop where
  /-- No edit concerned children; the list is the one that the first such edit will find. -/
  | undecided {es : List Edit} (hes : ∀ e ∈ es, e.isChild = false) :
    Edited surface slotType start es
      { start with
        head := headAfter es start.head
        chain := allSegments surface start.head.target es }
      (if allSegments surface start.head.target es = [] then start.ownNodes else [])
  /-- Nothing was chained before the first edit of children, and the last argument is for them. -/
  | own {before after : List Edit} {first : Edit} {init : List (Argument Nat)} {type : String}
    {ns : List Nat} (hb : ∀ e ∈ before, e.isChild = false) (hf : first.isChild = true)
    (ha : start.arguments = init ++ [.children type ns])
    (hc : allSegments surface start.head.target before = []) :
    Edited surface slotType start (before ++ first :: after)
      { start with
        head := headAfter (before ++ first :: after) start.head
        arguments := init ++ [.children type (listAfter (first :: after) ns)]
        chain := allSegments surface start.head.target after
        slot := .own }
      (listAfter (first :: after) ns)
  /-- Something was chained before the first edit of children, or the call has no place for them in
  its last argument. -/
  | chained {before after : List Edit} {first : Edit} (hb : ∀ e ∈ before, e.isChild = false)
    (hf : first.isChild = true) (hc : allSegments surface start.head.target before ≠ [] ∨
      ∀ type ns, start.arguments.getLast? ≠ some (.children type ns)) :
    Edited surface slotType start (before ++ first :: after)
      { start with
        head := headAfter (before ++ first :: after) start.head
        chain := allSegments surface start.head.target before ++
          .slot :: allSegments surface start.head.target after
        slot := .chained slotType (listAfter (first :: after) []) }
      (listAfter (first :: after) [])

variable {surface : Surface} {slotType : String} {start d : Draft Nat} {es : List Edit}
  {list : List Nat}

theorem Edited.target (h : Edited surface slotType start es d list) :
    d.head.target = start.head.target := by
  cases h with
  | undecided => exact target_headAfter _ _
  | own => exact target_headAfter _ _
  | chained => exact target_headAfter _ _

/-- One more edit when the children are in the last argument. -/
theorem edited_own_concat (slotType : String) {before : List Edit} (after : List Edit)
    {first : Edit} {init : List (Argument Nat)} {type : String} {ns : List Nat}
    (hb : ∀ e ∈ before, e.isChild = false) (hf : first.isChild = true)
    (ha : start.arguments = init ++ [.children type ns])
    (hc : allSegments surface start.head.target before = []) (e : Edit) :
    Edited surface slotType start (before ++ first :: after ++ [e])
      { start with
        head := e.onHead (headAfter (before ++ first :: after) start.head)
        arguments := init ++ [.children type (e.onList (listAfter (first :: after) ns))]
        chain := allSegments surface start.head.target after ++
          e.segments surface start.head.target
        slot := .own }
      (e.onList (listAfter (first :: after) ns)) := by
  have h := @Edited.own surface slotType start _ (after ++ [e]) _ _ _ _ hb hf ha hc
  rw [listAfter_concat, allSegments_concat, ← List.cons_append, ← List.append_assoc,
    headAfter_concat] at h
  exact h

/-- One more edit when the children are in a segment. -/
theorem edited_chained_concat (slotType : String) {before : List Edit} (after : List Edit)
    {first : Edit} (hb : ∀ e ∈ before, e.isChild = false) (hf : first.isChild = true)
    (hc : allSegments surface start.head.target before ≠ [] ∨
      ∀ type ns, start.arguments.getLast? ≠ some (.children type ns)) (e : Edit) :
    Edited surface slotType start (before ++ first :: after ++ [e])
      { start with
        head := e.onHead (headAfter (before ++ first :: after) start.head)
        chain := allSegments surface start.head.target before ++
          .slot :: allSegments surface start.head.target after ++
          e.segments surface start.head.target
        slot := .chained slotType (e.onList (listAfter (first :: after) [])) }
      (e.onList (listAfter (first :: after) [])) := by
  have h := @Edited.chained surface slotType start _ (after ++ [e]) _ hb hf hc
  rw [listAfter_concat, allSegments_concat, ← List.cons_append, ← List.append_assoc,
    ← List.cons_append, ← List.append_assoc, headAfter_concat] at h
  exact h

section

variable {m : Method} (hm : surface.findChildrenMethod start.head.target = .ok (some m))
  (hs : start.slot = .undecided)

/-- What the first edit of children finds. -/
def Opens (surface : Surface) (slotType : String) (start : Draft Nat) (es : List Edit)
    (d : Draft Nat) (list : List Nat) : Prop :=
  ∃ opened type, d.openSlot surface = .ok opened ∧ opened.slotContents? = some (type, list) ∧
    ∀ e : Edit, e.isChild = true →
      Edited surface slotType start (es ++ [e]) (opened.mapSlot e.onList) (e.onList list)

include hs in
theorem opens_own (hes : ∀ e ∈ es, e.isChild = false) {init : List (Argument Nat)} {type : String}
    {ns : List Nat} (ha : start.arguments = init ++ [.children type ns])
    (hc : allSegments surface start.head.target es = []) :
    Opens surface slotType start es
      { start with head := headAfter es start.head, chain := [] } ns := by
  refine ⟨{ start with head := headAfter es start.head, chain := [], slot := .own }, type, ?_, ?_,
    fun e he => ?_⟩
  · unfold openSlot
    simp only [hs, ha, List.getLast?_concat]
  · unfold slotContents?
    simp only [ha, List.getLast?_concat]
  · have h := @Edited.own surface slotType start _ [] _ _ _ _ hes he ha hc
    rw [headAfter_concat, onHead_of_isChild he] at h
    unfold mapSlot
    simp only [ha, List.getLast?_concat, List.dropLast_concat]
    exact h

include hm hs in
theorem opens_chained (hes : ∀ e ∈ es, e.isChild = false)
    (hc : allSegments surface start.head.target es ≠ [] ∨
      ∀ type ns, start.arguments.getLast? ≠ some (.children type ns)) :
    Opens surface (m.parameters.headD "") start es
      { start with
        head := headAfter es start.head
        chain := allSegments surface start.head.target es } [] := by
  refine ⟨{ start with
      head := headAfter es start.head
      chain := allSegments surface start.head.target es ++ [.slot]
      slot := .chained (m.parameters.headD "") [] }, m.parameters.headD "", ?_, rfl,
    fun e he => ?_⟩
  · unfold openSlot
    simp only [hs]
    split
    · rename_i type ns hchain hl
      exact absurd hl (hc.resolve_left (fun h => h hchain) type ns)
    · rw [target_headAfter, hm]
      rfl
  · have h := @Edited.chained surface (m.parameters.headD "") start _ [] _ hes he hc
    rw [headAfter_concat, onHead_of_isChild he] at h
    exact h

include hm hs in
/-- **Opening the slot.** The first edit of children finds the list, or a place for it. -/
theorem Edited.opens (h : Edited surface (m.parameters.headD "") start es d list) :
    Opens surface (m.parameters.headD "") start es d list := by
  cases h with
  | undecided hes =>
    by_cases hc : allSegments surface start.head.target es = []
    · rw [hc, if_pos rfl]
      unfold ownNodes
      split
      · rename_i type ns hl
        obtain ⟨init, ha⟩ := List.getLast?_eq_some_iff.1 hl
        exact opens_own hs hes ha hc
      · rename_i hl
        have h := opens_chained hm hs hes (Or.inr fun type ns h => hl type ns h)
        rw [hc] at h
        exact h
    · rw [if_neg hc]
      exact opens_chained hm hs hes (Or.inl hc)
  | @own before after first init type ns hb hf ha hc =>
    refine ⟨_, type, rfl, ?_, fun e he => ?_⟩
    · unfold slotContents?
      simp only [List.getLast?_concat]
    · have h := edited_own_concat (m.parameters.headD "") after hb hf ha hc e
      rw [onHead_of_isChild he, segments_of_isChild he, List.append_nil] at h
      unfold mapSlot
      simp only [List.getLast?_concat, List.dropLast_concat]
      exact h
  | @chained before after first hb hf hc =>
    refine ⟨_, m.parameters.headD "", rfl, rfl, fun e he => ?_⟩
    have h := edited_chained_concat (m.parameters.headD "") after hb hf hc e
    rw [onHead_of_isChild he, segments_of_isChild he, List.append_nil] at h
    exact h

end

end Draft

namespace Workbench

open Draft

section

variable {w : Workbench} {e : Edit} {start d : Draft Nat} {es : List Edit} {list : List Nat}
  {m : Method} (hm : w.surface.findChildrenMethod start.head.target = .ok (some m))
  (hs : start.slot = .undecided)
  (h : Edited w.surface (m.parameters.headD "") start es d list)

include hm hs h

/-- **One edit.** What a call comes to after one more edit. -/
theorem edited_step (hp : e.isPlain = true) :
    ∃ list, Edited w.surface (m.parameters.headD "") start (es ++ [e]) (w.editDraft d e).1
      list := by
  cases he : e.isChild with
  | true =>
    obtain ⟨opened, type, ho, hlist, hadd⟩ := h.opens hm hs
    rw [(editDraft_of_isChild he ho hlist).1]
    exact ⟨_, hadd e he⟩
  | false =>
    rw [editDraft_of_not_isChild d hp he, h.target]
    cases h with
    | undecided hes =>
      rw [← headAfter_concat, ← allSegments_concat]
      refine ⟨_, .undecided ?_⟩
      rw [List.forall_mem_append, List.forall_mem_singleton]
      exact ⟨hes, he⟩
    | @own before after first init type ns hb hf ha hc =>
      have h := edited_own_concat (m.parameters.headD "") after hb hf ha hc e
      rw [onList_of_not_isChild he] at h
      exact ⟨_, h⟩
    | @chained before after first hb hf hc =>
      have h := edited_chained_concat (m.parameters.headD "") after hb hf hc e
      rw [onList_of_not_isChild he] at h
      exact ⟨_, h⟩

/-- Edits of children succeed when they suit the list. -/
theorem outcome_of_isChild (he : e.isChild = true) :
    (w.editDraft d e).2 = .ok () ↔ e.Suits list := by
  obtain ⟨opened, type, ho, hlist, -⟩ := h.opens hm hs
  exact (editDraft_of_isChild he ho hlist).2

end

/-! ## Everything that happens on a workbench -/

/-- A node is put on the workbench, or one is edited. -/
inductive Move where
  | add (c : Cell)
  | edit (on : Nat) (e : Edit)

def move (w : Workbench) : Move → Workbench
  | .add c => (w.add c).1
  | .edit on e => (w.edit on e).1

def after (w : Workbench) (moves : List Move) : Workbench := moves.foldl move w

/-- The edits of one node. -/
def editsOn (n : Nat) (moves : List Move) : List Edit :=
  moves.filterMap fun move => match move with
    | .edit on e => if on = n then some e else none
    | .add _ => none

theorem surface_move (w : Workbench) (move : Move) : (w.move move).surface = w.surface := by
  cases move with
  | add c => rfl
  | edit on e =>
    unfold Workbench.move edit
    dsimp only
    split <;> rfl

theorem after_concat (w : Workbench) (moves : List Move) (move : Move) :
    w.after (moves ++ [move]) = (w.after moves).move move := List.foldl_append

theorem editsOn_concat (n : Nat) (moves : List Move) (move : Move) :
    editsOn n (moves ++ [move]) = editsOn n moves ++ editsOn n [move] := List.filterMap_append

theorem surface_after (w : Workbench) (moves : List Move) :
    (w.after moves).surface = w.surface := by
  induction moves using List.reverseRecOn with
  | nil => rfl
  | append_singleton moves move ih => rw [after_concat, surface_move, ih]

/-- What is put on the workbench, and edits of other nodes, leave a node alone. -/
theorem cells_move {w : Workbench} {n : Nat} {c : Cell} (hn : w.cells[n]? = some c) {move : Move}
    (hm : editsOn n [move] = []) : (w.move move).cells[n]? = some c := by
  cases move with
  | add c' =>
    obtain ⟨hlt, -⟩ := List.getElem?_eq_some_iff.1 hn
    refine Eq.trans ?_ hn
    exact List.getElem?_append_left hlt
  | edit on e =>
    have hne : n ≠ on := by
      rintro rfl
      simp [editsOn] at hm
    rw [← hn]
    exact cells_edit w on n e hne

theorem cells_edit_draft {w : Workbench} {n : Nat} {d : Draft Nat}
    (hn : w.cells[n]? = some (.draft d)) (e : Edit) :
    (w.edit n e).1.cells[n]? = some (.draft (w.editDraft d e).1) ∧
      (w.edit n e).2 = (w.editDraft d e).2 := by
  obtain ⟨hlt, -⟩ := List.getElem?_eq_some_iff.1 hn
  unfold edit
  rw [hn]
  exact ⟨List.getElem?_set_self hlt, rfl⟩

/-- **All edits.** What a call comes to, whatever happens on the workbench in between. -/
theorem edited_after {w : Workbench} {n : Nat} {start : Draft Nat} {m : Method}
    (hm : w.surface.findChildrenMethod start.head.target = .ok (some m))
    (hs : start.slot = .undecided) (hc : start.chain = [])
    (hn : w.cells[n]? = some (.draft start)) {moves : List Move}
    (hp : ∀ e ∈ editsOn n moves, e.isPlain = true) :
    ∃ d list, (w.after moves).cells[n]? = some (.draft d) ∧
      Edited w.surface (m.parameters.headD "") start (editsOn n moves) d list := by
  induction moves using List.reverseRecOn with
  | nil =>
    have h := @Edited.undecided w.surface (m.parameters.headD "") start [] (by simp)
    have hstart : { start with
        head := headAfter [] start.head
        chain := allSegments w.surface start.head.target [] } = start := by
      obtain ⟨head, arguments, chain, slot, definitions⟩ := start
      exact congrArg (Draft.mk head arguments · slot definitions) hc.symm
    rw [hstart] at h
    exact ⟨start, _, hn, h⟩
  | append_singleton moves move ih =>
    rw [editsOn_concat, List.forall_mem_append] at hp
    obtain ⟨d, list, hd, h⟩ := ih hp.1
    rw [after_concat, editsOn_concat]
    rw [← surface_after w moves] at hm h ⊢
    cases move with
    | add c => exact ⟨d, list, cells_move hd rfl, by simpa [editsOn] using h⟩
    | edit on e =>
      by_cases hon : on = n
      · subst hon
        have hsingle : editsOn on [.edit on e] = [e] := by simp [editsOn]
        rw [hsingle, List.forall_mem_singleton] at hp
        obtain ⟨list', h'⟩ := edited_step hm hs h hp.2
        rw [hsingle]
        exact ⟨_, list', (cells_edit_draft hd e).1, h'⟩
      · have hsingle : editsOn n [.edit on e] = [] := by simp [editsOn, hon]
        rw [hsingle, List.append_nil]
        exact ⟨d, list, cells_move hd hsingle, h⟩

/-! ## Where the list is written -/

def ReadsNodes (w : Workbench) : List Nat → List Node → Prop :=
  List.Forall₂ fun n t => w.read .code n = .ok t

def ReadsArguments (w : Workbench) : List (Argument Nat) → List (Argument Node) → Prop :=
  List.Forall₂ (ReadsArgument fun n t => w.read .code n = .ok t)

/-- How a segment that is no slot is read. -/
inductive ReadsAppended (w : Workbench) : Segment Nat → Node → Prop where
  | call (name target : String) {arguments : List (Argument Nat)} {given : List (Argument Node)}
    (h : w.ReadsArguments arguments given) :
    ReadsAppended w (.call name target arguments) (.call { name := some name, target } given [] [])
  | comment (text : String) : ReadsAppended w (.comment text) (.comment text)
  | node {n : Nat} {t : Node} (h : w.read .code n = .ok t) : ReadsAppended w (.node n) t

/-- Appended segments are read, and none of them as a segment for children. -/
structure ReadsSegments (w : Workbench) (segments : List (Segment Nat)) (chain : List Node) :
    Prop where
  each : List.Forall₂ w.ReadsAppended segments chain
  bare : ∀ t ∈ chain, ∀ trees, t ≠ .children trees

/-- How a call is written after edits: its list of children stands in one place, which the first
edit of children has decided. -/
inductive Written (w : Workbench) (start : Draft Nat) : List Edit → Node → Prop where
  | undecided {es : List Edit} {arguments : List (Argument Node)} {chain : List Node}
    (hes : ∀ e ∈ es, e.isChild = false) (ha : w.ReadsArguments start.arguments arguments)
    (hc : w.ReadsSegments (allSegments w.surface start.head.target es) chain) :
    Written w start es (.call (headAfter es start.head) arguments chain [])
  | own {before after : List Edit} {first : Edit} {init : List (Argument Nat)} {type : String}
    {ns : List Nat} {arguments : List (Argument Node)} {children chain : List Node}
    (hb : ∀ e ∈ before, e.isChild = false) (hf : first.isChild = true)
    (ha : start.arguments = init ++ [.children type ns])
    (he : allSegments w.surface start.head.target before = [])
    (hi : w.ReadsArguments init arguments)
    (hn : w.ReadsNodes (listAfter (first :: after) ns) children)
    (hc : w.ReadsSegments (allSegments w.surface start.head.target after) chain) :
    Written w start (before ++ first :: after)
      (.call (headAfter (before ++ first :: after) start.head)
        (arguments ++ [.children type children]) chain [])
  | chained {before after : List Edit} {first : Edit} {arguments : List (Argument Node)}
    {children pre post : List Node} (hb : ∀ e ∈ before, e.isChild = false)
    (hf : first.isChild = true) (he : allSegments w.surface start.head.target before ≠ [] ∨
      ∀ type ns, start.arguments.getLast? ≠ some (.children type ns))
    (ha : w.ReadsArguments start.arguments arguments)
    (hn : w.ReadsNodes (listAfter (first :: after) []) children)
    (hpre : w.ReadsSegments (allSegments w.surface start.head.target before) pre)
    (hpost : w.ReadsSegments (allSegments w.surface start.head.target after) post) :
    Written w start (before ++ first :: after)
      (.call (headAfter (before ++ first :: after) start.head) arguments
        (pre ++ .children children :: post) [])

theorem bare_of_readsAppended {w : Workbench} {segments : List (Segment Nat)} {chain : List Node}
    (h : List.Forall₂ w.ReadsAppended segments chain) :
    ∀ t ∈ chain, ∀ trees, t ≠ .children trees := by
  induction h with
  | nil => simp
  | cons hr _ ih =>
    refine List.forall_mem_cons.2 ⟨fun trees => ?_, ih⟩
    cases hr with
    | call => simp
    | comment => simp
    | node hn => exact ne_children_of_read hn trees

theorem readsSegments_of_reads {w : Workbench} {type : String} {es : List Edit}
    {slot : List Nat} {chain : List Node}
    (h : List.Forall₂ (ReadsSegment (fun n t => w.read .code n = .ok t) w.ReadsSlot slot)
      (allSegments w.surface type es) chain) :
    w.ReadsSegments (allSegments w.surface type es) chain := by
  have each : List.Forall₂ w.ReadsAppended (allSegments w.surface type es) chain := by
    refine ((List.forall₂_and_left _ _).2 ⟨fun s => not_slot_of_mem, h⟩).imp ?_
    rintro s t ⟨hs, hr⟩
    cases hr with
    | call name target ha => exact .call name target ha
    | comment text => exact .comment text
    | node hn => exact .node hn
    | slot => exact absurd rfl hs.1
    | borrowed => exact absurd rfl (hs.2 _)
  exact ⟨each, bare_of_readsAppended each⟩

/-- **Writing.** A call that is read has the list of its children in one place. -/
theorem written_of_read {w : Workbench} {n : Nat} {start d : Draft Nat} {slotType : String}
    {es : List Edit} {list : List Nat} (h : Edited w.surface slotType start es d list)
    (hn : w.cells[n]? = some (.draft d)) {tree : Node} (hr : w.read .code n = .ok tree) :
    Written w start es tree := by
  cases h with
  | undecided hes =>
    obtain ⟨ha, hc⟩ := reads_of_read hn hr
    exact .undecided hes ha (readsSegments_of_reads hc)
  | own hb hf ha he =>
    obtain ⟨hargs, hc⟩ := reads_of_read hn hr
    obtain ⟨arguments, last, rfl, hi, hlast⟩ := forall₂_append_left hargs
    cases hlast with
    | cons hchildren hnil =>
      cases hnil
      cases hchildren with
      | children type hlist => exact .own hb hf ha he hi hlist (readsSegments_of_reads hc)
  | chained hb hf he =>
    obtain ⟨ha, hc⟩ := reads_of_read hn hr
    obtain ⟨pre, rest, rfl, hpre, hrest⟩ := forall₂_append_left hc
    cases hrest with
    | cons hslot hpost =>
      cases hslot
      rename_i hlist
      exact .chained hb hf he ha hlist (readsSegments_of_reads hpre) (readsSegments_of_reads hpost)

/-- **Children.** The edits of the children of a call of the factory act on one list, and one edit
succeeds when it suits the list; all else that is appended is chained in order. The call is written
with the list in one place, its last argument or one segment, as the first of these edits found the
call. -/
theorem children_of_edits {w : Workbench} {n : Nat} {names : List String}
    {arguments : List (Argument Nat)} {start : Draft Nat} {m : Method} {moves : List Move}
    (hw : w.surface = Surface.standard)
    (hstart : Draft.ofFactory Surface.standard names arguments = .ok start)
    (hn : w.cells[n]? = some (.draft start))
    (hm : Surface.standard.findChildrenMethod start.head.target = .ok (some m))
    (hp : ∀ e ∈ editsOn n moves, e.isPlain = true) :
    ∃ d list, (w.after moves).cells[n]? = some (.draft d) ∧
      Edited Surface.standard (m.parameters.headD "") start (editsOn n moves) d list ∧
      (∀ e, e.isChild = true → (((w.after moves).edit n e).2 = .ok () ↔ e.Suits list)) ∧
      ((w.after moves).Readable n → ∃ tree, (w.after moves).read .code n = .ok tree ∧
        Written (w.after moves) start (editsOn n moves) tree ∧
        ∀ indent, (w.after moves).code n indent =
          if tree.isWritable then .ok (tree.code indent) else .error .notWritable) := by
  have hfresh : start.slot = .undecided ∧ start.chain = [] := by
    unfold Draft.ofFactory at hstart
    split at hstart
    · cases hstart
      exact ⟨rfl, rfl⟩
    · cases hstart
  rw [← hw] at hm ⊢
  obtain ⟨d, list, hd, h⟩ := edited_after hm hfresh.1 hfresh.2 hn hp
  refine ⟨d, list, hd, h, fun e he => ?_, fun hreadable => ?_⟩
  · rw [← surface_after w moves] at hm h
    rw [(cells_edit_draft hd e).2]
    exact outcome_of_isChild hm hfresh.1 h he
  · rw [← surface_after w moves] at h
    obtain ⟨tree, ht⟩ := exists_read hreadable
    exact ⟨tree, ht, written_of_read h hd ht, code_of_read ht⟩

/-- A call of the factory that has a place for children in its arguments. -/
def planCall : Draft Nat where
  head := {
    name := some "testPlan"
    target := "DslTestPlan"
    staticImports := ["us.abstracta.jmeter.javadsl.JmeterDsl"] }
  arguments := [.children "TestPlanChild[]" []]

/-- A call of a thread group. -/
def groupCall (name : String) : Draft Nat :=
  .unresolved (some "threadGroup") "DslDefaultThreadGroup" [.literal (.text name)]

/-- The call of a plan, with two others next to it. -/
def planBench : Workbench where
  surface := Surface.standard
  cells := [.empty, .draft planCall, .draft (groupCall "buyers"), .draft (groupCall "readers")]

/-- A remark is chained before the first child comes. -/
def planMoves : List Move := [
  .edit 1 (.chainComment "ends with the last reader"), .edit 1 (.child 2), .edit 1 (.child 2),
  .add (.draft (groupCall "admins")), .edit 1 (.prependChild 4), .edit 2 (.setCommented true),
  .edit 1 (.chain "sequentialThreadGroups" [.literal (.bool (some true) none)]),
  .edit 1 (.replaceChild 2 3), .edit 1 (.replaceChild 1 3), .edit 1 (.heading "nightly")]

theorem children_of_edits_planMoves : ∃ d list tree,
    (planBench.after planMoves).cells[1]? = some (.draft d) ∧
      Edited Surface.standard "TestPlanChild[]" planCall (editsOn 1 planMoves) d list ∧
      (planBench.after planMoves).read .code 1 = .ok tree ∧
      Written (planBench.after planMoves) planCall (editsOn 1 planMoves) tree := by
  have hm : ∃ m, Surface.standard.findChildrenMethod "DslTestPlan" = .ok (some m) ∧
      m.parameters.headD "" = "TestPlanChild[]" := ⟨_, rfl, rfl⟩
  obtain ⟨m, hm, hslot⟩ := hm
  obtain ⟨d, list, hd, hedited, -, hread⟩ := @children_of_edits planBench 1 ["testPlan"]
    [.children "TestPlanChild[]" []] planCall m planMoves rfl rfl rfl hm (by decide)
  rw [hslot] at hedited
  have group : ∀ n ∈ [4, 3, 2], (planBench.after planMoves).Readable n := by
    simp only [List.forall_mem_cons, List.not_mem_nil, false_imp_iff, implies_true, and_true]
    refine ⟨?_, ?_, ?_⟩ <;> exact readable_draft rfl (fun s hs => absurd hs List.not_mem_nil)
      (fun part hp => absurd hp List.not_mem_nil)
  have plan : (planBench.after planMoves).Readable 1 := by
    refine readable_draft rfl (fun s hs => ?_) group
    have hs : s ∈ [.comment _, .slot, .call _ _ _] := hs
    simp only [List.mem_cons, List.not_mem_nil, or_false] at hs
    rcases hs with rfl | rfl | rfl <;> simp
  obtain ⟨tree, ht, hwritten, -⟩ := hread plan
  exact ⟨d, list, tree, hd, hedited, ht, hwritten⟩

example : ((planBench.after planMoves).code 1 "").toOption = some
    ("// nightly\ntestPlan()\n  // ends with the last reader\n  .children(\n" ++
      "    threadGroup(\"admins\"),\n    threadGroup(\"readers\"),\n" ++
      "    //threadGroup(\"buyers\")\n  )\n  .sequentialThreadGroups()") := by decide +kernel

end Workbench
end PlanCode
