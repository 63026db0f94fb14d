import Mathlib.Data.List.Forall2
import Mathlib.Data.List.Perm.Subperm
import PlanCode.Call.Workbench
import PlanCode.Proofs.Call.Slot

/-!
# Reading nodes off the workbench

The code of a node is written from what is read of it: the node with all that
stands in it, but without the bodies of methods. A node that does not stand in
itself, however deep, is read.

* `finish_eq_ok`: how a draft is read, part by part.
* `readFrom_succ`: what is read does not depend on how far reading may go.
* `exists_read`: nodes that are built of each other without a cycle are read.
* `reads_of_read`: what is read of a draft is made of what is read of its parts.
-/
namespace PlanCode

theorem mapM_eq_ok {ε α β : Type} {f : α → Except ε β} {as : List α} {bs : List β} :
    as.mapM f = .ok bs ↔ List.Forall₂ (fun a b => f a = .ok b) as bs := by
  induction as generalizing bs with
  | nil =>
    rw [List.mapM_nil]
    constructor
    · rintro ⟨⟩
      exact .nil
    · rintro ⟨⟩
      rfl
  | cons a as ih =>
    rw [List.mapM_cons, bind_eq_ok]
    constructor
    · rintro ⟨b, hb, h⟩
      obtain ⟨bs', hbs, h⟩ := bind_eq_ok.1 h
      cases h
      exact .cons hb (ih.1 hbs)
    · intro h
      cases h with
      | cons hb hbs => exact ⟨_, hb, bind_eq_ok.2 ⟨_, ih.2 hbs, rfl⟩⟩

theorem forall₂_of_forall {α β : Type} {R : α → β → Prop} {as : List α}
    (h : ∀ a ∈ as, ∃ b, R a b) : ∃ bs, List.Forall₂ R as bs := by
  induction as with
  | nil => exact ⟨[], .nil⟩
  | cons a as ih =>
    rw [List.forall_mem_cons] at h
    obtain ⟨b, hb⟩ := h.1
    obtain ⟨bs, hbs⟩ := ih h.2
    exact ⟨b :: bs, .cons hb hbs⟩

theorem exists_of_mem_forall₂ {α β : Type} {R : α → β → Prop} {as : List α} {bs : List β}
    (h : List.Forall₂ R as bs) {a : α} (ha : a ∈ as) : ∃ b ∈ bs, R a b := by
  induction h with
  | nil => cases ha
  | cons hb _ ih =>
    rcases List.mem_cons.1 ha with rfl | ha
    · exact ⟨_, List.mem_cons_self, hb⟩
    · obtain ⟨b, hm, hr⟩ := ih ha
      exact ⟨b, List.mem_cons_of_mem _ hm, hr⟩

theorem forall₂_append_left {α β : Type} {R : α → β → Prop} {as as' : List α} {bs : List β}
    (h : List.Forall₂ R (as ++ as') bs) :
    ∃ cs cs', bs = cs ++ cs' ∧ List.Forall₂ R as cs ∧ List.Forall₂ R as' cs' := by
  induction as generalizing bs with
  | nil => exact ⟨[], bs, rfl, .nil, h⟩
  | cons a as ih =>
    cases h with
    | cons hb hbs =>
      obtain ⟨cs, cs', rfl, hc, hc'⟩ := ih hbs
      exact ⟨_ :: cs, cs', rfl, .cons hb hc, hc'⟩

namespace Draft

/-! ## The parts of a draft -/

section

variable {κ : Type}

/-- An argument is read with the nodes in it. -/
inductive ReadsArgument (R : κ → Node → Prop) : Argument κ → Argument Node → Prop where
  | literal (v : Literal) : ReadsArgument R (.literal v) (.literal v)
  | bare (type : String) (e : Option String) : ReadsArgument R (.bare type e) (.bare type e)
  | children (type : String) {nodes : List κ} {trees : List Node}
    (h : List.Forall₂ R nodes trees) : ReadsArgument R (.children type nodes) (.children type trees)

/-- A segment is read with the nodes in it; the slot of the draft holds the nodes given. -/
inductive ReadsSegment (R : κ → Node → Prop) (B : κ → List Node → Prop) (slot : List κ) :
    Segment κ → Node → Prop where
  | call (name target : String) {arguments : List (Argument κ)} {given : List (Argument Node)}
    (h : List.Forall₂ (ReadsArgument R) arguments given) : ReadsSegment R B slot
      (.call name target arguments) (.call { name := some name, target } given [] [])
  | comment (text : String) : ReadsSegment R B slot (.comment text) (.comment text)
  | node {n : κ} {tree : Node} (h : R n tree) : ReadsSegment R B slot (.node n) tree
  | slot {trees : List Node} (h : List.Forall₂ R slot trees) :
    ReadsSegment R B slot .slot (.children trees)
  | borrowed {owner : κ} {trees : List Node} (h : B owner trees) :
    ReadsSegment R B slot (.borrowed owner) (.children trees)

/-- A draft without methods is read with its parts. -/
inductive Reads (R : κ → Node → Prop) (B : κ → List Node → Prop) (d : Draft κ) : Node → Prop where
  | intro {arguments : List (Argument Node)} {chain : List Node}
    (ha : List.Forall₂ (ReadsArgument R) d.arguments arguments)
    (hc : List.Forall₂ (ReadsSegment R B d.slotNodes) d.chain chain) :
    Reads R B d (.call d.head arguments chain [])

variable {R R' : κ → Node → Prop} {B B' : κ → List Node → Prop}

theorem ReadsArgument.imp (h : ∀ n t, R n t → R' n t) {a : Argument κ} {a' : Argument Node}
    (ha : ReadsArgument R a a') : ReadsArgument R' a a' := by
  cases ha with
  | literal v => exact .literal v
  | bare type e => exact .bare type e
  | children type hn => exact .children type (hn.imp h)

theorem ReadsSegment.imp (h : ∀ n t, R n t → R' n t) (hb : ∀ n ts, B n ts → B' n ts)
    {slot : List κ} {s : Segment κ} {t : Node} (hs : ReadsSegment R B slot s t) :
    ReadsSegment R' B' slot s t := by
  cases hs with
  | call name target ha => exact .call name target (ha.imp fun _ _ => ReadsArgument.imp h)
  | comment text => exact .comment text
  | node hn => exact .node (h _ _ hn)
  | slot hn => exact .slot (hn.imp h)
  | borrowed ho => exact .borrowed (hb _ _ ho)

theorem Reads.imp (h : ∀ n t, R n t → R' n t) (hb : ∀ n ts, B n ts → B' n ts) {d : Draft κ}
    {t : Node} (hd : Reads R B d t) : Reads R' B' d t := by
  cases hd with
  | intro ha hc =>
    exact .intro (ha.imp fun _ _ => ReadsArgument.imp h) (hc.imp fun _ _ => ReadsSegment.imp h hb)

variable {ε : Type} {node body : κ → Except ε Node} {borrowed : κ → Except ε (List Node)}

theorem finishArgument_eq_ok {a : Argument κ} {a' : Argument Node} :
    finishArgument node a = .ok a' ↔ ReadsArgument (fun n t => node n = .ok t) a a' := by
  cases a with
  | literal v =>
    constructor
    · rintro ⟨⟩
      exact .literal v
    · rintro ⟨⟩
      rfl
  | bare type e =>
    constructor
    · rintro ⟨⟩
      exact .bare type e
    · rintro ⟨⟩
      rfl
  | children type nodes =>
    unfold finishArgument
    rw [map_eq_ok]
    constructor
    · rintro ⟨trees, ht, rfl⟩
      exact .children type (mapM_eq_ok.1 ht)
    · rintro ⟨⟩
      rename_i ht
      exact ⟨_, mapM_eq_ok.2 ht, rfl⟩

theorem finishArguments_eq_ok {as : List (Argument κ)} {as' : List (Argument Node)} :
    as.mapM (finishArgument node) = .ok as' ↔
      List.Forall₂ (ReadsArgument fun n t => node n = .ok t) as as' := by
  rw [mapM_eq_ok]
  exact ⟨fun h => h.imp fun _ _ => finishArgument_eq_ok.1,
    fun h => h.imp fun _ _ => finishArgument_eq_ok.2⟩

/-- Replaces the names in a segment by what they stand for. -/
def finishSegment (node : κ → Except ε Node) (borrowed : κ → Except ε (List Node))
    (slot : List κ) (s : Segment κ) : Except ε Node :=
  match s with
  | .call name target arguments => do
    return Node.call { name := some name, target } (← arguments.mapM (finishArgument node)) [] []
  | .comment text => pure (.comment text)
  | .node n => node n
  | .slot => do return Node.children (← slot.mapM node)
  | .borrowed owner => do return Node.children (← borrowed owner)

theorem finishSegment_eq_ok {slot : List κ} {s : Segment κ} {t : Node} :
    finishSegment node borrowed slot s = .ok t ↔
      ReadsSegment (fun n t => node n = .ok t) (fun n ts => borrowed n = .ok ts) slot s t := by
  cases s with
  | call name target arguments =>
    constructor
    · intro h
      obtain ⟨given, hg, h⟩ := bind_eq_ok.1 h
      cases h
      exact .call name target (finishArguments_eq_ok.1 hg)
    · rintro ⟨⟩
      rename_i h
      exact bind_eq_ok.2 ⟨_, finishArguments_eq_ok.2 h, rfl⟩
  | comment text =>
    constructor
    · rintro ⟨⟩
      exact .comment text
    · rintro ⟨⟩
      rfl
  | node n =>
    constructor
    · intro h
      exact .node h
    · rintro ⟨⟩
      assumption
  | slot =>
    constructor
    · intro h
      obtain ⟨trees, ht, h⟩ := bind_eq_ok.1 h
      cases h
      exact .slot (mapM_eq_ok.1 ht)
    · rintro ⟨⟩
      rename_i h
      exact bind_eq_ok.2 ⟨_, mapM_eq_ok.2 h, rfl⟩
  | borrowed owner =>
    constructor
    · intro h
      obtain ⟨trees, ht, h⟩ := bind_eq_ok.1 h
      cases h
      exact .borrowed ht
    · rintro ⟨⟩
      rename_i h
      exact bind_eq_ok.2 ⟨_, h, rfl⟩

theorem finish_eq {d : Draft κ} (hd : d.definitions = []) :
    d.finish node body borrowed = (do
      let arguments ← d.arguments.mapM (finishArgument node)
      let chain ← d.chain.mapM (finishSegment node borrowed d.slotNodes)
      return .call d.head arguments chain []) := by
  unfold finish
  rw [hd]
  rfl

/-- **Finishing.** A draft without methods is read exactly when all its parts are. -/
theorem finish_eq_ok {d : Draft κ} (hd : d.definitions = []) {t : Node} :
    d.finish node body borrowed = .ok t ↔
      Reads (fun n t => node n = .ok t) (fun n ts => borrowed n = .ok ts) d t := by
  have chain_ : ∀ {chain : List Node}, d.chain.mapM (finishSegment node borrowed d.slotNodes) =
      .ok chain ↔ List.Forall₂ (ReadsSegment (fun n t => node n = .ok t)
        (fun n ts => borrowed n = .ok ts) d.slotNodes) d.chain chain := by
    intro chain
    rw [mapM_eq_ok]
    exact ⟨fun h => h.imp fun _ _ => finishSegment_eq_ok.1,
      fun h => h.imp fun _ _ => finishSegment_eq_ok.2⟩
  rw [finish_eq hd]
  constructor
  · intro h
    obtain ⟨arguments, ha, h⟩ := bind_eq_ok.1 h
    obtain ⟨chain, hc, h⟩ := bind_eq_ok.1 h
    cases h
    exact .intro (finishArguments_eq_ok.1 ha) (chain_.1 hc)
  · rintro ⟨ha, hc⟩
    exact bind_eq_ok.2 ⟨_, finishArguments_eq_ok.2 ha, bind_eq_ok.2 ⟨_, chain_.2 hc, rfl⟩⟩

end

end Draft

/-! ## Reading -/

namespace Workbench

variable {w : Workbench}

/-- The slot of a draft on the workbench, read as far as is said. -/
def readSlot (w : Workbench) (fuel : Nat) (owner : Nat) : Except WorkError (List Node) :=
  match w.cells[owner]? with
  | some (.draft o) => o.slotNodes.mapM (w.readFrom fuel .code)
  | _ => .error .unknownNode

/-- How a draft is read for its code. -/
theorem readFrom_draft {n : Nat} {d : Draft Nat} (hn : w.cells[n]? = some (.draft d))
    (fuel : Nat) {t : Node} : w.readFrom (fuel + 1) .code n = .ok t ↔
      Draft.Reads (fun n t => w.readFrom fuel .code n = .ok t)
        (fun n ts => w.readSlot fuel n = .ok ts) d t := by
  rw [readFrom, hn]
  dsimp only
  rw [if_pos rfl]
  have hfinish := @Draft.finish_eq_ok _ _ (w.readFrom fuel .code)
    (w.readFrom fuel Depth.code.ofBody) (w.readSlot fuel) { d with definitions := [] } rfl t
  refine Iff.trans (Iff.of_eq (congrArg (· = Except.ok t) ?_)) (hfinish.trans ⟨?_, ?_⟩)
  · congr 1
    funext owner
    unfold readSlot Draft.slotNodes
    cases w.cells[owner]? with
    | none => rfl
    | some c =>
      cases c with
      | draft o =>
        dsimp only
        cases o.slot <;> rfl
      | _ => rfl
  · rintro ⟨ha, hc⟩
    exact .intro ha hc
  · rintro ⟨ha, hc⟩
    exact .intro ha hc

/-- **More reading.** What is read stays the same when reading may go further. -/
theorem readFrom_succ (fuel : Nat) : ∀ {n : Nat} {t : Node},
    w.readFrom fuel .code n = .ok t → w.readFrom (fuel + 1) .code n = .ok t := by
  induction fuel with
  | zero => intro n t h; cases h
  | succ fuel ih =>
    intro n t h
    cases hn : w.cells[n]? with
    | none => rw [readFrom, hn] at h; cases h
    | some c =>
      cases c with
      | empty => rw [readFrom, hn] at h ⊢; exact h
      | comment text => rw [readFrom, hn] at h ⊢; exact h
      | draft d =>
        rw [readFrom_draft hn] at h ⊢
        refine h.imp (fun _ _ => ih) fun owner trees ho => ?_
        unfold readSlot at ho ⊢
        split at ho
        · rename_i o ho'
          rw [mapM_eq_ok] at ho
          exact mapM_eq_ok.2 (ho.imp fun _ _ => ih)
        · cases ho

/-- What is read of a node is no segment for children. -/
theorem ne_children_of_read {n : Nat} {t : Node} (h : w.read .code n = .ok t) (trees : List Node) :
    t ≠ .children trees := by
  rintro rfl
  unfold read at h
  cases hn : w.cells[n]? with
  | none => rw [readFrom, hn] at h; cases h
  | some c =>
    cases c with
    | empty => rw [readFrom, hn] at h; cases h
    | comment text => rw [readFrom, hn] at h; cases h
    | draft d => nomatch (readFrom_draft hn _).1 h

theorem code_of_read {n : Nat} {t : Node} (h : w.read .code n = .ok t) (indent : String) :
    w.code n indent = if t.isWritable then .ok (t.code indent) else .error .notWritable := by
  unfold code writable
  rw [h]
  change ((if t.isWritable = true then .ok t else .error .notWritable : Except WorkError Node) >>=
    fun t => .ok (t.code indent)) = _
  cases t.isWritable <;> rfl

/-! ## Nodes that can be read -/

/-- The nodes that stand in a segment; the slot of the draft holds the nodes given. -/
def namesInSegment (w : Workbench) (slot : List Nat) : Segment Nat → List Nat
  | .call _ _ arguments => arguments.flatMap (·.nodes)
  | .node n => [n]
  | .slot => slot
  | .borrowed owner =>
    match w.cells[owner]? with
    | some (.draft o) => o.slotNodes
    | _ => []
  | _ => []

/-- The nodes that stand in a node, bodies of methods apart. -/
def namesIn (w : Workbench) (n : Nat) : List Nat :=
  match w.cells[n]? with
  | some (.draft d) =>
    d.arguments.flatMap (·.nodes) ++ d.chain.flatMap (w.namesInSegment d.slotNodes)
  | _ => []

/-- The calls whose slots stand in a node. -/
def Lends (w : Workbench) (n : Nat) : Prop :=
  ∀ d, w.cells[n]? = some (.draft d) → ∀ owner, Segment.borrowed owner ∈ d.chain →
    ∃ o, w.cells[owner]? = some (.draft o)

/-- A node on the workbench that is built of such nodes; none of them stands in itself. -/
inductive Readable (w : Workbench) : Nat → Prop where
  | intro {n : Nat} (known : n < w.cells.length) (lends : w.Lends n)
    (parts : ∀ part ∈ w.namesIn n, Readable w part) : Readable w n

/-- A call that takes no slot over is built of what stands in it. -/
theorem readable_draft {n : Nat} {d : Draft Nat} (hn : w.cells[n]? = some (.draft d))
    (hc : ∀ s ∈ d.chain, ∀ owner, s ≠ .borrowed owner)
    (parts : ∀ part ∈ w.namesIn n, Readable w part) : Readable w n := by
  obtain ⟨known, -⟩ := List.getElem?_eq_some_iff.1 hn
  refine .intro known (fun d' hd' owner ho => ?_) parts
  rw [hn] at hd'
  cases hd'
  exact absurd rfl (hc _ ho owner)

/-- A node stands in another one, however deep. -/
inductive Inside (w : Workbench) : Nat → Nat → Prop where
  | direct {n part : Nat} (h : part ∈ w.namesIn n) : Inside w part n
  | deep {n outer part : Nat} (h : Inside w outer n) (hp : part ∈ w.namesIn outer) :
    Inside w part n

/-- The outermost step of the way to a node inside another one. -/
theorem Inside.outermost {n part : Nat} (h : w.Inside part n) :
    ∃ first ∈ w.namesIn n, part = first ∨ w.Inside part first := by
  induction h with
  | direct h => exact ⟨_, h, Or.inl rfl⟩
  | deep _ hp ih =>
    obtain ⟨first, hf, rfl | hi⟩ := ih
    · exact ⟨_, hf, Or.inr (.direct hp)⟩
    · exact ⟨first, hf, Or.inr (.deep hi hp)⟩

/-- A node that can be read does not stand in itself. -/
theorem Readable.not_inside {n : Nat} (h : w.Readable n) : ¬ w.Inside n n := by
  induction h with
  | @intro n _ _ parts ih =>
    -- A way from the node to itself is one from its first part to that part.
    intro hi
    obtain ⟨first, hf, rfl | hi⟩ := hi.outermost
    · exact ih _ hf (.direct hf)
    · exact ih first hf (.deep hi hf)

/-- A draft is read when all that stands in it is. -/
theorem exists_reads {n : Nat} {d : Draft Nat} (hn : w.cells[n]? = some (.draft d))
    (hl : w.Lends n) {fuel : Nat}
    (h : ∀ part ∈ w.namesIn n, ∃ t, w.readFrom fuel .code part = .ok t) :
    ∃ t, Draft.Reads (fun n t => w.readFrom fuel .code n = .ok t)
      (fun n ts => w.readSlot fuel n = .ok ts) d t := by
  unfold namesIn at h
  rw [hn] at h
  simp only [List.forall_mem_append, List.forall_mem_flatMap] at h
  obtain ⟨harguments, hchain⟩ := h
  have argument : ∀ a : Argument Nat, (∀ n ∈ a.nodes, ∃ t, w.readFrom fuel .code n = .ok t) →
      ∃ a', Draft.ReadsArgument (fun n t => w.readFrom fuel .code n = .ok t) a a' := by
    intro a ha
    cases a with
    | literal v => exact ⟨_, .literal v⟩
    | bare type e => exact ⟨_, .bare type e⟩
    | children type nodes =>
      obtain ⟨trees, ht⟩ := forall₂_of_forall ha
      exact ⟨_, .children type ht⟩
  obtain ⟨arguments, ha⟩ := forall₂_of_forall fun a hm => argument a (harguments a hm)
  have segment : ∀ s ∈ d.chain, ∃ t, Draft.ReadsSegment (fun n t => w.readFrom fuel .code n = .ok t)
      (fun n ts => w.readSlot fuel n = .ok ts) d.slotNodes s t := by
    intro s hm
    have hs := hchain s hm
    cases s with
    | call name target arguments =>
      obtain ⟨given, hg⟩ := forall₂_of_forall fun a ha =>
        argument a fun n hn => hs n (List.mem_flatMap.2 ⟨a, ha, hn⟩)
      exact ⟨_, .call name target hg⟩
    | comment text => exact ⟨_, .comment text⟩
    | node n =>
      obtain ⟨t, ht⟩ := hs n (List.mem_singleton_self n)
      exact ⟨t, .node ht⟩
    | slot =>
      obtain ⟨trees, ht⟩ := forall₂_of_forall hs
      exact ⟨_, .slot ht⟩
    | borrowed owner =>
      obtain ⟨o, ho⟩ := hl d hn owner hm
      simp only [namesInSegment, ho] at hs
      obtain ⟨trees, ht⟩ := forall₂_of_forall hs
      exact ⟨_, .borrowed (by rw [readSlot, ho]; exact mapM_eq_ok.2 ht)⟩
  obtain ⟨chain, hc⟩ := forall₂_of_forall segment
  exact ⟨_, .intro ha hc⟩

/-- A node below others is read when reading may go on for as many steps as there are other nodes on
the workbench. -/
theorem exists_readFrom {n : Nat} (h : w.Readable n) : ∀ path : List Nat, path.Nodup →
    (∀ m ∈ path, m < w.cells.length ∧ w.Inside n m) →
    ∀ fuel, w.cells.length < fuel + path.length → ∃ t, w.readFrom fuel .code n = .ok t := by
  induction h with
  | @intro n known lends parts ih =>
    intro path hnodup hpath fuel hfuel
    -- The node is not above itself, so the way to its parts is longer by one node.
    have hnew : n ∉ path := fun hm => (Readable.intro known lends parts).not_inside (hpath n hm).2
    have hnodup' : (n :: path).Nodup := List.nodup_cons.2 ⟨hnew, hnodup⟩
    have hlong : (n :: path).length ≤ w.cells.length := by
      have hsub : (n :: path).Subperm (List.range w.cells.length) := by
        refine hnodup'.subperm fun m hm => List.mem_range.2 ?_
        rcases List.mem_cons.1 hm with rfl | hm
        · exact known
        · exact (hpath m hm).1
      rw [← @List.length_range w.cells.length]
      exact hsub.length_le
    rw [List.length_cons] at hlong
    obtain ⟨fuel, rfl⟩ : ∃ rest, fuel = rest + 1 := ⟨fuel - 1, by omega⟩
    have hparts : ∀ part ∈ w.namesIn n, ∃ t, w.readFrom fuel .code part = .ok t := by
      intro part hp
      refine ih part hp (n :: path) hnodup' ?_ fuel (by rw [List.length_cons]; omega)
      intro m hm
      rcases List.mem_cons.1 hm with rfl | hm
      · exact ⟨known, .direct hp⟩
      · exact ⟨(hpath m hm).1, .deep (hpath m hm).2 hp⟩
    cases hn : w.cells[n]? with
    | none =>
      rw [List.getElem?_eq_none_iff] at hn
      omega
    | some c =>
      cases c with
      | empty => exact ⟨_, by rw [readFrom, hn]⟩
      | comment text => exact ⟨_, by rw [readFrom, hn]⟩
      | draft d =>
        obtain ⟨t, ht⟩ := exists_reads hn lends hparts
        exact ⟨t, (readFrom_draft hn fuel).2 ht⟩

/-- **Reading.** A node that is built of others without a cycle is read. -/
theorem exists_read {n : Nat} (h : w.Readable n) : ∃ t, w.read .code n = .ok t :=
  exists_readFrom h [] List.nodup_nil (by simp) _ (by simp only [List.length_nil]; omega)

/-- A slot is read with the nodes in it. -/
def ReadsSlot (w : Workbench) (owner : Nat) (trees : List Node) : Prop :=
  ∃ o, w.cells[owner]? = some (.draft o) ∧
    List.Forall₂ (fun n t => w.read .code n = .ok t) o.slotNodes trees

/-- **Parts.** What is read of a draft is made of what is read of its parts. -/
theorem reads_of_read {n : Nat} {d : Draft Nat} (hn : w.cells[n]? = some (.draft d)) {t : Node}
    (h : w.read .code n = .ok t) :
    Draft.Reads (fun n t => w.read .code n = .ok t) w.ReadsSlot d t := by
  have up : ∀ n t, w.readFrom (2 * w.cells.length + 1) .code n = .ok t →
      w.read .code n = .ok t := fun n t h => readFrom_succ _ h
  refine ((readFrom_draft hn _).1 h).imp up fun owner trees ho => ?_
  unfold readSlot at ho
  split at ho
  · rename_i o ho'
    exact ⟨o, ho', (mapM_eq_ok.1 ho).imp up⟩
  · cases ho

end Workbench
end PlanCode
