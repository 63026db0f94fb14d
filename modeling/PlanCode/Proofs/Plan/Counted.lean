import Mathlib.Data.List.Flatten
import Mathlib.Data.List.Perm.Subperm
import PlanCode.Proofs.Plan.Mirrored

/-!
# How many elements are converted

Every kept element is counted as converted. In the tree of calls and in its methods are the calls of
the written elements only, and of two fragments for one method only those of the later one. The
count is that of the calls exactly when neither makes a difference.

* `subperm_putAll`: entries that are put are among the given ones.
* `total_eq`: converted children are as many as the kept elements among them and below them.
* `length_written`: there are at most as many written elements as kept ones, and the condition for
  as many.
* `counted_of_generate`: the count of a class, and when it is the number of its calls.
-/
namespace PlanCode

namespace Entries

variable {α β : Type}

theorem subperm_put (name : String) (value : α) (es : Entries α) :
    (put name value es).Subperm (es ++ [(name, value)]) := by
  induction es with
  | nil => exact List.Subperm.refl _
  | cons e rest ih =>
    obtain ⟨n, v⟩ := e
    rw [put]
    split
    · rename_i hn
      subst hn
      exact (List.perm_append_singleton _ _).symm.subperm.trans
        (List.sublist_cons_self _ _).subperm
    · exact (List.subperm_cons _).2 ih

/-- Entries that are put are among the given ones. -/
theorem subperm_putAll (old new : Entries α) : (putAll old new).Subperm (old ++ new) := by
  induction new generalizing old with
  | nil => rw [List.append_nil]; exact List.Subperm.refl _
  | cons e new ih =>
    rw [putAll_cons, List.append_cons]
    exact (ih _).trans ((List.subperm_append_right new).2 (subperm_put e.1 e.2 old))

/-- Entries that are among others have no more parts than these. -/
theorem length_flatMap_le_of_subperm {f : String × α → List β} {es es' : Entries α}
    (h : es.Subperm es') : (es.flatMap f).length ≤ (es'.flatMap f).length := by
  obtain ⟨l, hp, hs⟩ := h
  rw [← (hp.flatMap fun _ _ => List.Perm.refl _).length_eq]
  exact (hs.flatMap f).length_le

/-- If every entry has some part and no part is lost, no name was put twice. -/
theorem nodup_of_length_flatMap {f : String × α → List β} (hf : ∀ e, f e ≠ [])
    {new : Entries α} (h : ((putAll [] new).flatMap f).length = (new.flatMap f).length) :
    (new.map (·.1)).Nodup := by
  refine @nodup_of_length_putAll _ [] _ List.nodup_nil ?_
  have hle := subperm_putAll [] new
  rw [List.nil_append] at hle
  refine Nat.le_antisymm (length_putAll_le _ _) (Nat.le_of_not_lt fun hlt => ?_)
  rw [List.length_nil, Nat.zero_add] at hlt
  obtain ⟨lost, hlost⟩ := hle.exists_of_length_lt hlt
  have hmore := length_flatMap_le_of_subperm (f := f) hlost
  have hpos := List.length_pos_iff.2 (hf lost)
  rw [List.flatMap_cons, List.length_append] at hmore
  omega

end Entries

namespace Element

/-! ## Elements that are reached by passing one more test -/

theorem allOn_and (first later q : Element → Bool) (es : List Element) :
    allOn (fun e => first e && q e) (fun e => later e && q e) es =
      (allOn first later es && es.all q) := by
  induction es generalizing first with
  | nil => rfl
  | cons e rest ih =>
    rw [allOn, allOn, ih, List.all_cons]
    cases first e <;> cases q e <;> simp

/-- What is reached by passing one more test on the way is reached, and passes it. -/
theorem reached_and_sublist (first later q : Element → Bool) (es : List Element) :
    (reached (fun e => first e && q e) (fun e => later e && q e) es).Sublist
      (reached first later es) := by
  unfold reached select
  refine List.Sublist.map _ (List.monotone_filter_right _ ?_)
  rintro ⟨above, e⟩ hd
  dsimp only at hd
  rw [allOn_and] at hd
  exact (Bool.and_eq_true_iff.1 hd).1

theorem of_mem_reached_and {first later q : Element → Bool} {es : List Element} {e : Element}
    (h : e ∈ reached (fun e => first e && q e) (fun e => later e && q e) es) : q e = true := by
  obtain ⟨⟨above, e⟩, hd, rfl⟩ := List.mem_map.1 h
  have hall := (List.mem_filter.1 hd).2
  dsimp only at hall
  rw [allOn_and, Bool.and_eq_true, List.all_eq_true] at hall
  exact hall.2 e (List.mem_append_right _ (List.mem_singleton_self e))

/-- Children of which no one fails the test, when nothing below a child fails it. -/
theorem reached_and_list {first later q : Element → Bool} {es : List Element}
    (ih : ∀ e ∈ es, (∀ d ∈ reached later later e.children, q d = true) →
      reached (fun e => later e && q e) (fun e => later e && q e) e.children =
        reached later later e.children)
    (h : ∀ d ∈ reached first later es, q d = true) :
    reached (fun e => first e && q e) (fun e => later e && q e) es = reached first later es := by
  induction es with
  | nil => rw [reached_nil, reached_nil]
  | cons e rest ihes =>
    rw [List.forall_mem_cons] at ih
    rw [reached_cons, List.forall_mem_append] at h
    rw [reached_cons, reached_cons, ihes ih.2 h.2]
    cases hf : first e with
    | false => rfl
    | true =>
      rw [hf, if_pos rfl, List.forall_mem_cons] at h
      rw [h.1.1, ih.1 h.1.2]
      rfl

theorem reached_and_children {later q : Element → Bool} (e : Element) :
    (∀ d ∈ reached later later e.children, q d = true) →
      reached (fun e => later e && q e) (fun e => later e && q e) e.children =
        reached later later e.children := by
  induction e using children_induction with | step e ih => exact reached_and_list ih

/-- As many elements are reached by passing one more test exactly when all elements pass it. -/
theorem length_reached_and (first later q : Element → Bool) (es : List Element) :
    (reached (fun e => first e && q e) (fun e => later e && q e) es).length =
      (reached first later es).length ↔ ∀ e ∈ reached first later es, q e = true := by
  rw [(reached_and_sublist first later q es).length_eq]
  constructor
  · intro h e he
    rw [← h] at he
    exact of_mem_reached_and he
  · exact reached_and_list fun e _ => reached_and_children e

/-! ## Written elements -/

/-- A written element with the written ones below it. -/
def writtenFrom (s : Settings) (e : Element) : List Element :=
  e :: reached (isWritten s false) (isWritten s false) e.children

/-- The elements of a plan whose calls are in its tree of calls and in its methods: the plan, what
is written below it outside of fragments, and what is written of the fragments that the methods are
made from. -/
def written (s : Settings) (plan : Element) : List Element :=
  (plan :: reached (fun e => e.isWritten s true && !e.isFragment) (isWritten s false)
    plan.children) ++ plan.methods.flatMap fun m => m.2.writtenFrom s

/-- **Written and kept.** There are at most as many written elements as there are kept ones and the
plan, and as many exactly when all kept elements have a call and no two fragments become the same
method. -/
theorem length_written (s : Settings) (plan : Element) :
    (plan.written s).length ≤ (plan.kept s).length + 1 ∧
      ((plan.kept s).length + 1 = (plan.written s).length ↔
        (∀ e ∈ plan.kept s, e.hasCall = true) ∧ (plan.fragments.map (·.1)).Nodup) := by
  have hkept := reached_and_sublist (isKept s true) (isKept s false) hasCall plan.children
  have hcalls := length_reached_and (isKept s true) (isKept s false) hasCall plan.children
  have hsplit : (reached (isWritten s true) (isWritten s false) plan.children).length = _ :=
    @length_reached _ _ isFragment _ fun e _ he => isWritten_of_isFragment he
  have hlist : (plan.children.filter isFragment).flatMap
      (fun e => e :: reached (isWritten s false) (isWritten s false) e.children) =
        plan.fragments.flatMap fun m => m.2.writtenFrom s := by
    unfold fragments
    rw [List.flatMap_map]
    rfl
  have hmethods := Entries.length_flatMap_le_of_subperm
    (f := fun m : String × Element => m.2.writtenFrom s) (Entries.subperm_putAll [] plan.fragments)
  have hnodup : (plan.methods.flatMap fun m => m.2.writtenFrom s).length =
      (plan.fragments.flatMap fun m => m.2.writtenFrom s).length ↔
        (plan.fragments.map (·.1)).Nodup := by
    constructor
    · exact Entries.nodup_of_length_flatMap fun m => List.cons_ne_nil _ _
    · intro h
      rw [methods, Entries.putAll_of_nodup h]
      rfl
  have hwritten : (plan.written s).length = _ := List.length_append
  rw [List.length_cons] at hwritten
  rw [hlist] at hsplit
  have hle := hkept.length_le
  unfold kept
  rw [← hcalls, ← hnodup, hwritten]
  change (plan.methods.flatMap _).length ≤ (plan.fragments.flatMap _).length at hmethods
  change (reached (isWritten s true) (isWritten s false) plan.children).length ≤ _ at hle
  change _ ∧ (_ ↔ (reached (isWritten s true) (isWritten s false) plan.children).length = _ ∧ _)
  omega

end Element

/-! ## Counting conversions -/

namespace Generator

variable {g : Generator}

/-- Converted children are as many as the kept ones among them with all that are kept below. -/
theorem total_eq {first : Element → Bool} {s : Settings} {es : List Element} {cs : List Converted}
    (h : List.Forall₂ (fun e c => Converted.count c = if first e then
      (Element.reached (Element.isKept s false) (Element.isKept s false) e.children).length + 1
      else 0) es cs) :
    Converted.total cs = (Element.reached first (Element.isKept s false) es).length := by
  induction h with
  | nil => rw [Element.reached_nil]; rfl
  | @cons e c es cs hc hrest ih =>
    rw [Converted.total_cons, Element.reached_cons, List.length_append, ih, hc]
    cases first e <;> rfl

variable (hall : g.kinds = ElementKind.all)

include hall

/-- The kept elements below the root are counted, each with those kept below it. -/
theorem count_of_convertElement (e : Element) :
    ∀ q ≠ .root, ∀ c, g.convertElement q e = .ok c →
      c.count = if e.isKept g.settings q.keepsFragments then
        (Element.reached (Element.isKept g.settings false) (Element.isKept g.settings false)
          e.children).length + 1 else 0 := by
  induction e using Element.children_induction with | step e ih => ?_
  intro q hq c hc
  cases hkept : e.isKept g.settings q.keepsFragments with
  | false =>
    obtain rfl := convertElement_of_not_kept hall hkept hc
    rfl
  | true =>
    obtain ⟨k, call, grown, cs, hk, hconv, ho, hcs, hg, rfl⟩ := exists_of_kept hall hkept hc
    rw [Place.below_eq_inner hq] at hcs
    rw [if_pos rfl]
    refine congrArg (· + 1) (total_eq ?_)
    exact ((List.forall₂_and_left _ _).2 ⟨ih, hcs⟩).imp fun child c hc =>
      hc.1 .inner (by decide) c hc.2

/-- The kept elements of a plan that has a call are counted, and the plan. -/
theorem count_of_root {plan : Element} {c : Converted}
    (hc : g.convertElement .root plan = .ok c) (hne : c.node.isEmpty = false) :
    c.count = (plan.kept g.settings).length + 1 := by
  cases convertElement_eq_ok.1 hc with
  | unknown => cases hne
  | dropped => cases hne
  | @converted k call grown cs hk hconv ho hcs hg =>
    rw [isSome_call hg hne] at hcs
    refine congrArg (· + 1) (total_eq (hcs.imp fun child c hc => ?_))
    exact count_of_convertElement hall child (.top true) (by decide) c hc

end Generator

/-- **Converted elements.** The elements counted as converted are the plan and the kept ones below
it; the calls of the class are those of the written ones. There are as many of them exactly when all
kept elements have a call, that is, all kept module controllers refer to something, and no two
fragments become the same method. -/
theorem counted_of_generate {s : Settings} {plan : Element} {c : TestClass}
    (hc : ({ settings := s } : Generator).generate plan = .ok c) :
    ∃ converted, ({ settings := s } : Generator).convertElement .root plan = .ok converted ∧
      List.Forall₂ (IsHeadOf Surface.standard) (plan.written s)
        (converted.node.heads ++
          (converted.node.definitions Surface.standard).flatMap (·.2.heads)) ∧
      c.elementsConverted = (plan.kept s).length + 1 ∧
      (plan.written s).length ≤ c.elementsConverted ∧
      (c.elementsConverted = (plan.written s).length ↔
        (∀ e ∈ plan.kept s, e.hasCall = true) ∧ (plan.fragments.map (·.1)).Nodup) := by
  obtain ⟨converted, hconv, hne, rfl⟩ := Generator.generate_eq_ok.1 hc
  have hcount := Generator.count_of_root rfl hconv hne
  obtain ⟨hp, -⟩ := Generator.mirrorsPlan_of_convertElement rfl hconv hne
  have hheads := heads_of_mirrorsPlan (p := fun _ => true) rfl hp
  simp only [Bool.and_true, if_pos] at hheads
  refine ⟨converted, hconv, hheads, hcount, ?_⟩
  change _ ≤ converted.count ∧ (converted.count = _ ↔ _)
  rw [hcount]
  exact Element.length_written s plan

/-- A plan of two groups, one of them with a module controller that has the properties given. -/
def countedPlan (properties : List (String × Property)) : Element where
  kind := "TestPlan"
  children := [
    { kind := "TestFragmentController", name := "Log in", children := [namedSampler "form"] },
    { kind := "ThreadGroup", name := "users",
      properties := [("ThreadGroup.num_threads", .text "5")],
      children := [
        { kind := "ModuleController", properties, children := [namedSampler "order"] },
        { kind := "TransactionController", name := "buy", enabled := false,
          children := [namedSampler "basket"] }] }]

theorem counted_of_generate_countedPlan :
    let plan := countedPlan
      [("ModuleController.node_path", .list [.text "Test Plan", .text "Log in"])]
    ∃ c converted, ({} : Generator).generate plan = .ok c ∧
      ({} : Generator).convertElement .root plan = .ok converted ∧
      c.elementsConverted = 8 ∧
      (converted.node.heads ++
        (converted.node.definitions Surface.standard).flatMap (·.2.heads)).length = 8 := by
  intro plan
  have ok : (({} : Generator).generate plan).toOption.isSome = true := by decide +kernel
  have kept : (plan.kept {}).length = 7 := by decide +kernel
  have calls : ∀ e ∈ plan.kept {}, e.hasCall = true := by decide +kernel
  have methods : (plan.fragments.map (·.1)).Nodup := by decide +kernel
  cases hc : ({} : Generator).generate plan with
  | error e => rw [hc] at ok; cases ok
  | ok c =>
    obtain ⟨converted, hconv, hheads, hcount, -, hexact⟩ := counted_of_generate hc
    rw [kept] at hcount
    exact ⟨c, converted, rfl, hconv, hcount,
      hheads.length_eq.symm.trans ((hexact.2 ⟨calls, methods⟩).symm.trans hcount)⟩

/-- A module controller that refers to nothing is counted, and so is what is below it, though they
have no call. -/
theorem not_counted_countedPlan : ∃ c converted,
    ({} : Generator).generate (countedPlan []) = .ok c ∧
      ({} : Generator).convertElement .root (countedPlan []) = .ok converted ∧
      c.elementsConverted = 8 ∧
      (converted.node.heads ++
        (converted.node.definitions Surface.standard).flatMap (·.2.heads)).length = 6 := by
  have counted : (({} : Generator).generate (countedPlan [])).toOption.map (·.elementsConverted) =
      some 8 := by decide +kernel
  have written : ((countedPlan []).written {}).length = 6 := by decide +kernel
  cases hc : ({} : Generator).generate (countedPlan []) with
  | error e => rw [hc] at counted; cases counted
  | ok c =>
    rw [hc] at counted
    obtain ⟨converted, hconv, hne⟩ := Generator.exists_of_generate hc
    obtain ⟨hp, -⟩ := Generator.mirrorsPlan_of_convertElement rfl hconv hne
    have hheads := heads_of_mirrorsPlan (p := fun _ => true) rfl hp
    simp only [Bool.and_true, if_pos] at hheads
    exact ⟨c, converted, rfl, hconv, Option.some.inj counted, hheads.length_eq.symm.trans written⟩

end PlanCode
