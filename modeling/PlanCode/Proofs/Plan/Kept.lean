import PlanCode.TestClass

/-!
# The elements of a plan that are converted

Which elements of a plan are converted can be told from the plan and the
settings alone: those that some kind matches and that are not dropped as
disabled, below others of that sort. The definitions here say so without the
conversion, and say what a plan is without all the others.

* `children_induction`: what holds of an element when it holds of its children holds of all.
* `find?_all_eq_some`: one kind at most matches an element.
* `select_cons`: what is selected of some children and of all below them, child by child.
* `reached_cons`: the same when the way down to an element has to pass a test.
-/
namespace PlanCode

namespace ElementKind

theorem eq_of_isKindOf {k l : ElementKind} {e : Element} (h : k.isKindOf e = true)
    (h' : l.isKindOf e = true) : k = l := by
  have class_ : ∀ {k : ElementKind}, k.isKindOf e = true → e.kind = k.recognisedBy.1 := by
    intro k h
    unfold isKindOf at h
    rw [Bool.and_eq_true, beq_iff_eq] at h
    exact h.1
  have he : k.recognisedBy.1 = l.recognisedBy.1 := (class_ h).symm.trans (class_ h')
  cases k <;> cases l <;> first | rfl | exact absurd he (by decide)

theorem isKindOf_eq {k : ElementKind} {e : Element} (h : k.isKindOf e = true) (l : ElementKind) :
    l.isKindOf e = (k == l) := by
  by_cases hl : k = l
  · rw [← hl, h, beq_self_eq_true]
  · rw [beq_false_of_ne hl]
    exact Bool.eq_false_iff.2 fun h' => hl (eq_of_isKindOf h h')

theorem mem_all (k : ElementKind) : k ∈ all := by cases k <;> decide

theorem find?_all_eq_some {e : Element} {k : ElementKind} :
    all.find? (·.isKindOf e) = some k ↔ k.isKindOf e = true := by
  constructor
  · exact List.find?_some
  · intro h
    cases hf : all.find? (·.isKindOf e) with
    | none => exact absurd h (List.find?_eq_none.1 hf k (mem_all k))
    | some l =>
      have hl : l.isKindOf e = true := by simpa using List.find?_some hf
      rw [eq_of_isKindOf hl h]

end ElementKind

namespace Element

/-! ## Elements below an element -/

mutual

/-- The elements below an element in the order of the document, each with the elements that it is
below, from outside in. -/
def descendants : Element → List (List Element × Element)
  | ⟨_, _, _, _, _, children⟩ => descendantsOf children

def descendantsOf : List Element → List (List Element × Element)
  | [] => []
  | e :: rest =>
    ([], e) :: (descendants e).map (fun (above, d) => (e :: above, d)) ++ descendantsOf rest

end

theorem descendants_eq (e : Element) : e.descendants = descendantsOf e.children := by
  cases e
  rw [descendants]

/-- The elements that are selected by what they are below of and what they are. -/
def select (p : List Element → Element → Bool) (ds : List (List Element × Element)) :
    List Element := (ds.filter fun (above, e) => p above e).map (·.2)

theorem select_false (ds : List (List Element × Element)) :
    select (fun _ _ => false) ds = [] := by
  unfold select
  rw [List.filter_eq_nil_iff.2 (by simp), List.map_nil]

theorem select_cons (p : List Element → Element → Bool) (e : Element) (rest : List Element) :
    select p (descendantsOf (e :: rest)) = (if p [] e then [e] else []) ++
      select (fun above => p (e :: above)) (descendantsOf e.children) ++
      select p (descendantsOf rest) := by
  have below : ∀ ds : List (List Element × Element),
      select p (ds.map fun (above, d) => (e :: above, d)) =
        select (fun above => p (e :: above)) ds := by
    intro ds
    unfold select
    rw [List.filter_map, List.map_map]
    rfl
  rw [← below, descendantsOf, descendants_eq]
  unfold select
  rw [List.filter_append, List.map_append, List.filter_cons]
  cases h : p [] e <;> simp [h]

/-- Whether the first element on a way down passes one test and all others pass another one. -/
def allOn (first later : Element → Bool) : List Element → Bool
  | [] => true
  | e :: rest => first e && allOn later later rest

/-- The elements among some children that pass one test, and those below them that pass another one
with all others on the way to them. -/
def reached (first later : Element → Bool) (es : List Element) : List Element :=
  select (fun above e => allOn first later (above ++ [e])) (descendantsOf es)

theorem reached_nil (first later : Element → Bool) : reached first later [] = [] := by
  unfold reached
  rw [descendantsOf]
  rfl

theorem reached_cons (first later : Element → Bool) (e : Element) (rest : List Element) :
    reached first later (e :: rest) =
      (if first e then e :: reached later later e.children else []) ++
        reached first later rest := by
  unfold reached
  rw [select_cons]
  cases h : first e <;> simp [allOn, h, select_false]

/-- What holds of all that is below an element holds of its children and below these. -/
theorem forall_descendants {P : Element → Prop} {e : Element}
    (h : ∀ d ∈ e.descendants, P d.2) {child : Element} (hc : child ∈ e.children) :
    P child ∧ ∀ d ∈ child.descendants, P d.2 := by
  rw [descendants_eq] at h
  generalize e.children = es at h hc
  induction es with
  | nil => cases hc
  | cons first rest ih =>
    rw [descendantsOf, List.forall_mem_append, List.forall_mem_cons] at h
    obtain ⟨⟨hf, hb⟩, hr⟩ := h
    rcases List.mem_cons.1 hc with rfl | hc
    · exact ⟨hf, fun d hd => hb (child :: d.1, d.2) (List.mem_map.2 ⟨d, hd, rfl⟩)⟩
    · exact ih hr hc

mutual

/-- What holds of an element when it holds of its children holds of every element. -/
theorem children_induction {P : Element → Prop}
    (step : ∀ e : Element, (∀ child ∈ e.children, P child) → P e) : ∀ e : Element, P e
  | ⟨_, _, _, _, _, children⟩ => step _ (children_induction_list step children)

theorem children_induction_list {P : Element → Prop}
    (step : ∀ e : Element, (∀ child ∈ e.children, P child) → P e) :
    ∀ es : List Element, ∀ e ∈ es, P e
  | [] => by simp
  | e :: rest => List.forall_mem_cons.2
    ⟨children_induction step e, children_induction_list step rest⟩

end

/-! ## Kept elements -/

/-- Whether some kind matches an element. -/
def isKnown (e : Element) : Bool := ElementKind.all.any (·.isKindOf e)

def isFragment (e : Element) : Bool := ElementKind.testFragment.isKindOf e

/-- Whether an element below the root is converted once its parent is. `top` says that it is right
under the root, where fragments are never dropped. -/
def isKept (s : Settings) (top : Bool) (e : Element) : Bool :=
  e.isKnown && (e.enabled || s.commentDisabled || top && e.isFragment)

/-- The elements below the root of a plan that no kind matches and that only have kept ones above
them, in the order of the document. -/
def unknown (s : Settings) (plan : Element) : List Element :=
  select (fun above e => allOn (isKept s true) (isKept s false) above && !e.isKnown)
    plan.descendants

/-- The kept elements below the root of a plan that only have kept ones above them, in the order of
the document. -/
def kept (s : Settings) (plan : Element) : List Element :=
  reached (isKept s true) (isKept s false) plan.children

mutual

/-- An element without what is not kept below it; `root` says that it is the root. -/
def prunedAt (s : Settings) (root : Bool) : Element → Element
  | ⟨kind, name, gui, enabled, properties, children⟩ =>
    ⟨kind, name, gui, enabled, properties, keptChildren s root children⟩

/-- The kept ones of some children, without what is not kept below them. -/
def keptChildren (s : Settings) (top : Bool) : List Element → List Element
  | [] => []
  | e :: rest =>
    if e.isKept s top then prunedAt s false e :: keptChildren s top rest
    else keptChildren s top rest

end

/-- A plan without all elements that are not kept and all that is below these. -/
def pruned (s : Settings) (plan : Element) : Element := plan.prunedAt s true

theorem isKnown_of_isKindOf {e : Element} {k : ElementKind} (h : k.isKindOf e = true) :
    e.isKnown = true := List.any_eq_true.2 ⟨k, k.mem_all, h⟩

theorem isKnown_eq_false {e : Element} :
    e.isKnown = false ↔ ElementKind.all.find? (·.isKindOf e) = none := by
  rw [List.find?_eq_none, isKnown, List.any_eq_false]

theorem isFragment_eq {e : Element} {k : ElementKind} (h : k.isKindOf e = true) :
    e.isFragment = (k == .testFragment) := ElementKind.isKindOf_eq h .testFragment

end Element
end PlanCode
