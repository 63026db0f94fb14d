import Mathlib.Data.List.Basic
import Mathlib.Logic.Relation
import PlanCode.Surface.Basic

/-!
# Assignability is a preorder

Which types a value can stand for is told by four rules: its own type, `Object`,
arrays by their elements, and the types above its own. The types above are
collected round by round, and an `extends` or `implements` entry may lead back to
a type further down. Each round either finds nothing new or has gone through the
entries of one more type, so that there are enough rounds.

* `closed_growSupertypes`: nothing is missing after the last round.
* `mem_supertypes`: what is collected is what can be reached.
* `isAssignable_array`, `isAssignable_plain`: arrays, and names that are none.
* `isAssignable_trans`: the four rules together are transitive.
* `isAssignable_preorder`: the whole relation.
-/
namespace PlanCode
namespace Surface

variable {s : Surface} {lower upper : String} {names : List String}

/-! ## Ways up -/

/-- A type extends or implements another; an empty name is none. -/
def StepsUp (s : Surface) (lower upper : String) : Prop :=
  ∃ t, s.find? lower = some t ∧ (t.parent = some upper ∨ upper ∈ t.interfaces) ∧ upper ≠ ""

/-- A type is reached from another by any number of steps up. -/
def Climbs (s : Surface) : String → String → Prop := Relation.ReflTransGen s.StepsUp

/-- The names hold everything one step above them. -/
def IsClosed (s : Surface) (names : List String) : Prop :=
  ∀ lower ∈ names, ∀ upper, s.StepsUp lower upper → upper ∈ names

theorem name_of_find? {t : DslType} (h : s.find? lower = some t) : t.name = lower := by
  simpa using List.find?_some h

theorem mem_directSupertypes {t : DslType} :
    upper ∈ t.directSupertypes ↔ (t.parent = some upper ∨ upper ∈ t.interfaces) ∧ upper ≠ "" := by
  simp [DslType.directSupertypes, or_and_right]

theorem mem_next : (upper ∈ names.flatMap fun name =>
    ((s.find? name).map (·.directSupertypes)).getD []) ↔
      ∃ lower ∈ names, s.StepsUp lower upper := by
  rw [List.mem_flatMap]
  refine exists_congr fun lower => and_congr_right fun _ => ?_
  unfold StepsUp
  cases s.find? lower with
  | none => simp
  | some t => simp [mem_directSupertypes]

/-- A type that is not registered has nothing above it. -/
theorem climbs_of_unregistered (h : s.find? lower = none) :
    s.Climbs lower upper ↔ upper = lower := by
  refine ⟨fun hc => ?_, fun he => he ▸ .refl⟩
  obtain rfl | ⟨_, ⟨t, ht, -⟩, -⟩ := hc.cases_head
  · rfl
  · rw [h] at ht
    cases ht

/-! ## The rounds -/

/-- The names after one more round, if there is anything new. -/
theorem growSupertypes_succ (s : Surface) (fuel : Nat) (names : List String) :
    (s.IsClosed names ∧ s.growSupertypes (fuel + 1) names = names) ∨
      ∃ fresh, (∀ upper, upper ∈ fresh ↔
          (∃ lower ∈ names, s.StepsUp lower upper) ∧ upper ∉ names) ∧ fresh ≠ [] ∧
        s.growSupertypes (fuel + 1) names = s.growSupertypes fuel (names ++ fresh) := by
  have hmem : ∀ upper, upper ∈ ((names.flatMap fun name =>
      ((s.find? name).map (·.directSupertypes)).getD []).filter
        fun name => !names.contains name).eraseDups ↔
      (∃ lower ∈ names, s.StepsUp lower upper) ∧ upper ∉ names := by
    intro upper
    rw [List.mem_eraseDups, List.mem_filter, mem_next]
    simp
  simp only [growSupertypes]
  split
  · rename_i hf
    refine Or.inl ⟨fun lower hl upper hu => ?_, rfl⟩
    by_contra hn
    have hin := (hmem upper).2 ⟨⟨lower, hl, hu⟩, hn⟩
    rw [List.isEmpty_iff.1 hf] at hin
    cases hin
  · rename_i hf
    exact Or.inr ⟨_, hmem, by simpa using hf, rfl⟩

theorem subset_growSupertypes (fuel : Nat) (names : List String) :
    names ⊆ s.growSupertypes fuel names := by
  induction fuel generalizing names with
  | zero => exact fun _ h => h
  | succ fuel ih =>
    obtain ⟨-, he⟩ | ⟨fresh, -, -, he⟩ := growSupertypes_succ s fuel names
    · rw [he]
      exact fun _ h => h
    · rw [he]
      exact fun _ h => ih _ (List.mem_append_left _ h)

/-- Everything that is collected lies above one of the names from the start. -/
theorem climbs_of_mem_growSupertypes {fuel : Nat} (h : upper ∈ s.growSupertypes fuel names) :
    ∃ lower ∈ names, s.Climbs lower upper := by
  induction fuel generalizing names with
  | zero => exact ⟨upper, h, .refl⟩
  | succ fuel ih =>
    obtain ⟨-, he⟩ | ⟨fresh, hf, -, he⟩ := growSupertypes_succ s fuel names
    · rw [he] at h
      exact ⟨upper, h, .refl⟩
    · rw [he] at h
      obtain ⟨middle, hm, hc⟩ := ih h
      obtain hm | hm := List.mem_append.1 hm
      · exact ⟨middle, hm, hc⟩
      · obtain ⟨⟨lower, hl, hs⟩, -⟩ := (hf middle).1 hm
        exact ⟨lower, hl, hc.head hs⟩

/-- The types whose entries have not been gone through. -/
def unread (s : Surface) (done : List String) : List DslType :=
  s.types.filter fun t => !done.contains t.name

/-- A round that finds something new goes through the entries of one more type. -/
theorem length_unread_lt {done : List String} (hsub : done ⊆ names)
    (hdone : ∀ lower ∈ done, ∀ upper, s.StepsUp lower upper → upper ∈ names)
    (hl : lower ∈ names) (hs : s.StepsUp lower upper) (hu : upper ∉ names) :
    (s.unread names).length < (s.unread done).length := by
  obtain ⟨t, ht, hup⟩ := hs
  have hnew : lower ∉ done := fun hd => hu (hdone lower hd upper ⟨t, ht, hup⟩)
  have hsublist : (s.unread names).Sublist (s.unread done) := by
    refine List.monotone_filter_right _ fun u hn => ?_
    simp only [Bool.not_eq_true', List.contains_eq_mem, decide_eq_false_iff_not] at hn ⊢
    exact fun hd => hn (hsub hd)
  refine Nat.lt_of_le_of_ne hsublist.length_le fun he => ?_
  have hmem : t ∈ s.unread done := by
    refine List.mem_filter.2 ⟨List.mem_of_find?_eq_some ht, ?_⟩
    simpa [name_of_find? ht] using hnew
  rw [← hsublist.eq_of_length he] at hmem
  exact absurd (List.mem_filter.1 hmem).2 (by simpa [name_of_find? ht] using hl)

/-- **Rounds.** As many rounds as there are types still to be gone through leave nothing out, also
where the entries run in circles. -/
theorem closed_growSupertypes {fuel : Nat} {done : List String} (hsub : done ⊆ names)
    (hdone : ∀ lower ∈ done, ∀ upper, s.StepsUp lower upper → upper ∈ names)
    (hfuel : (s.unread done).length ≤ fuel) : s.IsClosed (s.growSupertypes fuel names) := by
  induction fuel generalizing names done with
  | zero =>
    intro lower hl upper hs
    by_contra hu
    exact absurd (length_unread_lt hsub hdone hl hs hu) (by omega)
  | succ fuel ih =>
    obtain ⟨hc, he⟩ | ⟨fresh, hf, hne, he⟩ := growSupertypes_succ s fuel names
    · rw [he]
      exact hc
    · rw [he]
      obtain ⟨upper, hfresh⟩ := List.exists_mem_of_ne_nil fresh hne
      obtain ⟨⟨lower, hl, hs⟩, hu⟩ := (hf upper).1 hfresh
      refine ih (List.subset_append_left names fresh) (fun lower hl upper hs => ?_)
        (Nat.le_of_lt_succ (Nat.lt_of_lt_of_le (length_unread_lt hsub hdone hl hs hu) hfuel))
      by_cases hu : upper ∈ names
      · exact List.mem_append_left _ hu
      · exact List.mem_append_right _ ((hf upper).2 ⟨⟨lower, hl, hs⟩, hu⟩)

/-- **Supertypes.** They are the types that are reached by steps up. -/
theorem mem_supertypes : upper ∈ s.supertypes lower ↔ s.Climbs lower upper := by
  constructor
  · intro h
    obtain ⟨start, hstart, hc⟩ := climbs_of_mem_growSupertypes h
    rwa [List.mem_singleton.1 hstart] at hc
  · intro hc
    have hclosed : s.IsClosed (s.supertypes lower) :=
      closed_growSupertypes (List.nil_subset _) (by simp) (List.length_filter_le _ _)
    induction hc with
    | refl => exact subset_growSupertypes _ _ (List.mem_singleton_self _)
    | tail _ hs ih => exact hclosed _ ih _ hs

/-! ## Array types -/

/-- The name of the array type of some elements. -/
def arrayOf (name : String) : String := name ++ "[]"

/-- A name that is not that of an array type. -/
def IsPlain (name : String) : Prop := ∀ element, name ≠ arrayOf element

theorem elementType?_eq_some {name element : String} :
    elementType? name = some element ↔ name = arrayOf element := by
  have hback : (arrayOf element).toList.reverse = ']' :: '[' :: element.toList.reverse := by
    simp [arrayOf]
  constructor
  · intro h
    unfold elementType? at h
    split at h
    · rename_i rest hr
      cases h
      have hr := congrArg List.reverse hr
      simp only [List.reverse_reverse, List.reverse_cons, List.append_assoc] at hr
      rw [← String.toList_inj, hr]
      simp [arrayOf]
    · cases h
  · rintro rfl
    simp only [elementType?, hback, List.reverse_reverse, String.ofList_toList]

theorem elementType?_eq_none {name : String} : elementType? name = none ↔ IsPlain name := by
  simp only [IsPlain, ne_eq, ← elementType?_eq_some]
  cases elementType? name <;> simp

theorem arrayOf_injective : Function.Injective arrayOf := by
  intro a b h
  have ha := elementType?_eq_some.2 (rfl : arrayOf a = arrayOf a)
  rw [h, elementType?_eq_some.2 rfl] at ha
  exact (Option.some.inj ha).symm

theorem length_arrayOf (name : String) : (arrayOf name).length = name.length + 2 := by
  rw [arrayOf, String.length_append]
  rfl

theorem isPlain_objectType : IsPlain objectType := elementType?_eq_none.1 (by decide)

theorem isPlain_of_mem_primitiveTypes {name : String} (h : name ∈ primitiveTypes) :
    IsPlain name := by
  refine elementType?_eq_none.1 ?_
  revert name
  decide

/-- Every name is plain, or an array of some depth over one that is. -/
theorem name_cases {motive : String → Prop} (plain : ∀ name, IsPlain name → motive name)
    (array : ∀ element, motive element → motive (arrayOf element)) (name : String) :
    motive name := by
  induction hn : name.length using Nat.strongRecOn generalizing name with
  | _ n ih =>
    cases he : elementType? name with
    | none => exact plain name (elementType?_eq_none.1 he)
    | some element =>
      obtain rfl := elementType?_eq_some.1 he
      exact array element (ih _ (by rw [← hn, length_arrayOf]; omega) element rfl)

/-! ## The rules -/

/-- A formal type has fewer brackets than characters, so any fuel above its length will do. -/
theorem isAssignableUpTo_eq {fuel fuel' : Nat} {formal actual : String}
    (h : formal.length < fuel) (h' : formal.length < fuel') :
    s.isAssignableUpTo fuel formal actual = s.isAssignableUpTo fuel' formal actual := by
  induction fuel generalizing fuel' formal actual with
  | zero => omega
  | succ fuel ih =>
    obtain ⟨fuel', rfl⟩ : ∃ k, fuel' = k + 1 := ⟨fuel' - 1, by omega⟩
    simp only [isAssignableUpTo]
    cases hf : elementType? formal with
    | none => cases elementType? actual <;> rfl
    | some f =>
      obtain rfl := elementType?_eq_some.1 hf
      rw [length_arrayOf] at h h'
      cases elementType? actual with
      | none => rfl
      | some a => simp only [ih (by omega) (by omega : f.length < fuel')]

theorem isAssignable_refl (s : Surface) (name : String) : s.isAssignable name name = true := by
  simp [isAssignable, isAssignableUpTo]

/-- Everything but primitive values is an `Object`. -/
theorem isAssignable_object {actual : String} :
    s.isAssignable objectType actual = true ↔ actual ∉ primitiveTypes := by
  unfold isAssignable isAssignableUpTo
  split
  · rename_i h
    subst h
    decide
  · simp

/-- Arrays follow their elements. -/
theorem isAssignable_array {formal actual : String} :
    s.isAssignable (arrayOf formal) (arrayOf actual) = s.isAssignable formal actual := by
  by_cases he : formal = actual
  · rw [he, isAssignable_refl, isAssignable_refl]
  · rw [isAssignable, isAssignableUpTo, if_neg (mt (arrayOf_injective ·) he),
      if_neg (isPlain_objectType formal ·.symm), elementType?_eq_some.2 rfl,
      elementType?_eq_some.2 rfl]
    exact isAssignableUpTo_eq (by rw [length_arrayOf]; omega) (by omega)

/-- A name that is not an array is given where its type or one above it is expected. -/
theorem isAssignable_plain {formal actual : String} (hf : IsPlain formal) (ha : IsPlain actual)
    (ho : formal ≠ objectType) :
    s.isAssignable formal actual = true ↔ s.Climbs actual formal := by
  rw [← mem_supertypes, isAssignable, isAssignableUpTo, if_neg ho, elementType?_eq_none.2 hf,
    elementType?_eq_none.2 ha]
  split
  · rename_i he
    rw [he]
    exact iff_of_true rfl (mem_supertypes.2 .refl)
  · simp

theorem not_isAssignable_array_plain {formal actual : String} (ha : IsPlain actual) :
    s.isAssignable (arrayOf formal) actual ≠ true := by
  rw [isAssignable, isAssignableUpTo, if_neg (ha formal ·.symm),
    if_neg (isPlain_objectType formal ·.symm), elementType?_eq_some.2 rfl,
    elementType?_eq_none.2 ha]
  simp

theorem not_isAssignable_plain_array {formal actual : String} (hf : IsPlain formal)
    (ho : formal ≠ objectType) : s.isAssignable formal (arrayOf actual) ≠ true := by
  rw [isAssignable, isAssignableUpTo, if_neg (hf actual), if_neg ho, elementType?_eq_none.2 hf,
    elementType?_eq_some.2 rfl]
  simp

/-! ## The rules together -/

/-- The names with rules of their own are not registered. -/
structure KeepsBuiltIn (s : Surface) : Prop where
  object : s.find? objectType = none
  primitive : ∀ name ∈ primitiveTypes, s.find? name = none

/-- Only `Object` takes an `Object`. -/
theorem eq_objectType_of_isAssignable (h : s.KeepsBuiltIn) {formal : String}
    (ha : s.isAssignable formal objectType = true) : formal = objectType := by
  by_contra ho
  induction formal using name_cases with
  | plain formal hf =>
    rw [isAssignable_plain hf isPlain_objectType ho, climbs_of_unregistered h.object] at ha
    exact ho ha
  | array formal _ => exact not_isAssignable_array_plain isPlain_objectType ha

/-- A primitive value is given as one of its own type only. -/
theorem eq_of_isAssignable_primitive (h : s.KeepsBuiltIn) {formal actual : String}
    (hp : actual ∈ primitiveTypes) (ha : s.isAssignable formal actual = true) :
    formal = actual := by
  have hplain := isPlain_of_mem_primitiveTypes hp
  induction formal using name_cases with
  | plain formal hf =>
    by_cases ho : formal = objectType
    · rw [ho, isAssignable_object] at ha
      exact absurd hp ha
    · rwa [isAssignable_plain hf hplain ho, climbs_of_unregistered (h.primitive _ hp)] at ha
  | array formal _ => exact absurd ha (not_isAssignable_array_plain hplain)

/-- **Transitivity.** The rule for `Object` is met by what keeps primitive values to themselves, the
one for arrays by those of their elements, and the steps up by more of them. -/
theorem isAssignable_trans (h : s.KeepsBuiltIn) {a b c : String} (hab : s.isAssignable a b = true)
    (hbc : s.isAssignable b c = true) : s.isAssignable a c = true := by
  -- The rule that holds for `a` and `b` settles the one for `b` and `c`; only arrays go deeper.
  induction a using name_cases generalizing b c with
  | plain a ha =>
    by_cases hao : a = objectType
    · rw [hao, isAssignable_object] at hab ⊢
      intro hc
      rw [eq_of_isAssignable_primitive h hc hbc] at hab
      exact hab hc
    have hbo : b ≠ objectType := by
      rintro rfl
      exact hao (eq_objectType_of_isAssignable h hab)
    induction b using name_cases with
    | array b _ => exact absurd hab (not_isAssignable_plain_array ha hao)
    | plain b hb =>
      induction c using name_cases with
      | array c _ => exact absurd hbc (not_isAssignable_plain_array hb hbo)
      | plain c hc =>
        rw [isAssignable_plain ha hb hao] at hab
        rw [isAssignable_plain hb hc hbo] at hbc
        exact (isAssignable_plain ha hc hao).2 (hbc.trans hab)
  | array a ih =>
    induction b using name_cases with
    | plain b hb => exact absurd hab (not_isAssignable_array_plain hb)
    | array b _ =>
      induction c using name_cases with
      | plain c hc => exact absurd hbc (not_isAssignable_array_plain hc)
      | array c _ =>
        rw [isAssignable_array] at hab hbc ⊢
        exact ih hab hbc

/-- **Assignability.** As long as `Object` and the primitive types are not registered themselves,
assignability is reflexive and transitive over all names; arrays compare by their elements, and
other names by the steps up from one to the other, in circles or not. -/
theorem isAssignable_preorder (h : s.KeepsBuiltIn) :
    (∀ name, s.isAssignable name name = true) ∧
      (∀ a b c, s.isAssignable a b = true → s.isAssignable b c = true →
        s.isAssignable a c = true) ∧
      (∀ formal actual, IsPlain formal → IsPlain actual → formal ≠ objectType →
        (s.isAssignable formal actual = true ↔ s.Climbs actual formal)) ∧
      ∀ formal actual,
        s.isAssignable (arrayOf formal) (arrayOf actual) = s.isAssignable formal actual :=
  ⟨isAssignable_refl s, fun _ _ _ => isAssignable_trans h, fun _ _ => isAssignable_plain,
    fun _ _ => isAssignable_array⟩

/-- Two types that implement one another, and an interface above one of them. -/
def circularSurface : Surface where
  types := [{ name := "Plan", parent := some "Group", interfaces := ["Child"] },
    { name := "Group", interfaces := ["Plan"] }]

theorem isAssignable_preorder_circularSurface : circularSurface.KeepsBuiltIn ∧
    circularSurface.isAssignable "Child[]" "Plan[]" = true ∧
    circularSurface.isAssignable "Child[]" "Group[]" = true := by
  have hkeeps : circularSurface.KeepsBuiltIn := ⟨by decide, by decide⟩
  obtain ⟨-, trans, climbs, array⟩ := isAssignable_preorder hkeeps
  have plain : ∀ name ∈ ["Child", "Plan", "Group"], IsPlain name := fun name hn =>
    elementType?_eq_none.1 (by revert name; decide)
  have hchild : circularSurface.isAssignable "Child[]" "Plan[]" = true :=
    (array "Child" "Plan").trans ((climbs "Child" "Plan" (plain _ (by simp)) (plain _ (by simp))
      (by decide)).2 (.single ⟨_, rfl, by decide⟩))
  have hgroup : circularSurface.isAssignable "Plan[]" "Group[]" = true :=
    (array "Plan" "Group").trans ((climbs "Plan" "Group" (plain _ (by simp)) (plain _ (by simp))
      (by decide)).2 (.single ⟨_, rfl, by decide⟩))
  exact ⟨hkeeps, hchild, trans _ _ _ hchild hgroup⟩

end Surface
end PlanCode
