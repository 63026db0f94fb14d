import Mathlib.Data.List.Forall2
import PlanCode.Proofs.Surface.Ancestry

/-!
# Resolution respects substitution

A chained call is resolved to the first method that applies, from its type
upwards. A value whose type can stand for another one may be given in its place,
and a call of a type further down may be chained to in place of one further up.
What was resolved before is resolved then, if not always to the same method: a
type in between may declare one that applies, too, and it is the nearest that
counts.

* `applies_of_firstAccepting?`, `not_applies_of_firstAccepting?`: what a type answers.
* `findMethod_eq_some`: the nearest type with a method that applies is the one that answers.
* `owner_of_ofDatum`: a method that was read belongs to the type that it was read with.
* `findMethod_substitutes`: the outcome for other arguments, on a type further down.
-/
namespace PlanCode
namespace Surface

variable {s : Surface} {holder : DslType} {type name : String} {types types' : List String}
  {m : Method}

/-! ## Methods that apply -/

/-- Values of the one types can be given, position by position, where the others are expected. -/
def Takes (s : Surface) : List String → List String → Prop :=
  List.Forall₂ fun formal actual => s.isAssignable formal actual = true

/-- A method of a type that can be chained under a name and takes arguments of these types. -/
structure Applies (s : Surface) (holder : DslType) (name : String) (types : List String)
    (m : Method) : Prop where
  declared : m ∈ holder.methods
  named : m.name = name
  isPublic : m.isPublic = true
  notStatic : m.isStatic = false
  /-- What it returns is something that its type can stand for. -/
  returned : ∀ result, m.returns = some result → s.isAssignable result holder.name = true
  takes : s.Takes m.parameters types

theorem accepts_iff : s.accepts m types = true ↔ s.Takes m.parameters types := by
  simp [accepts, Takes, List.forall₂_iff_zip]

theorem applies_iff :
    s.Applies holder name types m ↔ m ∈ s.chainable holder name ∧ s.accepts m types = true := by
  rw [accepts_iff, chainable, List.mem_filter]
  constructor
  · intro h
    refine ⟨⟨h.declared, ?_⟩, h.takes⟩
    have hr := h.returned
    cases hm : m.returns with
    | none => simp [h.named, h.isPublic, h.notStatic]
    | some result => simp [h.named, h.isPublic, h.notStatic, hr result hm]
  · rintro ⟨⟨hd, hc⟩, ht⟩
    simp only [Bool.and_eq_true, beq_iff_eq, Bool.not_eq_true'] at hc
    refine ⟨hd, hc.1.1.1, hc.1.1.2, hc.1.2, fun result hm => ?_, ht⟩
    have hr := hc.2
    rwa [hm] at hr

theorem applies_of_firstAccepting?
    (h : s.firstAccepting? (s.chainable holder name) types = some m) :
    s.Applies holder name types m := by
  have ha : s.accepts m types = true := by simpa using List.find?_some h
  exact applies_iff.2 ⟨List.mem_of_find?_eq_some h, ha⟩

theorem not_applies_of_firstAccepting?
    (h : s.firstAccepting? (s.chainable holder name) types = none) (m : Method) :
    ¬ s.Applies holder name types m := fun ha =>
  List.find?_eq_none.1 h m (applies_iff.1 ha).1 (applies_iff.1 ha).2

/-- **Resolution.** The nearest type with a method that applies answers, with the first of them. -/
theorem findMethod_eq_some (h : s.findMethod type name types = .ok (some m)) :
    ∃ before holder after, (s.ancestry type).holders = before ++ holder :: after ∧
      s.Applies holder name types m ∧
        ∀ nearer ∈ before, ∀ m', ¬ s.Applies nearer name types m' := by
  obtain ⟨before, holder, after, he, hm, hn⟩ := List.findSome?_eq_some_iff.1 (searchUp_eq_some.1 h)
  exact ⟨before, holder, after, he, applies_of_firstAccepting? hm,
    fun nearer hb => not_applies_of_firstAccepting? (hn nearer hb)⟩

/-- A method that applies on the way up is enough for a call to be resolved, be the way endless or
not. -/
theorem findMethod_of_applies (hh : holder ∈ (s.ancestry type).holders)
    (ha : s.Applies holder name types m) :
    ∃ m', s.findMethod type name types = .ok (some m') := by
  cases hf : (s.ancestry type).holders.findSome? fun holder =>
      s.firstAccepting? (s.chainable holder name) types with
  | none =>
    exact absurd ha (not_applies_of_firstAccepting? (List.findSome?_eq_none_iff.1 hf holder hh) m)
  | some m' => exact ⟨m', searchUp_eq_some.2 hf⟩

/-! ## Ways up as steps -/

theorem climbs_of_mem_holders (h : holder ∈ (s.ancestry type).holders) :
    s.Climbs type holder.name := by
  obtain ⟨n, hn⟩ := mem_holders.1 h
  refine Relation.ReflTransGen.mono ?_ _ _ (reflTransGen_ancestor? hn)
  rintro lower upper ⟨t, ht, hp⟩
  obtain ⟨hp, hne⟩ := Option.filter_eq_some_iff.1 hp
  exact ⟨t, ht, Or.inl hp, by simpa using hne⟩

/-- The ancestry of a type holds the ancestries of the types in it. -/
theorem mem_holders_trans {t : DslType} (ht : t ∈ (s.ancestry type).holders)
    (h : holder ∈ (s.ancestry t.name).holders) : holder ∈ (s.ancestry type).holders := by
  obtain ⟨n, hn⟩ := mem_holders.1 ht
  obtain ⟨k, hk⟩ := mem_holders.1 h
  exact mem_holders.2 ⟨n + k, by rw [ancestor?_add hn, hk]⟩

/-! ## Declarations -/

theorem yields_readMethod (owner : String) (entry : Datum) :
    Yields (readMethod owner entry) fun m => m.owner = owner := by
  unfold readMethod
  refine yields_bind_of_forall fun fields => ?_
  refine yields_bind_of_forall fun parameters => ?_
  exact yields_ok rfl

theorem yields_readType? (entry : Datum) :
    Yields (readType? entry) fun t? => ∀ t ∈ t?, ∀ m ∈ t.methods, m.owner = t.name := by
  unfold readType?
  refine yields_bind_of_forall fun fields => ?_
  refine yields_bind_of_forall fun entries => ?_
  refine yields_bind (yields_mapM fun e _ => yields_readMethod _ e) fun methods hm => ?_
  refine yields_bind_of_forall fun interfaces => ?_
  cases ((Datum.field? "name" fields).getD .null).isKey with
  | false => exact yields_error _
  | true =>
    cases ((Datum.field? "name" fields).getD .null).isText with
    | false => exact yields_none
    | true => exact yields_some hm

theorem mem_types_register {t u : DslType} (h : u ∈ (s.register t).types) :
    u = t ∨ u ∈ s.types := by
  unfold register at h
  split at h
  · obtain ⟨v, hv, rfl⟩ := List.mem_map.1 h
    split
    · exact Or.inl rfl
    · exact Or.inr hv
  · rw [List.mem_append, List.mem_singleton] at h
    exact h.symm

theorem mem_types_ofTypes {ts : List DslType} {u : DslType} (h : u ∈ (ofTypes ts).types) :
    u ∈ ts := by
  induction ts using List.reverseRecOn with
  | nil => cases h
  | append_singleton ts t ih =>
    rw [ofTypes, List.foldl_append] at h
    obtain rfl | h := mem_types_register h
    · exact List.mem_append_right _ (List.mem_singleton_self _)
    · exact List.mem_append_left _ (ih h)

/-- A method belongs to the type that declares it. -/
theorem owner_of_ofDatum {d : Datum} (h : ofDatum d = .ok s) :
    ∀ t ∈ s.types, ∀ m ∈ t.methods, m.owner = t.name := by
  unfold ofDatum at h
  split at h
  · split at h
    · obtain ⟨read, hr, rfl⟩ := map_eq_ok.1 h
      intro t ht
      have hread := yields_mapM (fun e _ => yields_readType? e) read hr
      obtain ⟨t?, ht?, rfl⟩ := List.mem_filterMap.1 (mem_types_ofTypes ht)
      exact hread _ ht? t rfl
    · cases h
  · cases h

/-! ## Substitution -/

theorem Takes.trans (hb : s.KeepsBuiltIn) {formals actuals actuals' : List String}
    (h : s.Takes formals actuals) (h' : s.Takes actuals actuals') : s.Takes formals actuals' := by
  unfold Takes at h
  induction h generalizing actuals' with
  | nil => exact h'
  | cons ha _ ih =>
    cases h' with
    | cons ha' h' => exact .cons (isAssignable_trans hb ha ha') (ih h')

theorem Applies.specialize (hb : s.KeepsBuiltIn) (h : s.Applies holder name types m)
    (ht : s.Takes types types') : s.Applies holder name types' m :=
  { h with takes := h.takes.trans hb ht }

variable {κ : Type}

/-- An argument that can be given in place of another: both are ignored, or its type can stand for
that of the other. -/
def Specializes (s : Surface) (general special : Argument κ) : Prop :=
  special.isIgnored = general.isIgnored ∧
    (general.isIgnored = false → s.isAssignable general.type special.type = true)

theorem takes_activeTypes {arguments arguments' : List (Argument κ)}
    (h : List.Forall₂ s.Specializes arguments arguments') :
    s.Takes (Argument.activeTypes arguments) (Argument.activeTypes arguments') := by
  induction h with
  | nil => exact .nil
  | @cons a a' _ _ ha _ ih =>
    unfold Argument.activeTypes Argument.active at ih ⊢
    rw [List.filter_cons, List.filter_cons, ha.1]
    cases hi : a.isIgnored with
    | true => exact ih
    | false => exact .cons (ha.2 hi) ih

/-- **Substitution.** A call that is resolved gets a public method of its name that is not static,
that takes its arguments, and that belongs to a type which the type of the call can stand for. On
any type that has this one in its ancestry, and with arguments that specialize the given ones, a
call is resolved as well: by the nearest type in that ancestry with a method that applies. -/
theorem findMethod_substitutes {d : Datum} (hs : ofDatum d = .ok s) (hb : s.KeepsBuiltIn)
    (hp : ∀ t ∈ s.types, IsPlain t.name) {arguments : List (Argument κ)}
    (hm : s.findMethod type name (Argument.activeTypes arguments) = .ok (some m)) :
    (∃ holder, s.find? m.owner = some holder ∧ s.isAssignable m.owner type = true ∧
      s.Applies holder name (Argument.activeTypes arguments) m) ∧
    ∀ subtype, type ∈ (s.ancestry subtype).holders.map (·.name) →
      ∀ arguments' : List (Argument κ), List.Forall₂ s.Specializes arguments arguments' →
        ∃ before holder after m', (s.ancestry subtype).holders = before ++ holder :: after ∧
          s.findMethod subtype name (Argument.activeTypes arguments') = .ok (some m') ∧
          m'.owner = holder.name ∧
          s.Applies holder name (Argument.activeTypes arguments') m' ∧
          ∀ nearer ∈ before, ∀ m'',
            ¬ s.Applies nearer name (Argument.activeTypes arguments') m'' := by
  obtain ⟨before, holder, after, he, ha, -⟩ := findMethod_eq_some hm
  have hh : holder ∈ (s.ancestry type).holders := by simp [he]
  constructor
  · obtain ⟨n, hn⟩ := mem_holders.1 hh
    have ho : m.owner = holder.name :=
      owner_of_ofDatum hs holder (mem_types_ancestor? hn) m ha.declared
    have hf := find?_ancestor? hn
    obtain ⟨t, ht⟩ := exists_ancestor?_of_le hn (Nat.zero_le n)
    have hplain : IsPlain type := name_of_find? ht ▸ hp t (mem_types_ancestor? ht)
    have hobject : holder.name ≠ objectType := by
      intro hc
      rw [hc, hb.object] at hf
      cases hf
    rw [ho]
    exact ⟨holder, hf, (isAssignable_plain (hp holder (mem_types_ancestor? hn)) hplain hobject).2
      (climbs_of_mem_holders hh), ha⟩
  · intro subtype hsub arguments' hargs
    obtain ⟨t, ht, rfl⟩ := List.mem_map.1 hsub
    have ha' := ha.specialize hb (takes_activeTypes hargs)
    obtain ⟨m', hm'⟩ := findMethod_of_applies (mem_holders_trans ht hh) ha'
    obtain ⟨before, holder', after, he, ha', hnearer⟩ := findMethod_eq_some hm'
    obtain ⟨n, hn⟩ := mem_holders.1 (show holder' ∈ (s.ancestry subtype).holders by simp [he])
    exact ⟨before, holder', after, m', he, hm',
      owner_of_ofDatum hs holder' (mem_types_ancestor? hn) m' ha'.declared, ha', hnearer⟩

/-- Two groups, of which the one further down takes samplers in a method of its own. -/
def overloadedDeclaration : Datum :=
  .map [(.text "types", .list [
    .map [(.text "name", .text "Child")],
    .map [(.text "name", .text "Sampler"), (.text "implements", .list [.text "Child"])],
    .map [(.text "name", .text "Group"), (.text "methods", .list [
      .map [(.text "name", .text "add"), (.text "params", .list [.text "Child"])]])],
    .map [(.text "name", .text "Loop"), (.text "extends", .text "Group"),
      (.text "methods", .list [
        .map [(.text "name", .text "add"), (.text "params", .list [.text "Sampler"]),
          (.text "returns", .text "Group")]])]])]

def overloadedSurface : Surface where
  types := [
    { name := "Child" },
    { name := "Sampler", interfaces := ["Child"] },
    { name := "Group", methods := [{ name := "add", owner := "Group", parameters := ["Child"] }] },
    { name := "Loop", parent := some "Group", methods := [
      { name := "add", owner := "Loop", parameters := ["Sampler"], returns := some "Group" }] }]

/-- An argument of a type, behind one that is ignored. -/
def childArguments (type : String) : List (Argument Node) :=
  [.literal (.string (some "add") (some "add") true), .bare type none]

/-- What is added to a group is added to a loop by the loop's own method. -/
theorem findMethod_substitutes_overloadedSurface :
    ofDatum overloadedDeclaration = .ok overloadedSurface ∧ overloadedSurface.KeepsBuiltIn ∧
      (∀ t ∈ overloadedSurface.types, IsPlain t.name) ∧
      ∃ m m', overloadedSurface.findMethod "Group" "add"
          (Argument.activeTypes (childArguments "Child")) = .ok (some m) ∧ m.owner = "Group" ∧
        overloadedSurface.findMethod "Loop" "add"
          (Argument.activeTypes (childArguments "Sampler")) = .ok (some m') ∧
        m'.owner = "Loop" := by
  have hread : ofDatum overloadedDeclaration = .ok overloadedSurface := by rfl
  have hbuilt : overloadedSurface.KeepsBuiltIn := ⟨by decide, by decide⟩
  have hplain : ∀ t ∈ overloadedSurface.types, IsPlain t.name := by
    intro t ht
    refine elementType?_eq_none.1 ?_
    revert t
    decide
  have hgroup : overloadedSurface.findMethod "Group" "add"
      (Argument.activeTypes (childArguments "Child")) =
        .ok (some { name := "add", owner := "Group", parameters := ["Child"] }) := by rfl
  have hargs : List.Forall₂ overloadedSurface.Specializes (childArguments "Child")
      (childArguments "Sampler") :=
    .cons ⟨rfl, fun h => by cases h⟩ (.cons ⟨rfl, fun _ => by decide⟩ .nil)
  obtain ⟨before, holder, after, m', he, hm', ho, ha, -⟩ :=
    (findMethod_substitutes hread hbuilt hplain hgroup).2 "Loop" (by decide) _ hargs
  refine ⟨hread, hbuilt, hplain, _, m', hgroup, rfl, hm', ?_⟩
  have hfirst : (overloadedSurface.findMethod "Loop" "add"
      (Argument.activeTypes (childArguments "Sampler"))).toOption.join.map (·.owner) =
        some "Loop" := by rfl
  rw [hm'] at hfirst
  exact Option.some.inj hfirst

end Surface
end PlanCode
