import Mathlib.Data.Finset.Card
import PlanCode.Call.Draft
import PlanCode.Proofs.Surface.Assignable
import PlanCode.Proofs.Yields
import PlanCode.Surface.Reader

/-!
# The way up from a type

A search goes from a type to the one it extends, and on, until a type answers or
there is none left. Nothing in a declaration keeps the way up from leading into a
circle. No answer on the way then means that the search has no end, and with it
anything that has to resolve a call. As many steps as there are types tell one
from the other, because a way with more steps passes some type twice.

* `exists_ancestor?_eq_none`: a way up ends exactly when it leads into no circle.
* `mem_holders`, `endless_ancestry`: what a walk through as many types as there are meets.
* `searchUp_ends_iff_step`: a search ends exactly when some step up answers or is past the last.
* `lookupsEnd_iff`: lookups on a type end, all of them, exactly when no circle is on its way up.
-/
namespace PlanCode
namespace Surface

variable {s : Surface} {name : String} {t u : DslType} {i j n : Nat}

/-! ## Steps -/

/-- The type that a type extends, if it is known. -/
def parentType? (s : Surface) (t : DslType) : Option DslType := t.parent?.bind s.find?

/-- The type that is so many steps up from a name. -/
def ancestor? (s : Surface) (name : String) : Nat → Option DslType
  | 0 => s.find? name
  | n + 1 => (s.ancestor? name n).bind s.parentType?

/-- A known type names another as the one it extends. -/
def Extends (s : Surface) (lower upper : String) : Prop :=
  ∃ t, s.find? lower = some t ∧ t.parent? = some upper

/-- The way up from a type comes to one that is above itself. -/
def Circles (s : Surface) (name : String) : Prop :=
  ∃ upper, Relation.ReflTransGen s.Extends name upper ∧ Relation.TransGen s.Extends upper upper

theorem find?_ancestor? (h : s.ancestor? name n = some t) : s.find? t.name = some t := by
  obtain ⟨start, hs⟩ : ∃ start, s.find? start = some t := by
    cases n with
    | zero => exact ⟨name, h⟩
    | succ n =>
      obtain ⟨u, -, hp⟩ := Option.bind_eq_some_iff.1 h
      obtain ⟨start, -, hs⟩ := Option.bind_eq_some_iff.1 hp
      exact ⟨start, hs⟩
  rwa [name_of_find? hs]

theorem mem_types_ancestor? (h : s.ancestor? name n = some t) : t ∈ s.types :=
  List.mem_of_find?_eq_some (find?_ancestor? h)

theorem extends_ancestor? (ht : s.ancestor? name n = some t)
    (hu : s.ancestor? name (n + 1) = some u) : s.Extends t.name u.name := by
  rw [ancestor?, ht, Option.bind_some, parentType?] at hu
  obtain ⟨upper, hp, hf⟩ := Option.bind_eq_some_iff.1 hu
  exact ⟨t, find?_ancestor? ht, by rw [hp, name_of_find? hf]⟩

/-- Whoever is so many steps up has someone at each step before. -/
theorem exists_ancestor?_of_le (h : s.ancestor? name j = some u) (hij : i ≤ j) :
    ∃ t, s.ancestor? name i = some t := by
  induction j generalizing u with
  | zero => exact ⟨u, by rwa [Nat.le_zero.1 hij]⟩
  | succ j ih =>
    obtain rfl | hlt := Nat.eq_or_lt_of_le hij
    · exact ⟨u, h⟩
    · obtain ⟨t, ht, -⟩ := Option.bind_eq_some_iff.1 h
      exact ih ht (Nat.le_of_lt_succ hlt)

theorem transGen_ancestor? (ht : s.ancestor? name i = some t) (hu : s.ancestor? name j = some u)
    (hij : i < j) : Relation.TransGen s.Extends t.name u.name := by
  induction j generalizing u with
  | zero => omega
  | succ j ih =>
    obtain ⟨v, hv⟩ := exists_ancestor?_of_le hu (Nat.le_succ j)
    have hstep := extends_ancestor? hv hu
    obtain rfl | hlt := Nat.eq_or_lt_of_le (Nat.le_of_lt_succ hij)
    · rw [ht] at hv
      cases hv
      exact .single hstep
    · exact (ih hv hlt).tail hstep

theorem reflTransGen_ancestor? (h : s.ancestor? name n = some t) :
    Relation.ReflTransGen s.Extends name t.name := by
  obtain ⟨start, hs⟩ := exists_ancestor?_of_le h (Nat.zero_le n)
  obtain rfl | hpos := Nat.eq_zero_or_pos n
  · rw [name_of_find? h]
  · rw [← name_of_find? hs]
    exact (transGen_ancestor? hs h hpos).to_reflTransGen

/-- From an ancestor the way goes on as from its name. -/
theorem ancestor?_add (h : s.ancestor? name n = some t) (k : Nat) :
    s.ancestor? name (n + k) = s.ancestor? t.name k := by
  induction k with
  | zero => exact h.trans (find?_ancestor? h).symm
  | succ k ih => rw [← Nat.add_assoc, ancestor?, ancestor?, ih]

/-! ## Circles -/

/-- **Too many steps.** As many steps up as there are types pass one of them twice. -/
theorem exists_repeated (h : s.ancestor? name s.types.length = some u) :
    ∃ i j t, i < j ∧ j ≤ s.types.length ∧ s.ancestor? name i = some t ∧
      s.ancestor? name j = some t := by
  have hmaps : Set.MapsTo (s.ancestor? name) (Finset.range (s.types.length + 1))
      (s.types.toFinset.image some) := by
    intro i hi
    rw [Finset.coe_range, Set.mem_Iio] at hi
    obtain ⟨t, ht⟩ := exists_ancestor?_of_le h (Nat.le_of_lt_succ hi)
    rw [ht]
    simpa using mem_types_ancestor? ht
  have hcard : (s.types.toFinset.image some).card < (Finset.range (s.types.length + 1)).card := by
    rw [Finset.card_range]
    exact Nat.lt_succ_of_le (Finset.card_image_le.trans (List.toFinset_card_le _))
  obtain ⟨x, hx, y, hy, hne, he⟩ := Finset.exists_ne_map_eq_of_card_lt_of_maps_to hcard hmaps
  rw [Finset.mem_range] at hx hy
  obtain ⟨i, j, hij, hj, he⟩ : ∃ i j, i < j ∧ j < s.types.length + 1 ∧
      s.ancestor? name i = s.ancestor? name j := by
    rcases Nat.lt_or_gt_of_ne hne with hlt | hlt
    · exact ⟨x, y, hlt, hy, he⟩
    · exact ⟨y, x, hlt, hx, he.symm⟩
  obtain ⟨t, ht⟩ := exists_ancestor?_of_le h (Nat.le_of_lt_succ hj)
  exact ⟨i, j, t, hij, Nat.le_of_lt_succ hj, he.trans ht, ht⟩

theorem circles_of_isSome (h : (s.ancestor? name s.types.length).isSome = true) :
    s.Circles name := by
  obtain ⟨u, hu⟩ := Option.isSome_iff_exists.1 h
  obtain ⟨i, j, t, hij, -, hi, hj⟩ := exists_repeated hu
  exact ⟨t.name, reflTransGen_ancestor? hi, transGen_ancestor? hi hj hij⟩

/-- A way into a circle has a first step, after which it still leads there. -/
theorem Circles.step (h : s.Circles name) : ∃ upper, s.Extends name upper ∧ s.Circles upper := by
  obtain ⟨upper, hway, hround⟩ := h
  obtain rfl | ⟨next, hstep, hway⟩ := hway.cases_head
  · obtain ⟨next, hstep, hback⟩ := Relation.TransGen.head'_iff.1 hround
    exact ⟨next, hstep, name, hback, hround⟩
  · exact ⟨next, hstep, upper, hway, hround⟩

theorem isSome_ancestor? (h : s.Circles name) (n : Nat) :
    (s.ancestor? name n).isSome = true := by
  suffices ∃ t, s.ancestor? name n = some t ∧ s.Circles t.name by
    obtain ⟨t, ht, -⟩ := this
    rw [ht]
    rfl
  induction n with
  | zero =>
    obtain ⟨-, ⟨t, ht, -⟩, -⟩ := h.step
    exact ⟨t, ht, by rwa [name_of_find? ht]⟩
  | succ n ih =>
    obtain ⟨t, ht, hc⟩ := ih
    obtain ⟨upper, ⟨t', ht', hp⟩, hc⟩ := hc.step
    rw [find?_ancestor? ht, Option.some.injEq] at ht'
    obtain ⟨-, ⟨u, hu, -⟩, -⟩ := hc.step
    rw [ancestor?, ht, Option.bind_some, parentType?, ht', hp, Option.bind_some]
    exact ⟨u, hu, by rwa [name_of_find? hu]⟩

/-- Without a circle the way ends within as many steps as there are types. -/
theorem ancestor?_eq_none (h : ¬ s.Circles name) (hn : s.types.length ≤ n) :
    s.ancestor? name n = none := by
  rw [← Option.not_isSome_iff_eq_none]
  intro hs
  obtain ⟨u, hu⟩ := Option.isSome_iff_exists.1 hs
  obtain ⟨t, ht⟩ := exists_ancestor?_of_le hu hn
  exact h (circles_of_isSome (by rw [ht]; rfl))

theorem exists_ancestor?_eq_none : (∃ n, s.ancestor? name n = none) ↔ ¬ s.Circles name := by
  constructor
  · rintro ⟨n, hn⟩ hc
    have hs := isSome_ancestor? hc n
    rw [hn] at hs
    cases hs
  · exact fun h => ⟨_, ancestor?_eq_none h (Nat.le_refl _)⟩

/-- Every type on the way up, in circles or not, is met in fewer steps than there are types. -/
theorem exists_lt_ancestor? (h : s.ancestor? name n = some t) :
    ∃ m < s.types.length, s.ancestor? name m = some t := by
  induction n using Nat.strongRecOn with
  | _ n ih =>
    obtain hlt | hle := Nat.lt_or_ge n s.types.length
    · exact ⟨n, hlt, h⟩
    · obtain ⟨v, hv⟩ := exists_ancestor?_of_le h hle
      obtain ⟨i, j, u, hij, hj, hi, hju⟩ := exists_repeated hv
      have hshort : s.ancestor? name (i + (n - j)) = some t := by
        rw [ancestor?_add hi, ← ancestor?_add hju, Nat.add_sub_cancel' (hj.trans hle), h]
      exact ih (i + (n - j)) (by omega) hshort

/-! ## Ancestries -/

theorem ancestor?_of_unknown (h : s.find? name = none) (n : Nat) : s.ancestor? name n = none := by
  induction n with
  | zero => exact h
  | succ n ih => rw [ancestor?, ih, Option.bind_none]

theorem ancestor?_succ (h : s.find? name = some t) (n : Nat) :
    s.ancestor? name (n + 1) = t.parent?.bind (s.ancestor? · n) := by
  induction n with
  | zero =>
    rw [ancestor?, ancestor?, h]
    rfl
  | succ n ih =>
    rw [ancestor?, ih, Option.bind_assoc]
    rfl

theorem getElem?_walk (fuel : Nat) (name? : Option String) (n : Nat) :
    (s.walk fuel name?).holders[n]? =
      if n < fuel then name?.bind (s.ancestor? · n) else none := by
  induction fuel generalizing name? n with
  | zero =>
    rw [walk]
    cases name?.bind s.find? <;> rfl
  | succ fuel ih =>
    rw [walk]
    cases name? with
    | none => simp
    | some name =>
      rw [Option.bind_some, Option.bind_some]
      cases hf : s.find? name with
      | none => simp [ancestor?_of_unknown hf]
      | some t =>
        cases n with
        | zero => simp [ancestor?, hf]
        | succ n => simp [ih, ancestor?_succ hf]

theorem endless_walk (fuel : Nat) (name? : Option String) :
    (s.walk fuel name?).endless = (name?.bind (s.ancestor? · fuel)).isSome := by
  induction fuel generalizing name? with
  | zero =>
    rw [walk]
    change _ = (name?.bind s.find?).isSome
    cases name?.bind s.find? <;> rfl
  | succ fuel ih =>
    rw [walk]
    cases name? with
    | none => rfl
    | some name =>
      rw [Option.bind_some, Option.bind_some]
      cases hf : s.find? name with
      | none => simp [ancestor?_of_unknown hf]
      | some t => simp [ih, ancestor?_succ hf]

/-- The types of an ancestry are those on the way up. -/
theorem mem_holders : t ∈ (s.ancestry name).holders ↔ ∃ n, s.ancestor? name n = some t := by
  rw [List.mem_iff_getElem?]
  simp only [ancestry, getElem?_walk, Option.bind_some]
  constructor
  · rintro ⟨n, hn⟩
    split at hn
    · exact ⟨n, hn⟩
    · cases hn
  · rintro ⟨n, hn⟩
    obtain ⟨m, hm, ht⟩ := exists_lt_ancestor? hn
    exact ⟨m, by rw [if_pos hm, ht]⟩

/-- A walk through as many types as there are finds out whether the way has no end. -/
theorem endless_ancestry : (s.ancestry name).endless = true ↔ s.Circles name := by
  rw [ancestry, endless_walk, Option.bind_some]
  exact ⟨circles_of_isSome, fun h => isSome_ancestor? h _⟩

/-! ## Searches -/

variable {answer : DslType → Option Method} {type : String}

theorem searchUp_eq_some {m : Method} :
    s.searchUp type answer = .ok (some m) ↔
      (s.ancestry type).holders.findSome? answer = some m := by
  unfold searchUp
  dsimp only
  cases (s.ancestry type).holders.findSome? answer with
  | some m' => simp
  | none => cases (s.ancestry type).endless <;> simp

theorem searchUp_ends : (∃ m?, s.searchUp type answer = .ok m?) ↔
    ¬ s.Circles type ∨ ∃ t ∈ (s.ancestry type).holders, (answer t).isSome = true := by
  rw [← endless_ancestry, ← List.findSome?_isSome_iff]
  unfold searchUp
  dsimp only
  cases (s.ancestry type).holders.findSome? answer with
  | some m => exact iff_of_true ⟨_, rfl⟩ (Or.inr rfl)
  | none => cases (s.ancestry type).endless <;> simp

/-- **Searches.** A search comes to an end exactly when some number of steps up leads to a type that
answers, or past the last one. -/
theorem searchUp_ends_iff_step : (∃ m?, s.searchUp type answer = .ok m?) ↔
    ∃ n, ∀ t, s.ancestor? type n = some t → (answer t).isSome = true := by
  rw [searchUp_ends, ← exists_ancestor?_eq_none]
  constructor
  · rintro (⟨n, hn⟩ | ⟨t, ht, ha⟩)
    · exact ⟨n, by simp [hn]⟩
    · obtain ⟨n, hn⟩ := mem_holders.1 ht
      refine ⟨n, fun u hu => ?_⟩
      rw [hn] at hu
      cases hu
      exact ha
  · rintro ⟨n, hn⟩
    cases hs : s.ancestor? type n with
    | none => exact Or.inl ⟨n, hs⟩
    | some t => exact Or.inr ⟨t, mem_holders.2 ⟨n, hs⟩, hn t hs⟩

/-! ## Lookups -/

variable {κ : Type} {d : Draft κ}

theorem findMethod_ends (h : ¬ s.Circles type) (name : String) (types : List String) :
    ∃ m?, s.findMethod type name types = .ok m? := searchUp_ends.2 (Or.inl h)

/-- Resolving a chained call fails when the method is missing, but a single flag may be dropped. -/
theorem ends_resolveChained (h : ¬ s.Circles type) (name : String) (arguments : List (Argument κ)) :
    Ends (Draft.resolveChained s type name arguments)
      (fun _ => s.findMethod type name (Argument.activeTypes arguments) ≠ .ok none ∨
        ∃ a, arguments = [a] ∧ a.isBool = true)
      fun e => (∃ m, e = .missingMethod m) ∧
        s.findMethod type name (Argument.activeTypes arguments) = .ok none := by
  obtain ⟨m?, hm⟩ := findMethod_ends h name (Argument.activeTypes arguments)
  unfold Draft.resolveChained Draft.resolve
  extract_lets finish
  rw [hm]
  have hn : Ends (finish none) (fun _ => (Except.ok m? : Except Endless _) ≠ .ok none ∨
      ∃ a, arguments = [a] ∧ a.isBool = true)
      fun e => (∃ m, e = .missingMethod m) ∧ (Except.ok m? : Except Endless _) = .ok none := by
    unfold finish
    dsimp only
    rw [hm]
    cases m? with
    | some m => exact .ok (Or.inl (by simp))
    | none => exact .error ⟨⟨_, rfl⟩, rfl⟩
  split
  · rename_i a
    split
    · rename_i hb
      obtain ⟨bare?, hr⟩ := findMethod_ends h name (Argument.activeTypes ([] : List (Argument κ)))
      rw [hr]
      cases bare? with
      | some m => exact .ok (Or.inr ⟨a, rfl, hb⟩)
      | none => exact hn
    · exact hn
  · exact hn

/-- Without a circle, a call that cannot be chained is one of a missing method. -/
theorem ends_chainCall (h : ¬ s.Circles d.head.target) (name : String)
    (arguments : List (Argument κ)) :
    Ends (d.chainCall s name arguments) (fun _ => True) fun e => ∃ m, e = .missingMethod m := by
  unfold Draft.chainCall
  split
  · exact .ok trivial
  · refine ends_bind ((ends_resolveChained h name arguments).imp_error fun _ he => he.1) ?_
    exact fun _ _ => .ok trivial

/-- Without a circle, a call that takes no child is of a type without a method for children. -/
theorem ends_addChild (h : ¬ s.Circles d.head.target) (n : κ) :
    Ends (d.addChild s n) (fun _ => True) fun e => e = .noChildrenMethod d.head.target := by
  refine ends_map (P := fun _ => True) ?_ fun _ _ => trivial
  obtain ⟨m?, hm⟩ : ∃ m?, s.findChildrenMethod d.head.target = .ok m? := searchUp_ends.2 (Or.inl h)
  unfold Draft.openSlot
  rw [hm]
  split
  · exact .ok trivial
  · exact .ok trivial
  · split
    · exact .ok trivial
    · cases m? with
      | none => exact .error rfl
      | some m => exact .ok trivial

/-- All that is looked up on a type has an outcome: going up ends, and so do the searches for a
method of any name and arguments and for the one that takes children; whatever is chained to a call
of the type, or put into it, extends the call or is refused for want of a method. -/
structure LookupsEnd (s : Surface) (type : String) : Prop where
  walk : ∃ n, s.ancestor? type n = none
  method : ∀ name types, ∃ m?, s.findMethod type name types = .ok m?
  children : ∃ m?, s.findChildrenMethod type = .ok m?
  chain : ∀ {κ : Type} (d : Draft κ), d.head.target = type → ∀ name arguments,
    Ends (d.chainCall s name arguments) (fun _ => True) fun e => ∃ m, e = .missingMethod m
  child : ∀ {κ : Type} (d : Draft κ), d.head.target = type → ∀ n,
    Ends (d.addChild s n) (fun _ => True) fun e => e = .noChildrenMethod type

/-- **Lookups.** All lookups on a type end exactly when its way up leads into no circle. Each search
ends exactly when going up step by step comes to a type that answers, or past the last one. -/
theorem lookupsEnd_iff (s : Surface) (type : String) :
    (s.LookupsEnd type ↔ ¬ s.Circles type) ∧
      ∀ answer, (∃ m?, s.searchUp type answer = .ok m?) ↔
        ∃ n, ∀ t, s.ancestor? type n = some t → (answer t).isSome = true := by
  refine ⟨⟨fun h => exists_ancestor?_eq_none.1 h.walk, fun h => ?_⟩,
    fun answer => searchUp_ends_iff_step⟩
  exact {
    walk := exists_ancestor?_eq_none.2 h
    method := findMethod_ends h
    children := searchUp_ends.2 (Or.inl h)
    chain := fun d hd name arguments => ends_chainCall (by rwa [hd]) name arguments
    child := fun d hd n => hd ▸ ends_addChild (by rwa [hd]) n }

/-- A declaration of one type, which extends itself. -/
def selfExtending : Datum :=
  .map [(.text "types", .list [
    .map [(.text "name", .text "Plan"), (.text "extends", .text "Plan")]])]

/-- A declaration that is accepted, and on which nothing that takes children is ever found. -/
theorem not_lookupsEnd_selfExtending : ∃ s, ofDatum selfExtending = .ok s ∧
    (∀ n, (s.ancestor? "Plan" n).isSome = true) ∧
    (∀ name types, ¬ ∃ m?, s.findMethod "Plan" name types = .ok m?) ∧
    (¬ ∃ m?, s.findChildrenMethod "Plan" = .ok m?) ∧
    ¬ s.LookupsEnd "Plan" := by
  let plan : DslType := { name := "Plan", parent := some "Plan" }
  have hc : Circles ⟨[plan]⟩ "Plan" := ⟨"Plan", .refl, .single ⟨plan, rfl, rfl⟩⟩
  have hends : ∀ answer, answer plan = none →
      ¬ ∃ m?, searchUp ⟨[plan]⟩ "Plan" answer = .ok m? := by
    intro answer ha h
    obtain hn | ⟨t, ht, hs⟩ := searchUp_ends.1 h
    · exact hn hc
    · obtain rfl : t = plan := List.mem_singleton.1 ht
      rw [ha] at hs
      cases hs
  refine ⟨⟨[plan]⟩, by rfl, isSome_ancestor? hc, fun name types => hends _ rfl, hends _ rfl,
    fun h => ?_⟩
  exact (hends _ rfl) h.children

end Surface
end PlanCode
