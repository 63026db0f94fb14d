/-!
# Named values in order

A list of named values that keeps the order in which names were first put. A
name put again keeps its place and takes the new value.

* `find?_put`: the value put under a name is the one found.
* `find?_put_of_ne`: the values of other names are found as before.
* `map_fst_put`: putting a value adds its name at the end, or changes no name.
* `mem_of_mem_putAll`: entries come from one of the two lists.
* `mem_map_fst_putAll`: the names are those of the two lists.
* `putAll_of_nodup`: entries of names that are not there yet are added at the end.
* `nodup_of_length_putAll`: if no entry is lost, no name was put twice.
* `find?_putAll`: what was put last under a name is found, else what was there before.
* `eq_of_find?`: entries are told by the order of their names and by what is found under them.
-/
namespace PlanCode

abbrev Entries (α : Type) := List (String × α)

namespace Entries

variable {α : Type}

def put (name : String) (value : α) : Entries α → Entries α
  | [] => [(name, value)]
  | (n, v) :: rest => if n = name then (n, value) :: rest else (n, v) :: put name value rest

/-- Puts all entries of the second list, in their order. -/
def putAll (old new : Entries α) : Entries α :=
  new.foldl (fun acc (name, value) => put name value acc) old

def find? (name : String) : Entries α → Option α
  | [] => none
  | (n, v) :: rest => if n = name then some v else find? name rest

theorem find?_put (name : String) (value : α) (es : Entries α) :
    find? name (put name value es) = some value := by
  induction es with
  | nil => simp [put, find?]
  | cons e rest ih =>
    obtain ⟨n, v⟩ := e
    by_cases h : n = name <;> simp [put, find?, h, ih]

theorem find?_put_of_ne {name other : String} (h : other ≠ name) (value : α) (es : Entries α) :
    find? other (put name value es) = find? other es := by
  induction es with
  | nil => simp [put, find?, h.symm]
  | cons e rest ih =>
    obtain ⟨n, v⟩ := e
    by_cases hn : n = name
    · simp [put, find?, hn, h.symm]
    · simp [put, find?, hn, ih]

theorem mem_of_find? {name : String} {value : α} {es : Entries α}
    (h : find? name es = some value) : (name, value) ∈ es := by
  induction es with
  | nil => cases h
  | cons e rest ih =>
    obtain ⟨n, v⟩ := e
    rw [find?] at h
    split at h
    · rename_i hn
      rw [← hn, ← Option.some.inj h]
      exact List.mem_cons_self ..
    · exact List.mem_cons_of_mem _ (ih h)

theorem map_fst_put (name : String) (value : α) (es : Entries α) :
    (put name value es).map (·.1) =
      if name ∈ es.map (·.1) then es.map (·.1) else es.map (·.1) ++ [name] := by
  induction es with
  | nil => simp [put]
  | cons e rest ih =>
    obtain ⟨n, v⟩ := e
    by_cases h : n = name
    · simp [put, h]
    · have h' : ¬ name = n := fun e => h e.symm
      by_cases hm : name ∈ rest.map (·.1)
      · rw [if_pos hm] at ih
        rw [if_pos (by simp [hm])]
        simp [put, h, ih]
      · rw [if_neg hm] at ih
        rw [if_neg (by simpa [h'] using hm)]
        simp [put, h, ih]

theorem mem_of_mem_put {name : String} {value : α} {es : Entries α} {e : String × α}
    (h : e ∈ put name value es) : e ∈ es ∨ e = (name, value) := by
  induction es with
  | nil => exact Or.inr (List.mem_singleton.1 h)
  | cons d rest ih =>
    obtain ⟨n, v⟩ := d
    rw [put] at h
    split at h
    · rename_i hn
      rw [List.mem_cons, hn] at h
      exact h.elim Or.inr fun h => Or.inl (List.mem_cons_of_mem _ h)
    · rw [List.mem_cons] at h
      rcases h with rfl | h
      · exact Or.inl (List.mem_cons_self ..)
      · exact (ih h).imp (List.mem_cons_of_mem _) id

theorem mem_of_mem_putAll {old new : Entries α} {e : String × α} (h : e ∈ putAll old new) :
    e ∈ old ∨ e ∈ new := by
  unfold putAll at h
  induction new generalizing old with
  | nil => exact Or.inl h
  | cons d new ih =>
    rw [List.foldl_cons] at h
    rcases ih h with h | h
    · rcases mem_of_mem_put h with h | rfl
      · exact Or.inl h
      · exact Or.inr (List.mem_cons_self ..)
    · exact Or.inr (List.mem_cons_of_mem _ h)

theorem put_of_not_mem {name : String} {es : Entries α} (h : name ∉ es.map (·.1)) (value : α) :
    put name value es = es ++ [(name, value)] := by
  induction es with
  | nil => rfl
  | cons e rest ih =>
    obtain ⟨n, v⟩ := e
    rw [List.map_cons, List.mem_cons, not_or] at h
    rw [put, if_neg fun hn => h.1 hn.symm, ih h.2, List.cons_append]

theorem nodup_put {es : Entries α} (h : (es.map (·.1)).Nodup) (name : String) (value : α) :
    ((put name value es).map (·.1)).Nodup := by
  rw [map_fst_put]
  split
  · exact h
  · rename_i hn
    rw [List.nodup_append]
    refine ⟨h, by simp, ?_⟩
    rintro a ha b hb rfl
    rw [List.mem_singleton.1 hb] at ha
    exact hn ha

theorem putAll_cons (old : Entries α) (e : String × α) (new : Entries α) :
    putAll old (e :: new) = putAll (put e.1 e.2 old) new := rfl

theorem mem_map_fst_putAll {old new : Entries α} {name : String} :
    name ∈ (putAll old new).map (·.1) ↔ name ∈ old.map (·.1) ∨ name ∈ new.map (·.1) := by
  induction new generalizing old with
  | nil => simp [putAll]
  | cons e new ih =>
    have hput : name ∈ (put e.1 e.2 old).map (·.1) ↔ name ∈ old.map (·.1) ∨ name = e.1 := by
      rw [map_fst_put]
      split
      · rename_i he
        exact ⟨Or.inl, fun h => h.elim id fun h => h ▸ he⟩
      · rw [List.mem_append, List.mem_singleton]
    rw [putAll_cons, ih, hput, List.map_cons, List.mem_cons, or_assoc]

theorem nodup_putAll {old : Entries α} (h : (old.map (·.1)).Nodup) (new : Entries α) :
    ((putAll old new).map (·.1)).Nodup := by
  induction new generalizing old with
  | nil => exact h
  | cons e new ih =>
    rw [putAll_cons]
    exact ih (nodup_put h ..)

theorem putAll_of_nodup {old new : Entries α} (h : ((old ++ new).map (·.1)).Nodup) :
    putAll old new = old ++ new := by
  induction new generalizing old with
  | nil => exact (List.append_nil _).symm
  | cons e new ih =>
    have hn : e.1 ∉ old.map (·.1) := by
      rw [List.map_append, List.nodup_append] at h
      intro he
      exact h.2.2 _ he _ (List.mem_map_of_mem (List.mem_cons_self ..)) rfl
    rw [List.append_cons] at h
    rw [putAll_cons, put_of_not_mem hn, ih h, List.append_assoc, List.singleton_append]

theorem length_put (name : String) (value : α) (es : Entries α) :
    (put name value es).length = es.length + if name ∈ es.map (·.1) then 0 else 1 := by
  have h := congrArg List.length (map_fst_put name value es)
  rw [List.length_map] at h
  rw [h]
  split <;> simp

theorem length_putAll_le (old new : Entries α) :
    (putAll old new).length ≤ old.length + new.length := by
  induction new generalizing old with
  | nil => exact Nat.le_refl _
  | cons e new ih =>
    rw [putAll_cons, List.length_cons]
    have h := ih (put e.1 e.2 old)
    rw [length_put] at h
    split at h <;> omega

theorem nodup_of_length_putAll {old new : Entries α} (ho : (old.map (·.1)).Nodup)
    (h : (putAll old new).length = old.length + new.length) :
    ((old ++ new).map (·.1)).Nodup := by
  induction new generalizing old with
  | nil => simpa using ho
  | cons e new ih =>
    rw [putAll_cons, List.length_cons] at h
    have hle := length_putAll_le (put e.1 e.2 old) new
    have hn : e.1 ∉ old.map (·.1) := by
      intro hm
      rw [length_put, if_pos hm, h] at hle
      omega
    have hput := put_of_not_mem hn e.2
    rw [List.append_cons, ← hput]
    refine ih (nodup_put ho ..) ?_
    rw [h, hput, List.length_append, List.length_singleton]
    omega

theorem map_put {β : Type} (f : α → β) (name : String) (value : α) (es : Entries α) :
    (put name value es).map (fun (n, v) => (n, f v)) =
      put name (f value) (es.map fun (n, v) => (n, f v)) := by
  induction es with
  | nil => rfl
  | cons e rest ih =>
    obtain ⟨n, v⟩ := e
    rw [List.map_cons, put, put]
    split
    · rfl
    · rw [← ih, List.map_cons]

theorem map_putAll {β : Type} (f : α → β) (old new : Entries α) :
    (putAll old new).map (fun (n, v) => (n, f v)) =
      putAll (old.map fun (n, v) => (n, f v)) (new.map fun (n, v) => (n, f v)) := by
  induction new generalizing old with
  | nil => rfl
  | cons e new ih => rw [putAll_cons, ih, map_put, List.map_cons, putAll_cons]

theorem find?_eq_none_iff {name : String} {es : Entries α} :
    find? name es = none ↔ name ∉ es.map (·.1) := by
  induction es with
  | nil => simp [find?]
  | cons e rest ih =>
    obtain ⟨n, v⟩ := e
    rw [find?, List.map_cons, List.mem_cons, not_or]
    split
    · rename_i hn
      exact ⟨nofun, fun h => absurd hn.symm h.1⟩
    · rename_i hn
      exact ih.trans ⟨fun h => ⟨fun e => hn e.symm, h⟩, And.right⟩

/-- Where no name stands twice, the value found is the one that stands there. -/
theorem find?_eq_some_iff {es : Entries α} (hn : (es.map (·.1)).Nodup) {name : String} {value : α} :
    find? name es = some value ↔ (name, value) ∈ es := by
  refine ⟨mem_of_find?, fun h => ?_⟩
  induction es with
  | nil => cases h
  | cons e rest ih =>
    obtain ⟨n, v⟩ := e
    obtain ⟨he, hn⟩ := List.nodup_cons.1 hn
    rw [find?]
    rcases List.mem_cons.1 h with h | h
    · cases h
      exact if_pos rfl
    · rw [if_neg, ih hn h]
      rintro rfl
      exact he (List.mem_map.2 ⟨_, h, rfl⟩)

theorem find?_append (name : String) (es rest : Entries α) :
    find? name (es ++ rest) = (find? name es).or (find? name rest) := by
  induction es with
  | nil => rfl
  | cons e es ih =>
    obtain ⟨n, v⟩ := e
    rw [List.cons_append, find?, find?]
    split
    · rfl
    · exact ih

/-- The last value put under a name is found, else the one that was there before. -/
theorem find?_putAll (name : String) (old new : Entries α) :
    find? name (putAll old new) = (find? name new.reverse).or (find? name old) := by
  induction new generalizing old with
  | nil => rfl
  | cons e new ih =>
    have hput : find? name (put e.1 e.2 old) = (find? name [e]).or (find? name old) := by
      by_cases he : e.1 = name
      · subst he
        simp [find?_put, find?]
      · rw [find?_put_of_ne (Ne.symm he)]
        simp [find?, he]
    rw [putAll_cons, ih, hput, List.reverse_cons, find?_append, Option.or_assoc]

theorem find?_reverse {es : Entries α} (hn : (es.map (·.1)).Nodup) (name : String) :
    find? name es.reverse = find? name es := by
  have hr : (es.reverse.map (·.1)).Nodup := ((List.reverse_perm es).map _).nodup_iff.2 hn
  apply Option.ext
  intro value
  rw [find?_eq_some_iff hr, find?_eq_some_iff hn, List.mem_reverse]

theorem nodup_filter {es : Entries α} (hn : (es.map (·.1)).Nodup) (p : String × α → Bool) :
    ((es.filter p).map (·.1)).Nodup :=
  (List.filter_sublist.map _).nodup hn

theorem find?_filter {es : Entries α} (hn : (es.map (·.1)).Nodup) (p : α → Bool) (name : String) :
    find? name (es.filter fun e => p e.2) = (find? name es).filter p := by
  apply Option.ext
  intro value
  rw [find?_eq_some_iff (nodup_filter hn _), List.mem_filter, Option.filter_eq_some_iff,
    find?_eq_some_iff hn]

theorem prefix_map_fst_putAll (old new : Entries α) :
    old.map (·.1) <+: (putAll old new).map (·.1) := by
  induction new generalizing old with
  | nil => exact List.prefix_rfl
  | cons e new ih =>
    have hput : old.map (·.1) <+: (put e.1 e.2 old).map (·.1) := by
      rw [map_fst_put]
      split
      · exact List.prefix_rfl
      · exact List.prefix_append ..
    exact hput.trans (ih _)

/-- Names in order and what is found under them are all there is to entries. -/
theorem eq_of_find? {es es' : Entries α} (hn : (es.map (·.1)).Nodup)
    (hm : es.map (·.1) = es'.map (·.1)) (h : ∀ name, find? name es = find? name es') :
    es = es' := by
  induction es generalizing es' with
  | nil => exact (List.map_eq_nil_iff.1 hm.symm).symm
  | cons e es ih =>
    obtain ⟨e', es', rfl, he, hes⟩ := List.map_eq_cons_iff.1 hm.symm
    obtain ⟨n, v⟩ := e
    obtain ⟨n', v'⟩ := e'
    cases he
    obtain ⟨hnot, hn⟩ := List.nodup_cons.1 hn
    have hv : v = v' := by simpa [find?] using h n
    rw [hv, ih hn hes.symm fun name => ?_]
    by_cases hname : n = name
    · subst hname
      rw [find?_eq_none_iff.2 hnot, find?_eq_none_iff.2 (hes ▸ hnot)]
    · simpa [find?, hname] using h name

end Entries
end PlanCode
