import PlanCode.Entries
import PlanCode.Proofs.Settings.Reading

/-!
# Overrides on top of overrides

Overrides under names, some of them null, on top of other overrides. The values
that are in force and the refusals come out as if all overrides had been given
at once, whatever their order.

* `ofEntries_congr`: entries that mention every setting are read alike when the same values are
  found in them. The order of further names does not matter, as they are reported in their own.
* `entries_ofEntries`: accepted settings hold the values of the entries, others their defaults.
* `ofEntries_toEntries`: settings with legal names are read back from their own entries.
* `withOverrides_withOverrides`: overrides of overridden settings are overrides of the first ones.
-/
namespace PlanCode.Settings

open PlanCode.Text

/-! ## Entries under names -/

def asData (es : Entries Datum) : List (Datum × Datum) :=
  es.map fun (name, value) => (.text name, value)

def entries (s : Settings) : Entries Datum := [
  (classNameKey, .text s.className),
  (testMethodNameKey, .text s.testMethodName),
  (includeRunKey, .bool s.includeRun),
  (commentDisabledKey, .bool s.commentDisabled)]

theorem asData_entries (s : Settings) : asData s.entries = s.toEntries := rfl

theorem map_fst_entries (s : Settings) : s.entries.map (·.1) = knownKeys := rfl

def replaces : Datum → Bool
  | .null => false
  | _ => true

/-- The overrides that replace something. -/
def given (overrides : Entries Datum) : Entries Datum := overrides.filter fun e => replaces e.2

theorem foldl_put_asData (old new : Entries Datum) :
    (asData new).foldl (fun acc e => Datum.put e.1 e.2 acc) (asData old) =
      asData (old.putAll new) := by
  induction new generalizing old with
  | nil => rfl
  | cons e new ih =>
    rw [Entries.putAll_cons, ← ih]
    exact congrArg (List.foldl _ · (asData new)) (Datum.put_text e.1 e.2 old)

theorem withOverrides_asData (s : Settings) (overrides : Entries Datum) :
    s.withOverrides (asData overrides) =
      ofEntries (asData (s.entries.putAll (given overrides))) "overrides" := by
  have hgiven : (asData overrides).filter (fun e => replaces e.2) = asData (given overrides) := by
    rw [asData, asData, given, List.filter_map]
    rfl
  rw [← foldl_put_asData, ← hgiven, asData_entries]
  rfl

/-! ## Reading entries -/

theorem entries_readEntry {source : String} {s s' : Settings} {name : String} {value : Datum}
    (hk : name ∈ knownKeys) (h : readEntry source s (.text name, value) = .ok s') :
    s'.entries = s.entries.put name value := by
  obtain hname | hflag : name ∈ nameKeys ∨ name ∈ [includeRunKey, commentDisabledKey] :=
    List.mem_append.1 hk
  · cases value with
    | text t =>
      simp only [readEntry, List.contains_iff_mem.2 hname, if_true] at h
      split at h
      · cases h
      · obtain rfl | rfl : name = classNameKey ∨ name = testMethodNameKey := by
          simpa [nameKeys] using hname
        · cases h
          rfl
        · cases h
          rfl
    | _ => simp [readEntry, hname] at h
  · obtain rfl | rfl : name = includeRunKey ∨ name = commentDisabledKey := by simpa using hflag
    · cases value with
      | bool b =>
        cases h
        rfl
      | _ => cases h
    · cases value with
      | bool b =>
        cases h
        rfl
      | _ => cases h

theorem entries_foldlM {source : String} {es : Entries Datum}
    (hk : ∀ name ∈ es.map (·.1), name ∈ knownKeys) {s s' : Settings}
    (h : (asData es).foldlM (readEntry source) s = .ok s') : s'.entries = s.entries.putAll es := by
  induction es generalizing s with
  | nil =>
    cases h
    rfl
  | cons e es ih =>
    rw [List.map_cons, List.forall_mem_cons] at hk
    obtain ⟨t, ht, h⟩ := bind_eq_ok.1 h
    rw [ih hk.2 h, entries_readEntry hk.1 ht]
    rfl

/-- The names that no setting has. -/
def unknownNames (es : Entries Datum) : List String :=
  (es.map (·.1)).filter fun name => !knownKeys.contains name

theorem mem_unknownNames {es : Entries Datum} {name : String} :
    name ∈ unknownNames es ↔ name ∈ es.map (·.1) ∧ name ∉ knownKeys := by
  rw [unknownNames, List.mem_filter, Bool.not_eq_true', ← Bool.not_eq_true, List.contains_iff_mem]

theorem unknownNames_eq_nil_iff {es : Entries Datum} :
    unknownNames es = [] ↔ ∀ name ∈ es.map (·.1), name ∈ knownKeys := by
  simp [unknownNames]

theorem unknownKeys_asData (es : Entries Datum) :
    unknownKeys (asData es) = (unknownNames es).map .text := by
  rw [unknownKeys, asData, unknownNames, List.map_map, List.filter_map, List.filter_map,
    List.map_map]
  rfl

theorem ofEntries_asData_of_known {es : Entries Datum} (h : unknownNames es = [])
    (source : String) :
    ofEntries (asData es) source = (asData es).foldlM (readEntry source) {} := by
  rw [ofEntries, unknownKeys_asData, h]
  rfl

theorem ofEntries_asData_of_unknown {es : Entries Datum} (h : unknownNames es ≠ [])
    (source : String) : ofEntries (asData es) source =
      .error (.unknownKeys source ((unknownNames es).mergeSort fun a b => decide (a ≤ b))) := by
  have hs := sortedTexts?_texts (unknownNames es)
  rw [ofEntries, unknownKeys_asData]
  cases hu : unknownNames es with
  | nil => exact absurd hu h
  | cons name names =>
    rw [hu, List.map_cons] at hs
    simp only [List.map_cons, hs]

/-- Accepted settings hold the values of the entries, which are all known, and defaults. -/
theorem entries_ofEntries {es : Entries Datum} {source : String} {s : Settings}
    (h : ofEntries (asData es) source = .ok s) :
    unknownNames es = [] ∧ s.entries = ({} : Settings).entries.putAll es := by
  by_cases hu : unknownNames es = []
  · rw [ofEntries_asData_of_known hu] at h
    exact ⟨hu, entries_foldlM (unknownNames_eq_nil_iff.1 hu) h⟩
  · rw [ofEntries_asData_of_unknown hu] at h
    cases h

theorem ofEntries_toEntries {s : Settings}
    (h : isIdentifier s.className = true ∧ isIdentifier s.testMethodName = true)
    (source : String) : ofEntries s.toEntries source = .ok s := by
  obtain ⟨className, testMethodName, includeRun, commentDisabled⟩ := s
  obtain ⟨hc, ht⟩ := h
  dsimp only at hc ht
  rw [← asData_entries, ofEntries_asData_of_known (by rfl)]
  simp [asData, entries, readEntry, nameKeys, classNameKey, testMethodNameKey, includeRunKey,
    commentDisabledKey, hc, ht, bind, Except.bind, pure, Except.pure]

/-! ## The order of the names -/

theorem map_fst_of_known {es : Entries Datum} (hn : (es.map (·.1)).Nodup)
    (hk : knownKeys <+: es.map (·.1)) (hu : unknownNames es = []) : es.map (·.1) = knownKeys := by
  rw [unknownNames_eq_nil_iff] at hu
  obtain ⟨further, hf⟩ := hk
  rw [← hf] at hn hu ⊢
  cases further with
  | nil => exact List.append_nil _
  | cons name further =>
    have hknown : name ∈ knownKeys := hu name (by simp)
    exact absurd rfl ((List.nodup_append.1 hn).2.2 _ hknown _ (List.mem_cons_self ..))

theorem mergeSort_congr {names names' : List String} (h : names.Perm names') :
    (names.mergeSort fun a b => decide (a ≤ b)) = names'.mergeSort fun a b => decide (a ≤ b) := by
  have hs (ns : List String) : (ns.mergeSort fun a b => decide (a ≤ b)).Pairwise (· ≤ ·) := by
    have hs := @List.pairwise_mergeSort _ (fun a b => decide (a ≤ b))
      (fun a b c => by simpa using String.le_trans) (fun a b => by simpa using String.le_total a b)
      ns
    simpa using hs
  have hp := (List.mergeSort_perm names fun a b => decide (a ≤ b)).trans
    (h.trans (List.mergeSort_perm names' fun a b => decide (a ≤ b)).symm)
  exact hp.eq_of_pairwise (fun _ _ _ _ => String.le_antisymm) (hs names) (hs names')

/-- Entries that mention every setting are told apart, once read, by what is found in them. -/
theorem ofEntries_congr {es es' : Entries Datum} (hn : (es.map (·.1)).Nodup)
    (hn' : (es'.map (·.1)).Nodup) (hk : knownKeys <+: es.map (·.1))
    (hk' : knownKeys <+: es'.map (·.1)) (h : ∀ name, es.find? name = es'.find? name)
    (source : String) : ofEntries (asData es) source = ofEntries (asData es') source := by
  have hmem (name : String) : name ∈ unknownNames es ↔ name ∈ unknownNames es' := by
    have hname : name ∈ es.map (·.1) ↔ name ∈ es'.map (·.1) := by
      rw [← not_iff_not, ← Entries.find?_eq_none_iff, ← Entries.find?_eq_none_iff, h]
    rw [mem_unknownNames, mem_unknownNames, hname]
  have hperm : (unknownNames es).Perm (unknownNames es') :=
    (List.perm_ext_iff_of_nodup (hn.filter _) (hn'.filter _)).2 hmem
  by_cases hu : unknownNames es = []
  · have hu' : unknownNames es' = [] := by simpa [hu] using hperm
    have hm : es.map (·.1) = es'.map (·.1) := by
      rw [map_fst_of_known hn hk hu, map_fst_of_known hn' hk' hu']
    rw [Entries.eq_of_find? hn hm h]
  · have hu' : unknownNames es' ≠ [] := fun hu' => hu (by simpa [hu'] using hperm)
    rw [ofEntries_asData_of_unknown hu, ofEntries_asData_of_unknown hu', mergeSort_congr hperm]

/-! ## Overrides in two steps -/

theorem nodup_overridden (s : Settings) (overrides : Entries Datum) :
    ((s.entries.putAll overrides).map (·.1)).Nodup :=
  Entries.nodup_putAll (by rw [map_fst_entries]; decide) overrides

theorem prefix_overridden (s : Settings) (overrides : Entries Datum) :
    knownKeys <+: (s.entries.putAll overrides).map (·.1) := by
  rw [← map_fst_entries s]
  exact Entries.prefix_map_fst_putAll ..

/-- Overridden settings hold what was given and else what they held before; no default shows. -/
theorem find?_entries_of_withOverrides {s s' : Settings} {a : Entries Datum}
    (h : s.withOverrides (asData a) = .ok s') (name : String) :
    s'.entries.find? name = (s.entries.putAll (given a)).find? name := by
  rw [withOverrides_asData] at h
  rw [(entries_ofEntries h).2, Entries.find?_putAll, Entries.find?_reverse (nodup_overridden s _)]
  cases hf : (s.entries.putAll (given a)).find? name with
  | some value => rfl
  | none =>
    have hk : name ∉ knownKeys := fun hk =>
      Entries.find?_eq_none_iff.1 hf ((prefix_overridden s _).subset hk)
    exact Entries.find?_eq_none_iff.2 hk

/-- Values that are given come from the later overrides first. A null that a later value replaces
keeps its place in the order. -/
theorem find?_given_putAll {a : Entries Datum} (hn : (a.map (·.1)).Nodup) (b : Entries Datum)
    (name : String) :
    Entries.find? name (given (a.putAll (given b))).reverse =
      (Entries.find? name (given b).reverse).or (Entries.find? name (given a).reverse) := by
  have hab := Entries.nodup_putAll hn (given b)
  have ha : Entries.find? name (given a).reverse = (a.find? name).filter replaces :=
    (Entries.find?_reverse (Entries.nodup_filter hn _) name).trans (Entries.find?_filter hn ..)
  have hl : Entries.find? name (given (a.putAll (given b))).reverse =
      ((a.putAll (given b)).find? name).filter replaces :=
    (Entries.find?_reverse (Entries.nodup_filter hab _) name).trans (Entries.find?_filter hab ..)
  rw [hl, ha, Entries.find?_putAll]
  cases hb : Entries.find? name (given b).reverse with
  | none => rfl
  | some value =>
    have hv : replaces value = true :=
      (List.mem_filter.1 (List.mem_reverse.1 (Entries.mem_of_find? hb))).2
    simp [hv]

/-- Overrides on top of accepted overrides come out as both sets of overrides in one, whether they
are accepted or not; and accepted settings are read back from their own entries. -/
theorem withOverrides_withOverrides {s s' : Settings} {a : Entries Datum}
    (hn : (a.map (·.1)).Nodup) (h : s.withOverrides (asData a) = .ok s') (b : Entries Datum) :
    s'.withOverrides (asData b) = s.withOverrides (asData (a.putAll (given b))) ∧
      ∀ source, ofEntries s'.toEntries source = .ok s' := by
  constructor
  · rw [withOverrides_asData, withOverrides_asData]
    apply ofEntries_congr (nodup_overridden s' _) (nodup_overridden s _) (prefix_overridden s' _)
      (prefix_overridden s _)
    intro name
    rw [Entries.find?_putAll, find?_entries_of_withOverrides h, Entries.find?_putAll,
      Entries.find?_putAll, find?_given_putAll hn, Option.or_assoc]
  · exact ofEntries_toEntries (isIdentifier_of_ofEntries h)

/-- The further names are put in another order in two steps than in one. -/
theorem withOverrides_withOverrides_further :
    ({} : Settings).withOverrides (asData [("zone", .null), ("class_name", .text "Load")]) =
        .ok { className := "Load" } ∧
      ({ className := "Load" } : Settings).withOverrides
          (asData [("age", .int 1), ("zone", .int 2), ("include_run", .null)]) =
        ({} : Settings).withOverrides
          (asData [("zone", .int 2), ("class_name", .text "Load"), ("age", .int 1)]) ∧
      ∀ source, ofEntries ({ className := "Load" } : Settings).toEntries source =
        .ok { className := "Load" } := by
  have h : ({} : Settings).withOverrides
      (asData [("zone", .null), ("class_name", .text "Load")]) = .ok { className := "Load" } := rfl
  exact ⟨h, withOverrides_withOverrides (by decide) h
    [("age", .int 1), ("zone", .int 2), ("include_run", .null)]⟩

end PlanCode.Settings
