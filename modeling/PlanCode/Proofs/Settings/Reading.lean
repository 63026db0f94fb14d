import Mathlib.Data.Set.List
import PlanCode.Proofs.Yields
import PlanCode.Settings

/-!
# Reading settings

What accepted settings hold, and how settings fail that are not accepted.

* `isIdentifier_of_ofEntries`: accepted settings name the class and its test by identifiers.
* `ends_withOverrides`: settings with text keys fail in a way that is reported.
-/
namespace PlanCode.Settings

open PlanCode.Text

/-! ## Accepted settings -/

theorem yields_readEntry (source : String) {s : Settings}
    (h : isIdentifier s.className = true ∧ isIdentifier s.testMethodName = true)
    (entry : Datum × Datum) : Yields (readEntry source s entry) fun s =>
      isIdentifier s.className = true ∧ isIdentifier s.testMethodName = true := by
  unfold readEntry
  split
  · split
    · split
      · split
        · exact yields_error _
        · rename_i name hn
          have hi : isIdentifier name = true := by simpa using hn
          split
          · exact yields_ok ⟨hi, h.2⟩
          · exact yields_ok ⟨h.1, hi⟩
      · exact yields_error _
    · split
      · split
        · exact yields_ok h
        · exact yields_ok h
      · exact yields_error _
  · exact yields_error _

/-- Accepted settings hold identifiers. -/
theorem isIdentifier_of_ofEntries {entries : List (Datum × Datum)} {source : String}
    {s : Settings} (h : ofEntries entries source = .ok s) :
    isIdentifier s.className = true ∧ isIdentifier s.testMethodName = true := by
  have hd : Yields (entries.foldlM (readEntry source) {}) fun s =>
      isIdentifier s.className = true ∧ isIdentifier s.testMethodName = true :=
    yields_foldlM (fun s entry hs => yields_readEntry source hs entry) (by decide) entries
  unfold ofEntries at h
  split at h
  · exact hd s h
  · split at h <;> cases h

/-! ## Failures -/

theorem eq_text_of_isText {d : Datum} (h : d.isText = true) : ∃ s, d = .text s := by
  cases d with
  | text s => exact ⟨s, rfl⟩
  | _ => simp [Datum.isText] at h

theorem sortedTexts?_texts (names : List String) :
    sortedTexts? (names.map .text) = some (names.mergeSort fun a b => decide (a ≤ b)) := by
  have hm : names.mapM (fun s => some s) = some names :=
    (List.mapM_pure (f := id)).trans (congrArg some names.map_id)
  simp [sortedTexts?, List.mapM_map, Function.comp_def, hm]

theorem ends_readEntry (source : String) (s : Settings) {entry : Datum × Datum}
    (h : entry.1.isText = true) :
    Ends (readEntry source s entry) (fun _ => True) (· ≠ .keysNotText) := by
  obtain ⟨key, value⟩ := entry
  obtain ⟨name, rfl⟩ : ∃ name, key = .text name := eq_text_of_isText h
  unfold readEntry
  dsimp only
  repeat' split
  all_goals first | exact .ok trivial | exact .error nofun

/-- Settings with text keys are read, or what is wrong with them is told. -/
theorem ends_ofEntries {entries : List (Datum × Datum)} (h : ∀ e ∈ entries, e.1.isText = true)
    (source : String) : Ends (ofEntries entries source) (fun _ => True) (· ≠ .keysNotText) := by
  unfold ofEntries
  split
  · exact ends_foldlM (fun s e he _ => ends_readEntry source s (h e he)) trivial
  · have hk : ∀ k ∈ unknownKeys entries, k.isText = true := by
      intro k hk
      obtain ⟨e, he, rfl⟩ := List.mem_map.1 (List.mem_filter.1 hk).1
      exact h e he
    obtain ⟨names, hn⟩ : ∃ names : List String, names.map .text = unknownKeys entries :=
      (Set.range_list_map Datum.text).ge fun k hm =>
        (eq_text_of_isText (hk k hm)).imp fun _ => Eq.symm
    rw [← hn, sortedTexts?_texts]
    exact .error nofun

theorem isText_put {entries : List (Datum × Datum)} (h : ∀ e ∈ entries, e.1.isText = true)
    {key : Datum} (hk : key.isText = true) (value : Datum) :
    ∀ e ∈ Datum.put key value entries, e.1.isText = true := by
  induction entries with
  | nil => simpa [Datum.put] using hk
  | cons entry entries ih =>
    obtain ⟨k, v⟩ := entry
    rw [List.forall_mem_cons] at h
    rw [Datum.put]
    split
    · exact List.forall_mem_cons.2 ⟨h.1, h.2⟩
    · exact List.forall_mem_cons.2 ⟨h.1, ih h.2⟩

theorem ends_withOverrides (s : Settings) {overrides : List (Datum × Datum)}
    (h : ∀ e ∈ overrides, e.1.isText = true) :
    Ends (s.withOverrides overrides) (fun _ => True) (· ≠ .keysNotText) := by
  unfold withOverrides
  refine ends_ofEntries ?_ _
  refine List.foldlRecOn
    (motive := fun es : List (Datum × Datum) => ∀ e ∈ es, e.1.isText = true) _ _ ?_ ?_
  · simp [toEntries, Datum.isText]
  · intro entries hes e he
    exact isText_put hes (h e (List.mem_filter.1 he).1) e.2

end PlanCode.Settings
