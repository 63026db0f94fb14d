import PlanCode.Proofs.Convert.Fresh
import PlanCode.TestClass

/-!
# Converted plans are regular

Whatever a plan holds, the calls it is converted to are regular: its texts
become string literals, its numbers words, and the name of a fragment's method
consists of letters and digits.

* `Built.regular`: what is built from a method of the factory is regular.
* `isAlphanum_fragmentMethod`: method names of fragments are letters and digits.
* `yields_convert`: every kind of element is converted to a regular draft.
* `yields_convertElement`: and every element to a regular node or none.
-/
namespace PlanCode

open PlanCode.Text PlanCode.Layout

/-! ## Built calls -/

theorem free_targetFields : ∀ c ∈ Convert.targetFields, Free c.2.toList := by
  simp only [Convert.targetFields, List.forall_mem_cons, List.not_mem_nil, false_imp_iff,
    implies_true, and_true]
  refine ⟨?_, ?_, ?_, ?_, ?_, ?_, ?_, ?_⟩ <;> exact free_ofList (by decide)

/-- What properties become can be written. -/
theorem PropertyLiteral.regular {v : Literal} (h : PropertyLiteral v) : RegularLiteral v := by
  cases h with
  | string => exact .string
  | int => exact .int
  | bool => exact .bool
  | duration => exact .duration
  | strings => exact .strings
  | field hf =>
    refine .enum (fun c hc => ?_) (free_ofList (by decide))
    obtain ⟨field, hm, rfl⟩ := List.mem_map.1 (hf c hc)
    have ht : Word Convert.targetFieldType.toList := word_ofList (by decide)
    rw [String.toList_append, String.toList_append]
    exact (ht.append_free (by decide)).append_free (free_targetFields field hm)

namespace Convert

/-- Literals in front of a slot for children or of nothing. -/
theorem regular_literals_slot {values : List Literal} (h : ∀ v ∈ values, PropertyLiteral v)
    {slotType? : Option String} {slot : List (Argument Node)}
    (hs : slot = [] ∨ ∃ type ∈ slotType?, slot = [noChildren type]) :
    RegularArguments (literals values ++ slot) := by
  induction values with
  | nil =>
    rcases hs with rfl | ⟨type, -, rfl⟩
    · trivial
    · exact ⟨trivial, fun _ => rfl, trivial⟩
  | cons v values ih =>
    rw [List.forall_mem_cons] at h
    exact ⟨h.1.regular, fun hc => absurd hc (by simp [isChildren]), ih h.2⟩

theorem regular_literals {values : List Literal} (h : ∀ v ∈ values, PropertyLiteral v) :
    RegularArguments (literals values) := by
  simpa using @regular_literals_slot values h none [] (Or.inl rfl)

theorem word_chainedNames : ∀ name ∈ chainedNames, Word name.toList := by
  simp only [chainedNames, List.forall_mem_cons, List.not_mem_nil, false_imp_iff, implies_true,
    and_true]
  refine ⟨?_, ?_, ?_, ?_, ?_, ?_, ?_, ?_, ?_, ?_, ?_, ?_, ?_, ?_, ?_, ?_, ?_, ?_, ?_, ?_, ?_, ?_⟩
    <;> exact word_ofList (by decide)

theorem regularRemark_holdRemark : RegularRemark holdRemark :=
  ⟨not_mem_toList_append (not_mem_ofList (by decide)) (not_mem_ofList (by decide)),
    not_mem_toList_append (not_mem_ofList (by decide)) (not_mem_ofList (by decide))⟩

/-- **Built calls.** What is built from a method of the factory is regular. -/
theorem Built.regular {surface : Surface} (hs : FreeSurface surface) {name : String}
    (hw : Word name.toList) {slotType? : Option String} {d : Draft Node}
    (h : Built surface name slotType? d) : d.Regular := by
  induction h with
  | start hv hslot hd =>
    exact (Draft.yields_ofFactory hs (List.forall_mem_singleton.2 hw)
      (regular_literals_slot hv hslot) _ (mapError_eq_ok.1 hd)).1
  | chain _ hn hv hd ih =>
    exact Draft.yields_chainCall ih (word_chainedNames _ hn) (regular_literals hv) _
      (mapError_eq_ok.1 hd)
  | remarked _ hn hv hw hd ih =>
    obtain ⟨v, hm, hw⟩ := hw
    have hs := @Draft.sound_append _ ih.toSound (.comment holdRemark) regularRemark_holdRemark
      (by simp)
    exact Draft.yields_chainCall_of_sound hs (word_chainedNames _ hn) (regular_literals hv)
      ⟨.literal v, List.mem_map_of_mem hm, hw⟩ _ (mapError_eq_ok.1 hd)

/-! ## Names of methods -/

theorem split_ne_nil (s : List Char) : words.split s ≠ [] := by
  cases s with
  | nil => simp [words.split]
  | cons c rest =>
    rw [words.split]
    split
    · simp
    · split <;> simp

theorem isAlphanum_split (s : List Char) :
    ∀ w ∈ words.split s, ∀ c ∈ w, c.isAlphanum = true := by
  induction s with
  | nil => simp [words.split]
  | cons c rest ih =>
    rw [words.split]
    split
    · rename_i hs
      exact absurd hs (split_ne_nil rest)
    · rename_i word others hs
      rw [hs] at ih
      split
      · rename_i hc
        intro w hw
        rcases List.mem_cons.1 hw with rfl | hw
        · intro d hd
          rcases List.mem_cons.1 hd with rfl | hd
          · exact hc
          · exact ih word (List.mem_cons_self ..) d hd
        · exact ih w (List.mem_cons_of_mem _ hw)
      · intro w hw
        rcases List.mem_cons.1 hw with rfl | hw
        · simp
        · exact ih w hw

theorem isAlphanum_words (s : List Char) :
    ∀ w ∈ words s, w ≠ [] ∧ ∀ c ∈ w, c.isAlphanum = true := by
  intro w hw
  obtain ⟨hw, hne⟩ := List.mem_filter.1 hw
  exact ⟨by simpa using hne, isAlphanum_split s w hw⟩

theorem isAlphanum_capitalized {w : List Char} (h : ∀ c ∈ w, c.isAlphanum = true) :
    ∀ c ∈ capitalized w, c.isAlphanum = true := by
  cases w with
  | nil => simp [capitalized]
  | cons d rest =>
    intro c hc
    rcases List.mem_cons.1 hc with rfl | hc
    · exact isAlphanum_toUpper (h d (List.mem_cons_self ..))
    · exact h c (List.mem_cons_of_mem _ hc)

theorem isAlphanum_uncapitalized {w : List Char} (h : ∀ c ∈ w, c.isAlphanum = true) :
    ∀ c ∈ uncapitalized w, c.isAlphanum = true := by
  cases w with
  | nil => simp [uncapitalized]
  | cons d rest =>
    intro c hc
    rcases List.mem_cons.1 hc with rfl | hc
    · exact isAlphanum_toLower (h d (List.mem_cons_self ..))
    · exact h c (List.mem_cons_of_mem _ hc)

/-- The name of a fragment's method is made of letters and digits. -/
theorem isAlphanum_fragmentMethod (name : String) :
    (∀ c ∈ (fragmentMethod name).toList, c.isAlphanum = true) ∧
      (fragmentMethod name).toList ≠ [] := by
  have hf : ∀ c ∈ "fragment".toList, c.isAlphanum = true := List.all_eq_true.1 (by decide)
  have hw := isAlphanum_words name.toList
  rw [fragmentMethod, String.toList_ofList]
  unfold fragmentMethodChars
  generalize words name.toList = ws at hw
  cases ws with
  | nil => exact ⟨hf, by decide⟩
  | cons first others =>
    have hj : ∀ c ∈ uncapitalized first ++ others.flatMap capitalized,
        c.isAlphanum = true := by
      intro c hc
      rcases List.mem_append.1 hc with hc | hc
      · exact isAlphanum_uncapitalized (hw first (List.mem_cons_self ..)).2 c hc
      · obtain ⟨w, hm, hc⟩ := List.mem_flatMap.1 hc
        exact isAlphanum_capitalized (hw w (List.mem_cons_of_mem _ hm)).2 c hc
    have hne : uncapitalized first ++ others.flatMap capitalized ≠ [] := by
      have h1 := (hw first (List.mem_cons_self ..)).1
      cases first with
      | nil => exact absurd rfl h1
      | cons c rest => simp [uncapitalized]
    dsimp only
    generalize uncapitalized first ++ others.flatMap capitalized = joined at hj hne
    split
    · split
      · refine ⟨fun c hc => ?_, by simp⟩
        rcases List.mem_append.1 hc with hc | hc
        · exact hf c hc
        · exact isAlphanum_capitalized hj c hc
      · exact ⟨hj, hne⟩
    · exact absurd rfl hne

theorem word_fragmentMethod (name : String) : Word (fragmentMethod name).toList :=
  word_of_isAlphanum (isAlphanum_fragmentMethod name).1 (isAlphanum_fragmentMethod name).2

end Convert

/-! ## Plans -/

theorem ElementKind.word_factoryMethod? {k : ElementKind} :
    ∀ name ∈ k.factoryMethod?, Word name.toList := by
  intro name hn
  cases k <;> cases hn <;> exact word_ofList (by decide)

/-- The call of an element is regular, and that of a fragment is there and not commented out. -/
def RegularCall (k : ElementKind) (call : Option (Draft Node)) : Prop :=
  (∀ d ∈ call, d.Regular) ∧ (k = .testFragment → ∃ d ∈ call, d.head.commented = false)

theorem yields_convert {surface : Surface} (hs : FreeSurface surface) (k : ElementKind)
    (e : Element) : Yields (k.convert surface e) (RegularCall k) := by
  intro call hc
  refine ⟨fun d hd => ?_, ?_⟩
  · obtain ⟨name, hn, h⟩ | ⟨-, name, -, rfl⟩ := ElementKind.yields_cases call hc d hd
    · exact h.regular hs (ElementKind.word_factoryMethod? name hn)
    · exact Draft.regular_unresolved (Convert.word_fragmentMethod name) (free_ofList (by decide))
        trivial
  · rintro rfl
    obtain ⟨d, rfl, h⟩ := ElementKind.yields_ofFactory (by decide) call hc
    exact ⟨d, rfl, h.live⟩

/-- What an element is converted to: nothing, a regular call, or the body of a method. -/
structure RegularConverted (c : Converted) : Prop where
  node : c.node = .empty ∨ (c.node.isOwnCall = true ∧ Layout.Regular c.node)
  method : ∀ name ∈ c.method, RegularMethod name c.node ∧ Layout.Regular c.node

/-- What is known of a call that takes children: it is regular and has the head it started
with. -/
def RegularGrowing (call grown : Option (Draft Node)) : Prop :=
  (∀ d ∈ grown, d.Regular) ∧ grown.map Draft.head = call.map Draft.head

theorem regularConverted_of_growing {call grown : Option (Draft Node)}
    (h : RegularGrowing call grown) {method : Option String}
    (hm : ∀ name ∈ method, Free name.toList ∧ ∃ d ∈ call, d.head.commented = false)
    (warnings : List String) (count : Nat) :
    RegularConverted
      { node := (grown.map (·.toNode)).getD .empty, method, warnings, count } := by
  obtain ⟨hr, hh⟩ := h
  refine ⟨?_, fun name hn => ?_⟩
  · cases grown with
    | none => exact Or.inl rfl
    | some d => exact Or.inr ⟨rfl, Draft.regular_toNode (hr d rfl)⟩
  · obtain ⟨hf, d, hd, hc⟩ := hm name hn
    rw [Option.mem_def.1 hd, Option.map_some, Option.map_eq_some_iff] at hh
    obtain ⟨d', rfl, hh⟩ := hh
    have hd' := hr d' rfl
    exact ⟨⟨hf, rfl, (congrArg Head.commented hh).trans hc, hd'.type⟩, Draft.regular_toNode hd'⟩

namespace Generator

variable {g : Generator}

theorem yields_attach {call : Option (Draft Node)} (hc : ∀ d ∈ call, d.Regular)
    {child : Converted} (h : RegularConverted child) :
    Yields (g.attach call child) (RegularGrowing call) := by
  unfold attach
  split
  · exact yields_ok ⟨hc, rfl⟩
  · rename_i d
    have hd := hc d rfl
    split
    · rename_i name hm
      exact yields_ok ⟨by simpa using Draft.regular_define hd (h.method name hm), rfl⟩
    · split
      · exact yields_ok ⟨hc, rfl⟩
      · rename_i he
        rcases h.node with hn | ⟨ho, hr⟩
        · rw [hn] at he
          exact absurd rfl he
        · refine yields_map (yields_mapError (Draft.yields_addChild hd ho hr)) ?_
          rintro d' ⟨hr, hh⟩
          exact ⟨by simpa using hr, by simp [hh]⟩

/-- Only fragments become methods. -/
theorem methodFor_eq_some {p : Place} {k : ElementKind} {e : Element} {name : String}
    (h : methodFor p k e = some name) :
    k = .testFragment ∧ name = Convert.fragmentMethod e.name := by
  unfold methodFor at h
  split at h
  · exact ⟨rfl, (Option.some.inj h).symm⟩
  · cases h

mutual

/-- **Conversion.** Every element becomes a regular call, the body of a method, or nothing. -/
theorem yields_convertElement (hs : FreeSurface g.surface) : ∀ (p : Place) (e : Element),
    Yields (g.convertElement p e) RegularConverted
  | p, ⟨kind, name, gui, enabled, properties, children⟩ => by
    rw [convertElement]
    split
    · exact yields_ok ⟨Or.inl rfl, by simp⟩
    · rename_i k _
      refine yields_bind (yields_convert hs k _) fun call hc => ?_
      extract_lets method off written
      split
      · exact yields_ok ⟨Or.inl rfl, by simp⟩
      · have hw : ∀ d ∈ written, d.Regular := by
          intro d hd
          unfold written at hd
          split at hd
          · obtain ⟨d', hd', rfl⟩ := Option.map_eq_some_iff.1 hd
            exact Draft.regular_setCommented (hc.1 d' hd') true
          · exact hc.1 d hd
        refine yields_bind (yields_convertChildren hs _ _ children hw) fun grown hg => ?_
        refine yields_ok (regularConverted_of_growing hg (fun name hn => ?_) _ _)
        obtain ⟨rfl, rfl⟩ := methodFor_eq_some hn
        have hoff : off = false := by simp [off, Option.mem_def.1 hn]
        exact ⟨(Convert.word_fragmentMethod _).1, by simpa [written, hoff] using hc.2 rfl⟩

theorem yields_convertChildren (hs : FreeSurface g.surface) :
    ∀ (p : Place) (call : Option (Draft Node)) (children : List Element),
    (∀ d ∈ call, d.Regular) →
    Yields (g.convertChildren p call children) fun grown => RegularGrowing call grown.call
  | _, _, [], h => yields_ok ⟨h, rfl⟩
  | p, call, e :: rest, h => by
    rw [convertChildren]
    refine yields_bind (yields_convertElement hs p e) fun child hc => ?_
    refine yields_bind (yields_attach h hc) fun call hc => ?_
    refine yields_bind (yields_convertChildren hs p call rest hc.1) fun others ho => ?_
    exact yields_ok ⟨ho.1, ho.2.trans hc.2⟩

end

end Generator
end PlanCode
