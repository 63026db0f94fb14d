import PlanCode.Call.Layout
import PlanCode.Proofs.Call.Reading
import PlanCode.Proofs.Surface.Overloads

/-!
# Arguments and parameters

The method of a call is found by the types of all its arguments, but an argument
without a value is written as nothing. So a call is written with as many arguments as
its method has parameters exactly if each of its arguments has a value; a list in the
last place is written as its elements, however many there are.

* `fits_iff`: a call fits its method exactly if no argument of it is written as nothing.
-/
namespace PlanCode

/-! ## Calls that fit their methods -/

namespace Argument

/-- An argument for a parameter of an array type. -/
def isArray : Argument Node → Bool
  | .literal (.strings _) => true
  | .children .. => true
  | _ => false

end Argument

/-- A call is written with one argument for each parameter of the method; where the last one is of
an array type, the last argument is written as its elements instead. -/
def Method.Fits (m : Method) (arguments : List (Argument Node)) : Prop :=
  match m.parameters.getLast?.bind Surface.elementType? with
  | none => ∀ indent, (Layout.argumentParts indent arguments).length = m.parameters.length
  | some _ => ∃ before last, Argument.active arguments = before ++ [last] ∧ last.isArray = true ∧
      ∀ indent, (Layout.argumentParts indent before).length + 1 = m.parameters.length

/-! ## Arguments that are written -/

namespace Layout

theorem argumentParts_eq_filter (indent : List Char) (arguments : List (Argument Node)) :
    argumentParts indent arguments =
      ((Argument.active arguments).map (argumentText indent)).filter (!·.isEmpty) := by
  induction arguments with
  | nil => rfl
  | cons a rest ih =>
    rw [argumentParts, ih]
    unfold Argument.active
    cases ha : a.isIgnored <;> cases he : (argumentText indent a).isEmpty <;> simp [ha, he]

/-- All arguments are written exactly if none is written as nothing. -/
theorem length_argumentParts {indent : List Char} {arguments : List (Argument Node)} :
    (argumentParts indent arguments).length = (Argument.active arguments).length ↔
      ∀ a ∈ Argument.active arguments, argumentText indent a ≠ [] := by
  have htexts : ((Argument.active arguments).map (argumentText indent)).length =
      (Argument.active arguments).length := List.length_map _
  rw [argumentParts_eq_filter, ← htexts, List.length_filter_eq_length_iff, List.forall_mem_map]
  simp

end Layout

/-- An argument that is written, or is a list, which is written as its elements. -/
def Argument.IsWritten (a : Argument Node) : Prop :=
  a.isArray = true ∨ ∀ indent, Layout.argumentText indent a ≠ []

/-- Where there are no lists, each argument is written as one. -/
theorem Layout.forall_length_argumentParts {arguments : List (Argument Node)}
    (h : ∀ a ∈ Argument.active arguments, a.isArray = false) :
    (∀ indent, (argumentParts indent arguments).length = (Argument.active arguments).length) ↔
      ∀ a ∈ Argument.active arguments, a.IsWritten := by
  simp only [length_argumentParts]
  constructor
  · exact fun hw a ha => Or.inr fun indent => hw indent a ha
  · intro hw indent a ha
    rcases hw a ha with hl | hl
    · rw [h a ha] at hl
      cases hl
    · exact hl indent

theorem Argument.active_of_prefix {arguments before rest : List (Argument Node)}
    (h : active arguments = before ++ rest) : active before = before := by
  refine List.filter_eq_self.2 fun a ha => ?_
  have hm : a ∈ active arguments := h ▸ List.mem_append_left _ ha
  exact (List.mem_filter.1 hm).2

/-! ## Positions -/

namespace Surface

variable {s : Surface} {m : Method} {arguments : List (Argument Node)}

/-- Only the last parameter may be of an array type, and none takes just anything. -/
def hasPlainParameters (m : Method) : Bool :=
  m.parameters.all (· != objectType) && m.parameters.dropLast.all fun type =>
    (elementType? type).isNone

theorem hasPlainParameters_standard :
    ∀ t ∈ standard.types, ∀ m ∈ t.methods, hasPlainParameters m = true := by decide +kernel

/-- Arrays are given for arrays and nothing else. -/
theorem isSome_elementType? {formal actual : String} (ho : formal ≠ objectType)
    (h : s.isAssignable formal actual = true) :
    (elementType? formal).isSome = (elementType? actual).isSome := by
  cases hf : elementType? formal with
  | none =>
    cases ha : elementType? actual with
    | none => rfl
    | some element =>
      obtain rfl := elementType?_eq_some.1 ha
      exact absurd h (not_isAssignable_plain_array (elementType?_eq_none.1 hf) ho)
  | some element =>
    obtain rfl := elementType?_eq_some.1 hf
    cases ha : elementType? actual with
    | none => exact absurd h (not_isAssignable_array_plain (elementType?_eq_none.1 ha))
    | some _ => rfl

/-- Lists stand exactly where parameters are of array types. -/
theorem forall₂_isArray (hm : hasPlainParameters m = true)
    (ht : s.Takes m.parameters (Argument.activeTypes arguments))
    (ha : ∀ a ∈ Argument.active arguments, (elementType? a.type).isSome = a.isArray) :
    List.Forall₂ (fun formal a => (elementType? formal).isSome = a.isArray) m.parameters
      (Argument.active arguments) := by
  have ho : ∀ formal ∈ m.parameters, formal ≠ objectType := by
    simpa using (Bool.and_eq_true_iff.1 hm).1
  have hpos := List.forall₂_map_right_iff.1 ht
  rw [List.forall₂_iff_zip] at hpos ⊢
  refine ⟨hpos.1, fun {formal a} hz => ?_⟩
  obtain ⟨hf, hact⟩ := List.of_mem_zip hz
  exact (isSome_elementType? (ho formal hf) (hpos.2 hz)).trans (ha a hact)

/-- **Positions.** A call fits a method that takes its arguments exactly if no argument of it is
written as nothing. -/
theorem fits_iff (hm : hasPlainParameters m = true)
    (ht : s.Takes m.parameters (Argument.activeTypes arguments))
    (ha : ∀ a ∈ Argument.active arguments, (elementType? a.type).isSome = a.isArray) :
    m.Fits arguments ↔ ∀ a ∈ Argument.active arguments, a.IsWritten := by
  have hpos := forall₂_isArray hm ht ha
  have hplain : ∀ type ∈ m.parameters.dropLast, elementType? type = none := by
    simpa using (Bool.and_eq_true_iff.1 hm).2
  unfold Method.Fits
  rcases List.eq_nil_or_concat' m.parameters with hp | ⟨init, last, hp⟩
  · rw [hp] at hpos ⊢
    have hnil : Argument.active arguments = [] := List.forall₂_nil_left_iff.1 hpos
    simp [Layout.argumentParts_eq_filter, hnil]
  · rw [hp, List.dropLast_concat] at hplain
    rw [hp] at hpos ⊢
    obtain ⟨before, rest, hactive, hbefore, hrest⟩ := forall₂_append_left hpos
    obtain ⟨a, _, hlast, hnil, rfl⟩ := List.forall₂_cons_left_iff.1 hrest
    obtain rfl := List.forall₂_nil_left_iff.1 hnil
    have hinit : ∀ b ∈ before, b.isArray = false := by
      intro b hb
      obtain ⟨formal, hf, he⟩ := exists_of_mem_forall₂ hbefore.flip hb
      rw [← he, hplain formal hf]
      rfl
    rw [List.getLast?_concat, Option.bind_some, hactive]
    cases hl : elementType? last with
    | none =>
      rw [hl] at hlast
      have hall : ∀ b ∈ Argument.active arguments, b.isArray = false := by
        rw [hactive]
        exact List.forall_mem_append.2 ⟨hinit, List.forall_mem_singleton.2 hlast.symm⟩
      rw [← hactive, ← Layout.forall_length_argumentParts hall, hpos.length_eq]
    | some element =>
      rw [hl] at hlast
      have hself := Argument.active_of_prefix hactive
      have hwritten := Layout.forall_length_argumentParts (hself.symm ▸ hinit)
      rw [hself] at hwritten
      have hlen : (init ++ [last]).length = before.length + 1 := by
        rw [List.length_append, hbefore.length_eq, List.length_singleton]
      rw [List.forall_mem_append, List.forall_mem_singleton, ← hwritten, hlen]
      constructor
      · rintro ⟨before', last', he, -, hw⟩
        obtain ⟨rfl, -⟩ := List.append_inj' he rfl
        exact ⟨fun indent => Nat.succ.inj (hw indent), Or.inl hlast.symm⟩
      · rintro ⟨hw, -⟩
        exact ⟨before, a, rfl, hlast.symm, fun indent => congrArg (· + 1) (hw indent)⟩

end Surface

end PlanCode
