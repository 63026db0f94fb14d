import PlanCode.Proofs.Convert.Shape
import PlanCode.Proofs.Surface.Ancestry

/-!
# Resolving calls on the shipped surface

No way up through the types of the shipped surface is endless, so a call that
cannot be chained is one of a missing method. A call whose arguments are of the
very types that a method declares is never missing, be it started by the factory
or chained. A flag that is no flag is a text, which the methods for flags do not
take.

* `delivers_start`, `delivers_chain`: calls of declared methods do not fail.
* `ends_flag`: chaining a flag fails exactly when the property is not a flag.
-/
namespace PlanCode

namespace Surface

/-- What can be chained to calls of the shipped surface: the type, the method, and the types that it
declares. -/
def fluentCalls : List (String × String × List String) :=
  standard.types.flatMap fun t => (t.methods.filter fun m => m.isPublic && !m.isStatic).map
    fun m => (t.name, m.name, m.parameters)

/-- The methods of the factory with the types that they declare. -/
def factoryCalls : List (String × List String) :=
  Default.jmeterDsl.methods.map fun m => (m.name, m.parameters)

theorem endless_types :
    (standard.types.all fun t => !(standard.ancestry t.name).endless) = true := by
  decide +kernel

theorem endless_standard (name : String) : (standard.ancestry name).endless = false := by
  cases hf : standard.find? name with
  | none =>
    unfold ancestry walk
    rw [Option.bind_some, hf]
  | some t =>
    obtain rfl : t.name = name := by simpa using List.find?_some hf
    have ht := List.all_eq_true.1 endless_types t (List.mem_of_find?_eq_some hf)
    rwa [Bool.not_eq_true'] at ht

theorem not_circles_standard (name : String) : ¬ standard.Circles name := by
  rw [← endless_ancestry, endless_standard]
  exact Bool.false_ne_true

theorem findMethod_standard (type name : String) (types : List String) :
    ∃ m?, standard.findMethod type name types = .ok m? :=
  findMethod_ends (not_circles_standard type) name types

theorem findChildrenMethod_standard (type : String) :
    ∃ m?, standard.findChildrenMethod type = .ok m? :=
  searchUp_ends.2 (Or.inl (not_circles_standard type))

theorem fluentCalls_found : (fluentCalls.all fun (type, name, types) =>
    (standard.findMethod type name types).toOption.any Option.isSome) = true := by decide +kernel

/-- A call with arguments of the types that a method declares resolves. -/
theorem findMethod_of_declared {type name : String} {types : List String}
    (h : (type, name, types) ∈ fluentCalls) :
    ∃ m, standard.findMethod type name types = .ok (some m) := by
  have hf := List.all_eq_true.1 fluentCalls_found _ h
  obtain ⟨m?, hm⟩ := findMethod_standard type name types
  dsimp only at hf
  rw [hm] at hf ⊢
  obtain ⟨m, rfl⟩ := Option.isSome_iff_exists.1 (show m?.isSome = true from hf)
  exact ⟨m, rfl⟩

theorem factoryCalls_accepted : (factoryCalls.all fun (name, types) =>
    (standard.firstAccepting? (Draft.factoryMethods standard [name]) types).isSome) = true := by
  decide +kernel

end Surface

namespace Convert

open Surface

/-- A call is missing a method. -/
def IsMissing (e : ConversionError) : Prop := ∃ m, e = .call (.missingMethod m)

/-- A call of the factory with arguments of the types that a method declares does not fail. -/
theorem delivers_start {name : String} {arguments : List (Argument Node)}
    (h : (name, Argument.activeTypes arguments) ∈ factoryCalls) :
    Delivers (start standard name arguments) fun d => ∃ m ∈ Default.jmeterDsl.methods,
      m.name = name ∧ d = { arguments, head := {
        name := some name, target := m.resultType m.owner, staticImports := [factoryClass] } } := by
  obtain ⟨m, hm⟩ := Option.isSome_iff_exists.1 (List.all_eq_true.1 factoryCalls_accepted _ h)
  have hd : Draft.ofFactory standard [name] arguments =
      .ok (Draft.ofMethod standard m arguments) := by
    rw [Draft.ofFactory, hm]
  obtain ⟨m', hmem, hname, hhead⟩ := yields_ofFactory_standard _ hd
  obtain rfl := List.mem_singleton.1 hname
  refine ⟨_, by rw [start, hd]; rfl, m', hmem, rfl, ?_⟩
  rw [← hhead]
  rfl

/-- Chaining keeps the head of a draft, or the method is missing. -/
theorem ends_chain (d : Draft Node) (name : String) (values : List Literal) :
    Ends (chain standard name values d)
      (fun d' => d'.head = d.head ∧ ((literals values).all (·.isDefault) = true ∨
        standard.findMethod d.head.target name (Argument.activeTypes (literals values)) ≠ .ok none ∨
        ∃ a, literals values = [a] ∧ a.isBool = true))
      fun e => IsMissing e ∧
        standard.findMethod d.head.target name (Argument.activeTypes (literals values)) =
          .ok none := by
  unfold chain
  rw [Draft.chainCall]
  split
  · rename_i hd
    exact Ends.ok ⟨rfl, Or.inl (Bool.and_eq_true_iff.1 hd).2⟩
  · have hr := ends_resolveChained (not_circles_standard d.head.target) name (literals values)
    cases he : Draft.resolveChained standard d.head.target name (literals values) with
    | ok resolved =>
      rw [he] at hr
      obtain hr | _ := hr
      exact Ends.ok ⟨rfl, Or.inr hr⟩
    | error e =>
      rw [he] at hr
      obtain _ | ⟨⟨m, rfl⟩, hm⟩ := hr
      exact Ends.error ⟨⟨m, rfl⟩, hm⟩

/-- A chained call with arguments of the types that a method declares does not fail. -/
theorem delivers_chain {d : Draft Node} {type : String} (hd : d.head.target = type) {name : String}
    {values : List Literal}
    (h : (type, name, Argument.activeTypes (literals values)) ∈ fluentCalls) :
    Delivers (chain standard name values d) fun d' => d'.head.target = type := by
  have he := ends_chain d name values
  obtain ⟨m, hm⟩ := findMethod_of_declared h
  cases hc : chain standard name values d with
  | ok d' =>
    rw [hc] at he
    obtain h | _ := he
    exact ⟨d', rfl, (congrArg Head.target h.1).trans hd⟩
  | error e =>
    rw [hc] at he
    obtain _ | ⟨-, hn⟩ := he
    rw [hd, hm] at hn
    cases hn

end Convert

/-! ## Flags -/

/-- The text of a property that should be a flag is none: neither blank nor a word for a flag. -/
def Element.isUnclear (e : Element) (key : String) : Bool :=
  !(["", "true", "false"].contains (Text.lower (e.trimmedAt key)))

theorem Element.boolLiteral_cases (e : Element) (key : String) (default : Bool) :
    (e.isUnclear key = false ∧ ∃ v, e.boolLiteral key default = .bool v (some default)) ∨
      e.isUnclear key = true ∧
        e.boolLiteral key default = .text (Text.lower (e.trimmedAt key)) := by
  unfold Element.isUnclear Element.boolLiteral
  dsimp only
  split
  · rename_i h
    exact Or.inl ⟨by simp [h], _, rfl⟩
  split
  · rename_i h
    exact Or.inl ⟨by simp [h], _, rfl⟩
  split
  · rename_i h
    exact Or.inl ⟨by simp [h], _, rfl⟩
  · exact Or.inr ⟨by simp [*], rfl⟩

namespace Convert

open Surface

/-- The methods for flags, each with the type it is chained to. They take no text. -/
def flagCalls : List (String × String) := [
  ("DslTestPlan", "sequentialThreadGroups"), ("DslTestPlan", "tearDownOnlyAfterMainThreadsDone"),
  ("DslTransactionController", "generateParentSample"), ("DslHttpSampler", "followRedirects"),
  ("DslResponseAssertion", "ignoreStatus")]

theorem flagCalls_found : (flagCalls.all fun (type, name) =>
    fluentCalls.contains (type, name, ["boolean"]) &&
      (standard.findMethod type name ["String"]).toOption.any Option.isNone) = true := by
  decide +kernel

theorem flag_declared {type name : String} (h : (type, name) ∈ flagCalls) :
    (type, name, ["boolean"]) ∈ fluentCalls ∧
      standard.findMethod type name ["String"] = .ok none := by
  have hf := List.all_eq_true.1 flagCalls_found _ h
  dsimp only at hf
  rw [Bool.and_eq_true, List.contains_iff_mem] at hf
  obtain ⟨hd, hn⟩ := hf
  obtain ⟨m?, hm⟩ := findMethod_standard type name ["String"]
  rw [hm] at hn ⊢
  obtain rfl : m? = none := Option.isNone_iff_eq_none.1 hn
  exact ⟨hd, rfl⟩

/-- **Flags.** Chaining a flag fails exactly when the property is not a flag. -/
theorem ends_flag {d : Draft Node} {type : String} (hd : d.head.target = type) {name : String}
    (h : (type, name) ∈ flagCalls) (e : Element) (key : String) (default : Bool) :
    Ends (chain standard name [e.boolLiteral key default] d)
      (fun d' => d'.head.target = type ∧ e.isUnclear key = false)
      fun error => IsMissing error ∧ e.isUnclear key = true := by
  obtain ⟨hdeclared, hnone⟩ := flag_declared h
  obtain ⟨hu, v, hv⟩ | ⟨hu, hv⟩ := e.boolLiteral_cases key default
  · have ht : Argument.activeTypes (literals [.bool v (some default)]) = ["boolean"] := rfl
    rw [← ht] at hdeclared
    rw [hv]
    exact ((delivers_chain hd hdeclared).imp fun d' hd' => ⟨hd', hu⟩).ends
  · rw [hv]
    refine (ends_chain d name [.text (Text.lower (e.trimmedAt key))]).imp (fun d' h => ?_)
      fun error h => ⟨h.1, hu⟩
    -- A text is no default and no flag, so its method was found.
    have hfound := (h.2.resolve_left (by simp [literals, Argument.isDefault, Literal.isDefault,
      Literal.text])).resolve_right (by simp [literals, Argument.isBool, Literal.text])
    rw [hd] at hfound
    exact absurd hnone hfound

end Convert
end PlanCode
