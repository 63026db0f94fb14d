import PlanCode.Proofs.Convert.Fresh

/-!
# What converted calls are made of

A call that is built from a method of the factory keeps the head and the
arguments that it was started with; what is chained to it are calls given
literals, and remarks. On the shipped surface the type of a call and the class
that it imports are told by the kind of the element.

* `Built.shape`: the parts of a built call.
* `head_of_convert`: the head of the call of an element, by its kind.
-/
namespace PlanCode

/-- The parts of a call that is built from a method of the factory. -/
structure Draft.Shape (surface : Surface) (name : String) (slotType? : Option String)
    (d : Draft Node) : Prop where
  started : ∃ d₀, Draft.ofFactory surface [name] d.arguments = .ok d₀ ∧ d.head = d₀.head
  arguments : ∃ values slot, d.arguments = Convert.literals values ++ slot ∧
    (∀ v ∈ values, PropertyLiteral v) ∧
    (slot = [] ∨ ∃ type ∈ slotType?, slot = [Convert.noChildren type])
  chain : ∀ s ∈ d.chain, (∃ text, s = .comment text) ∨ ∃ chained target values,
    s = .call chained target (Convert.literals values) ∧ ∀ v ∈ values, PropertyLiteral v

namespace Convert

variable {surface : Surface} {name : String} {slotType? : Option String} {d : Draft Node}

theorem shape_append (h : d.Shape surface name slotType?) {s : Segment Node}
    (hs : (∃ text, s = .comment text) ∨ ∃ chained target values,
      s = .call chained target (literals values) ∧ ∀ v ∈ values, PropertyLiteral v) :
    (d.append s).Shape surface name slotType? where
  started := h.started
  arguments := h.arguments
  chain t ht := by
    rcases List.mem_append.1 ht with ht | ht
    · exact h.chain t ht
    · rw [List.mem_singleton.1 ht]
      exact hs

theorem yields_shape_chain (h : d.Shape surface name slotType?) (chained : String)
    {values : List Literal} (hv : ∀ v ∈ values, PropertyLiteral v) :
    Yields (chain surface chained values d) (Draft.Shape surface name slotType?) := by
  intro d' hd
  obtain ⟨-, rfl⟩ | ⟨target, given, rfl | ⟨rfl, -⟩, rfl⟩ :=
    Draft.chainCall_cases (mapError_eq_ok.1 hd)
  · exact h
  · exact shape_append h (Or.inr ⟨_, _, values, rfl, hv⟩)
  · exact shape_append h (Or.inr ⟨_, _, [], rfl, by simp⟩)

theorem arguments_ofFactory {names : List String} {arguments : List (Argument Node)} :
    Yields (Draft.ofFactory surface names arguments)
      fun d => d.arguments = arguments ∧ d.chain = [] := by
  unfold Draft.ofFactory
  split
  · exact yields_ok ⟨rfl, rfl⟩
  · exact yields_error _

/-- **Shape.** What the parts of a built call are. -/
theorem Built.shape (h : Built surface name slotType? d) : d.Shape surface name slotType? := by
  induction h with
  | @start values slot d hv hs hd =>
    have hd := mapError_eq_ok.1 hd
    obtain ⟨ha, hc⟩ := arguments_ofFactory d hd
    refine ⟨⟨d, by rw [ha]; exact hd, rfl⟩, ⟨values, slot, ha, hv, hs⟩, ?_⟩
    rw [hc]
    simp
  | chain _ _ hv hd ih => exact yields_shape_chain ih _ hv _ hd
  | remarked _ _ hv _ hd ih =>
    exact yields_shape_chain (shape_append ih (Or.inl ⟨_, rfl⟩)) _ hv _ hd

end Convert

/-! ## The shipped surface -/

namespace ElementKind

/-- The type of the calls of a kind. -/
def target : ElementKind → String
  | .testPlan => "DslTestPlan"
  | .threadGroup => "DslDefaultThreadGroup"
  | .transaction => "DslTransactionController"
  | .testFragment | .moduleController => Convert.fragmentType
  | .httpSampler => "DslHttpSampler"
  | .httpHeaders => "HttpHeaders"
  | .httpDefaults => "DslHttpDefaults"
  | .responseAssertion => "DslResponseAssertion"
  | .constantTimer => "DslConstantTimer"
  | .resultsTree => "DslViewResultsTree"

/-- All methods of the factory that start the calls of a kind return one type. -/
theorem resultType_factory (k : ElementKind) : ∀ name ∈ k.factoryMethod?,
    ∀ m ∈ Surface.Default.jmeterDsl.methods, m.name = name → m.resultType m.owner = k.target := by
  cases k <;> decide

end ElementKind

/-- The class whose static members calls are imported from. -/
def factoryClass : String := "us.abstracta.jmeter.javadsl.JmeterDsl"

theorem owner_factory :
    ∀ m ∈ Surface.Default.jmeterDsl.methods, m.owner = Surface.Default.factoryType := by decide

/-- A call of the factory is a call of one of its methods. -/
theorem yields_ofFactory_standard {names : List String} {arguments : List (Argument Node)} :
    Yields (Draft.ofFactory Surface.standard names arguments) fun d =>
      ∃ m ∈ Surface.Default.jmeterDsl.methods, m.name ∈ names ∧
        d.head = { name := some m.name, target := m.resultType m.owner,
                   staticImports := [factoryClass] } := by
  unfold Draft.ofFactory
  split
  · rename_i m hm
    obtain ⟨hmem, hm⟩ := List.mem_filter.1 (List.mem_of_find?_eq_some hm)
    rw [Bool.and_eq_true, List.contains_iff_mem] at hm
    refine yields_ok ⟨m, hmem, hm.2, ?_⟩
    unfold Draft.ofMethod
    rw [owner_factory m hmem]
    rfl
  · exact yields_error _

/-- **Heads.** The call of an element is of the type of its kind. It imports the factory with its
members and nothing else, unless it is that of a module controller, which imports nothing. -/
theorem head_of_convert {k : ElementKind} {e : Element} :
    Yields (k.convert Surface.standard e) fun call => ∀ d ∈ call,
      d.head.target = k.target ∧ d.head.imports = [] ∧
        d.head.staticImports = if k = .moduleController then [] else [factoryClass] := by
  intro call hc d hd
  obtain ⟨name, hk, h⟩ | ⟨rfl, name, -, rfl⟩ := ElementKind.yields_cases call hc d hd
  · obtain ⟨d₀, hd₀, hh⟩ := h.shape.started
    obtain ⟨m, hm, hname, hd₀⟩ := yields_ofFactory_standard _ hd₀
    rw [hh, hd₀, if_neg (by rintro rfl; cases hk)]
    exact ⟨k.resultType_factory name hk m hm (List.mem_singleton.1 hname), rfl, rfl⟩
  · exact ⟨rfl, rfl, rfl⟩

end PlanCode
