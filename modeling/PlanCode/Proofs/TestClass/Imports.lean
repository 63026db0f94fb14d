import PlanCode.Proofs.Convert.Shape
import PlanCode.Proofs.Duration.Form
import PlanCode.Proofs.Plan.Written

/-!
# The imports of generated classes

A class imports what its code needs and nothing else. Needed are the annotation
of the test, the exception that running a plan may end in, the class of the
fragments if the class has a method for one, and the class of each argument that
is written, in whatever call. The members of the factory are needed if some
written call is made by it.

* `PropertyLiteral.mem_imports`: the class of a written literal is told by its type.
* `isConverted_of_mirrors`: all written calls are made of properties.
* `MirrorsPlan.mem_imports`: what the tree of a plan needs.
* `imports_of_generate`: the imports of a class, each once and in order.
-/
namespace PlanCode

/-! ## Literals -/

theorem Duration.code_ne_empty (d : Duration) : d.code ≠ "" := by
  rcases d.code_cases with h | ⟨f, count, h⟩
  · rw [h]
    decide
  · rw [h]
    intro he
    have := congrArg String.length he
    simp at this

/-- What properties become needs a class imported if it is a duration or a field of the response,
and has a value. -/
theorem PropertyLiteral.mem_imports {v : Literal} (h : PropertyLiteral v) (i : String) :
    i ∈ v.imports ↔ v.code ≠ "" ∧ (i = Literal.durationClass ∧ v.type = "Duration" ∨
      i = Convert.targetFieldClass ∧ v.type = Convert.targetFieldType) := by
  have other : v.imports = [] → v.type ≠ "Duration" → v.type ≠ Convert.targetFieldType →
      (i ∈ v.imports ↔ v.code ≠ "" ∧ (i = Literal.durationClass ∧ v.type = "Duration" ∨
        i = Convert.targetFieldClass ∧ v.type = Convert.targetFieldType)) := by
    intro hi hd hf
    simp [hi, hd, hf]
  cases h with
  | string | int | bool | strings =>
    exact other rfl (by simp [Literal.type]) (by simp [Literal.type, Convert.targetFieldType])
  | @duration value =>
    cases value with
    | none => simp [Literal.imports, Literal.code]
    | some d =>
      simp [Literal.imports, Literal.code, d.code_ne_empty, Literal.type, Convert.targetFieldType]
  | @field value =>
    cases value with
    | none => simp [Literal.imports, Literal.code]
    | some c =>
      simp [Literal.imports, Literal.code, Literal.type, Convert.targetFieldType]

/-! ## Written calls -/

namespace WrittenCall

/-- Whether an argument of the type given is written in the call. -/
def hasArgument (type : String) (c : WrittenCall) : Bool :=
  c.arguments.any fun a => match a with
    | .literal v => !v.isIgnored && v.type == type && v.code != ""
    | _ => false

/-- Whether the factory of the shipped surface makes the call from its arguments. -/
def isFactoryCall (c : WrittenCall) : Bool :=
  c.head.name.any fun name => match Draft.ofFactory Surface.standard [name] c.arguments with
    | .ok d => c.head == { d.head with commented := c.head.commented }
    | .error _ => false

theorem hasArgument_iff {c : WrittenCall} {type : String} : c.hasArgument type = true ↔
    ∃ v, .literal v ∈ c.arguments ∧ v.isIgnored = false ∧ v.type = type ∧ v.code ≠ "" := by
  unfold hasArgument
  rw [List.any_eq_true]
  constructor
  · rintro ⟨a, ha, h⟩
    cases a with
    | literal v => exact ⟨v, ha, by simpa [and_assoc] using h⟩
    | bare => cases h
    | children => cases h
  · rintro ⟨v, ha, h⟩
    exact ⟨.literal v, ha, by simpa [and_assoc] using h⟩

/-- What is known of the written calls of a plan. -/
structure IsConverted (c : WrittenCall) : Prop where
  imports : c.head.imports = []
  literals : ∀ v, .literal v ∈ c.arguments → PropertyLiteral v
  source : c.isFactoryCall = true ∨ c.head.staticImports = []

theorem staticImports_of_isFactoryCall {c : WrittenCall} (h : c.isFactoryCall = true) :
    c.head.staticImports = [factoryClass] := by
  unfold isFactoryCall at h
  obtain ⟨name, -, h⟩ := Option.any_eq_true _ _ |>.1 h
  split at h
  · rename_i d hd
    obtain ⟨m, -, -, hm⟩ := yields_ofFactory_standard d hd
    rw [eq_of_beq h, hm]
  · cases h

theorem isFactoryCall_of_ofFactory {name : String} {arguments : List (Argument Node)}
    {d : Draft Node} (hd : Draft.ofFactory Surface.standard [name] arguments = .ok d)
    (commented : Bool) :
    (WrittenCall.mk { d.head with commented } arguments).isFactoryCall = true := by
  obtain ⟨m, -, hname, hm⟩ := yields_ofFactory_standard d hd
  have hn : d.head.name = some name := by rw [hm, List.mem_singleton.1 hname]
  unfold isFactoryCall
  dsimp only
  rw [hn, Option.any_some, hd]
  simp [hn]

/-- What a converted call needs imported. -/
theorem IsConverted.mem_imports {c : WrittenCall} (h : c.IsConverted) (i : String) :
    i ∈ c.imports ↔ i = Literal.durationClass ∧ c.hasArgument "Duration" = true ∨
      i = Convert.targetFieldClass ∧ c.hasArgument Convert.targetFieldType = true := by
  have hmem : i ∈ c.imports ↔
      ∃ v, .literal v ∈ c.arguments ∧ v.isIgnored = false ∧ i ∈ v.imports := by
    rw [WrittenCall.imports, h.imports, List.nil_append, List.mem_flatMap]
    constructor
    · rintro ⟨a, ha, hi⟩
      cases a with
      | literal v =>
        rw [argumentImports] at hi
        split at hi
        · cases hi
        · rename_i hv
          exact ⟨v, ha, Bool.eq_false_iff.2 hv, hi⟩
      | bare => cases hi
      | children => cases hi
    · rintro ⟨v, hv, hig, hi⟩
      refine ⟨.literal v, hv, ?_⟩
      rwa [argumentImports, if_neg (by simp [hig])]
  rw [hmem, hasArgument_iff, hasArgument_iff]
  constructor
  · rintro ⟨v, hv, hig, hi⟩
    obtain ⟨hcode, ⟨rfl, ht⟩ | ⟨rfl, ht⟩⟩ := ((h.literals v hv).mem_imports i).1 hi
    · exact Or.inl ⟨rfl, v, hv, hig, ht, hcode⟩
    · exact Or.inr ⟨rfl, v, hv, hig, ht, hcode⟩
  · rintro (⟨rfl, v, hv, hig, ht, hcode⟩ | ⟨rfl, v, hv, hig, ht, hcode⟩)
    · exact ⟨v, hv, hig, ((h.literals v hv).mem_imports _).2 ⟨hcode, Or.inl ⟨rfl, ht⟩⟩⟩
    · exact ⟨v, hv, hig, ((h.literals v hv).mem_imports _).2 ⟨hcode, Or.inr ⟨rfl, ht⟩⟩⟩

theorem IsConverted.mem_staticImports {c : WrittenCall} (h : c.IsConverted) (i : String) :
    i ∈ c.head.staticImports ↔ i = factoryClass ∧ c.isFactoryCall = true := by
  constructor
  · intro hi
    rcases h.source with hf | hn
    · rw [staticImports_of_isFactoryCall hf, List.mem_singleton] at hi
      exact ⟨hi, hf⟩
    · rw [hn] at hi
      cases hi
  · rintro ⟨rfl, hf⟩
    rw [staticImports_of_isFactoryCall hf]
    exact List.mem_singleton_self _

end WrittenCall

/-! ## From the plan to the written calls -/

/-- The factory looks at the types of arguments only. -/
theorem ofFactory_of_activeTypes {surface : Surface} {names : List String}
    {arguments arguments' : List (Argument Node)}
    (h : Argument.activeTypes arguments' = Argument.activeTypes arguments) {d : Draft Node}
    (hd : Draft.ofFactory surface names arguments = .ok d) :
    ∃ d', Draft.ofFactory surface names arguments' = .ok d' ∧ d'.head = d.head := by
  unfold Draft.ofFactory at hd ⊢
  rw [h]
  split at hd
  · rename_i m hm
    obtain rfl := Except.ok.inj hd
    exact ⟨_, rfl, rfl⟩
  · cases hd

theorem activeTypes_slot (init : List (Argument Node)) (type : String) (nodes : List Node) :
    Argument.activeTypes (init ++ [.children type nodes]) =
      Argument.activeTypes (init ++ [.children type []]) := by
  simp [Argument.activeTypes, Argument.active, Argument.isIgnored, Argument.type]

/-- What is known of a converted draft, whatever children are put behind its other arguments. -/
structure Draft.IsConverted (d : Draft Node) : Prop where
  call : ∀ arguments commented, Argument.activeTypes arguments = Argument.activeTypes d.arguments →
    (∀ v, .literal v ∈ arguments → .literal v ∈ d.arguments) →
    (WrittenCall.mk { d.head with commented } arguments).IsConverted
  chain : ∀ slot, ∀ m ∈ d.chain.map (segmentNode slot), ∀ indent, ∀ c ∈ m.written indent,
    c.IsConverted

theorem isConverted_chained {name target : String} {values : List Literal}
    (hv : ∀ v ∈ values, PropertyLiteral v) :
    (WrittenCall.mk { name := some name, target } (Convert.literals values)).IsConverted where
  imports := rfl
  literals v h := by
    obtain ⟨w, hw, he⟩ := List.mem_map.1 h
    cases he
    exact hv v hw
  source := Or.inr rfl

theorem Draft.Shape.isConverted {name : String} {slotType? : Option String} {d : Draft Node}
    (h : d.Shape Surface.standard name slotType?) : d.IsConverted where
  call arguments commented ht hl := by
    obtain ⟨d₀, hd₀, hh⟩ := h.started
    obtain ⟨m, -, -, hm⟩ := yields_ofFactory_standard _ hd₀
    obtain ⟨d', hd', hh'⟩ := ofFactory_of_activeTypes ht hd₀
    refine ⟨by rw [hh, hm], fun v hv => ?_, Or.inl ?_⟩
    case refine_2 =>
      rw [hh, ← hh']
      exact WrittenCall.isFactoryCall_of_ofFactory hd' commented
    obtain ⟨values, slot, ha, hvalues, hs⟩ := h.arguments
    have hv := hl v hv
    rw [ha, List.mem_append] at hv
    rcases hv with hv | hv
    · obtain ⟨w, hw, he⟩ := List.mem_map.1 hv
      cases he
      exact hvalues v hw
    · obtain rfl | ⟨type, -, rfl⟩ := hs
      · cases hv
      · cases List.mem_singleton.1 hv
  chain slot m hm indent c hc := by
    obtain ⟨s, hs, rfl⟩ := List.mem_map.1 hm
    obtain ⟨text, rfl⟩ | ⟨chained, target, values, rfl, hv⟩ := h.chain s hs
    · cases hc
    · rw [segmentNode, Node.written, Node.writtenArguments_eq,
        List.flatMap_eq_nil_iff.2 (Convert.nodes_literals values)] at hc
      obtain rfl := List.mem_singleton.1 hc
      exact isConverted_chained hv

theorem isConverted_of_convert {k : ElementKind} {e : Element} :
    Yields (k.convert Surface.standard e) fun call => ∀ d ∈ call, d.IsConverted := by
  intro call hc d hd
  obtain ⟨name, -, h⟩ | ⟨-, name, -, rfl⟩ := ElementKind.yields_cases call hc d hd
  · exact h.shape.isConverted
  · refine ⟨fun arguments commented _ hl => ⟨rfl, fun v hv => ?_, Or.inr rfl⟩, fun slot m hm => ?_⟩
    · cases hl v hv
    · cases hm

/-- The calls in the code of a call are itself and those in what is nested in it or chained to
it. -/
theorem mem_written_call {head : Head} {arguments : List (Argument Node)} {chain : List Node}
    {definitions : List (String × Node)} {indent : List Char} {c : WrittenCall}
    (h : c ∈ (Node.call head arguments chain definitions).written indent) :
    c = ⟨head, arguments⟩ ∨
      (∃ a ∈ arguments, ∃ m ∈ a.nodes, c ∈ m.written (indent ++ Layout.indentStep)) ∨
      ∃ m ∈ chain, c ∈ m.written (indent ++ Layout.indentStep) := by
  rw [Node.written, Node.writtenArguments_eq, Node.writtenNodes_eq, List.mem_cons, List.mem_append,
    List.mem_flatMap, List.mem_flatMap] at h
  refine h.imp_right (Or.imp_left ?_)
  rintro ⟨m, hm, hc⟩
  obtain ⟨a, ha, hm⟩ := List.mem_flatMap.1 hm
  exact ⟨a, ha, m, hm, hc⟩

/-- A written call of an element is one of its own, or in one of the nodes that were put into it. -/
theorem written_of_isCallOf {commented : Bool} {definitions : List (String × Node)} {e : Element}
    {nodes : List Node} {n : Node}
    (h : IsCallOf Surface.standard commented definitions e nodes n) {indent : List Char}
    {c : WrittenCall} (hc : c ∈ n.written indent) :
    c.IsConverted ∨ ∃ m ∈ nodes, ∃ inner, c ∈ m.written inner := by
  obtain ⟨k, d, -, hd, hh⟩ := h.call
  have hf : d.Fresh := ElementKind.yields_fresh _ hd d rfl
  have hd : d.IsConverted := isConverted_of_convert _ hd d rfl
  rw [Draft.toNode_eq] at hh
  obtain ⟨-, rfl⟩ | ⟨init, type, ha, -, rfl⟩ | rfl := Node.holds_call hh
  · rcases mem_written_call hc with rfl | ⟨a, ha, m, hm, -⟩ | ⟨m, hm, hc⟩
    · exact Or.inl (hd.call _ commented rfl fun _ hv => hv)
    · rw [hf.arguments a ha] at hm
      cases hm
    · exact Or.inl (hd.chain _ m hm _ c hc)
  · have ha : d.arguments = init ++ [.children type []] := ha
    rcases mem_written_call hc with rfl | ⟨a, hm, m, hn, hc⟩ | ⟨m, hm, -⟩
    · refine Or.inl (hd.call _ commented ?_ fun v hv => ?_)
      · rw [ha]
        exact activeTypes_slot ..
      · rw [ha]
        rcases List.mem_append.1 hv with hv | hv
        · exact List.mem_append_left _ hv
        · cases List.mem_singleton.1 hv
    · rcases List.mem_append.1 hm with hm | hm
      · rw [hf.arguments a (by rw [ha]; exact List.mem_append_left _ hm)] at hn
        cases hn
      · rw [List.mem_singleton.1 hm] at hn
        exact Or.inr ⟨m, hn, _, hc⟩
    · cases hm
  · rcases mem_written_call hc with rfl | ⟨a, ha, m, hm, -⟩ | ⟨m, hm, hc⟩
    · exact Or.inl (hd.call _ commented rfl fun _ hv => hv)
    · rw [hf.arguments a ha] at hm
      cases hm
    · rcases List.mem_append.1 hm with hm | hm
      · exact Or.inl (hd.chain _ m hm _ c hc)
      · rw [List.mem_singleton.1 hm, Node.written, Node.writtenNodes_eq] at hc
        obtain ⟨m, hm, hc⟩ := List.mem_flatMap.1 hc
        exact Or.inr ⟨m, hm, _, hc⟩

/-- All calls in the code of an element are made of properties. -/
theorem isConverted_of_mirrors {taken : Element → Bool} (e : Element) :
    ∀ {commented : Bool} {n : Node}, Mirrors Surface.standard taken commented e n →
      ∀ indent, ∀ c ∈ n.written indent, c.IsConverted := by
  induction e using Element.children_induction with | step e ih => ?_
  intro commented n h indent c hc
  cases h with
  | intro call children =>
    rcases written_of_isCallOf call hc with h | ⟨m, hm, inner, hc⟩
    · exact h
    · obtain ⟨child, hchild, hm⟩ := exists_of_forall₂ children hm
      exact ih child (List.mem_of_mem_filter hchild) hm inner c hc

/-! ## Classes -/

/-- The calls in the code of a class: those of its test and those of its methods. -/
def Node.writtenInClass (root : Node) : List WrittenCall :=
  root.written "    ".toList ++
    (root.definitions Surface.standard).flatMap fun d => d.2.written "      ".toList

def fragmentClass : String :=
  "us.abstracta.jmeter.javadsl.core.controllers.DslTestFragmentController"

/-- The imports of a class are those that its code needs. -/
structure ExactImports (s : Settings) (root : Node) (c : TestClass) : Prop where
  imports : ∀ i, i ∈ c.imports ↔
    i = "org.junit.jupiter.api.Test" ∨
    i = "java.io.IOException" ∧ s.includeRun = true ∨
    i = "java.time.Duration" ∧
      (∃ call ∈ root.writtenInClass, call.hasArgument "Duration" = true) ∨
    i = Convert.targetFieldClass ∧
      (∃ call ∈ root.writtenInClass, call.hasArgument "TargetField" = true) ∨
    i = fragmentClass ∧ root.definitions Surface.standard ≠ []
  staticImports : ∀ i, i ∈ c.staticImports ↔
    i = factoryClass ∧ ∃ call ∈ root.writtenInClass, call.isFactoryCall = true
  ordered : c.imports.Pairwise (· < ·) ∧ c.staticImports.Pairwise (· < ·)

/-- The methods of a plan are declared with the type of fragments. -/
theorem typeImport?_of_fragment {taken : Element → Bool} {f : Element} (hf : f.isFragment = true)
    {n : Node} (h : Mirrors Surface.standard taken false f n) :
    n.typeImport? Surface.standard = some fragmentClass := by
  cases h with
  | intro call =>
    obtain ⟨k, d, arguments, chain, hk, hd, rfl⟩ := call.eq_call
    rw [Element.isFragment_eq hk, beq_iff_eq] at hf
    subst hf
    have ht : d.head.target = Convert.fragmentType := (head_of_convert _ hd d rfl).1
    unfold Node.typeImport? Node.target?
    dsimp only
    rw [ht]
    decide

theorem isFragment_of_mem_methods {plan : Element} {m : String × Element} (h : m ∈ plan.methods) :
    m.2.isFragment = true := by
  obtain ⟨f, hf, rfl⟩ :=
    List.mem_map.1 ((Entries.mem_of_mem_putAll h).resolve_left (by simp))
  exact (List.mem_filter.1 hf).2

section

variable {s : Settings} {plan : Element} {root : Node}
  (h : MirrorsPlan Surface.standard (Element.isWritten s) plan.methods plan root)

include h

/-- The body of a method is that of a fragment. -/
theorem MirrorsPlan.fragment_of_mem {d : String × Node}
    (hd : d ∈ root.definitions Surface.standard) : ∃ f, f.isFragment = true ∧
      Mirrors Surface.standard (Element.isWritten s false) false f d.2 := by
  obtain ⟨m, hmem, -, hm⟩ := exists_of_forall₂ h.2 hd
  exact ⟨m.2, isFragment_of_mem_methods hmem, hm⟩

theorem MirrorsPlan.covers_body {d : String × Node}
    (hd : d ∈ root.definitions Surface.standard) :
    (d.2.needs Surface.standard).Covers [] (d.2.written "      ".toList) := by
  obtain ⟨f, -, hf⟩ := h.fragment_of_mem hd
  exact Node.covers_needs _ _ hf.plain

/-- The root is a call with methods, and no part of it defines any. -/
theorem MirrorsPlan.exists_call : ∃ head arguments chain definitions,
    root = .call head arguments chain definitions ∧
      (∀ a ∈ arguments, ∀ n ∈ a.nodes, n.Plain Surface.standard) ∧
      ∀ n ∈ chain, n.Plain Surface.standard := by
  obtain ⟨⟨nodes, hcall, hn⟩, -⟩ := h
  obtain ⟨k, d, -, hd, hh⟩ := hcall.call
  have hplain : ∀ n ∈ nodes, n.Plain Surface.standard := by
    intro n hmem
    obtain ⟨child, -, hc⟩ := exists_of_forall₂ hn hmem
    exact hc.plain
  obtain ⟨arguments, chain, hroot, hparts⟩ :=
    Node.plain_of_holds (ElementKind.yields_fresh _ hd d rfl) hh hplain
  exact ⟨_, arguments, chain, _, hroot, hparts⟩

/-- All calls in the code of a plan are made of properties. -/
theorem MirrorsPlan.isConverted {c : WrittenCall} (hc : c ∈ root.writtenInClass) :
    c.IsConverted := by
  rcases List.mem_append.1 hc with hc | hc
  · obtain ⟨⟨nodes, hcall, hn⟩, -⟩ := h
    rcases written_of_isCallOf hcall hc with hc | ⟨m, hmem, inner, hc⟩
    · exact hc
    · obtain ⟨child, -, hm⟩ := exists_of_forall₂ hn hmem
      exact isConverted_of_mirrors child hm inner c hc
  · obtain ⟨m, hmem, hc⟩ := List.mem_flatMap.1 hc
    obtain ⟨f, -, hf⟩ := h.fragment_of_mem hmem
    exact isConverted_of_mirrors f hf _ c hc

/-- The tree of a plan needs imported what the calls of its class need, and the class of fragments
if there are methods. -/
theorem MirrorsPlan.mem_imports (i : String) : i ∈ (root.needs Surface.standard).imports ↔
    (∃ c ∈ root.writtenInClass, i ∈ c.imports) ∨
      i = fragmentClass ∧ root.definitions Surface.standard ≠ [] := by
  have hroot : i ∈ (root.needs Surface.standard).imports ↔
      (∃ c ∈ root.written "    ".toList, i ∈ c.imports) ∨
      ∃ d ∈ root.definitions Surface.standard,
        i ∈ d.2.typeImport? Surface.standard ∨ i ∈ (d.2.needs Surface.standard).imports := by
    obtain ⟨head, arguments, chain, definitions, rfl, ha, hc⟩ := h.exists_call
    exact Node.mem_imports_call ha hc _ i
  rw [hroot]
  unfold Node.writtenInClass
  simp only [List.mem_append, List.mem_flatMap, or_and_right, exists_or]
  rw [or_assoc]
  refine or_congr_right ?_
  constructor
  · rintro ⟨m, hmem, ht | hi⟩
    · obtain ⟨f, hf, hm⟩ := h.fragment_of_mem hmem
      rw [typeImport?_of_fragment hf hm] at ht
      exact Or.inr ⟨(Option.some.inj ht).symm, List.ne_nil_of_mem hmem⟩
    · obtain ⟨c, hc, hi⟩ := (((h.covers_body hmem).imports i).1 hi).resolve_left (by simp)
      exact Or.inl ⟨c, ⟨m, hmem, hc⟩, hi⟩
  · rintro (⟨c, ⟨m, hmem, hc⟩, hi⟩ | ⟨rfl, hne⟩)
    · exact ⟨m, hmem, Or.inr (((h.covers_body hmem).imports i).2 (Or.inr ⟨c, hc, hi⟩))⟩
    · obtain ⟨m, hmem⟩ := List.exists_mem_of_ne_nil _ hne
      obtain ⟨f, hf, hm⟩ := h.fragment_of_mem hmem
      exact ⟨m, hmem, Or.inl (typeImport?_of_fragment hf hm)⟩

theorem MirrorsPlan.mem_staticImports (i : String) :
    i ∈ (root.needs Surface.standard).staticImports ↔
      ∃ c ∈ root.writtenInClass, i ∈ c.head.staticImports := by
  have hroot : i ∈ (root.needs Surface.standard).staticImports ↔
      (∃ c ∈ root.written "    ".toList, i ∈ c.head.staticImports) ∨
      ∃ d ∈ root.definitions Surface.standard,
        i ∈ (d.2.needs Surface.standard).staticImports := by
    obtain ⟨head, arguments, chain, definitions, rfl, ha, hc⟩ := h.exists_call
    exact Node.mem_staticImports_call ha hc _ i
  rw [hroot]
  unfold Node.writtenInClass
  simp only [List.mem_append, List.mem_flatMap, or_and_right, exists_or]
  refine or_congr_right ?_
  constructor
  · rintro ⟨m, hmem, hi⟩
    obtain ⟨c, hc, hi⟩ := ((h.covers_body hmem).staticImports i).1 hi
    exact ⟨c, ⟨m, hmem, hc⟩, hi⟩
  · rintro ⟨c, ⟨m, hmem, hc⟩, hi⟩
    exact ⟨m, hmem, ((h.covers_body hmem).staticImports i).2 ⟨c, hc, hi⟩⟩

/-- The classes of arguments that the calls of a plan need imported. -/
theorem MirrorsPlan.mem_argumentImports (i : String) :
    (∃ call ∈ root.writtenInClass, i ∈ call.imports) ↔
      i = Literal.durationClass ∧
        (∃ call ∈ root.writtenInClass, call.hasArgument "Duration" = true) ∨
      i = Convert.targetFieldClass ∧
        (∃ call ∈ root.writtenInClass, call.hasArgument Convert.targetFieldType = true) := by
  constructor
  · rintro ⟨call, hm, hi⟩
    exact (((h.isConverted hm).mem_imports i).1 hi).imp (And.imp_right fun ha => ⟨call, hm, ha⟩)
      (And.imp_right fun ha => ⟨call, hm, ha⟩)
  · rintro (⟨hi, call, hm, ha⟩ | ⟨hi, call, hm, ha⟩)
    · exact ⟨call, hm, ((h.isConverted hm).mem_imports i).2 (Or.inl ⟨hi, ha⟩)⟩
    · exact ⟨call, hm, ((h.isConverted hm).mem_imports i).2 (Or.inr ⟨hi, ha⟩)⟩

end

/-- **Imports.** A generated class imports exactly what its code needs, each name once and in
order. -/
theorem imports_of_generate {s : Settings} {plan : Element} {c : TestClass}
    (hc : ({ settings := s } : Generator).generate plan = .ok c) :
    ∃ converted, ({ settings := s } : Generator).convertElement .root plan = .ok converted ∧
      c.code = "\n".intercalate (Generator.classLines s converted.node c.imports c.staticImports
        (converted.node.definitions Surface.standard)) ++ "\n" ∧
      ExactImports s converted.node c := by
  obtain ⟨converted, hconv, hne, rfl⟩ := Generator.generate_eq_ok.1 hc
  obtain ⟨hp, -⟩ := Generator.mirrorsPlan_of_convertElement rfl hconv hne
  refine ⟨converted, hconv, rfl, ?_, ?_, Node.pairwise_sortedNames _, Node.pairwise_sortedNames _⟩
  · intro i
    refine Node.mem_sortedNames.trans ?_
    have hown : i ∈ (if s.includeRun then [Generator.runException] else []) ↔
        i = "java.io.IOException" ∧ s.includeRun = true := by
      cases s.includeRun <;> simp [Generator.runException]
    rw [List.mem_append, List.mem_cons, hown, hp.mem_imports i, hp.mem_argumentImports i, or_assoc,
      or_assoc]
    rfl
  · intro i
    refine Node.mem_sortedNames.trans ((hp.mem_staticImports i).trans ?_)
    constructor
    · rintro ⟨call, hm, hi⟩
      obtain ⟨rfl, hf⟩ := ((hp.isConverted hm).mem_staticImports i).1 hi
      exact ⟨rfl, call, hm, hf⟩
    · rintro ⟨rfl, call, hm, hf⟩
      exact ⟨call, hm, ((hp.isConverted hm).mem_staticImports _).2 ⟨rfl, hf⟩⟩

/-- A fragment with an assertion, and a disabled group with a ramp-up, so that the only duration is
in a call that is commented out. -/
def assertingPlan : Element where
  kind := "TestPlan"
  children := [
    { kind := "TestFragmentController", name := "Log in",
      children := [
        { kind := "HTTPSamplerProxy", name := "form",
          children := [
            { kind := "ResponseAssertion",
              properties := [("Assertion.test_field", .text "Assertion.response_code"),
                ("Asserion.test_strings", .list [.text "200"])] }] }] },
    { kind := "ThreadGroup", name := "users", enabled := false,
      properties := [("ThreadGroup.num_threads", .text "5"),
        ("ThreadGroup.ramp_time", .text "10")] }]

theorem imports_of_generate_assertingPlan : ∃ c converted,
    ({} : Generator).generate assertingPlan = .ok c ∧
      ({} : Generator).convertElement .root assertingPlan = .ok converted ∧
      ExactImports {} converted.node c ∧
      "java.time.Duration" ∈ c.imports ∧ Convert.targetFieldClass ∈ c.imports ∧
      fragmentClass ∈ c.imports ∧ factoryClass ∈ c.staticImports := by
  have written : (({} : Generator).convertElement .root assertingPlan).toOption.map
      (fun converted =>
      (converted.node.isEmpty,
      converted.node.writtenInClass.any (·.hasArgument "Duration") &&
        converted.node.writtenInClass.any (·.hasArgument "TargetField"),
      (converted.node.definitions Surface.standard).length,
      converted.node.writtenInClass.any (·.isFactoryCall))) = some (false, true, 1, true) := by
    decide +kernel
  cases hconv : ({} : Generator).convertElement .root assertingPlan with
  | error e => rw [hconv] at written; cases written
  | ok converted =>
    rw [hconv] at written
    obtain ⟨hne, hrest⟩ := Prod.mk.inj (Option.some.inj written)
    obtain ⟨harguments, hrest⟩ := Prod.mk.inj hrest
    obtain ⟨hmethods, hfactory⟩ := Prod.mk.inj hrest
    obtain ⟨c, hc⟩ : ∃ c, ({} : Generator).generate assertingPlan = .ok c :=
      ⟨_, Generator.generate_eq_ok.2 ⟨converted, hconv, hne, rfl⟩⟩
    obtain ⟨_, hconv', -, hexact⟩ := imports_of_generate hc
    obtain rfl := Except.ok.inj (hconv.symm.trans hconv')
    rw [Bool.and_eq_true, List.any_eq_true, List.any_eq_true] at harguments
    refine ⟨c, converted, hc, rfl, hexact, ?_, ?_, ?_, ?_⟩
    · exact (hexact.imports _).2 (Or.inr (Or.inr (Or.inl ⟨rfl, harguments.1⟩)))
    · exact (hexact.imports _).2 (Or.inr (Or.inr (Or.inr (Or.inl ⟨rfl, harguments.2⟩))))
    · refine (hexact.imports _).2 (Or.inr (Or.inr (Or.inr (Or.inr ⟨rfl, ?_⟩))))
      exact List.ne_nil_of_length_pos (hmethods ▸ Nat.one_pos)
    · exact (hexact.staticImports _).2 ⟨rfl, List.any_eq_true.1 hfactory⟩

end PlanCode
