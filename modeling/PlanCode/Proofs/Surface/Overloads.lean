import PlanCode.Call.Layout
import PlanCode.Proofs.Convert.Shape
import PlanCode.Proofs.Surface.Resolution

/-!
# Overloads

Two ways lead to a static method: the first of a name that takes the arguments, and
the only one that does. They come to the same where no two methods of one name take
the same arguments. Types that nothing but themselves can stand for tell overloads
apart: if two such types stand at one place of two methods, no argument suits both.

* `eq_of_isLone`: a lone type takes values of its own only.
* `length_filter_le_one`: methods that are told apart in pairs never apply together.
* `firstAccepting?_eq_some_iff`: the first match of a factory is the only one.
* `callText_qualified`: a qualified name stands in front of the same text.
* `staticCalls_agree`: all of this on the shipped surface.
-/
namespace PlanCode

namespace Layout

/-- A qualifier of the name comes first in the text of a call without comments. -/
theorem callText_qualified (head qualified : Head) {qualifier name : String}
    (hn : head.name = some name) (hq : qualified.name = some (qualifier ++ name))
    (hc : head.commented = false) (hc' : qualified.commented = false) (hh : head.heading = none)
    (hh' : qualified.heading = none) (indent arguments chain : List Char) :
    callText qualified indent arguments chain =
      qualifier.toList ++ callText head indent arguments chain := by
  unfold callText
  rw [hn, hq, hc, hc', hh, hh']
  simp only [Bool.false_eq_true, if_false, nameText]
  split <;> simp

end Layout

namespace Surface

variable {s : Surface} {m m' : Method} {methods : List Method} {name formal actual : String}
  {types : List String}

/-! ## Types that tell overloads apart -/

/-- Nothing but the type itself can stand for it: it is no array, not `Object`, and not above any
other type. -/
def isLone (s : Surface) (name : String) : Bool :=
  (elementType? name).isNone && name != objectType &&
    s.types.all fun t => !t.directSupertypes.contains name

/-- Methods of different names or with different numbers of parameters, or with two different lone
types at one place. -/
def areApart (s : Surface) (m m' : Method) : Bool :=
  m.name != m'.name || m.parameters.length != m'.parameters.length ||
    (m.parameters.zip m'.parameters).any fun (formal, formal') =>
      formal != formal' && s.isLone formal && s.isLone formal'

/-- No two of the methods can be mistaken for each other. -/
def TellsApart (s : Surface) (methods : List Method) : Prop :=
  methods.Pairwise fun m m' => s.areApart m m' = true

instance : Decidable (s.TellsApart methods) := by
  unfold TellsApart
  infer_instance

theorem eq_of_isLone (h : s.isLone formal = true) (ha : s.isAssignable formal actual = true) :
    actual = formal := by
  simp only [isLone, Bool.and_eq_true, Option.isNone_iff_eq_none, bne_iff_ne, ne_eq,
    List.all_eq_true, Bool.not_eq_true', List.contains_eq_mem, decide_eq_false_iff_not] at h
  obtain ⟨⟨hplain, hobject⟩, hbelow⟩ := h
  have hplain := elementType?_eq_none.1 hplain
  induction actual using name_cases with
  | array actual _ => exact absurd ha (not_isAssignable_plain_array hplain hobject)
  | plain actual hactual =>
    rw [isAssignable_plain hplain hactual hobject] at ha
    obtain rfl | ⟨_, -, t, ht, hup⟩ := ha.cases_tail
    · rfl
    · exact absurd (mem_directSupertypes.2 hup) (hbelow t (List.mem_of_find?_eq_some ht))

theorem not_takes_both {formals formals' : List String}
    (h : ((formals.zip formals').any fun (formal, formal') =>
      formal != formal' && s.isLone formal && s.isLone formal') = true)
    (ht : s.Takes formals types) : ¬ s.Takes formals' types := by
  unfold Takes at ht
  induction ht generalizing formals' with
  | nil => simp at h
  | cons ha _ ih =>
    intro ht'
    cases ht' with
    | cons ha' ht' =>
      rw [List.zip_cons_cons, List.any_cons, Bool.or_eq_true] at h
      obtain h | h := h
      · simp only [Bool.and_eq_true, bne_iff_ne, ne_eq] at h
        obtain ⟨⟨hne, hl⟩, hl'⟩ := h
        exact hne ((eq_of_isLone hl ha).symm.trans (eq_of_isLone hl' ha'))
      · exact ih h ht'

theorem not_accepts_both (h : s.areApart m m' = true) (hn : m.name = m'.name)
    (ha : s.accepts m types = true) : s.accepts m' types = false := by
  rw [Bool.eq_false_iff]
  intro ha'
  rw [accepts_iff] at ha ha'
  simp only [areApart, Bool.or_eq_true, bne_iff_ne, ne_eq] at h
  obtain (h | h) | h := h
  · exact h hn
  · exact h ((List.Forall₂.length_eq ha).trans (List.Forall₂.length_eq ha').symm)
  · exact not_takes_both h ha ha'

/-- **Overloads.** Of methods that are told apart, at most one of a name takes some arguments,
whatever else is asked of it. -/
theorem length_filter_le_one (h : s.TellsApart methods) (name : String) (types : List String)
    {p : Method → Bool} (hp : ∀ m, p m = true → m.name = name ∧ s.accepts m types = true) :
    (methods.filter p).length ≤ 1 := by
  unfold TellsApart at h
  induction h with
  | nil => exact Nat.zero_le 1
  | @cons m methods hm _ ih =>
    rw [List.filter_cons]
    split
    · rename_i hpm
      obtain ⟨hn, ha⟩ := hp m hpm
      have hrest : methods.filter p = [] := by
        refine List.filter_eq_nil_iff.2 fun m' hm' hpm' => ?_
        obtain ⟨hn', ha'⟩ := hp m' hpm'
        rw [not_accepts_both (hm m' hm') (hn.trans hn'.symm) ha] at ha'
        cases ha'
      rw [hrest, List.length_singleton]
    · exact ih

/-! ## The first and the only one -/

/-- The methods of a type that a static call of a name can be of. -/
def staticOverloads (s : Surface) (t : DslType) (name : String) (types : List String) :
    List Method :=
  t.methods.filter fun m => m.name == name && m.isStatic && m.isPublic && s.accepts m types

theorem length_staticOverloads_le_one {t : DslType} (h : s.TellsApart t.methods) (name : String)
    (types : List String) : (s.staticOverloads t name types).length ≤ 1 := by
  refine length_filter_le_one h name types fun m hm => ?_
  simp only [Bool.and_eq_true, beq_iff_eq] at hm
  exact ⟨hm.1.1.1, hm.2⟩

theorem firstAccepting?_factoryMethods {t : DslType}
    (ht : s.find? Default.factoryType = some t) (name : String) (types : List String) :
    s.firstAccepting? (Draft.factoryMethods s [name]) types =
      (s.staticOverloads t name types).head? := by
  unfold firstAccepting? Draft.factoryMethods staticOverloads
  rw [ht]
  dsimp only
  rw [List.find?_filter, List.head?_filter]
  congr 1
  funext m
  simp [beq_eq_decide, Bool.and_comm, Bool.and_left_comm, Bool.and_assoc]

theorem findStaticMethod_eq_ok {type : String} {t : DslType} (ht : s.find? type = some t)
    (h : (s.staticOverloads t name types).length ≤ 1) :
    s.findStaticMethod type name types = .ok m ↔
      (s.staticOverloads t name types).head? = some m := by
  have hfilter : (t.methods.filter fun m =>
      m.name == name && m.isStatic && m.isPublic && s.accepts m types) =
        s.staticOverloads t name types := rfl
  unfold findStaticMethod
  rw [ht]
  dsimp only
  rw [hfilter]
  generalize s.staticOverloads t name types = overloads at h
  cases overloads with
  | nil => simp
  | cons m' rest =>
    rw [List.length_cons] at h
    obtain rfl : rest = [] := List.eq_nil_of_length_eq_zero (by omega)
    simp

/-- **First and only.** Where the methods of the factory are told apart, the first one of a name
that takes some arguments is the only one. -/
theorem firstAccepting?_eq_some_iff {t : DslType} (ht : s.find? Default.factoryType = some t)
    (h : s.TellsApart t.methods) (name : String) (types : List String) (m : Method) :
    s.firstAccepting? (Draft.factoryMethods s [name]) types = some m ↔
      s.findStaticMethod Default.factoryType name types = .ok m := by
  rw [firstAccepting?_factoryMethods ht,
    findStaticMethod_eq_ok ht (length_staticOverloads_le_one h name types)]

/-! ## The shipped surface -/

theorem tellsApart_standard : ∀ t ∈ standard.types, standard.TellsApart t.methods := by
  decide +kernel

theorem find?_factoryType : standard.find? Default.factoryType = some Default.jmeterDsl := rfl

theorem qualifiedName_factory : Default.jmeterDsl.qualifiedName = factoryClass := by rfl

theorem tellsApart_factory : standard.TellsApart Default.jmeterDsl.methods :=
  tellsApart_standard _ (List.mem_of_find?_eq_some find?_factoryType)

theorem mem_factory_of_firstAccepting? (h : standard.firstAccepting?
    (Draft.factoryMethods standard [name]) types = some m) : m ∈ Default.jmeterDsl.methods :=
  (List.mem_filter.1 (List.mem_of_find?_eq_some h)).1

theorem ofFactory_eq_ok {arguments : List (Argument Node)} {d : Draft Node} :
    Draft.ofFactory standard [name] arguments = .ok d ↔
      ∃ m, standard.firstAccepting? (Draft.factoryMethods standard [name])
        (Argument.activeTypes arguments) = some m ∧ d = Draft.ofMethod standard m arguments := by
  unfold Draft.ofFactory
  split
  · rename_i m hm
    simp [hm, eq_comm]
  · rename_i hn
    simp [hn]

theorem qualified_eq_ok {arguments : List (Argument Node)} {d : Draft Node} :
    Draft.qualified standard Default.factoryType name arguments = .ok d ↔
      ∃ m, standard.findStaticMethod Default.factoryType name
        (Argument.activeTypes arguments) = .ok m ∧
        d = { head := { name := some (Default.factoryType ++ "." ++ m.name),
                        target := m.resultType Default.factoryType, imports := [factoryClass] },
              arguments } := by
  unfold Draft.qualified
  split
  · rename_i m hm
    rw [hm]
    simp [eq_comm, find?_factoryType, qualifiedName_factory]
  · rename_i fault hf
    simp [hf]

/-- A qualified call of a method is written like the plain one, behind the qualifier. -/
theorem code_qualified (m : Method) (arguments : List (Argument Node)) (indent : String) :
    (Draft.toNode { head := { name := some (Default.factoryType ++ "." ++ m.name),
                              target := m.resultType Default.factoryType,
                              imports := [factoryClass] },
                    arguments }).code indent =
      "JmeterDsl." ++ (Draft.ofMethod standard m arguments).toNode.code indent := by
  let head := (Draft.ofMethod standard m arguments).head
  let qualified : Head :=
    { name := some (Default.factoryType ++ "." ++ m.name),
      target := m.resultType Default.factoryType, imports := [factoryClass] }
  let written := Layout.argumentList
    (Layout.argumentParts (indent.toList ++ Layout.indentStep) arguments)
  have hcall : Layout.callText qualified indent.toList written [] =
      (Default.factoryType ++ ".").toList ++ Layout.callText head indent.toList written [] :=
    Layout.callText_qualified head qualified rfl rfl rfl rfl rfl rfl ..
  refine (congrArg String.ofList hcall).trans ?_
  rw [String.ofList_append, String.ofList_toList]
  rfl

/-- **Static calls.** On the shipped surface no two methods of the factory with one name take the
same arguments. The first that takes them is therefore found exactly when the only one is found, it
is the same method, and the calls made of it have one type and one text, but for the qualifier. Nor
does a type declare two methods of one name that take the same arguments and are not static. -/
theorem staticCalls_agree (name : String) (arguments : List (Argument Node)) :
    (Default.jmeterDsl.methods.filter fun m =>
      m.name == name && standard.accepts m (Argument.activeTypes arguments)).length ≤ 1 ∧
    (∀ m, standard.firstAccepting? (Draft.factoryMethods standard [name])
        (Argument.activeTypes arguments) = some m ↔
      standard.findStaticMethod Default.factoryType name (Argument.activeTypes arguments) = .ok m) ∧
    ((∃ d, Draft.ofFactory standard [name] arguments = .ok d) ↔
      ∃ d, Draft.qualified standard Default.factoryType name arguments = .ok d) ∧
    (∀ d d', Draft.ofFactory standard [name] arguments = .ok d →
      Draft.qualified standard Default.factoryType name arguments = .ok d' →
        d'.head.target = d.head.target ∧ d'.toNode.isWritable = d.toNode.isWritable ∧
        ∀ indent, d'.toNode.code indent = "JmeterDsl." ++ d.toNode.code indent) ∧
    ∀ t ∈ standard.types, ∀ name types, (t.methods.filter fun m =>
      m.name == name && !m.isStatic && standard.accepts m types).length ≤ 1 := by
  have hagree := firstAccepting?_eq_some_iff find?_factoryType tellsApart_factory name
    (Argument.activeTypes arguments)
  refine ⟨?_, hagree, ?_, ?_, ?_⟩
  · refine length_filter_le_one tellsApart_factory name (Argument.activeTypes arguments) ?_
    intro m hm
    simpa using hm
  · simp only [ofFactory_eq_ok, qualified_eq_ok, hagree]
    constructor <;> rintro ⟨d, m, hm, -⟩ <;> exact ⟨_, m, hm, rfl⟩
  · intro d d' hd hd'
    obtain ⟨m, hm, rfl⟩ := ofFactory_eq_ok.1 hd
    obtain ⟨m', hm', rfl⟩ := qualified_eq_ok.1 hd'
    obtain rfl : m = m' := Except.ok.inj (((hagree m).1 hm).symm.trans hm')
    have ho := owner_factory m (mem_factory_of_firstAccepting? hm)
    exact ⟨by rw [← ho]; rfl, rfl, code_qualified m arguments⟩
  · intro t ht name types
    refine length_filter_le_one (tellsApart_standard t ht) name types fun m hm => ?_
    simp only [Bool.and_eq_true, beq_iff_eq] at hm
    exact ⟨hm.1.1, hm.2⟩

/-- Of six thread groups, the one for a while takes any elements as its children. -/
example : (standard.findStaticMethod Default.factoryType "threadGroup"
    ["int", "Duration", "MultiLevelTestElement[]"]).toOption.map (·.parameters) =
      some ["int", "Duration", "ThreadGroupChild[]"] := by decide +kernel

end Surface
end PlanCode
