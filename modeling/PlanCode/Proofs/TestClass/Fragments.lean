import PlanCode.Proofs.Plan.Written
import PlanCode.Proofs.TestClass.Methods

/-!
# The methods of fragments

The fragments right under the root of a plan become methods of the class, in
their order. Of several fragments that are named alike as methods only the last
one gets a method, in the place of the first; no warning tells of the others.

* `methods_of_generate`: each fragment has its own method exactly when no two of the methods'
  names are the same, and none is that of the test.
* `not_ownMethods_logIn`: one of two fragments that are named alike is lost.
-/
namespace PlanCode

open PlanCode.Text PlanCode.Layout

/-- A method of a class returns the call of a fragment. -/
def DeclaredMethod.Returns (g : Generator) (f : Element) (m : DeclaredMethod) : Prop :=
  ∃ own, g.convertElement (.top true) f = .ok own ∧ m.body = returnLines own.node

/-- Each fragment right under the root of a plan has its own method in a class: there are as many
methods as fragments, each returns the call of its fragment, and they are named differently from
each other and from the test. -/
def OwnMethods (g : Generator) (plan : Element) (c : TestClass) : Prop :=
  List.Forall₂ (DeclaredMethod.Returns g) (plan.children.filter (·.isFragment))
    (declaredMethods c.code) ∧
  ((declaredMethods c.code).map (·.name) ++ [g.settings.testMethodName]).Nodup

theorem space_not_mem_fragmentMethod (name : String) :
    ' ' ∉ (Convert.fragmentMethod name).toList := fun h =>
  absurd ((Convert.isAlphanum_fragmentMethod name).1 ' ' h) (by decide)

/-- The names of methods have no spaces in them. -/
theorem space_not_mem_methods {plan m : Element} {name : String} (h : (name, m) ∈ plan.methods) :
    ' ' ∉ name.toList := by
  rcases Entries.mem_of_mem_putAll h with h | h
  · cases h
  · obtain ⟨f, -, hf⟩ := List.mem_map.1 h
    rw [← (Prod.mk.inj hf).1]
    exact space_not_mem_fragmentMethod f.name

/-- The methods are named as the fragments are. -/
theorem Element.mem_map_fst_methods {plan : Element} {name : String} :
    name ∈ plan.methods.map (·.1) ↔ name ∈ plan.fragments.map (·.1) := by
  rw [Element.methods, Entries.mem_map_fst_putAll, List.map_nil]
  simp

/-- A class is made of the call of a plan, which holds the methods of the plan. -/
theorem exists_parts_of_generate {g : Generator} (hs : g.surface = Surface.standard)
    (hk : g.kinds = ElementKind.all) {plan : Element} {c : TestClass}
    (hc : g.generate plan = .ok c) :
    ∃ root, g.Parts c root ∧
      (∀ d ∈ root.definitions g.surface, ' ' ∉ d.1.toList) ∧
      List.Forall₂ (fun m d => d.1 = m.1 ∧
          ∃ own, g.convertElement (.top true) m.2 = .ok own ∧ d.2 = own.node)
        plan.methods (root.definitions g.surface) := by
  obtain ⟨converted, hconv, hp⟩ := Generator.generate_parts (hs ▸ freeSurface_standard) hc
  obtain ⟨converted', hconv', hne⟩ := Generator.exists_of_generate hc
  obtain rfl := Except.ok.inj (hconv.symm.trans hconv')
  obtain ⟨-, hm⟩ := Generator.mirrorsPlan_of_convertElement hk hconv hne
  refine ⟨converted.node, hp, ?_, hm⟩
  intro d hd
  obtain ⟨m, hmem, hname, -⟩ := exists_of_forall₂ hm hd
  rw [hname]
  exact space_not_mem_methods hmem

/-- A class that is generated with accepted settings declares the methods of its plan, each with the
call of the fragment that it is made from. -/
theorem returns_of_generate {entries : List (Datum × Datum)} {source : String} {s : Settings}
    (hs : Settings.ofEntries entries source = .ok s) {plan : Element} {c : TestClass}
    (hc : ({ settings := s } : Generator).generate plan = .ok c) :
    List.Forall₂ (fun m d => d.name = m.1 ∧ DeclaredMethod.Returns { settings := s } m.2 d)
      plan.methods (declaredMethods c.code) := by
  obtain ⟨hn, ht⟩ := Settings.isIdentifier_of_ofEntries hs
  obtain ⟨root, hp, hspace, hm⟩ := exists_parts_of_generate rfl rfl hc
  rw [declaredMethods_code hp hn ht hspace, List.forall₂_map_right_iff]
  refine hm.imp ?_
  rintro m ⟨name, body⟩ ⟨hname, own, hown, rfl⟩
  exact ⟨hname, own, hown, rfl⟩

/-- The names of the declared methods are those of the methods of the plan. -/
theorem names_of_generate {entries : List (Datum × Datum)} {source : String} {s : Settings}
    (hs : Settings.ofEntries entries source = .ok s) {plan : Element} {c : TestClass}
    (hc : ({ settings := s } : Generator).generate plan = .ok c) :
    (declaredMethods c.code).map (·.name) = plan.methods.map (·.1) :=
  map_eq_of_forall₂ (fun _ _ h => h.1) (returns_of_generate hs hc)

/-- **Methods.** In a class that is generated with accepted settings, the methods are those of the
plan, each with the call of its fragment. Every fragment has its own one exactly when the methods
that the fragments are made into are named differently from each other and from the test. -/
theorem methods_of_generate {entries : List (Datum × Datum)} {source : String} {s : Settings}
    (hs : Settings.ofEntries entries source = .ok s) {plan : Element} {c : TestClass}
    (hc : ({ settings := s } : Generator).generate plan = .ok c) :
    List.Forall₂ (fun m d => d.name = m.1 ∧ DeclaredMethod.Returns { settings := s } m.2 d)
      plan.methods (declaredMethods c.code) ∧
    (OwnMethods { settings := s } plan c ↔
      (plan.fragments.map (·.1) ++ [s.testMethodName]).Nodup) := by
  have hr := returns_of_generate hs hc
  have hall : (plan.fragments.map (·.1)).Nodup → plan.methods = plan.fragments :=
    fun h => Entries.putAll_of_nodup h
  refine ⟨hr, ?_⟩
  unfold OwnMethods
  rw [names_of_generate hs hc]
  constructor
  · rintro ⟨hown, hnodup⟩
    have hlength : plan.methods.length = plan.fragments.length := by
      rw [hr.length_eq, ← hown.length_eq, Element.fragments, List.length_map]
    have hf : (plan.fragments.map (·.1)).Nodup :=
      @Entries.nodup_of_length_putAll _ [] _ List.nodup_nil (hlength.trans (Nat.zero_add _).symm)
    rwa [hall hf] at hnodup
  · intro hnodup
    have hm := hall (List.nodup_append.1 hnodup).1
    rw [hm]
    rw [hm, Element.fragments, List.forall₂_map_left_iff] at hr
    exact ⟨hr.imp fun f d h => h.2, hnodup⟩

/-- A plan of two fragments. -/
def twoFragments (first second : String) : Element where
  kind := "TestPlan"
  children := [
    { kind := "TestFragmentController", name := first,
      children := [{ kind := "TransactionController", name := "open" }] },
    { kind := "TestFragmentController", name := second }]

theorem methods_of_generate_twoFragments : ∃ c,
    ({} : Generator).generate (twoFragments "Log in" "Log out") = .ok c ∧
      OwnMethods {} (twoFragments "Log in" "Log out") c := by
  have hs : Settings.ofEntries [] = .ok {} := rfl
  have ok : (({} : Generator).generate (twoFragments "Log in" "Log out")).toOption.isSome =
      true := by decide +kernel
  cases hc : ({} : Generator).generate (twoFragments "Log in" "Log out") with
  | error e => rw [hc] at ok; cases ok
  | ok c => exact ⟨c, rfl, (methods_of_generate hs hc).2.2 (by decide +kernel)⟩

/-- Names of different words are not always made into different methods: here the method is that of
the second fragment, and the first one is nowhere. -/
theorem not_ownMethods_logIn : ∃ c m,
    ({} : Generator).generate (twoFragments "Log in" "log-in") = .ok c ∧
      declaredMethods c.code = [m] ∧ m.body = ["    return fragment(\"log-in\");"] ∧
      ¬ OwnMethods {} (twoFragments "Log in" "log-in") c := by
  have hs : Settings.ofEntries [] = .ok {} := rfl
  have ok : (({} : Generator).generate (twoFragments "Log in" "log-in")).toOption.isSome =
      true := by decide +kernel
  have lone : (twoFragments "Log in" "log-in").methods =
      [("logIn", { kind := "TestFragmentController", name := "log-in" })] := by rfl
  have body : (({} : Generator).convertElement (.top true)
      { kind := "TestFragmentController", name := "log-in" }).toOption.map
        (returnLines ·.node) = some ["    return fragment(\"log-in\");"] := by decide +kernel
  cases hc : ({} : Generator).generate (twoFragments "Log in" "log-in") with
  | error e => rw [hc] at ok; cases ok
  | ok c =>
    have hr := returns_of_generate hs hc
    rw [lone] at hr
    obtain ⟨m, rest, ⟨-, own, hown, hm⟩, hrest, hdeclared⟩ := List.forall₂_cons_left_iff.1 hr
    obtain rfl := List.forall₂_nil_left_iff.1 hrest
    rw [hown] at body
    refine ⟨c, m, rfl, hdeclared, hm.trans (Option.some.inj body), fun h => ?_⟩
    have hlength := h.1.length_eq
    rw [hdeclared, List.length_singleton] at hlength
    exact absurd hlength (by decide +kernel)

end PlanCode
