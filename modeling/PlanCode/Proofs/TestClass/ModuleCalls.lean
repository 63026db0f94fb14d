import PlanCode.Proofs.TestClass.Fragments

/-!
# Calls of the class's own methods

A call that needs no class imported is one of a method of the class itself, and
only module controllers become such calls. Which method a module controller
calls is told by the name that it refers to, whether or not there is a fragment
of that name.

* `localMethod?_of_convert`: only the call of a module controller is one of a method of the class.
* `MirrorsPlan.calledMethods_eq`: the methods that a plan calls are those that its live module
  controllers refer to.
* `called_of_generate`: all of them are declared exactly when each one is the method of a fragment
  right under the root.
* `not_called_referringPlan`: a method that is called is not declared.
-/
namespace PlanCode

open PlanCode.Text PlanCode.Layout

/-! ## Calls in a tree -/

/-- The method of the class itself that is called, if the call is one of these. -/
def Head.localMethod? (head : Head) : Option String :=
  if head.staticImports.isEmpty && head.imports.isEmpty then head.name else none

namespace Node

/-- The methods of the class itself that are called outside of what is commented out, in the call of
the plan and in its methods. -/
def calledMethods (surface : Surface) (root : Node) : List String :=
  (root.liveHeads ++ (root.definitions surface).flatMap (·.2.liveHeads)).filterMap
    Head.localMethod?

end Node

/-! ## Calls in a plan -/

namespace Element

/-- The method that a module controller calls. -/
def calls? (e : Element) : Option String :=
  if ElementKind.moduleController.isKindOf e then
    (Convert.referredName? e).map Convert.fragmentMethod
  else none

/-- Whether the call of an element is not commented out if it is in one that is not. -/
def isLive (e : Element) : Bool := e.enabled && e.isKnown && e.hasCall

/-- The elements of a plan whose calls are not commented out: those in the call of the plan, and
those in its methods. -/
def live (plan : Element) : List Element :=
  (if plan.enabled then
    plan :: reached (fun e => e.isLive && !e.isFragment) isLive plan.children else []) ++
    plan.methods.flatMap fun (_, f) => f :: reached isLive isLive f.children

/-- An element that is written without being commented out is live. -/
theorem isWritten_and_enabled (s : Settings) (e : Element) :
    (e.isWritten s false && e.enabled) = e.isLive := by
  unfold isWritten isKept isLive
  cases e.enabled <;> simp

/-- The same right under the root, where the fragments are not in the call of the plan. -/
theorem isWritten_and_enabled_top (s : Settings) (e : Element) :
    (e.isWritten s true && !e.isFragment && e.enabled) = (e.isLive && !e.isFragment) := by
  unfold isWritten isKept isLive
  cases e.enabled <;> cases e.isFragment <;> simp

end Element

/-! ## From the plan to the tree -/

variable {surface : Surface}

/-- Only the call of a module controller is one of a method of the class. -/
theorem localMethod?_of_convert {k : ElementKind} {e : Element} {d : Draft Node}
    (hk : k.isKindOf e = true) (hd : k.convert surface e = .ok (some d)) (commented : Bool) :
    Head.localMethod? { d.head with commented } = e.calls? := by
  unfold Element.calls?
  rw [ElementKind.isKindOf_eq hk]
  by_cases hm : k = .moduleController
  · subst hm
    obtain ⟨name, hn, rfl⟩ := ElementKind.moduleCall?_eq_some (Except.ok.inj hd)
    rw [hn]
    rfl
  · obtain ⟨d', hd', hf⟩ := ElementKind.yields_ofFactory hm _ hd
    obtain rfl := Option.some.inj hd'
    have hi : d.head.staticImports.isEmpty = false := by simpa using hf.imported
    rw [beq_false_of_ne hm]
    simp [Head.localMethod?, hi]

/-- The calls of methods of the class among some calls are those of their elements. -/
theorem filterMap_localMethod? {es : List Element} {heads : List Head}
    (h : List.Forall₂ (IsHeadOf surface) es heads) :
    heads.filterMap Head.localMethod? = es.filterMap Element.calls? := by
  induction h with
  | nil => rfl
  | cons hh _ ih =>
    obtain ⟨k, d, commented, hk, hd, rfl⟩ := hh
    rw [List.filterMap_cons, List.filterMap_cons, localMethod?_of_convert hk hd, ih]

/-- **Calls of methods.** The methods that a plan calls are those that its live module controllers
refer to. -/
theorem MirrorsPlan.calledMethods_eq {s : Settings} {plan : Element} {root : Node}
    (h : MirrorsPlan surface (Element.isWritten s) plan.methods plan root) :
    root.calledMethods surface = plan.live.filterMap Element.calls? := by
  have hl := heads_of_mirrorsPlan (p := (!·)) rfl h
  simp only [Element.isWritten_and_enabled, Element.isWritten_and_enabled_top, Bool.not_not] at hl
  exact filterMap_localMethod? hl

/-! ## Plans -/

/-- **Module calls.** In a class that is generated with accepted settings, the methods that are
called are those that live module controllers refer to. All of them are declared exactly when each
one is the method of a fragment right under the root. -/
theorem called_of_generate {entries : List (Datum × Datum)} {source : String} {s : Settings}
    (hs : Settings.ofEntries entries source = .ok s) {plan : Element} {c : TestClass}
    (hc : ({ settings := s } : Generator).generate plan = .ok c) :
    ∃ converted, ({ settings := s } : Generator).convertElement .root plan = .ok converted ∧
      converted.node.calledMethods Surface.standard = plan.live.filterMap Element.calls? ∧
      ((∀ name ∈ converted.node.calledMethods Surface.standard,
          name ∈ (declaredMethods c.code).map (·.name)) ↔
        ∀ e ∈ plan.live, ∀ name ∈ e.calls?, name ∈ plan.fragments.map (·.1)) := by
  obtain ⟨converted, hconv, hne⟩ := Generator.exists_of_generate hc
  obtain ⟨hp, -⟩ := Generator.mirrorsPlan_of_convertElement rfl hconv hne
  have hcalled := hp.calledMethods_eq
  refine ⟨converted, hconv, hcalled, ?_⟩
  rw [hcalled, names_of_generate hs hc]
  simp only [Element.mem_map_fst_methods]
  constructor
  · intro h e he name hname
    exact h name (List.mem_filterMap.2 ⟨e, he, hname⟩)
  · intro h name hname
    obtain ⟨e, he, hname⟩ := List.mem_filterMap.1 hname
    exact h e he name hname

/-- A plan of a fragment and of a group that refers to one. -/
def referringPlan (fragment referred : String) : Element where
  kind := "TestPlan"
  children := [
    { kind := "TestFragmentController", name := fragment },
    { kind := "ThreadGroup",
      properties := [("ThreadGroup.num_threads", .text "1")],
      children := [
        { kind := "ModuleController",
          properties := [("ModuleController.node_path",
            .list [.text "Test Plan", .text referred])] }] }]

theorem called_of_generate_referringPlan : ∃ c converted,
    ({} : Generator).generate (referringPlan "Log in" "Log in") = .ok c ∧
      ({} : Generator).convertElement .root (referringPlan "Log in" "Log in") = .ok converted ∧
      converted.node.calledMethods Surface.standard = ["logIn"] ∧
      "logIn" ∈ (declaredMethods c.code).map (·.name) := by
  have hs : Settings.ofEntries [] = .ok {} := rfl
  have ok : (({} : Generator).generate (referringPlan "Log in" "Log in")).toOption.isSome =
      true := by decide +kernel
  have referred : (referringPlan "Log in" "Log in").live.filterMap Element.calls? =
      ["logIn"] := by decide +kernel
  have fragments : ∀ e ∈ (referringPlan "Log in" "Log in").live, ∀ name ∈ e.calls?,
      name ∈ (referringPlan "Log in" "Log in").fragments.map (·.1) := by decide +kernel
  cases hc : ({} : Generator).generate (referringPlan "Log in" "Log in") with
  | error e => rw [hc] at ok; cases ok
  | ok c =>
    obtain ⟨converted, hconv, hcalled, hdeclared⟩ := called_of_generate hs hc
    rw [referred] at hcalled
    refine ⟨c, converted, rfl, hconv, hcalled, hdeclared.2 fragments "logIn" ?_⟩
    rw [hcalled]
    exact List.mem_singleton_self _

/-- A class can call a method that it does not declare. -/
theorem not_called_referringPlan : ∃ c converted,
    ({} : Generator).generate (referringPlan "Log in" "Log out") = .ok c ∧
      ({} : Generator).convertElement .root (referringPlan "Log in" "Log out") = .ok converted ∧
      converted.node.calledMethods Surface.standard = ["logOut"] ∧
      "        logOut()".toList ∈ splitOnChar '\n' c.code.toList ∧
      "logOut" ∉ (declaredMethods c.code).map (·.name) := by
  have hs : Settings.ofEntries [] = .ok {} := rfl
  have ok : (({} : Generator).generate (referringPlan "Log in" "Log out")).toOption.isSome =
      true := by decide +kernel
  have written : (({} : Generator).convertElement .root
      (referringPlan "Log in" "Log out")).toOption.map (fun converted =>
        (converted.node.calledMethods Surface.standard, converted.node.code "    ")) =
      some (["logOut"],
        "testPlan(\n      threadGroup(1, -1,\n        logOut()\n      )\n    )") := by
    decide +kernel
  have lone : "logOut" ∉ (referringPlan "Log in" "Log out").methods.map (·.1) := by
    decide +kernel
  cases hc : ({} : Generator).generate (referringPlan "Log in" "Log out") with
  | error e => rw [hc] at ok; cases ok
  | ok c =>
    obtain ⟨converted, hconv, hparts⟩ := Generator.generate_parts freeSurface_standard hc
    rw [hconv] at written
    obtain ⟨hcalled, hcode⟩ := Prod.mk.inj (Option.some.inj written)
    refine ⟨c, converted, rfl, hconv, hcalled, mem_lines_code hparts ?_, ?_⟩
    · rw [hcode]
      decide +kernel
    · rw [names_of_generate hs hc]
      exact lone

end PlanCode
