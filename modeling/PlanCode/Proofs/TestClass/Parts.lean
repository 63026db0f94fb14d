import PlanCode.Proofs.Convert.Regular
import PlanCode.Proofs.Settings.Reading

/-!
# Parts of generated classes

What stands between the calls of a generated class: the names that settings may
give to it and its test, and the imports that its calls need. None of them holds
a mark that structures code.

* `generate_parts`: a class is made of free names and regular trees.
-/
namespace PlanCode

open PlanCode.Text PlanCode.Layout

namespace Generator

/-- The parts of a class generated from a plan whose root was converted to a tree. -/
structure Parts (g : Generator) (c : TestClass) (root : Node) : Prop where
  code : c.code = "\n".intercalate (classLines g.settings root c.imports c.staticImports
    (root.definitions g.surface)) ++ "\n"
  isOwnCall : root.isOwnCall = true
  regular : Regular root
  imports : ∀ i ∈ c.imports, Free i.toList
  staticImports : ∀ i ∈ c.staticImports, Free i.toList
  definitions : ∀ d ∈ root.definitions g.surface, RegularDefinition d

/-- What a generated class is made of. -/
theorem generate_parts {g : Generator} (hs : FreeSurface g.surface) {plan : Element}
    {c : TestClass} (h : g.generate plan = .ok c) :
    ∃ converted, g.convertElement .root plan = .ok converted ∧ Parts g c converted.node := by
  obtain ⟨converted, hc, h⟩ := bind_eq_ok.1 h
  refine ⟨converted, hc, ?_⟩
  have hr := (yields_convertElement hs _ _ _ hc).node
  extract_lets finish at h
  by_cases he : converted.node.isEmpty = true
  · rw [if_pos he] at h
    cases h
  · rw [if_neg he] at h
    obtain ⟨ho, hr⟩ := hr.resolve_left fun hn => he (by rw [hn]; rfl)
    obtain rfl := Except.ok.inj h
    have hn := needs_regular hs.names converted.node hr
    refine ⟨rfl, ho, hr, fun i hi => ?_, fun i hi => ?_, regular_definitions hs.names hr⟩
    · rcases List.mem_append.1 (Node.mem_sortedNames.1 hi) with hi | hi
      · rcases List.mem_cons.1 hi with rfl | hi
        · decide
        · split at hi
          · rw [List.mem_singleton.1 hi]
            decide
          · cases hi
      · exact hn.imports i hi
    · exact hn.staticImports i (Node.mem_sortedNames.1 hi)

end Generator
end PlanCode
