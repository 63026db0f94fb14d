import PlanCode.Proofs.Call.Slot
import PlanCode.Proofs.Convert.Built

/-!
# Conversions make fresh drafts

The conversion of an element by itself puts no child into its call. What starts
with a method of the factory imports the class of that method; the call of a
module controller imports nothing.

* `Built.ofFactory`: what is built from a method of the factory is fresh.
* `yields_fresh`: every call that an element is converted to is fresh.
-/
namespace PlanCode

/-- A call of the factory without children. -/
structure Draft.OfFactory (d : Draft Node) : Prop extends d.Fresh where
  imported : d.head.staticImports ≠ []

namespace Convert

variable {surface : Surface}

theorem nodes_literals (values : List Literal) : ∀ a ∈ literals values, a.nodes = [] := by
  intro a ha
  obtain ⟨v, -, rfl⟩ := List.mem_map.1 ha
  rfl

theorem nodes_literals_slot (values : List Literal) {slotType? : Option String}
    {slot : List (Argument Node)} (hs : slot = [] ∨ ∃ type ∈ slotType?, slot = [noChildren type]) :
    ∀ a ∈ literals values ++ slot, a.nodes = [] := by
  intro a ha
  rcases List.mem_append.1 ha with ha | ha
  · exact nodes_literals values a ha
  · rcases hs with rfl | ⟨type, -, rfl⟩
    · cases ha
    · rw [List.mem_singleton.1 ha]
      rfl

theorem yields_fresh_chain {name : String} {values : List Literal} {d : Draft Node}
    (h : d.OfFactory) : Yields (chain surface name values d) Draft.OfFactory := by
  intro d' hd
  obtain ⟨hf, hh⟩ := Draft.yields_fresh_chainCall h.toFresh (nodes_literals values) d'
    (mapError_eq_ok.1 hd)
  refine ⟨hf, ?_⟩
  rw [hh]
  exact h.imported

theorem ofFactory_remark {d : Draft Node} (h : d.OfFactory) (text : String) :
    (d.append (.comment text)).OfFactory :=
  ⟨Draft.fresh_append h.toFresh trivial, h.imported⟩

/-- What is built from a method of the factory holds no children yet. -/
theorem Built.ofFactory {name : String} {slotType? : Option String} {d : Draft Node}
    (h : Built surface name slotType? d) : d.OfFactory := by
  induction h with
  | start _ hs hd =>
    obtain ⟨hf, hi⟩ := Draft.yields_fresh_ofFactory (nodes_literals_slot _ hs) _
      (mapError_eq_ok.1 hd)
    exact ⟨hf, hi⟩
  | chain _ _ _ hd ih => exact yields_fresh_chain ih _ hd
  | remarked _ _ _ _ hd ih => exact yields_fresh_chain (ofFactory_remark ih _) _ hd

end Convert

namespace ElementKind

variable {surface : Surface} {k : ElementKind} {e : Element}

/-- All kinds but one start with a method of the factory. -/
theorem yields_ofFactory (hk : k ≠ .moduleController) :
    Yields (k.convert surface e) fun call => ∃ d, call = some d ∧ d.OfFactory := by
  intro call hc
  cases hn : k.factoryMethod? with
  | none => exact absurd (factoryMethod?_eq_none.1 hn) hk
  | some name =>
    obtain ⟨d, rfl, h⟩ := yields_built hn call hc
    exact ⟨d, rfl, h.ofFactory⟩

theorem yields_fresh : Yields (k.convert surface e) fun call => ∀ d ∈ call, d.Fresh := by
  intro call hc d hd
  obtain ⟨name, -, h⟩ | ⟨-, name, -, rfl⟩ := yields_cases call hc d hd
  · exact h.ofFactory.toFresh
  · exact Draft.fresh_start rfl (by simp)

end ElementKind
end PlanCode
