import PlanCode.Call.Node
import PlanCode.Entries
import PlanCode.Surface.Basic

/-!
# What a tree of calls needs

The classes a tree needs imported, the classes whose static members it uses,
and the methods defined alongside it. Definitions registered anywhere in the
tree count, those of the bodies of definitions do not; of two definitions of
one name the later one counts, in the place of the first.

* `mem_sortedNames`, `pairwise_sortedNames`: names in order are the same names, each once.
-/
namespace PlanCode

/-- A definition with what its body needs. -/
structure Definition where
  body : Node
  imports : List String
  staticImports : List String

/-- What a node needs. Names may be repeated. -/
structure Needs where
  imports : List String := []
  staticImports : List String := []
  definitions : Entries Definition := []

namespace Needs

def merge (a b : Needs) : Needs where
  imports := a.imports ++ b.imports
  staticImports := a.staticImports ++ b.staticImports
  definitions := a.definitions.putAll b.definitions

/-- Adds what the definitions need: the class of their type, and what their bodies need. -/
def withDefinitions (surface : Surface) (n : Needs) : Needs where
  imports := n.imports ++ n.definitions.flatMap fun (_, d) =>
    ((d.body.target?.bind surface.find?).map (·.qualifiedName)).toList ++ d.imports
  staticImports := n.staticImports ++ n.definitions.flatMap fun (_, d) => d.staticImports
  definitions := n.definitions

end Needs

namespace Node

mutual

def needs (surface : Surface) : Node → Needs
  | .empty => {}
  | .comment _ => {}
  | .call head arguments chain definitions =>
    let own : Needs :=
      { imports := head.imports, staticImports := head.staticImports,
        definitions := Entries.putAll [] (definitionNeeds surface definitions) }
    ((own.merge (argumentNeeds surface arguments)).merge
      (nodeNeeds surface chain)).withDefinitions surface
  | .children nodes => (nodeNeeds surface nodes).withDefinitions surface

def argumentNeed (surface : Surface) : Argument Node → Needs
  | .literal v => if v.isIgnored then {} else { imports := v.imports }
  | .bare .. => {}
  | .children _ nodes => nodeNeeds surface nodes

def argumentNeeds (surface : Surface) : List (Argument Node) → Needs
  | [] => {}
  | a :: rest => (argumentNeed surface a).merge (argumentNeeds surface rest)

def nodeNeeds (surface : Surface) : List Node → Needs
  | [] => {}
  | n :: rest => (n.needs surface).merge (nodeNeeds surface rest)

def definitionNeed (surface : Surface) : String × Node → String × Definition
  | (name, body) =>
    let inner := body.needs surface
    (name, { body, imports := inner.imports, staticImports := inner.staticImports })

def definitionNeeds (surface : Surface) : List (String × Node) → Entries Definition
  | [] => []
  | d :: rest => definitionNeed surface d :: definitionNeeds surface rest

end

/-- Names in order, each once. -/
def sortedNames (names : List String) : List String :=
  (names.mergeSort fun a b => decide (a ≤ b)).eraseReps

theorem mem_loop_eraseReps {name : String} (rest acc : List String) (a : String) :
    name ∈ List.eraseRepsBy.loop (· == ·) a rest acc ↔ name ∈ acc ∨ name = a ∨ name ∈ rest := by
  induction rest generalizing a acc with
  | nil => simp [List.eraseRepsBy.loop, or_comm]
  | cons b rest ih =>
    rw [List.eraseRepsBy.loop, List.mem_cons]
    split
    · rename_i h
      rw [ih, eq_of_beq h]
      simp
    · rw [ih, List.mem_cons]
      constructor
      · rintro ((h | h) | h)
        · exact Or.inr (Or.inl h)
        · exact Or.inl h
        · exact Or.inr (Or.inr h)
      · rintro (h | h | h)
        · exact Or.inl (Or.inr h)
        · exact Or.inl (Or.inl h)
        · exact Or.inr h

/-- The loop keeps what it has passed in falling order, below the name that it is at. -/
theorem pairwise_loop_eraseReps (rest acc : List String) (a : String)
    (hr : (a :: rest).Pairwise (· ≤ ·)) (hacc : (a :: acc).Pairwise (· > ·)) :
    (List.eraseRepsBy.loop (· == ·) a rest acc).Pairwise (· < ·) := by
  induction rest generalizing a acc with
  | nil =>
    rw [List.eraseRepsBy.loop, List.pairwise_reverse]
    exact hacc
  | cons b rest ih =>
    rw [List.eraseRepsBy.loop]
    obtain ⟨ha, hb⟩ := List.pairwise_cons.1 hr
    split
    · rename_i h
      rw [eq_of_beq h] at hacc ⊢
      exact ih acc b hb hacc
    · rename_i h
      have hab : a < b := Std.lt_of_le_of_ne (ha b (List.mem_cons_self ..)) (by simpa using h)
      refine ih (a :: acc) b hb (List.pairwise_cons.2 ⟨fun c hc => ?_, hacc⟩)
      rcases List.mem_cons.1 hc with rfl | hc
      · exact hab
      · exact Std.lt_trans ((List.pairwise_cons.1 hacc).1 c hc) hab

theorem mem_sortedNames {names : List String} {name : String} :
    name ∈ sortedNames names ↔ name ∈ names := by
  have hs := @List.mem_mergeSort _ (fun a b => decide (a ≤ b)) name names
  unfold sortedNames
  rw [← hs]
  cases names.mergeSort fun a b => decide (a ≤ b) with
  | nil => rfl
  | cons a rest =>
    rw [List.mem_cons]
    exact (mem_loop_eraseReps rest [] a).trans (by simp)

theorem pairwise_sortedNames (names : List String) : (sortedNames names).Pairwise (· < ·) := by
  have hs : (names.mergeSort fun a b => decide (a ≤ b)).Pairwise (· ≤ ·) := by
    have hs := @List.pairwise_mergeSort _ (fun a b => decide (a ≤ b))
      (fun a b c => by simpa using String.le_trans) (fun a b => by simpa using String.le_total a b)
      names
    simpa using hs
  unfold sortedNames
  cases h : names.mergeSort fun a b => decide (a ≤ b) with
  | nil => exact .nil
  | cons a rest =>
    rw [h] at hs
    exact pairwise_loop_eraseReps rest [] a hs (List.pairwise_singleton ..)

def imports (surface : Surface) (n : Node) : List String :=
  sortedNames (n.needs surface).imports

def staticImports (surface : Surface) (n : Node) : List String :=
  sortedNames (n.needs surface).staticImports

/-- The methods to define alongside the code of a node, with the calls that are their bodies. -/
def definitions (surface : Surface) (n : Node) : List (String × Node) :=
  (n.needs surface).definitions.map fun (name, d) => (name, d.body)

end Node
end PlanCode
