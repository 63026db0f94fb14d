import PlanCode.Call.Imports
import PlanCode.Proofs.Duration.Form
import PlanCode.Proofs.Layout.Tidy
import PlanCode.Proofs.Text.Words

/-!
# Regular trees

The trees that plans are converted to are `Regular`: names are words, children
are calls in the last argument, what is chained is not commented out and does
not end in a remark, and a value written just as it is does not occur. What text
the plan puts into string literals does not matter.

* `tidy_of_regular`: regular trees are tidy, so their code is made of lines.
* `needs_regular`: the imports that a regular tree needs are free of marks, and
  the methods to define alongside it have regular bodies.
-/
namespace PlanCode

open PlanCode.Text

namespace Node

/-- Whether a node is a call with a name of its own. -/
def isOwnCall : Node → Bool
  | .call .. => true
  | _ => false

def isRemark : Node → Bool
  | .comment _ => true
  | _ => false

def isCommented : Node → Bool
  | .call head .. => head.commented
  | _ => false

end Node

namespace Layout

/-! ## Parts of regular trees -/

/-- Every literal but those written just as they are. -/
inductive RegularLiteral : Literal → Prop where
  | string {value default : Option String} {ignored : Bool} :
    RegularLiteral (.string value default ignored)
  | int {value default : Option Int} : RegularLiteral (.int value default)
  | long {value default : Option Int} : RegularLiteral (.long value default)
  | bool {value default : Option Bool} : RegularLiteral (.bool value default)
  | duration {value default : Option Duration} : RegularLiteral (.duration value default)
  | enum {type qualified : String} {value default : Option String}
    (constants : ∀ constant ∈ value, Word (type ++ "." ++ constant).toList)
    (import_ : Free qualified.toList) : RegularLiteral (.enum type qualified value default)
  | strings {values : List String} : RegularLiteral (.strings values)

structure RegularHead (head : Head) : Prop where
  name : Word (nameText head.name)
  heading : head.heading = none
  imports : ∀ i ∈ head.imports, Free i.toList
  staticImports : ∀ i ∈ head.staticImports, Free i.toList

/-- What is known of a remark in a chain. -/
def RegularRemark (text : String) : Prop := '\n' ∉ text.toList ∧ '"' ∉ text.toList

/-- The signature of a method that is defined alongside the code. -/
structure RegularMethod (name : String) (body : Node) : Prop where
  name : Free name.toList
  isOwnCall : body.isOwnCall = true
  isCommented : body.isCommented = false
  type : Free ((body.target?).getD "").toList

/-- What is chained last is not a remark. -/
def Settled (chain : List Node) : Prop := ∀ n ∈ chain.getLast?, n.isRemark = false

mutual

def Regular : Node → Prop
  | .empty => False
  | .comment text => RegularRemark text
  | .call head arguments chain definitions =>
    (RegularHead head ∧ Settled chain) ∧
      RegularArguments arguments ∧ RegularChain chain ∧ RegularDefinitions definitions
  | .children nodes => nodes ≠ [] ∧ RegularChildren nodes

def RegularArgument : Argument Node → Prop
  | .literal v => RegularLiteral v
  | .bare .. => False
  | .children _ nodes => RegularChildren nodes

def RegularArguments : List (Argument Node) → Prop
  | [] => True
  | a :: rest => RegularArgument a ∧ (isChildren a = true → rest = []) ∧ RegularArguments rest

def RegularChildren : List Node → Prop
  | [] => True
  | n :: rest => n.isOwnCall = true ∧ Regular n ∧ RegularChildren rest

def RegularChain : List Node → Prop
  | [] => True
  | n :: rest => n.isCommented = false ∧ Regular n ∧ RegularChain rest

def RegularDefinition : String × Node → Prop
  | (name, body) => RegularMethod name body ∧ Regular body

def RegularDefinitions : List (String × Node) → Prop
  | [] => True
  | d :: rest => RegularDefinition d ∧ RegularDefinitions rest

end

theorem regularChildren_iff {nodes : List Node} :
    RegularChildren nodes ↔ ∀ n ∈ nodes, n.isOwnCall = true ∧ Regular n := by
  induction nodes with
  | nil => simp [RegularChildren]
  | cons n rest ih => simp [RegularChildren, ih, and_assoc]

theorem regularChain_iff {chain : List Node} :
    RegularChain chain ↔ ∀ n ∈ chain, n.isCommented = false ∧ Regular n := by
  induction chain with
  | nil => simp [RegularChain]
  | cons n rest ih => simp [RegularChain, ih, and_assoc]

theorem regularDefinitions_iff {definitions : List (String × Node)} :
    RegularDefinitions definitions ↔ ∀ d ∈ definitions, RegularDefinition d := by
  induction definitions with
  | nil => simp [RegularDefinitions]
  | cons d rest ih => simp [RegularDefinitions, ih]

/-! ## Written literals -/

/-- The strings that a literal gives to a call. -/
def literalStrings : Literal → List String
  | .string (some s) _ false => [s]
  | .strings values => values
  | _ => []

/-- The texts that literals are written as, with the strings they hold. -/
inductive LiteralText : List Char → List String → Prop where
  | nothing : LiteralText [] []
  | word {s : List Char} (h : Word s) : LiteralText s []
  | call {name argument : List Char} (hn : Word name) (ha : Word argument) :
    LiteralText (name ++ '(' :: (argument ++ [')'])) []
  | strings {values : List String} (h : values ≠ []) :
    LiteralText
      ([',', ' '].intercalate (values.map fun s => (StringLiteral.ofText s).toList)) values

theorem literalText_string (s : String) :
    LiteralText (StringLiteral.ofText s).toList [s] := by
  simpa using LiteralText.strings (List.cons_ne_nil s [])

theorem word_longText (n : Int) : Word (Literal.longText n).toList := by
  unfold Literal.longText
  split
  · have h := (word_toString n).append_free (t := ['L']) (by decide)
    simpa [toString] using h
  · exact word_toString n

theorem word_boolText (b : Bool) : Word (Literal.boolText b).toList := by
  cases b <;> decide

theorem literalText_duration (d : Duration) : LiteralText d.code.toList [] := by
  rcases d.code_cases with h | ⟨f, count, h⟩
  · rw [h]
    exact .word (by decide)
  · have hf : Word ("Duration." ++ f.name).toList := by cases f <;> decide
    rw [h]
    simpa using LiteralText.call hf (word_toString count)

/-- What a literal that counts is written as. -/
theorem literalText_code {v : Literal} (h : RegularLiteral v) (hi : v.isIgnored = false) :
    LiteralText v.code.toList (literalStrings v) := by
  cases h with
  | @string value default ignored =>
    obtain rfl : ignored = false := hi
    cases value with
    | none => exact .nothing
    | some s => exact literalText_string s
  | @int value default =>
    cases value with
    | none => exact .nothing
    | some n => exact .word (word_toString n)
  | @long value default =>
    cases value with
    | none => exact .nothing
    | some n => exact .word (word_longText n)
  | @bool value default =>
    cases value with
    | none => exact .nothing
    | some b => exact .word (word_boolText b)
  | @duration value default =>
    cases value with
    | none => exact .nothing
    | some d => exact literalText_duration d
  | @enum type qualified value default hc _ =>
    cases value with
    | none => exact .nothing
    | some constant => exact .word (hc constant rfl)
  | @strings values =>
    cases values with
    | nil => exact .nothing
    | cons s values =>
      have ht := LiteralText.strings (List.cons_ne_nil s values)
      simpa [Literal.code, literalStrings, String.toList_intercalate, Function.comp_def] using ht

theorem feed_not_mem_ofText (s : String) : '\n' ∉ (StringLiteral.ofText s).toList := by
  rw [StringLiteral.toList_ofText, StringLiteral.encode, List.cons_append]
  simp only [List.mem_cons, List.mem_append, List.not_mem_nil, or_false, not_or]
  exact ⟨by decide, fun h => (StringLiteral.mem_escaped_ne h).1 rfl, by decide⟩

theorem feed_not_mem_literalText {s : List Char} {strings : List String}
    (h : LiteralText s strings) : '\n' ∉ s := by
  cases h with
  | nothing => simp
  | word h => exact h.1.not_mem rfl
  | call hn ha => simp [hn.1.not_mem (c := '\n') rfl, ha.1.not_mem (c := '\n') rfl]
  | strings =>
    refine not_mem_intercalate (by decide) ?_
    intro p hp
    obtain ⟨s, -, rfl⟩ := List.mem_map.1 hp
    exact feed_not_mem_ofText s

/-! ## Regular trees are tidy -/

mutual

theorem tidy_of_regular : ∀ n : Node, Regular n → Tidy n
  | .empty, h => h.elim
  | .comment _, h => h.1
  | .call _ arguments chain _, ⟨⟨hh, _⟩, ha, hc, _⟩ => by
    refine ⟨⟨hh.name.1.not_mem rfl, ?_⟩, tidyArguments_of_regular arguments ha,
      tidyNodes_of_chain chain hc⟩
    rw [hh.heading]
    exact fun _ h => absurd h (by simp)
  | .children nodes, ⟨_, h⟩ => tidyNodes_of_children nodes h

theorem tidyArgument_of_regular : ∀ a : Argument Node, RegularArgument a → TidyArgument a
  | .literal _, h => fun hi => feed_not_mem_literalText (literalText_code h hi)
  | .bare .., h => h.elim
  | .children _ nodes, h => tidyNodes_of_children nodes h

theorem tidyArguments_of_regular : ∀ arguments : List (Argument Node),
    RegularArguments arguments → TidyArguments arguments
  | [], _ => trivial
  | a :: rest, ⟨ha, hl, hr⟩ =>
    ⟨tidyArgument_of_regular a ha, hl, tidyArguments_of_regular rest hr⟩

theorem tidyNodes_of_children : ∀ nodes : List Node, RegularChildren nodes → TidyNodes nodes
  | [], _ => trivial
  | n :: rest, ⟨_, hn, hr⟩ => ⟨tidy_of_regular n hn, tidyNodes_of_children rest hr⟩

theorem tidyNodes_of_chain : ∀ chain : List Node, RegularChain chain → TidyNodes chain
  | [], _ => trivial
  | n :: rest, ⟨_, hn, hr⟩ => ⟨tidy_of_regular n hn, tidyNodes_of_chain rest hr⟩

end

/-! ## What regular trees need -/

/-- The qualified names of a surface's types are free of marks. -/
def FreeNames (surface : Surface) : Prop :=
  ∀ t ∈ surface.types, Free t.qualifiedName.toList

/-- What is known of a definition, with what its body needs. -/
structure RegularEntry (d : String × Definition) : Prop where
  definition : RegularDefinition (d.1, d.2.body)
  imports : ∀ i ∈ d.2.imports, Free i.toList
  staticImports : ∀ i ∈ d.2.staticImports, Free i.toList

structure RegularNeeds (n : Needs) : Prop where
  imports : ∀ i ∈ n.imports, Free i.toList
  staticImports : ∀ i ∈ n.staticImports, Free i.toList
  definitions : ∀ d ∈ n.definitions, RegularEntry d

theorem regularNeeds_empty : RegularNeeds {} := ⟨by simp, by simp, by simp⟩

theorem RegularNeeds.merge {a b : Needs} (ha : RegularNeeds a) (hb : RegularNeeds b) :
    RegularNeeds (a.merge b) where
  imports i hi := (List.mem_append.1 hi).elim (ha.imports i) (hb.imports i)
  staticImports i hi := (List.mem_append.1 hi).elim (ha.staticImports i) (hb.staticImports i)
  definitions d hd :=
    (Entries.mem_of_mem_putAll hd).elim (ha.definitions d) (hb.definitions d)

theorem RegularNeeds.withDefinitions {surface : Surface} (hs : FreeNames surface) {n : Needs}
    (h : RegularNeeds n) : RegularNeeds (n.withDefinitions surface) where
  imports i hi := by
    simp only [Needs.withDefinitions, List.mem_append, List.mem_flatMap, Option.mem_toList,
      Option.map_eq_some_iff, Option.bind_eq_some_iff] at hi
    rcases hi with hi | ⟨d, hd, ⟨t, ⟨_, _, hf⟩, rfl⟩ | hi⟩
    · exact h.imports i hi
    · exact hs t (List.mem_of_find?_eq_some hf)
    · exact (h.definitions d hd).imports i hi
  staticImports i hi := by
    simp only [Needs.withDefinitions, List.mem_append, List.mem_flatMap] at hi
    rcases hi with hi | ⟨d, hd, hi⟩
    · exact h.staticImports i hi
    · exact (h.definitions d hd).staticImports i hi
  definitions := h.definitions

theorem free_imports_of_regularLiteral {v : Literal} (h : RegularLiteral v) :
    ∀ i ∈ v.imports, Free i.toList := by
  intro i hi
  cases h with
  | @duration value default =>
    cases value with
    | none => cases hi
    | some d =>
      rw [Literal.imports, List.mem_singleton] at hi
      subst hi
      decide
  | @enum type qualified value default _ hq =>
    cases value with
    | none => cases hi
    | some constant =>
      rw [Literal.imports, List.mem_singleton] at hi
      exact hi ▸ hq
  | _ => cases hi

mutual

theorem needs_regular {surface : Surface} (hs : FreeNames surface) : ∀ n : Node, Regular n →
    RegularNeeds (n.needs surface)
  | .empty, h => h.elim
  | .comment _, _ => regularNeeds_empty
  | .call _ arguments chain definitions, ⟨⟨hh, _⟩, ha, hc, hd⟩ => by
    have ho : ∀ d ∈ Entries.putAll [] (Node.definitionNeeds surface definitions),
        RegularEntry d := fun d hm =>
      (Entries.mem_of_mem_putAll hm).elim (by simp) (definitionNeeds_regular hs definitions hd d)
    exact ((RegularNeeds.merge ⟨hh.imports, hh.staticImports, ho⟩
      (argumentNeeds_regular hs arguments ha)).merge
        (chainNeeds_regular hs chain hc)).withDefinitions hs
  | .children nodes, ⟨_, h⟩ => (childrenNeeds_regular hs nodes h).withDefinitions hs

theorem argumentNeed_regular {surface : Surface} (hs : FreeNames surface) :
    ∀ a : Argument Node, RegularArgument a → RegularNeeds (Node.argumentNeed surface a)
  | .literal v, h => by
    rw [Node.argumentNeed]
    split
    · exact regularNeeds_empty
    · exact ⟨free_imports_of_regularLiteral h, by simp, by simp⟩
  | .bare .., h => h.elim
  | .children _ nodes, h => childrenNeeds_regular hs nodes h

theorem argumentNeeds_regular {surface : Surface} (hs : FreeNames surface) :
    ∀ arguments : List (Argument Node), RegularArguments arguments →
    RegularNeeds (Node.argumentNeeds surface arguments)
  | [], _ => regularNeeds_empty
  | a :: rest, ⟨ha, _, hr⟩ =>
    (argumentNeed_regular hs a ha).merge (argumentNeeds_regular hs rest hr)

theorem childrenNeeds_regular {surface : Surface} (hs : FreeNames surface) :
    ∀ nodes : List Node, RegularChildren nodes → RegularNeeds (Node.nodeNeeds surface nodes)
  | [], _ => regularNeeds_empty
  | n :: rest, ⟨_, hn, hr⟩ => (needs_regular hs n hn).merge (childrenNeeds_regular hs rest hr)

theorem chainNeeds_regular {surface : Surface} (hs : FreeNames surface) :
    ∀ chain : List Node, RegularChain chain → RegularNeeds (Node.nodeNeeds surface chain)
  | [], _ => regularNeeds_empty
  | n :: rest, ⟨_, hn, hr⟩ => (needs_regular hs n hn).merge (chainNeeds_regular hs rest hr)

theorem definitionNeed_regular {surface : Surface} (hs : FreeNames surface) :
    ∀ d : String × Node, RegularDefinition d → RegularEntry (Node.definitionNeed surface d)
  | (_, body), h =>
    have hn := needs_regular hs body h.2
    ⟨h, hn.imports, hn.staticImports⟩

theorem definitionNeeds_regular {surface : Surface} (hs : FreeNames surface) :
    ∀ definitions : List (String × Node), RegularDefinitions definitions →
    ∀ d ∈ Node.definitionNeeds surface definitions, RegularEntry d
  | [], _ => by simp [Node.definitionNeeds]
  | d :: rest, ⟨hd, hr⟩ => by
    intro e he
    rw [Node.definitionNeeds, List.mem_cons] at he
    rcases he with rfl | he
    · exact definitionNeed_regular hs d hd
    · exact definitionNeeds_regular hs rest hr e he

end

/-- The methods defined alongside a regular tree. -/
theorem regular_definitions {surface : Surface} (hs : FreeNames surface) {n : Node}
    (h : Regular n) : ∀ d ∈ n.definitions surface, RegularDefinition d := by
  intro d hd
  obtain ⟨e, he, rfl⟩ := List.mem_map.1 hd
  exact ((needs_regular hs n h).definitions e he).definition

end Layout
end PlanCode
