import PlanCode.Proofs.Convert.MethodName
import PlanCode.Proofs.Text.Compact
import PlanCode.Proofs.TestClass.Fragments

/-!
# The names that classes declare

A reader of declarations goes over the lines of a class and takes the name out of
each line that declares the class, a method of it or its test. The class and the
test are named as the settings say, whose names are identifiers of Unicode, and
the methods after fragments. Nothing looks for the words that Java reserves.

* `declaredNames_code`: the reader finds the names that a class is generated with.
* `legalNames_of_generate`: which settings and plans make names that may be declared.
* `not_legalNames_new`: a class, a method and a test whose names may not be.
-/
namespace PlanCode

open PlanCode.Text PlanCode.Layout

/-! ## The reader -/

namespace DeclaredMethod

def classMark : List Char := "public class ".toList

def publicMark : List Char := "  public ".toList

/-- The name that a line declares. -/
def declaredName? (line : List Char) : Option (List Char) :=
  if classMark.isPrefixOf line then
    some ((line.drop classMark.length).takeWhile (· != ' '))
  else if privateMark.isPrefixOf line || publicMark.isPrefixOf line then some (nameIn line)
  else none

end DeclaredMethod

/-- The names that a text declares. -/
def declaredNames (code : String) : List String :=
  ((splitOnChar '\n' code.toList).filterMap DeclaredMethod.declaredName?).map String.ofList

/-! ## Reading a class -/

namespace DeclaredMethod

theorem declaredName?_of_indented {l : List Char} (h : statementIndent <+: l) :
    declaredName? l = none := by
  obtain ⟨t, rfl⟩ := h
  rfl

theorem declaredName?_class {name : List Char} (hs : ' ' ∉ name) (rest : List Char) :
    declaredName? (classMark ++ name ++ ' ' :: rest) = some name := by
  have hmark : classMark.isPrefixOf (classMark ++ name ++ ' ' :: rest) = true := by
    simp [List.append_assoc]
  have hname : ∀ c ∈ name, (c != ' ') = true := by
    intro c hc
    rw [bne_iff_ne]
    rintro rfl
    exact hs hc
  rw [declaredName?, if_pos hmark, List.append_assoc, List.drop_left,
    List.takeWhile_append_of_pos hname]
  simp

theorem declaredName?_declaration {name : String} {body : Node} (h : RegularMethod name body)
    (hs : ' ' ∉ name.toList) : declaredName? (declaration name body) = some name.toList := by
  have hmark : privateMark.isPrefixOf (declaration name body) = true := by simp [declaration]
  have hclass : classMark.isPrefixOf (declaration name body) = false := rfl
  rw [declaredName?, hclass, hmark, nameIn_declaration h hs]
  rfl

/-- The test is public and gives nothing back. -/
theorem declaredName?_test {name : List Char} (hp : '(' ∉ name) (hs : ' ' ∉ name)
    (rest : List Char) :
    declaredName? ("  public void".toList ++ ' ' :: name ++ '(' :: rest) = some name := by
  have hvoid : '(' ∉ "  public void".toList := by decide
  rw [declaredName?, nameIn_of_before hvoid hp hs rest]
  rfl

end DeclaredMethod

open DeclaredMethod

theorem linesOf_cons (text : String) (texts : List String) :
    linesOf (text :: texts) = linesOf [text] ++ linesOf texts := linesOf_append [text] texts

theorem space_not_mem_of_isIdentifier {s : String} (h : isIdentifier s = true) :
    ' ' ∉ s.toList := by
  intro hs
  have hb := (Code.plain_of_isIdentifierChars h ' ' hs).2.2
  exact absurd hb (by decide)

theorem filterMap_definitions {definitions : List (String × Node)}
    (h : ∀ d ∈ definitions, RegularDefinition d ∧ ' ' ∉ d.1.toList) :
    (linesOf (definitions.flatMap fun (name, body) =>
        Generator.definitionLines name body)).filterMap declaredName? =
      definitions.map (·.1.toList) := by
  induction definitions with
  | nil => rfl
  | cons d definitions ih =>
    obtain ⟨⟨hd, hs⟩, hothers⟩ := List.forall_mem_cons.1 h
    obtain ⟨name, body⟩ := d
    obtain ⟨hm, hr⟩ := hd
    have hbody : (splitOnChar '\n' ("    return " ++ body.assignmentCode "      " ++
        ";").toList).filterMap declaredName? = [] :=
      List.filterMap_eq_nil_iff.2 fun l hl => declaredName?_of_indented (indented_return hr l hl)
    have hclose : [closingLine, []].filterMap declaredName? = [] := rfl
    rw [List.flatMap_cons, linesOf_append, linesOf_definitionLines hm, List.filterMap_append,
      List.filterMap_cons, declaredName?_declaration hm hs, List.filterMap_append, hbody, hclose,
      ih hothers]
    rfl

theorem filterMap_test {s : Settings} (hs : Free s.testMethodName.toList)
    (hb : ' ' ∉ s.testMethodName.toList) {root : Node} (hr : Regular root) :
    (linesOf ["  @Test",
      "  public void " ++ s.testMethodName ++ "()" ++
        (if s.includeRun then " throws IOException" else "") ++ " \x7b",
      "    " ++ root.code "    " ++ (if s.includeRun then ".run()" else "") ++ ";",
      "  \x7d", "", "\x7d"]).filterMap declaredName? = [s.testMethodName.toList] := by
  have hannotation : (linesOf ["  @Test"]).filterMap declaredName? = [] := rfl
  have hstatement := List.filterMap_eq_nil_iff.2 fun l hl =>
    declaredName?_of_indented (indented_test s hr l hl)
  have hclose : (linesOf ["  \x7d", "", "\x7d"]).filterMap declaredName? = [] := rfl
  generalize ht : (if s.includeRun then " throws IOException" else "") = throws at *
  have hfeed : '\n' ∉ ("()" ++ throws ++ " \x7b").toList := by
    rw [← ht]
    cases s.includeRun <;> decide
  have htext : "  public void " ++ s.testMethodName ++ "()" ++ throws ++ " \x7b" =
      "  public void " ++ s.testMethodName ++ ("()" ++ throws ++ " \x7b") := by
    simp only [String.append_assoc]
  have hline : "  public void ".toList ++ s.testMethodName.toList ++
      ("()" ++ throws ++ " \x7b").toList = "  public void".toList ++
        ' ' :: s.testMethodName.toList ++ '(' :: (")" ++ throws ++ " \x7b").toList := by
    simp only [String.toList_append]
    rfl
  have hpublic : (linesOf ["  public void " ++ s.testMethodName ++
      ("()" ++ throws ++ " \x7b")]).filterMap declaredName? = [s.testMethodName.toList] := by
    rw [linesOf_line (by decide) hfeed hs, hline, List.filterMap_cons,
      declaredName?_test (hs.not_mem rfl) hb]
    rfl
  rw [htext, linesOf_cons, List.filterMap_append, hannotation, linesOf_cons,
    List.filterMap_append, hpublic, linesOf_cons, List.filterMap_append, hstatement, hclose]
  rfl

/-- The names of a class are those of itself, of its methods and of its test. -/
theorem declaredNames_code {g : Generator} {c : TestClass} {root : Node} (hp : g.Parts c root)
    (hn : isIdentifier g.settings.className = true)
    (ht : isIdentifier g.settings.testMethodName = true)
    (hs : ∀ d ∈ root.definitions g.surface, ' ' ∉ d.1.toList) :
    declaredNames c.code = g.settings.className ::
      ((root.definitions g.surface).map (·.1) ++ [g.settings.testMethodName]) := by
  have himports := List.filterMap_eq_nil_iff.2
    (forall_mem_imports hp (p := fun l => declaredName? l = none) rfl fun _ => rfl)
  have hheading : (linesOf ["", "public class " ++ g.settings.className ++ " \x7b", ""]).filterMap
      declaredName? = [g.settings.className.toList] := by
    have hname : declaredName? ("public class ".toList ++ g.settings.className.toList ++
        " \x7b".toList) = some g.settings.className.toList :=
      declaredName?_class (space_not_mem_of_isIdentifier hn) ['\x7b']
    have hblank : (linesOf [""]).filterMap declaredName? = [] := rfl
    rw [linesOf_cons, List.filterMap_append, hblank, linesOf_cons, List.filterMap_append, hblank,
      linesOf_line (by decide) (by decide) (free_of_isIdentifier hn), List.filterMap_cons, hname]
    rfl
  have hdefinitions := filterMap_definitions fun d hd => ⟨hp.definitions d hd, hs d hd⟩
  have htest := filterMap_test (free_of_isIdentifier ht) (space_not_mem_of_isIdentifier ht)
    hp.regular
  have hend : [[]].filterMap declaredName? = [] := rfl
  unfold declaredNames
  rw [splitOnChar_code hp, Generator.classLines, linesOf_append, linesOf_append, linesOf_append,
    List.filterMap_append, List.filterMap_append, List.filterMap_append, List.filterMap_append,
    himports, hheading, hdefinitions, htest, hend]
  simp [Function.comp_def]

/-- In the class of a plan they are those of the plan's methods besides those of the settings. -/
theorem declaredNames_of_generate {entries : List (Datum × Datum)} {source : String} {s : Settings}
    (hs : Settings.ofEntries entries source = .ok s) {plan : Element} {c : TestClass}
    (hc : ({ settings := s } : Generator).generate plan = .ok c) :
    declaredNames c.code = s.className :: (plan.methods.map (·.1) ++ [s.testMethodName]) := by
  obtain ⟨hn, ht⟩ := Settings.isIdentifier_of_ofEntries hs
  obtain ⟨root, hp, hspace, hm⟩ := exists_parts_of_generate rfl rfl hc
  rw [declaredNames_code hp hn ht hspace, map_eq_of_forall₂ (fun _ _ h => h.1) hm]

/-! ## Legal names -/

theorem isJavaName_of_isIdentifier {s : String} (h : isIdentifier s = true) :
    IsJavaName s ↔ s ∉ reservedWords ∧ ¬ HasForeign s.toList := by
  rw [IsJavaName, isJavaIdentifier_iff h, and_comm]

theorem isJavaName_methods {plan : Element} :
    (∀ name ∈ plan.methods.map (·.1), IsJavaName name) ↔
      ∀ f ∈ plan.children, f.isFragment = true → ¬ Convert.IsReservedName f.name := by
  constructor
  · intro h f hf hfragment
    refine Convert.isJavaName_fragmentMethod_iff.1 (h _ ?_)
    rw [Element.mem_map_fst_methods, Element.fragments, List.map_map]
    exact List.mem_map_of_mem (List.mem_filter.2 ⟨hf, hfragment⟩)
  · intro h name hname
    rw [Element.mem_map_fst_methods, Element.fragments, List.map_map] at hname
    obtain ⟨f, hf, rfl⟩ := List.mem_map.1 hname
    obtain ⟨hf, hfragment⟩ := List.mem_filter.1 hf
    exact Convert.isJavaName_fragmentMethod_iff.2 (h f hf hfragment)

/-- **Names.** A class that is generated with accepted settings declares the names of the settings
and one for each method of the plan. They may all be declared exactly when those of the settings are
not reserved and hold no character that Java refuses, and no fragment right under the root is named
after a reserved word. -/
theorem legalNames_of_generate {entries : List (Datum × Datum)} {source : String} {s : Settings}
    (hs : Settings.ofEntries entries source = .ok s) {plan : Element} {c : TestClass}
    (hc : ({ settings := s } : Generator).generate plan = .ok c) :
    declaredNames c.code = s.className :: (plan.methods.map (·.1) ++ [s.testMethodName]) ∧
    ((∀ name ∈ declaredNames c.code, IsJavaName name) ↔
      (∀ name ∈ [s.className, s.testMethodName], name ∉ reservedWords ∧ ¬ HasForeign name.toList) ∧
      ∀ f ∈ plan.children, f.isFragment = true → ¬ Convert.IsReservedName f.name) := by
  obtain ⟨hn, ht⟩ := Settings.isIdentifier_of_ofEntries hs
  have hnames := declaredNames_of_generate hs hc
  refine ⟨hnames, ?_⟩
  rw [hnames, List.forall_mem_cons, List.forall_mem_append, List.forall_mem_singleton,
    isJavaName_methods, isJavaName_of_isIdentifier hn, isJavaName_of_isIdentifier ht,
    List.forall_mem_cons, List.forall_mem_singleton]
  tauto

/-- Fragments with more than a reserved word in their names. -/
theorem legalNames_of_generate_classes : ∃ s c,
    Settings.ofEntries [(.text "class_name", .text "Größe"),
      (.text "test_method_name", .text "run_2")] = .ok s ∧
    ({ settings := s } : Generator).generate (twoFragments "New user" "2 classes") = .ok c ∧
    declaredNames c.code = ["Größe", "newUser", "fragment2Classes", "run_2"] ∧
    ∀ name ∈ declaredNames c.code, IsJavaName name := by
  have hs : Settings.ofEntries [(.text "class_name", .text "Größe"),
      (.text "test_method_name", .text "run_2")] =
        .ok { className := "Größe", testMethodName := "run_2" } := by decide +kernel
  have ok : (({ settings := { className := "Größe", testMethodName := "run_2" } } :
      Generator).generate (twoFragments "New user" "2 classes")).toOption.isSome = true := by
    decide +kernel
  have settings : ∀ name ∈ ["Größe", "run_2"],
      name ∉ reservedWords ∧ ¬ HasForeign name.toList := by decide +kernel
  have fragments : ∀ f ∈ (twoFragments "New user" "2 classes").children, f.isFragment = true →
      ¬ Convert.IsReservedName f.name := by
    simp only [← Convert.fragmentMethod_mem_reservedWords_iff]
    decide +kernel
  cases hc : ({ settings := { className := "Größe", testMethodName := "run_2" } } :
      Generator).generate (twoFragments "New user" "2 classes") with
  | error e => rw [hc] at ok; cases ok
  | ok c =>
    obtain ⟨hnames, hlegal⟩ := legalNames_of_generate hs hc
    refine ⟨_, c, hs, hc, hnames.trans (by decide +kernel), hlegal.2 ⟨settings, fragments⟩⟩

/-- Names of all three kinds that may not be declared. -/
theorem not_legalNames_new : ∃ s c,
    Settings.ofEntries [(.text "class_name", .text "class"),
      (.text "test_method_name", .text "col·lecta")] = .ok s ∧
    ({ settings := s } : Generator).generate (twoFragments "New" "Log out") = .ok c ∧
    declaredNames c.code = ["class", "new", "logOut", "col·lecta"] ∧
    ¬ IsJavaName "class" ∧ ¬ IsJavaName "new" ∧ ¬ IsJavaName "col·lecta" := by
  have hs : Settings.ofEntries [(.text "class_name", .text "class"),
      (.text "test_method_name", .text "col·lecta")] =
        .ok { className := "class", testMethodName := "col·lecta" } := by decide +kernel
  have ok : (({ settings := { className := "class", testMethodName := "col·lecta" } } :
      Generator).generate (twoFragments "New" "Log out")).toOption.isSome = true := by
    decide +kernel
  cases hc : ({ settings := { className := "class", testMethodName := "col·lecta" } } :
      Generator).generate (twoFragments "New" "Log out") with
  | error e => rw [hc] at ok; cases ok
  | ok c =>
    refine ⟨_, c, hs, hc, (declaredNames_of_generate hs hc).trans ?_, ?_, ?_, ?_⟩
    · decide +kernel
    · decide +kernel
    · decide +kernel
    · decide +kernel

end PlanCode
