import PlanCode.Proofs.Layout.Strings
import PlanCode.Proofs.TestClass.Parts

/-!
# The strings of generated classes

The text of a plan cannot leave the string literals it is written to. A reader of
literals finds in a generated class the strings of the definitions, then those of
the plan's call, and nothing else: names, numbers and comments hold no quote.

* `reads_assignmentCode`: moving a closing parenthesis changes no literal.
* `literals_of_generate`: the literals of a class are the strings of its calls.
-/
namespace PlanCode

open PlanCode.Text PlanCode.Text.StringLiteral PlanCode.Layout

/-! ## Calls in statements -/

theorem reads_assignmentCode {n : Node} (h : Regular n) {indent : String}
    (hi : IsIndent indent.toList) : Reads (n.assignmentCode indent).toList n.strings := by
  have hr := reads_code h hi
  rw [Node.code, String.toList_ofList] at hr
  unfold Node.assignmentCode
  dsimp only
  split
  · split
    · rename_i rest he
      have ht := List.reverse_eq_iff.1 he
      rw [ht] at hr
      have hc : Reads rest.reverse _ :=
        Reads.of_append_plain (by simpa using hr) (show '"' ∉ [' ', ' ', ')'] by decide)
      simpa using hc.append_plain (show '"' ∉ [')'] by decide)
    · simpa using hr
  · simpa using hr

/-! ## Lines of the class -/

/-- The lines of a class, each of which is a text of its own. -/
abbrev ReadsLines (lines : List String) (strings : List String) : Prop :=
  Each Reads (lines.map String.toList) strings

theorem readsLines_plain {lines : List String} (h : ∀ l ∈ lines, '"' ∉ l.toList) :
    ReadsLines lines [] := by
  induction lines with
  | nil => exact .nil
  | cons l lines ih =>
    exact .cons (x := []) (reads_of_not_mem (h l (List.mem_cons_self ..)))
      (ih fun m hm => h m (List.mem_cons_of_mem _ hm))

theorem ReadsLines.append {lines more : List String} {a b : List String}
    (h : ReadsLines lines a) (h' : ReadsLines more b) : ReadsLines (lines ++ more) (a ++ b) := by
  rw [ReadsLines, List.map_append]
  exact Each.append h h'

/-- A statement with a call in it. -/
theorem readsLines_statement {code : String} {strings : List String}
    (h : Reads code.toList strings) (before after : String) (hb : '"' ∉ before.toList)
    (ha : '"' ∉ after.toList) : ReadsLines [before ++ code ++ after] strings := by
  refine .singleton ?_
  rw [String.toList_append, String.toList_append]
  exact (h.plain_append hb).append_plain ha

theorem readsLines_definition {d : String × Node} (h : RegularDefinition d) :
    ReadsLines (Generator.definitionLines d.1 d.2) d.2.strings := by
  obtain ⟨name, body⟩ := d
  obtain ⟨hm, hr⟩ := h
  have hi : IsIndent "      ".toList := by decide
  have hb := reads_assignmentCode hr hi
  have hn : '"' ∉ name.toList := hm.name.not_mem rfl
  have ht : '"' ∉ (body.target?.getD "").toList := hm.type.not_mem rfl
  have h1 : ReadsLines ["  private " ++ (body.target?).getD "" ++ " " ++ name ++ "() \x7b"] [] :=
    readsLines_plain (by simp [hn, ht])
  have h2 := readsLines_statement hb "    return " ";" (by decide) (by decide)
  have h3 : ReadsLines ["  \x7d", ""] [] := readsLines_plain (by decide)
  simpa [Generator.definitionLines] using (h1.append h2).append h3

theorem readsLines_definitions {definitions : List (String × Node)}
    (h : ∀ d ∈ definitions, RegularDefinition d) :
    ReadsLines (definitions.flatMap fun (name, body) => Generator.definitionLines name body)
      (definitions.flatMap (·.2.strings)) := by
  induction definitions with
  | nil => exact .nil
  | cons d definitions ih =>
    exact (readsLines_definition (h d (List.mem_cons_self ..))).append
      (ih fun e he => h e (List.mem_cons_of_mem _ he))

/-- The test with the call of the plan. -/
theorem readsLines_test {s : Settings} (hs : '"' ∉ s.testMethodName.toList) {root : Node}
    (hr : Regular root) :
    ReadsLines ["  @Test",
      "  public void " ++ s.testMethodName ++ "()" ++
        (if s.includeRun then " throws IOException" else "") ++ " \x7b",
      "    " ++ root.code "    " ++ (if s.includeRun then ".run()" else "") ++ ";",
      "  \x7d", "", "\x7d"] root.strings := by
  have hi : IsIndent "    ".toList := by decide
  have hb := reads_code hr hi
  have h1 : ReadsLines ["  @Test", "  public void " ++ s.testMethodName ++ "()" ++
      (if s.includeRun then " throws IOException" else "") ++ " \x7b"] [] := by
    refine readsLines_plain ?_
    cases s.includeRun <;> simp [hs]
  have h2 := readsLines_statement hb "    " ((if s.includeRun then ".run()" else "") ++ ";")
    (by decide) (by cases s.includeRun <;> decide)
  have h3 : ReadsLines ["  \x7d", "", "\x7d"] [] := readsLines_plain (by decide)
  simpa [String.append_assoc] using (h1.append h2).append h3

theorem readsLines_classLines {g : Generator} {c : TestClass} {root : Node}
    (hp : g.Parts c root) (hn : isIdentifier g.settings.className = true)
    (ht : isIdentifier g.settings.testMethodName = true) :
    ReadsLines (Generator.classLines g.settings root c.imports c.staticImports
        (root.definitions g.surface))
      ((root.definitions g.surface).flatMap (·.2.strings) ++ root.strings) := by
  have hi : ∀ (before after : String), '"' ∉ before.toList → '"' ∉ after.toList →
      ∀ {names : List String}, (∀ i ∈ names, Free i.toList) →
      ReadsLines (names.map fun name => before ++ name ++ after) [] := by
    intro before after hb ha names hf
    refine readsLines_plain fun l hl => ?_
    obtain ⟨name, hm, rfl⟩ := List.mem_map.1 hl
    have : '"' ∉ name.toList := (hf name hm).not_mem rfl
    simp [hb, ha, this]
  have h1 := hi "import static " ".*;" (by decide) (by decide) hp.staticImports
  have h2 := hi "import " ";" (by decide) (by decide) hp.imports
  have h3 : ReadsLines ["", "public class " ++ g.settings.className ++ " \x7b", ""] [] := by
    have : '"' ∉ g.settings.className.toList := (free_of_isIdentifier hn).not_mem rfl
    exact readsLines_plain (by simp [this])
  have h4 := readsLines_definitions hp.definitions
  have h5 := readsLines_test ((free_of_isIdentifier ht).not_mem rfl) hp.regular
  have h0 : ReadsLines (if (c.staticImports.map fun name =>
      "import static " ++ name ++ ".*;").isEmpty then [] else [""]) [] :=
    readsLines_plain (by split <;> decide)
  simpa [Generator.classLines] using
    ((((h1.append h0).append h2).append h3).append h4).append h5

/-! ## The class -/

/-- **No text of a plan is code.** Whatever a plan holds, a class that is generated from it with
accepted settings holds the strings of its calls, definitions first, each as one literal on one
line, and no other literal. -/
theorem literals_of_generate {entries : List (Datum × Datum)} {source : String} {s : Settings}
    (hs : Settings.ofEntries entries source = .ok s) {plan : Element} {c : TestClass}
    (hc : ({ settings := s } : Generator).generate plan = .ok c) :
    ∃ converted bodies, ({ settings := s } : Generator).convertElement .root plan = .ok converted ∧
      bodies? c.code.toList = some bodies ∧
      (∀ body ∈ bodies, '\n' ∉ body ∧ '\r' ∉ body) ∧
      bodies.mapM decode? = some
        (((converted.node.definitions Surface.standard).flatMap (·.2.strings) ++
          converted.node.strings).map String.toList) := by
  obtain ⟨hn, ht⟩ := Settings.isIdentifier_of_ofEntries hs
  obtain ⟨converted, hconv, hp⟩ := Generator.generate_parts freeSurface_standard hc
  have hl := readsLines_classLines hp hn ht
  have hr := (reads_intercalate (show '"' ∉ ['\n'] by decide) hl).append_plain
    (show '"' ∉ ['\n'] by decide)
  refine ⟨converted, _, hconv, ?_, ?_, mapM_decode?_escaped _⟩
  · rw [hp.code, String.toList_append, String.toList_intercalate]
    exact bodies?_of_reads hr
  · intro body hb
    obtain ⟨text, -, rfl⟩ := List.mem_map.1 hb
    exact ⟨fun h => (mem_escaped_ne h).1 rfl, fun h => (mem_escaped_ne h).2 rfl⟩

/-- A plan with a disabled transaction whose name tries to leave its literal. -/
def quotingPlan : Element where
  kind := "TestPlan"
  children := [{ kind := "TransactionController", name := "say \"hi\"\n//", enabled := false }]

theorem literals_of_generate_quotingPlan : ∃ c bodies,
    ({} : Generator).generate quotingPlan = .ok c ∧ bodies? c.code.toList = some bodies ∧
      bodies.mapM decode? = some ["say \"hi\"\n//".toList] := by
  have hs : Settings.ofEntries [] = .ok {} := rfl
  have ok : (({} : Generator).generate quotingPlan).toOption.isSome = true := by decide +kernel
  have strings : (({} : Generator).convertElement .root quotingPlan).toOption.map
      (fun converted => (converted.node.definitions Surface.standard).flatMap (·.2.strings) ++
        converted.node.strings) = some ["say \"hi\"\n//"] := by decide +kernel
  cases hc : ({} : Generator).generate quotingPlan with
  | error e => rw [hc] at ok; cases ok
  | ok c =>
    obtain ⟨converted, bodies, hconv, hb, -, hd⟩ := literals_of_generate hs hc
    rw [hconv] at strings
    refine ⟨c, bodies, rfl, hb, ?_⟩
    rw [hd]
    exact congrArg (fun s => some (s.map String.toList)) (Option.some.inj strings)

end PlanCode
