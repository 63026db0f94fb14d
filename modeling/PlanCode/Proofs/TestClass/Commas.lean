import PlanCode.Proofs.Layout.Whole
import PlanCode.Proofs.TestClass.Parts

/-!
# The argument lists of generated classes

What a Java compiler sees of a generated class with disabled elements: their
code is gone, the rest has its parentheses in pairs, and every comma separates
two arguments as long as no list of children goes over to comments behind live
code. Where one does, the class does not compile.

* `shows_assignmentCode`: moving a closing parenthesis changes no token.
* `filled_of_generate`: when the argument lists of a class are complete.
-/
namespace PlanCode

open PlanCode.Text PlanCode.Text.Code PlanCode.Layout

/-! ## Calls in statements -/

/-- Blanks in front of a closing parenthesis say nothing. -/
theorem eq_of_next_blanks {r : Reading} {seen : List Token}
    (h : ((r.next ' ').next ' ').next ')' = ⟨seen, .code⟩) : r.next ')' = ⟨seen, .code⟩ := by
  obtain ⟨tokens, at_⟩ := r
  cases at_ with
  | code => simpa [Reading.next, Reading.sign, isBlank] using h
  | slash => simpa [Reading.next, Reading.sign, isBlank] using h
  | literal body => simp [Reading.next] at h
  | escaping body => simp [Reading.next] at h
  | comment => simp [Reading.next] at h

theorem shows_assignmentCode {n : Node} (h : Regular n) (hr : n.isRemark = false)
    (hm : n.isCommented = false) {indent : String} (hi : IsIndent indent.toList) :
    Shows (n.assignmentCode indent).toList n.live := by
  have hc := shows_code h hr hi
  rw [hm] at hc
  have hc : Shows (n.code indent).toList n.live := hc
  rw [Node.code, String.toList_ofList] at hc
  unfold Node.assignmentCode
  dsimp only
  split
  · split
    · rename_i rest he
      rw [List.reverse_eq_iff.1 he] at hc
      intro seen
      have hs := hc seen
      rw [List.reverse_cons, List.reverse_cons, List.reverse_cons, Reading.read_append,
        Reading.read_append, Reading.read_append] at hs
      rw [String.toList_ofList, Reading.read_append]
      exact eq_of_next_blanks hs
    · simpa using hc
  · simpa using hc

/-! ## Lines of the class -/

/-- Tokens of statements: nothing is left open, and arguments are missing only where a call among
them is not whole. -/
structure Statements (ts : List Token) (nodes : List Node) : Prop where
  neutral : Neutral ts
  last : ∀ t ∈ ts.getLast?, isLast t = true
  filled : Filled ts ↔ nodes.all Node.isWhole = true

namespace Statements

theorem nil : Statements [] [] := ⟨neutral_nil, by simp, ⟨fun _ => rfl, fun _ => .nil⟩⟩

theorem append {ts us : List Token} {nodes more : List Node} (h : Statements ts nodes)
    (h' : Statements us more) : Statements (ts ++ us) (nodes ++ more) where
  neutral := h.neutral.append h'.neutral
  last t ht := by
    rw [List.getLast?_append, Option.mem_def, Option.or_eq_some_iff] at ht
    exact ht.elim (h'.last t) fun ht => h.last t ht.2
  filled := by
    rw [filled_append_of_isLast h.last, h.filled, h'.filled, List.all_append, Bool.and_eq_true]

theorem of_plain {text : List Char} (h : Free text) : Statements (signs text) [] := by
  by_cases hw : ∃ c ∈ text, isBlank c = false
  · obtain ⟨ho, hf⟩ := operand_signs ⟨h, hw⟩
    exact ⟨ho.neutral, ho.last, ⟨fun _ => rfl, fun _ => hf⟩⟩
  · have hs : signs text = [] := by
      rw [signs, List.map_eq_nil_iff, List.filter_eq_nil_iff]
      intro c hc
      simpa using fun hb => hw ⟨c, hc, hb⟩
    rw [hs]
    exact nil

theorem parentheses : Statements [.sign '(', .sign ')'] [] :=
  ⟨neutral_nil.parenthesized, by decide, ⟨fun _ => rfl, fun _ => by decide⟩⟩

theorem call {n : Node} (h : Regular n) : Statements n.live [n] := by
  have hl := operand_live n h
  refine ⟨hl.neutral, fun t ht => ?_, by simpa using filled_live n h⟩
  unfold LiveOperand at hl
  split at hl
  · exact hl.last t ht
  · rw [hl] at ht
    cases ht

end Statements

/-- A line of a class, with the calls in it. -/
def HoldsCalls (line : List Char) (nodes : List Node) : Prop :=
  ∃ ts, ShowsLine line ts ∧ Statements ts nodes

/-- Lines of a class, each of which may hold calls. -/
abbrev HoldCalls (lines : List String) (nodes : List Node) : Prop :=
  Each HoldsCalls (lines.map String.toList) nodes

theorem holdsCalls_plain {l : List Char} (h : Free l) : HoldsCalls l [] :=
  ⟨_, Or.inl (shows_free h), .of_plain h⟩

theorem holdCalls_plain {lines : List String} (h : ∀ l ∈ lines, Free l.toList) :
    HoldCalls lines [] := by
  induction lines with
  | nil => exact .nil
  | cons l lines ih =>
    exact .cons (x := []) (holdsCalls_plain (h l (List.mem_cons_self ..)))
      (ih fun m hm => h m (List.mem_cons_of_mem _ hm))

theorem HoldCalls.append {lines more : List String} {a b : List Node} (h : HoldCalls lines a)
    (h' : HoldCalls more b) : HoldCalls (lines ++ more) (a ++ b) := by
  rw [HoldCalls, List.map_append]
  exact Each.append h h'

theorem shows_parentheses : Shows ['(', ')'] [.sign '(', .sign ')'] :=
  shows_open.append shows_close

/-- A signature. -/
theorem holdsCalls_signature {before after : String} (hb : Free before.toList)
    (ha : Free after.toList) : HoldsCalls (before ++ "()" ++ after).toList [] := by
  rw [String.toList_append, String.toList_append]
  exact ⟨_, Or.inl (Shows.append (Shows.append (shows_free hb) shows_parentheses) (shows_free ha)),
    ((Statements.of_plain hb).append .parentheses).append (.of_plain ha)⟩

theorem holdCalls_definition {d : String × Node} (h : RegularDefinition d) :
    HoldCalls (Generator.definitionLines d.1 d.2) [d.2] := by
  obtain ⟨name, body⟩ := d
  obtain ⟨hm, hr⟩ := h
  have hi : IsIndent "      ".toList := by decide
  have hn : body.isRemark = false := by
    cases body with
    | comment => cases hm.isOwnCall
    | _ => rfl
  have hb := shows_assignmentCode hr hn hm.isCommented hi
  have hf : Free ("  private " ++ (body.target?).getD "" ++ " " ++ name).toList :=
    free_toList_append (free_toList_append (free_toList_append (free_ofList (by decide)) hm.type)
      (free_ofList (by decide))) hm.name
  have hr1 : Free "    return ".toList := free_ofList (by decide)
  have hr2 : Free ";".toList := free_ofList (by decide)
  have h1 : HoldCalls
      ["  private " ++ (body.target?).getD "" ++ " " ++ name ++ "()" ++ " \x7b"] [] :=
    .singleton (holdsCalls_signature hf (free_ofList (by decide)))
  have h2 : HoldCalls ["    return " ++ body.assignmentCode "      " ++ ";"] [body] := by
    refine .singleton ?_
    rw [String.toList_append, String.toList_append]
    exact ⟨_, Or.inl (Shows.append (Shows.append (shows_free hr1) hb) (shows_free hr2)),
      ((Statements.of_plain hr1).append (.call hr)).append (.of_plain hr2)⟩
  have h3 : HoldCalls ["  \x7d", ""] [] := holdCalls_plain (by decide)
  have hl : Generator.definitionLines name body =
      ["  private " ++ (body.target?).getD "" ++ " " ++ name ++ "()" ++ " \x7b"] ++
        ["    return " ++ body.assignmentCode "      " ++ ";"] ++ ["  \x7d", ""] := by
    have hp : "()" ++ " \x7b" = "() \x7b" := by decide
    simp [Generator.definitionLines, String.append_assoc, hp]
  rw [hl]
  exact (h1.append h2).append h3

theorem holdCalls_definitions {definitions : List (String × Node)}
    (h : ∀ d ∈ definitions, RegularDefinition d) :
    HoldCalls (definitions.flatMap fun (name, body) => Generator.definitionLines name body)
      (definitions.map (·.2)) := by
  induction definitions with
  | nil => exact .nil
  | cons d definitions ih =>
    exact (holdCalls_definition (h d (List.mem_cons_self ..))).append
      (ih fun e he => h e (List.mem_cons_of_mem _ he))

/-- What follows the call of the plan. -/
theorem statements_run (run : Bool) : ∃ ts,
    Shows ((if run then ".run()" else "") ++ ";").toList ts ∧ Statements ts [] := by
  have hf : Free ";".toList := free_ofList (by decide)
  cases run with
  | false => exact ⟨_, shows_free (show Free ("" ++ ";").toList by decide), .of_plain (by decide)⟩
  | true =>
    have hr : Free ".run".toList := free_ofList (by decide)
    have he : (".run()" ++ ";").toList = ".run".toList ++ ['(', ')'] ++ ";".toList := by decide
    rw [if_pos rfl, he]
    exact ⟨_, Shows.append (Shows.append (shows_free hr) shows_parentheses) (shows_free hf),
      ((Statements.of_plain hr).append .parentheses).append (.of_plain hf)⟩

/-- The statement with the call of the plan, which is all comment when the plan is disabled. -/
theorem holdsCalls_plan {root : Node} (h : Regular root) (ho : root.isOwnCall = true)
    (run : Bool) :
    HoldsCalls ("    " ++ root.code "    " ++ ((if run then ".run()" else "") ++ ";")).toList
      [root] := by
  have hi : IsIndent "    ".toList := by decide
  have hn : root.isRemark = false := by
    cases root with
    | comment => cases ho
    | _ => rfl
  have hc := shows_code h hn hi
  have hb : Free "    ".toList := free_ofList (by decide)
  rw [String.toList_append, String.toList_append]
  cases hm : root.isCommented with
  | true =>
    rw [hm] at hc
    have hc : IsRemark (root.code "    ").toList := hc
    have hf : '\n' ∉ ((if run then ".run()" else "") ++ ";").toList := by cases run <;> decide
    refine ⟨_, Or.inr (Ends.append_comment (Shows.append (shows_free hb) hc) hf), ?_⟩
    have hs := (Statements.of_plain hb).append (.call h)
    rwa [live_of_isCommented hm] at hs
  | false =>
    rw [hm] at hc
    have hc : Shows (root.code "    ").toList root.live := hc
    obtain ⟨ts, ht, hs⟩ := statements_run run
    exact ⟨_, Or.inl (Shows.append (Shows.append (shows_free hb) hc) ht),
      ((Statements.of_plain hb).append (.call h)).append hs⟩

/-- The test with the call of the plan. -/
theorem holdCalls_test {s : Settings} (hs : Free s.testMethodName.toList) {root : Node}
    (hr : Regular root) (ho : root.isOwnCall = true) :
    HoldCalls ["  @Test",
      "  public void " ++ s.testMethodName ++ "()" ++
        (if s.includeRun then " throws IOException" else "") ++ " \x7b",
      "    " ++ root.code "    " ++ (if s.includeRun then ".run()" else "") ++ ";",
      "  \x7d", "", "\x7d"] [root] := by
  have hb : Free ("  public void " ++ s.testMethodName).toList :=
    free_toList_append (free_ofList (by decide)) hs
  have ha : Free ((if s.includeRun then " throws IOException" else "") ++ " \x7b").toList := by
    cases s.includeRun <;> decide
  have h1 : HoldCalls ["  @Test"] [] := holdCalls_plain (by decide)
  have h2 : HoldCalls ["  public void " ++ s.testMethodName ++ "()" ++
      ((if s.includeRun then " throws IOException" else "") ++ " \x7b")] [] :=
    .singleton (holdsCalls_signature hb ha)
  have h3 : HoldCalls ["    " ++ root.code "    " ++
      ((if s.includeRun then ".run()" else "") ++ ";")] [root] :=
    .singleton (holdsCalls_plan hr ho s.includeRun)
  have h4 : HoldCalls ["  \x7d", "", "\x7d"] [] := holdCalls_plain (by decide)
  simpa [String.append_assoc] using ((h1.append h2).append h3).append h4

theorem holdCalls_classLines {g : Generator} {c : TestClass} {root : Node}
    (hp : g.Parts c root) (hn : isIdentifier g.settings.className = true)
    (ht : isIdentifier g.settings.testMethodName = true) :
    HoldCalls (Generator.classLines g.settings root c.imports c.staticImports
        (root.definitions g.surface))
      ((root.definitions g.surface).map (·.2) ++ [root]) := by
  have hi : ∀ (before after : String), Free before.toList → Free after.toList →
      ∀ {names : List String}, (∀ i ∈ names, Free i.toList) →
      HoldCalls (names.map fun name => before ++ name ++ after) [] := by
    intro before after hb ha names hf
    refine holdCalls_plain fun l hl => ?_
    obtain ⟨name, hm, rfl⟩ := List.mem_map.1 hl
    exact free_toList_append (free_toList_append hb (hf name hm)) ha
  have h0 : HoldCalls (if (c.staticImports.map fun name =>
      "import static " ++ name ++ ".*;").isEmpty then [] else [""]) [] :=
    holdCalls_plain (by split <;> decide)
  have h1 := hi "import static " ".*;" (by decide) (by decide) hp.staticImports
  have h2 := hi "import " ";" (by decide) (by decide) hp.imports
  have h3 : HoldCalls ["", "public class " ++ g.settings.className ++ " \x7b", ""] [] := by
    have hf : Free ("public class " ++ g.settings.className ++ " \x7b").toList :=
      free_toList_append (free_toList_append (free_ofList (by decide)) (free_of_isIdentifier hn))
        (free_ofList (by decide))
    exact .cons (x := []) (holdsCalls_plain (by decide))
      (.cons (x := []) (holdsCalls_plain hf) (.singleton (holdsCalls_plain (by decide))))
  have h4 := holdCalls_definitions hp.definitions
  have h5 := holdCalls_test (free_of_isIdentifier ht) hp.regular hp.isOwnCall
  simpa [Generator.classLines] using
    ((((h1.append h0).append h2).append h3).append h4).append h5

/-! ## The class -/

/-- Lines of a class, each with a line feed behind it. -/
theorem statements_of_holdCalls {ls : List (List Char)} {nodes : List Node}
    (h : Each HoldsCalls ls nodes) (hn : ls ≠ []) :
    ∃ ts, Shows (['\n'].intercalate ls ++ ['\n']) ts ∧ Statements ts nodes := by
  induction h with
  | nil => exact absurd rfl hn
  | @cons l ls x xs hl hs ih =>
    obtain ⟨ts, ht, hx⟩ := hl
    cases ls with
    | nil =>
      cases hs
      exact ⟨ts, by simpa using ht.feed, by simpa using hx⟩
    | cons m ms =>
      obtain ⟨us, hu, hy⟩ := ih (by simp)
      rw [List.intercalate_cons_cons, List.append_assoc]
      exact ⟨ts ++ us, ht.feed.append hu, hx.append hy⟩

/-- The tokens of a class are those of statements with its calls. -/
theorem statements_of_generate {entries : List (Datum × Datum)} {source : String} {s : Settings}
    (hs : Settings.ofEntries entries source = .ok s) {plan : Element} {c : TestClass}
    (hc : ({ settings := s } : Generator).generate plan = .ok c) :
    ∃ converted, ({ settings := s } : Generator).convertElement .root plan = .ok converted ∧
      Statements (tokens c.code.toList)
        ((converted.node.definitions Surface.standard).map (·.2) ++ [converted.node]) := by
  obtain ⟨hn, ht⟩ := Settings.isIdentifier_of_ofEntries hs
  obtain ⟨converted, hconv, hp⟩ := Generator.generate_parts freeSurface_standard hc
  have hl := holdCalls_classLines hp hn ht
  obtain ⟨ts, hts, hst⟩ := statements_of_holdCalls hl (by simp [Generator.classLines])
  refine ⟨converted, hconv, ?_⟩
  have hcode : tokens c.code.toList = ts := by
    rw [hp.code, String.toList_append, String.toList_intercalate]
    exact tokens_of_shows hts
  rw [hcode]
  exact hst

/-- **Argument lists of a class.** With accepted settings the parentheses of a generated class are
in pairs once comments are left out, whatever is disabled. No argument is missing exactly when
the call of the plan and the bodies of the definitions are whole. -/
theorem filled_of_generate {entries : List (Datum × Datum)} {source : String} {s : Settings}
    (hs : Settings.ofEntries entries source = .ok s) {plan : Element} {c : TestClass}
    (hc : ({ settings := s } : Generator).generate plan = .ok c) :
    ∃ converted, ({ settings := s } : Generator).convertElement .root plan = .ok converted ∧
      Balanced (tokens c.code.toList) ∧
      (Filled (tokens c.code.toList) ↔ converted.node.isWhole = true ∧
        ∀ d ∈ converted.node.definitions Surface.standard, d.2.isWhole = true) := by
  obtain ⟨converted, hconv, hst⟩ := statements_of_generate hs hc
  refine ⟨converted, hconv, hst.neutral.balanced, ?_⟩
  rw [hst.filled]
  simp [and_comm]

/-- One thread without ramp-up. -/
def singleThread (name : String) (enabled : Bool) : Element where
  kind := "ThreadGroup"
  name
  enabled
  properties := [("ThreadGroup.num_threads", .text "1"), ("ThreadGroup.ramp_time", .text "0")]

/-- A plan of two thread groups, of which the first or the last is disabled. -/
def disablingPlan (last : Bool) : Element where
  kind := "TestPlan"
  children := [singleThread "a" last, singleThread "b" (!last)]

theorem filled_of_generate_disabledFirst : ∃ c,
    ({} : Generator).generate (disablingPlan false) = .ok c ∧
      Balanced (tokens c.code.toList) ∧ Filled (tokens c.code.toList) := by
  have hs : Settings.ofEntries [] = .ok {} := rfl
  have ok : (({} : Generator).generate (disablingPlan false)).toOption.isSome = true := by
    decide +kernel
  have whole : (({} : Generator).convertElement .root (disablingPlan false)).toOption.map
      (fun converted => converted.node.isWhole &&
        (converted.node.definitions Surface.standard).all (·.2.isWhole)) = some true := by
    decide +kernel
  cases hc : ({} : Generator).generate (disablingPlan false) with
  | error e => rw [hc] at ok; cases ok
  | ok c =>
    obtain ⟨converted, hconv, hb, hf⟩ := filled_of_generate hs hc
    rw [hconv] at whole
    have whole := Option.some.inj whole
    rw [Bool.and_eq_true, List.all_eq_true] at whole
    exact ⟨c, rfl, hb, hf.2 whole⟩

/-- A comma is left behind the live thread group. -/
theorem not_filled_disabledLast : ∃ c,
    ({} : Generator).generate (disablingPlan true) = .ok c ∧
      ¬Filled (tokens c.code.toList) := by
  have hs : Settings.ofEntries [] = .ok {} := rfl
  have ok : (({} : Generator).generate (disablingPlan true)).toOption.isSome = true := by
    decide +kernel
  have broken : (({} : Generator).convertElement .root (disablingPlan true)).toOption.map
      (·.node.isWhole) = some false := by decide +kernel
  cases hc : ({} : Generator).generate (disablingPlan true) with
  | error e => rw [hc] at ok; cases ok
  | ok c =>
    obtain ⟨converted, hconv, hst⟩ := statements_of_generate hs hc
    rw [hconv] at broken
    have broken : converted.node.isWhole = false := Option.some.inj broken
    exact ⟨c, rfl, fun hf => by simpa [broken] using hst.filled.1 hf⟩

end PlanCode
