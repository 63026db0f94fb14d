import PlanCode.Proofs.Layout.Lines
import PlanCode.Proofs.TestClass.Parts

/-!
# The methods of generated classes

A reader of methods goes over the lines of a class: a line that starts as a
private method does declares one, and the lines up to the closing brace are its
body. Whatever is written in a class, it starts further in than the lines that
open and close methods, so the reader finds the definitions and nothing else.

* `linesOf_append`: the lines of a text are those of its parts.
* `indented_statement`: the lines of a call in a statement are as far in as the statement.
* `declaredMethods_code`: the reader finds the methods that a class is generated with.
-/
namespace PlanCode

open PlanCode.Text PlanCode.Layout

/-! ## The reader -/

/-- A method of a class as its lines show it. -/
structure DeclaredMethod where
  name : String
  body : List String
deriving DecidableEq, Repr

namespace DeclaredMethod

def privateMark : List Char := "  private ".toList

def closingLine : List Char := "  \x7d".toList

/-- The last word before the parenthesis. -/
def nameIn (line : List Char) : List Char :=
  ((splitOnChar ' ' (line.takeWhile (· != '('))).getLast?).getD []

/-- The private methods that are declared in lines. -/
def ofLines : List (List Char) → List DeclaredMethod
  | [] => []
  | l :: rest =>
    if privateMark.isPrefixOf l then
      { name := String.ofList (nameIn l)
        body := (rest.takeWhile (· != closingLine)).map String.ofList } :: ofLines rest
    else ofLines rest

end DeclaredMethod

/-- The private methods that a text declares. -/
def declaredMethods (code : String) : List DeclaredMethod :=
  DeclaredMethod.ofLines (splitOnChar '\n' code.toList)

/-- The lines of the statement that returns a call. -/
def returnLines (n : Node) : List String :=
  (splitOnChar '\n' ("    return " ++ n.assignmentCode "      " ++ ";").toList).map String.ofList

/-! ## Text that is further in -/

/-- What starts the lines of a statement. -/
def statementIndent : List Char := [' ', ' ', ' ', ' ']

/-- Behind each line feed of a text stands an indent. -/
def MovedIn (indent text : List Char) : Prop :=
  ∀ l ∈ (splitOnChar '\n' text).tail, indent <+: l

theorem MovedIn.append {indent s t : List Char} (h : MovedIn indent s) (ht : '\n' ∉ t) :
    MovedIn indent (s ++ t) := by
  unfold MovedIn at h ⊢
  obtain ⟨init, last, hs⟩ := splitOnChar_concat '\n' s
  rw [← List.append_nil s, hs [] (by simp), List.append_nil] at h
  rw [hs t ht]
  cases init with
  | nil => simp
  | cons first init =>
    intro l hl
    rcases List.mem_append.1 hl with hl | hl
    · exact h l (List.mem_append_left _ hl)
    · rw [List.mem_singleton.1 hl]
      exact (h last (by simp)).trans (List.prefix_append ..)

/-- A parenthesis that ends a text can be moved back when all lines are further in. -/
theorem MovedIn.moveBack {s : List Char}
    (h : MovedIn [' ', ' ', ' ', ' ', ' ', ' '] (s ++ [' ', ' ', ')'])) :
    MovedIn statementIndent (s ++ [')']) := by
  unfold MovedIn at h ⊢
  obtain ⟨init, last, hs⟩ := splitOnChar_concat '\n' s
  rw [hs _ (by decide)] at h
  rw [hs _ (by decide)]
  have hshort : statementIndent <+: [' ', ' ', ' ', ' ', ' ', ' '] := by decide
  cases init with
  | nil => simp
  | cons first init =>
    intro l hl
    rcases List.mem_append.1 hl with hl | hl
    · exact hshort.trans (h l (List.mem_append_left _ hl))
    · rw [List.mem_singleton.1 hl]
      have hlast := h (last ++ [' ', ' ', ')']) (by simp)
      have hlength : statementIndent.length ≤ last.length := by
        refine Nat.le_of_not_lt fun hlt => ?_
        rcases last with _ | ⟨a, _ | ⟨b, _ | ⟨c, _ | ⟨d, rest⟩⟩⟩⟩
        · simp at hlast
        · simp at hlast
        · simp at hlast
        · simp at hlast
        · simp only [statementIndent, List.length_cons, List.length_nil] at hlt
          omega
      exact (List.prefix_of_prefix_length_le (hshort.trans hlast) (List.prefix_append ..)
        hlength).trans (List.prefix_append ..)

theorem movedIn_nodeText {n : Node} (h : Regular n) {indent : List Char} (hi : IsIndent indent) :
    MovedIn indent (nodeText indent n) := by
  have ht := tidy_of_regular n h
  rw [nodeText_eq n ht hi]
  unfold MovedIn
  cases hb : nodeBlock? n with
  | none => simp [splitOnChar]
  | some b =>
    rw [Option.map_some, Option.getD_some, (solid_nodeBlock n ht b hb).splitOnChar_text hi,
      List.tail_cons]
    intro l hl
    obtain ⟨m, -, rfl⟩ := List.mem_map.1 hl
    exact List.prefix_append ..

theorem movedIn_code {n : Node} (h : Regular n) :
    MovedIn statementIndent (n.code "    ").toList := by
  have hc : MovedIn "    ".toList (nodeText "    ".toList n) := movedIn_nodeText h (by decide)
  unfold Node.code
  rw [String.toList_ofList]
  exact hc

theorem movedIn_assignmentCode {n : Node} (h : Regular n) :
    MovedIn statementIndent (n.assignmentCode "      ").toList := by
  have hc : MovedIn "      ".toList (nodeText "      ".toList n) := movedIn_nodeText h (by decide)
  have hshort : MovedIn statementIndent (nodeText "      ".toList n) := fun l hl =>
    (show statementIndent <+: "      ".toList by decide).trans (hc l hl)
  unfold Node.assignmentCode
  dsimp only
  split
  · split
    · rename_i rest he
      rw [List.reverse_eq_iff.1 he] at hc
      rw [String.toList_ofList]
      exact MovedIn.moveBack (by simpa using hc)
    · rw [String.toList_ofList]
      exact hshort
  · rw [String.toList_ofList]
    exact hshort

/-- The lines of a call in a statement are as far in as the statement. -/
theorem indented_statement {before s : List Char} (hb : '\n' ∉ before)
    (hi : statementIndent <+: before) (h : MovedIn statementIndent s) :
    ∀ l ∈ splitOnChar '\n' (before ++ s), statementIndent <+: l := by
  obtain ⟨first, rest, hs, hbs⟩ := splitOnChar_prepend hb s
  rw [MovedIn, hs] at h
  rw [hbs, List.forall_mem_cons]
  exact ⟨hi.trans (List.prefix_append ..), h⟩

/-! ## Reading a class -/

namespace DeclaredMethod

/-- Lines that declare no method. -/
def Quiet (ls : List (List Char)) : Prop := ∀ l ∈ ls, privateMark.isPrefixOf l = false

instance (ls : List (List Char)) : Decidable (Quiet ls) := List.decidableBAll _ ls

theorem ofLines_quiet {ls : List (List Char)} (h : Quiet ls) (rest : List (List Char)) :
    ofLines (ls ++ rest) = ofLines rest := by
  induction ls with
  | nil => rfl
  | cons l ls ih =>
    obtain ⟨hl, h⟩ := List.forall_mem_cons.1 h
    rw [List.cons_append, ofLines, hl, if_neg (by decide)]
    exact ih h

theorem Quiet.append {ls ms : List (List Char)} (h : Quiet ls) (h' : Quiet ms) :
    Quiet (ls ++ ms) := List.forall_mem_append.2 ⟨h, h'⟩

/-- What is further in than a method neither declares nor closes one. -/
theorem of_indented {l : List Char} (h : statementIndent <+: l) :
    privateMark.isPrefixOf l = false ∧ l ≠ closingLine := by
  obtain ⟨t, rfl⟩ := h
  exact ⟨rfl, by simp [statementIndent, closingLine]⟩

theorem quiet_of_indented {ls : List (List Char)} (h : ∀ l ∈ ls, statementIndent <+: l) :
    Quiet ls := fun l hl => (of_indented (h l hl)).1

/-- The last word before a parenthesis. -/
theorem nameIn_of_before {before name : List Char} (hb : '(' ∉ before) (hn : '(' ∉ name)
    (hs : ' ' ∉ name) (rest : List Char) :
    nameIn (before ++ ' ' :: name ++ '(' :: rest) = name := by
  have hb : ∀ c ∈ before ++ ' ' :: name, (c != '(') = true := by
    intro c hc
    rw [bne_iff_ne]
    rintro rfl
    rw [List.mem_append, List.mem_cons] at hc
    rcases hc with hc | hc | hc
    · exact hb hc
    · exact absurd hc (by decide)
    · exact hn hc
  have hw : (before ++ ' ' :: name ++ '(' :: rest).takeWhile (· != '(') =
      before ++ ' ' :: name := by
    rw [List.takeWhile_append_of_pos hb]
    simp
  unfold nameIn
  rw [hw, splitOnChar_append_sep, splitOnChar_of_not_mem hs, List.getLast?_concat]
  rfl

/-- A method is read from its lines. -/
theorem ofLines_method {declaration : List Char} {body : List (List Char)}
    (hd : privateMark.isPrefixOf declaration = true) (hb : ∀ l ∈ body, statementIndent <+: l)
    (rest : List (List Char)) :
    ofLines (declaration :: (body ++ closingLine :: [] :: rest)) =
      { name := String.ofList (nameIn declaration), body := body.map String.ofList } ::
        ofLines rest := by
  have hw : (body ++ closingLine :: [] :: rest).takeWhile (· != closingLine) = body := by
    rw [List.takeWhile_append_of_pos fun l hl => bne_iff_ne.2 (of_indented (hb l hl)).2]
    simp
  have hquiet : Quiet (body ++ [closingLine, []]) :=
    (quiet_of_indented hb).append (by decide)
  have hrest : ofLines (body ++ closingLine :: [] :: rest) = ofLines rest := by
    have h := ofLines_quiet hquiet rest
    rwa [List.append_assoc] at h
  rw [ofLines, hd, if_pos rfl, hw, hrest]

end DeclaredMethod

/-- The lines of texts that are written below each other. -/
def linesOf (texts : List String) : List (List Char) :=
  texts.flatMap fun text => splitOnChar '\n' text.toList

theorem splitOnChar_texts {texts : List String} (h : texts ≠ []) :
    splitOnChar '\n' ("\n".intercalate texts ++ "\n").toList = linesOf texts ++ [[]] := by
  have hfeed : "\n".toList = ['\n'] := rfl
  rw [String.toList_append, String.toList_intercalate, hfeed, splitOnChar_append_sep,
    splitOnChar_intercalate '\n' (by simpa using h), List.flatMap_map]
  rfl

/-- The lines of a class are those of its parts. -/
theorem splitOnChar_code {g : Generator} {c : TestClass} {root : Node} (hp : g.Parts c root) :
    splitOnChar '\n' c.code.toList = linesOf (Generator.classLines g.settings root c.imports
      c.staticImports (root.definitions g.surface)) ++ [[]] := by
  rw [hp.code]
  exact splitOnChar_texts (by simp [Generator.classLines])

/-- The lines of the test are among those of its class. -/
theorem mem_lines_code {g : Generator} {c : TestClass} {root : Node} (hp : g.Parts c root)
    {l : List Char} (hl : l ∈ splitOnChar '\n'
      ("    " ++ root.code "    " ++ (if g.settings.includeRun then ".run()" else "") ++
        ";").toList) : l ∈ splitOnChar '\n' c.code.toList := by
  rw [splitOnChar_code hp]
  refine List.mem_append_left _ (List.mem_flatMap.2 ⟨_, ?_, hl⟩)
  simp [Generator.classLines]

theorem linesOf_append (texts more : List String) :
    linesOf (texts ++ more) = linesOf texts ++ linesOf more := List.flatMap_append

/-- A line around a name is one line. -/
theorem linesOf_line {before after name : String} (hb : '\n' ∉ before.toList)
    (ha : '\n' ∉ after.toList) (hn : Free name.toList) :
    linesOf [before ++ name ++ after] = [before.toList ++ name.toList ++ after.toList] := by
  have hf : '\n' ∉ name.toList := hn.not_mem rfl
  have hfeed : '\n' ∉ (before ++ name ++ after).toList := by simp [hb, ha, hf]
  unfold linesOf
  rw [List.flatMap_cons, splitOnChar_of_not_mem hfeed, List.flatMap_nil, List.append_nil,
    String.toList_append, String.toList_append]

/-- What holds of all lines with a start holds of the lines around names. -/
theorem forall_mem_names {p : List Char → Prop} {before after : String}
    (hb : '\n' ∉ before.toList) (ha : '\n' ∉ after.toList) (hp : ∀ t, p (before.toList ++ t))
    {names : List String} (hn : ∀ name ∈ names, Free name.toList) :
    ∀ l ∈ linesOf (names.map fun name => before ++ name ++ after), p l := by
  induction names with
  | nil => exact fun l hl => absurd hl (by simp [linesOf])
  | cons name names ih =>
    rw [List.map_cons, ← List.singleton_append, linesOf_append,
      linesOf_line hb ha (hn name (List.mem_cons_self ..)), List.forall_mem_append,
      List.forall_mem_singleton, List.append_assoc]
    exact ⟨hp _, ih fun i hi => hn i (List.mem_cons_of_mem _ hi)⟩

/-- What holds of empty lines and of lines that import holds of all lines above a class. -/
theorem forall_mem_imports {g : Generator} {c : TestClass} {root : Node} (hp : g.Parts c root)
    {p : List Char → Prop} (he : p []) (hi : ∀ t, p ("import ".toList ++ t)) :
    ∀ l ∈ linesOf ((c.staticImports.map fun name => "import static " ++ name ++ ".*;") ++
      (if (c.staticImports.map fun name => "import static " ++ name ++ ".*;").isEmpty
        then [] else [""]) ++ c.imports.map fun name => "import " ++ name ++ ";"), p l := by
  rw [linesOf_append, linesOf_append, List.forall_mem_append, List.forall_mem_append]
  refine ⟨⟨?_, ?_⟩, ?_⟩
  · refine forall_mem_names (by decide) (by decide) (fun t => ?_) hp.staticImports
    exact hi ("static ".toList ++ t)
  · split
    · exact fun l hl => absurd hl (by simp [linesOf])
    · exact List.forall_mem_singleton.2 he
  · exact forall_mem_names (by decide) (by decide) hi hp.imports

open DeclaredMethod in
/-- A line around a name is quiet if its start is that of no method. -/
theorem quiet_line {before after name : String} (hb : '\n' ∉ before.toList)
    (ha : '\n' ∉ after.toList) (hq : ∀ t, privateMark.isPrefixOf (before.toList ++ t) = false)
    (hn : Free name.toList) : Quiet (linesOf [before ++ name ++ after]) :=
  forall_mem_names hb ha hq (List.forall_mem_singleton.2 hn)

/-- The lines of the statement that returns a call start as far in as it does. -/
theorem indented_return {n : Node} (h : Regular n) :
    ∀ l ∈ splitOnChar '\n' ("    return " ++ n.assignmentCode "      " ++ ";").toList,
      statementIndent <+: l := by
  rw [String.toList_append, String.toList_append, List.append_assoc]
  exact indented_statement (by decide) (by decide)
    ((movedIn_assignmentCode h).append (by decide))

/-- The line that declares the method of a definition. -/
def declaration (name : String) (body : Node) : List Char :=
  DeclaredMethod.privateMark ++ ((body.target?).getD "").toList ++ ' ' :: name.toList ++
    '(' :: ") \x7b".toList

open DeclaredMethod in
theorem nameIn_declaration {name : String} {body : Node} (h : RegularMethod name body)
    (hs : ' ' ∉ name.toList) : nameIn (declaration name body) = name.toList := by
  have hbefore : '(' ∉ privateMark ++ ((body.target?).getD "").toList := by
    rw [List.mem_append, not_or]
    exact ⟨by decide, h.type.not_mem rfl⟩
  exact nameIn_of_before hbefore (h.name.not_mem rfl) hs _

open DeclaredMethod in
/-- The lines of a definition. -/
theorem linesOf_definitionLines {name : String} {body : Node} (h : RegularMethod name body) :
    linesOf (Generator.definitionLines name body) = declaration name body ::
      (splitOnChar '\n' ("    return " ++ body.assignmentCode "      " ++ ";").toList ++
        [closingLine, []]) := by
  have hd : ("  private " ++ (body.target?).getD "" ++ " " ++ name ++ "() \x7b").toList =
      declaration name body := by
    simp only [declaration, String.toList_append, List.append_assoc]
    rfl
  have hfeed : '\n' ∉ declaration name body := by
    have ht : '\n' ∉ ((body.target?).getD "").toList := h.type.not_mem rfl
    have hn : '\n' ∉ name.toList := h.name.not_mem rfl
    rw [← hd]
    simp [hn, ht]
  unfold linesOf Generator.definitionLines
  rw [List.flatMap_cons, hd, splitOnChar_of_not_mem hfeed, List.flatMap_cons]
  rfl

open DeclaredMethod in
/-- The methods of definitions are read back. -/
theorem ofLines_definitions {definitions : List (String × Node)}
    (h : ∀ d ∈ definitions, RegularDefinition d ∧ ' ' ∉ d.1.toList) (rest : List (List Char)) :
    ofLines (linesOf (definitions.flatMap fun (name, body) =>
        Generator.definitionLines name body) ++ rest) =
      definitions.map (fun (name, body) => { name, body := returnLines body }) ++
        ofLines rest := by
  induction definitions with
  | nil => rfl
  | cons d definitions ih =>
    obtain ⟨⟨hd, hs⟩, hothers⟩ := List.forall_mem_cons.1 h
    obtain ⟨name, body⟩ := d
    obtain ⟨hm, hr⟩ := hd
    have hmark : privateMark.isPrefixOf (declaration name body) = true := by
      simp [declaration]
    rw [List.flatMap_cons, linesOf_append, linesOf_definitionLines hm, List.append_assoc,
      List.cons_append, List.append_assoc, List.cons_append, List.cons_append, List.nil_append]
    refine (ofLines_method hmark (indented_return hr) _).trans ?_
    rw [nameIn_declaration hm hs, String.ofList_toList, ih hothers]
    rfl

/-- The lines of the test's statement start as far in as it does. -/
theorem indented_test (s : Settings) {root : Node} (hr : Regular root) :
    ∀ l ∈ linesOf ["    " ++ root.code "    " ++ (if s.includeRun then ".run()" else "") ++ ";"],
      statementIndent <+: l := by
  intro l hl
  rw [linesOf, List.flatMap_cons, List.flatMap_nil, List.append_nil, String.append_assoc,
    String.toList_append, String.toList_append, List.append_assoc] at hl
  exact indented_statement (by decide) (by decide)
    ((movedIn_code hr).append (by cases s.includeRun <;> decide)) l hl

open DeclaredMethod in
/-- The test declares no private method. -/
theorem quiet_test {s : Settings} (hs : Free s.testMethodName.toList) {root : Node}
    (hr : Regular root) :
    Quiet (linesOf ["  @Test",
      "  public void " ++ s.testMethodName ++ "()" ++
        (if s.includeRun then " throws IOException" else "") ++ " \x7b",
      "    " ++ root.code "    " ++ (if s.includeRun then ".run()" else "") ++ ";",
      "  \x7d", "", "\x7d"]) := by
  have h1 : Quiet (linesOf ["  @Test"]) := by decide
  have h2 : Quiet (linesOf ["  public void " ++ s.testMethodName ++
      ("()" ++ (if s.includeRun then " throws IOException" else "") ++ " \x7b")]) :=
    quiet_line (by decide) (by cases s.includeRun <;> decide) (fun _ => rfl) hs
  have h3 := quiet_of_indented (indented_test s hr)
  have h4 : Quiet (linesOf ["  \x7d", "", "\x7d"]) := by decide
  have h := ((h1.append h2).append h3).append h4
  simpa [linesOf, String.append_assoc] using h

open DeclaredMethod in
/-- **The methods of a class.** A class that is generated with accepted settings declares the
methods that it is generated with, with the calls that they return, and no others. -/
theorem declaredMethods_code {g : Generator} {c : TestClass} {root : Node} (hp : g.Parts c root)
    (hn : isIdentifier g.settings.className = true)
    (ht : isIdentifier g.settings.testMethodName = true)
    (hs : ∀ d ∈ root.definitions g.surface, ' ' ∉ d.1.toList) :
    declaredMethods c.code = (root.definitions g.surface).map
      fun (name, body) => { name, body := returnLines body } := by
  have himports : Quiet _ :=
    forall_mem_imports hp (p := fun l => privateMark.isPrefixOf l = false) rfl fun _ => rfl
  have hheading : Quiet (linesOf ["", "public class " ++ g.settings.className ++ " \x7b", ""]) := by
    have hblank : Quiet (linesOf [""]) := by decide
    have hclass : Quiet (linesOf ["public class " ++ g.settings.className ++ " \x7b"]) :=
      quiet_line (by decide) (by decide) (fun _ => rfl) (free_of_isIdentifier hn)
    have h := (hblank.append hclass).append hblank
    rwa [← linesOf_append, ← linesOf_append] at h
  unfold declaredMethods
  rw [splitOnChar_code hp, Generator.classLines, linesOf_append, linesOf_append, linesOf_append,
    List.append_assoc, List.append_assoc, List.append_assoc, ofLines_quiet himports,
    ofLines_quiet hheading, ofLines_definitions fun d hd => ⟨hp.definitions d hd, hs d hd⟩,
    ofLines_quiet (quiet_test (free_of_isIdentifier ht) hp.regular)]
  exact List.append_nil _

end PlanCode
