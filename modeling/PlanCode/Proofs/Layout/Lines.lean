import PlanCode.Proofs.Layout.Regular

/-!
# The lines of tidy trees

Whatever the layout does to a tidy tree, it does line by line. Written further
in, the tree keeps its code, with the indent behind every line feed. A call that
is commented out keeps it too, with one mark on each line, at the call's indent;
no line of its chain, its children or its heading escapes, even where they are
commented out themselves.

* `code_indent`: the code at an indent is the code at none, moved in.
* `code_commented`: every line of a commented call is marked, and its code without the marks is
  that of the call.
-/
namespace PlanCode

/-- A call that is commented out or not; other nodes stay as they are. -/
def Node.setCommented (on : Bool) : Node → Node
  | .call head arguments chain definitions =>
    .call { head with commented := on } arguments chain definitions
  | n => n

namespace Layout

open PlanCode.Text

/-! ## Moving text in -/

/-- A text with an indent behind each of its line feeds. -/
def movedIn (indent text : List Char) : List Char :=
  text.flatMap fun c => if c = '\n' then c :: indent else [c]

theorem movedIn_append (indent s t : List Char) :
    movedIn indent (s ++ t) = movedIn indent s ++ movedIn indent t := List.flatMap_append

theorem movedIn_of_not_mem (indent : List Char) {l : List Char} (h : '\n' ∉ l) :
    movedIn indent l = l := by
  induction l with
  | nil => rfl
  | cons c l ih =>
    rw [List.mem_cons, not_or] at h
    have hc : movedIn indent [c] = [c] := by simp [movedIn, Ne.symm h.1]
    rw [← List.singleton_append, movedIn_append, hc, ih h.2]

theorem movedIn_below (indent : List Char) {ls : List (List Char)} (h : ∀ l ∈ ls, '\n' ∉ l) :
    movedIn indent (below [] ls) = below indent ls := by
  induction ls with
  | nil => rfl
  | cons l ls ih =>
    have hf : movedIn indent ['\n'] = '\n' :: indent := by simp [movedIn]
    rw [below_cons, List.nil_append, ← List.singleton_append, movedIn_append, hf, movedIn_append,
      movedIn_of_not_mem indent (h l (List.mem_cons_self ..)),
      ih fun m hm => h m (List.mem_cons_of_mem _ hm), below_cons]
    simp

namespace Block

theorem Solid.first {b : Block} (h : b.Solid) : '\n' ∉ b.first := (h b.first (by simp [lines])).1

theorem Solid.rest {b : Block} (h : b.Solid) : ∀ l ∈ b.rest, '\n' ∉ l :=
  fun l hl => (h l (by simp [lines, hl])).1

theorem Solid.movedIn_text {b : Block} (h : b.Solid) (indent : List Char) :
    movedIn indent (b.text []) = b.text indent := by
  rw [text, movedIn_append, movedIn_of_not_mem indent h.first, movedIn_below indent h.rest, text]

end Block

/-- **Indentation.** At an indent, a tidy tree is written as at none, with the indent behind every
line feed. -/
theorem code_indent {n : Node} (h : Tidy n) {indent : String} (hi : IsIndent indent.toList) :
    n.code indent = String.ofList (movedIn indent.toList (n.code "").toList) := by
  have hnone : IsIndent "".toList := by decide
  rw [Node.code, Node.code, String.toList_ofList, nodeText_eq n h hi, nodeText_eq n h hnone]
  cases hb : nodeBlock? n with
  | none => rfl
  | some b =>
    have hs := solid_nodeBlock n h b hb
    exact congrArg String.ofList (hs.movedIn_text indent.toList).symm

/-- A thread group with a heading and a chain. Of its two samplers the first one is disabled, with
a remark and children of its own. -/
def reviewedGroup : Node :=
  .call { name := some "threadGroup", target := "DslThreadGroup", heading := some "load, peak" }
    [.literal (.text "users"), .literal (.number 2),
      .children "ThreadGroupChild[]" [
        .call { name := some "httpSampler", target := "DslHttpSampler", commented := true }
          [.literal (.text "http://a/x, y")]
          [.comment "check, ",
            .children [
              .call { name := some "timer", target := "DslTimer", commented := true } [] [] []]]
          [],
        .empty,
        .call { name := none, target := "DslHttpSampler" } [] [] []]]
    [.call { name := some "rampTo", target := "DslThreadGroup" } [.literal (.number 3)] [] []]
    []

theorem tidy_reviewedGroup : Tidy reviewedGroup := by decide

theorem code_indent_reviewedGroup : Tidy reviewedGroup ∧ IsIndent "    ".toList ∧
    reviewedGroup.code "    " =
      String.ofList (movedIn "    ".toList (reviewedGroup.code "").toList) :=
  ⟨tidy_reviewedGroup, by decide, code_indent tidy_reviewedGroup (by decide)⟩

/-! ## Comment marks -/

/-- What makes the rest of a line a comment. -/
def commentMark : List Char := ['/', '/']

/-- The first line of a text starts with a comment mark, and every other line has one behind the
indent. -/
def IsMarked (indent text : List Char) : Prop :=
  match splitOnChar '\n' text with
  | [] => False
  | first :: rest => commentMark <+: first ∧ ∀ l ∈ rest, indent ++ commentMark <+: l

/-- A marked text without the mark on each of its lines. -/
def unmarked (indent text : List Char) : List Char :=
  match splitOnChar '\n' text with
  | [] => []
  | first :: rest => ['\n'].intercalate
      (first.drop commentMark.length ::
        rest.map fun l => indent ++ l.drop (indent ++ commentMark).length)

theorem splitOnChar_below {indent l : List Char} (hi : '\n' ∉ indent) (hl : '\n' ∉ l)
    {ls : List (List Char)} (h : ∀ m ∈ ls, '\n' ∉ m) :
    splitOnChar '\n' (l ++ below indent ls) = l :: ls.map (indent ++ ·) := by
  induction ls generalizing l with
  | nil => simpa using splitOnChar_of_not_mem hl
  | cons m ls ih =>
    have hm : '\n' ∉ indent ++ m := by simp [hi, h m (List.mem_cons_self ..)]
    rw [below_cons, splitOnChar_append_cons hl, ih hm fun k hk => h k (List.mem_cons_of_mem _ hk)]
    rfl

theorem intercalate_below (indent l : List Char) (ls : List (List Char)) :
    ['\n'].intercalate (l :: ls.map (indent ++ ·)) = l ++ below indent ls := by
  induction ls generalizing l with
  | nil => simp
  | cons m ls ih =>
    rw [List.map_cons, List.intercalate_cons_cons, ih, below_cons]
    simp

namespace Block

theorem Solid.splitOnChar_text {b : Block} (h : b.Solid) {indent : List Char}
    (hi : IsIndent indent) :
    splitOnChar '\n' (b.text indent) = b.first :: b.rest.map (indent ++ ·) :=
  splitOnChar_below hi.not_mem h.first h.rest

/-- A block that is commented out has the mark on each of its lines. -/
theorem Solid.isMarked {b : Block} (h : b.Solid) {indent : List Char} (hi : IsIndent indent) :
    IsMarked indent (b.commentedOut.text indent) := by
  rw [IsMarked, (solid_commentedOut h).splitOnChar_text hi]
  refine ⟨List.prefix_append .., fun l hl => ?_⟩
  simp only [commentedOut, List.map_map, List.mem_map, Function.comp_apply] at hl
  obtain ⟨m, -, rfl⟩ := hl
  rw [← List.append_assoc]
  exact List.prefix_append ..

/-- Without the marks it is the block as it was. -/
theorem Solid.unmarked_text {b : Block} (h : b.Solid) {indent : List Char} (hi : IsIndent indent) :
    unmarked indent (b.commentedOut.text indent) = b.text indent := by
  have hdrop : ∀ l, (indent ++ (['/', '/'] ++ l)).drop (indent ++ commentMark).length = l := by
    intro l
    rw [← List.append_assoc]
    exact List.drop_left
  rw [unmarked, (solid_commentedOut h).splitOnChar_text hi]
  simp only [commentedOut, List.map_map, Function.comp_def, hdrop]
  exact intercalate_below indent b.first b.rest

end Block

/-- **Commenting out.** Every line of a commented call starts with a comment mark, at the indent of
the call, and without these marks its code is that of the call when it is not commented out. -/
theorem code_commented {n : Node} (hn : n.isOwnCall = true) (h : Tidy n) {indent : String}
    (hi : IsIndent indent.toList) :
    IsMarked indent.toList ((n.setCommented true).code indent).toList ∧
      unmarked indent.toList ((n.setCommented true).code indent).toList =
        ((n.setCommented false).code indent).toList := by
  cases n with
  | call head arguments chain definitions =>
    -- the lines of the call without a mark of its own
    let b := withHeading head.heading
      (callBody head.name (inlineParts arguments) (childBlocks arguments) (chainBlocks chain))
    have hs : b.Solid :=
      solid_nodeBlock (.call { head with commented := false } arguments chain definitions) h b rfl
    have hcode : ∀ on, (((Node.call head arguments chain definitions).setCommented on).code
        indent).toList = (if on then b.commentedOut else b).text indent.toList := fun on => by
      rw [Node.code, String.toList_ofList]
      exact nodeText_eq (.call { head with commented := on } arguments chain definitions) h hi
    rw [hcode, hcode]
    exact ⟨hs.isMarked hi, hs.unmarked_text hi⟩
  | _ => cases hn

theorem code_commented_reviewedGroup :
    reviewedGroup.isOwnCall = true ∧ Tidy reviewedGroup ∧ IsIndent "    ".toList ∧
    IsMarked "    ".toList ((reviewedGroup.setCommented true).code "    ").toList ∧
      unmarked "    ".toList ((reviewedGroup.setCommented true).code "    ").toList =
        ((reviewedGroup.setCommented false).code "    ").toList :=
  ⟨rfl, tidy_reviewedGroup, by decide, code_commented rfl tidy_reviewedGroup (by decide)⟩

end Layout
end PlanCode
