import PlanCode.Proofs.Layout.Regular
import PlanCode.Proofs.Text.Literals

/-!
# The strings of regular trees

A reader of string literals finds exactly the strings of a regular tree in its
code, in order: each line reads by itself, and none of the repairs of the layout
changes what a line reads as. Comment marks are no obstacle to the reader, so
the strings of what is commented out count too.

* `reads_nodeBlock`: the lines of a tree read as its strings.
* `reads_code`: so does its code, at any indent.
-/
namespace PlanCode

namespace Node

mutual

/-- The strings that the literals of a tree give to calls, in the order in which they are
written. -/
def strings : Node → List String
  | .empty => []
  | .comment _ => []
  | .call _ arguments chain _ => argumentStrings arguments ++ nodeStrings chain
  | .children nodes => nodeStrings nodes

def argumentString : Argument Node → List String
  | .literal v => Layout.literalStrings v
  | .bare .. => []
  | .children _ nodes => nodeStrings nodes

def argumentStrings : List (Argument Node) → List String
  | [] => []
  | a :: rest => argumentString a ++ argumentStrings rest

def nodeStrings : List Node → List String
  | [] => []
  | n :: rest => n.strings ++ nodeStrings rest

end

end Node

namespace Layout

open PlanCode.Text PlanCode.Text.StringLiteral

/-! ## Lines -/

/-- Every line of a block reads by itself. -/
def ReadsBlock (b : Block) (strings : List String) : Prop := Each Reads b.lines strings

theorem reads_below {indent : List Char} (hi : '"' ∉ indent) {ls : List (List Char)}
    {strings : List String} (h : Each Reads ls strings) : Reads (below indent ls) strings := by
  induction h with
  | nil => exact reads_of_not_mem (by simp)
  | cons hl _ ih =>
    rw [below_cons, ← List.cons_append, ← List.cons_append]
    exact (hl.plain_append (by simpa using hi)).append ih

theorem reads_intercalate {sep : List Char} (hs : '"' ∉ sep) {parts : List (List Char)}
    {strings : List String} (h : Each Reads parts strings) :
    Reads (sep.intercalate parts) strings := by
  induction h with
  | nil => exact reads_of_not_mem (by simp)
  | @cons p parts x xs hp _ ih =>
    cases parts with
    | nil =>
      cases ‹Each Reads [] xs›
      simpa using hp
    | cons q parts =>
      rw [List.intercalate_cons_cons, List.append_assoc]
      exact hp.append (ih.plain_append hs)

theorem each_addComma {ls : List (List Char)} {strings : List String} (h : Each Reads ls strings) :
    Each Reads (addComma ls) strings := by
  induction h with
  | nil => exact .nil
  | @cons l ls x xs hl hs ih =>
    cases ls with
    | nil => exact .cons (hl.append_plain (by decide)) hs
    | cons m ms => exact .cons hl ih

theorem each_separated {bs : List Block} {strings : List String} (h : Each ReadsBlock bs strings) :
    Each Reads (separated bs) strings := by
  induction h with
  | nil => exact .nil
  | @cons b bs x xs hb hs ih =>
    cases bs with
    | nil =>
      cases hs
      rw [List.append_nil]
      exact hb
    | cons c bs => exact (each_addComma hb).append ih

theorem each_inward {ls : List (List Char)} {strings : List String} (h : Each Reads ls strings) :
    Each Reads (inward ls) strings :=
  h.map fun _ _ hl => hl.plain_append (by decide)

theorem each_tightened {bs : List Block} {strings : List String}
    (h : Each ReadsBlock bs strings) :
    Each Reads (inward ((separated bs).map tightenLine)) strings :=
  each_inward ((each_separated h).map fun _ _ hl => hl.tightenLine)

theorem each_chainLines {bs : List Block} {strings : List String}
    (h : Each ReadsBlock bs strings) : Each Reads (chainLines bs) strings :=
  h.flatMap fun _ _ hb => each_inward hb

theorem each_closingLines {bs : List Block} {strings : List String}
    (h : Each ReadsBlock bs strings) : Each Reads (closingLines bs) strings := by
  cases h with
  | nil => exact .singleton (reads_of_not_mem (by decide))
  | @cons b bs x xs hb hs =>
    obtain ⟨first, rest⟩ := b
    cases hb with
    | @cons _ _ y ys hf hr =>
      have hf : Reads (')' :: first) y := hf.plain_append (show '"' ∉ [')'] by decide)
      rw [List.append_assoc]
      exact .cons hf ((each_inward hr).append (each_chainLines hs))

/-! ## Blocks -/

theorem readsBlock_callBody {name : Option String} (hn : '"' ∉ nameText name)
    {parts : List (List Char)} {children chain : List Block} {own inner chained : List String}
    (hp : Each Reads parts own) (hk : Each ReadsBlock children inner)
    (hc : Each ReadsBlock chain chained) :
    ReadsBlock (callBody name parts children chain) (own ++ inner ++ chained) := by
  have ho : Reads (nameText name ++ '(' :: plainArguments parts) own := by
    have hp : Reads (plainArguments parts) own := reads_intercalate (by decide) hp
    exact (hp.plain_append (show '"' ∉ ['('] by decide)).plain_append hn
  unfold callBody
  cases children with
  | nil =>
    cases hk
    rw [List.append_nil]
    exact .cons (ho.append_plain (by decide)) (each_chainLines hc)
  | cons b bs =>
    rw [List.append_assoc]
    exact .cons (ho.append_plain (by split <;> decide))
      ((each_tightened hk).append (each_closingLines hc))

theorem readsBlock_commentedOut {b : Block} {strings : List String} (h : ReadsBlock b strings) :
    ReadsBlock b.commentedOut strings :=
  Each.map (R := Reads) (f := (['/', '/'] ++ ·)) (fun _ _ hl => hl.plain_append (by decide)) h

theorem readsBlock_dotted {b : Block} {strings : List String} (h : ReadsBlock b strings)
    (dot : Bool) : ReadsBlock (b.dotted dot) strings := by
  obtain ⟨first, rest⟩ := b
  cases h with
  | cons hf hr => exact .cons (hf.plain_append (by cases dot <;> decide)) hr

theorem readsBlock_callBlock {head : Head} (hh : RegularHead head) {parts : List (List Char)}
    {children chain : List Block} {own inner chained : List String} (hp : Each Reads parts own)
    (hk : Each ReadsBlock children inner) (hc : Each ReadsBlock chain chained) :
    ReadsBlock (callBlock head parts children chain) (own ++ inner ++ chained) := by
  have hb := readsBlock_callBody (hh.name.1.not_mem rfl) hp hk hc
  unfold callBlock
  rw [hh.heading]
  by_cases hm : head.commented = true
  · simpa only [hm, if_true, withHeading] using readsBlock_commentedOut hb
  · simpa only [hm, if_false, Bool.false_eq_true, withHeading] using hb

theorem readsBlock_childrenBlock? {children : List Block} {strings : List String}
    (h : Each ReadsBlock children strings) :
    Each ReadsBlock (childrenBlock? children).toList strings := by
  cases children with
  | nil =>
    cases h
    exact .nil
  | cons b bs =>
    refine .singleton ?_
    have hl := (each_tightened h).append
      (.singleton (reads_of_not_mem (show '"' ∉ [')'] by decide)))
    rw [List.append_nil] at hl
    have ho : Reads "children(".toList [] := reads_of_not_mem (by decide)
    exact .cons ho hl

/-! ## Trees -/

theorem each_ofText (values : List String) :
    Each Reads (values.map fun s => (ofText s).toList) values := by
  induction values with
  | nil => exact .nil
  | cons s values ih => exact .cons (reads_ofText s) ih

theorem reads_literalText {s : List Char} {strings : List String} (h : LiteralText s strings) :
    Reads s strings := by
  cases h with
  | nothing => exact reads_of_not_mem (by simp)
  | word h => exact reads_of_not_mem (h.1.not_mem rfl)
  | call hn ha =>
    refine reads_of_not_mem ?_
    simp [hn.1.not_mem (c := '"') rfl, ha.1.not_mem (c := '"') rfl]
  | strings =>
    exact reads_intercalate (by decide) (each_ofText _)

theorem each_inlinePart? {v : Literal} (h : RegularLiteral v) :
    Each Reads (inlinePart? (.literal v)).toList (literalStrings v) := by
  cases hi : v.isIgnored with
  | true =>
    have hs : literalStrings v = [] := by
      cases h with
      | @string value default ignored =>
        obtain rfl : ignored = true := hi
        cases value <;> rfl
      | _ => cases hi
    simpa [inlinePart?, hi, hs] using Each.nil
  | false =>
    have ht := literalText_code h hi
    unfold inlinePart?
    by_cases he : v.code.toList = []
    · have hs : literalStrings v = [] := by
        have hr := reads_literalText ht
        rw [he] at hr
        simpa [Scan.read] using hr []
      simpa [hi, he, hs] using Each.nil
    · simpa [hi, he] using Each.singleton (reads_literalText ht)

mutual

/-- **Strings of a tree.** The lines of a regular tree read as its strings. -/
theorem reads_nodeBlock : ∀ n : Node, Regular n →
    Each ReadsBlock (nodeBlock? n).toList n.strings
  | .empty, h => h.elim
  | .comment text, h => by
    have ht : '"' ∉ commentText text := by simpa [commentText] using h.2
    exact .singleton (.singleton (reads_of_not_mem ht))
  | .call head arguments chain _, ⟨⟨hh, _⟩, ha, hc, _⟩ => by
    obtain ⟨own, inner, he, hp, hk⟩ := reads_arguments arguments ha
    rw [Node.strings, he]
    exact .singleton (readsBlock_callBlock hh hp hk (reads_chainBlocks chain hc))
  | .children nodes, ⟨_, h⟩ => readsBlock_childrenBlock? (reads_nodeBlocks nodes h)

/-- The strings of arguments are those of the written ones, then those of the children. -/
theorem reads_arguments : ∀ arguments : List (Argument Node), RegularArguments arguments →
    ∃ own inner, Node.argumentStrings arguments = own ++ inner ∧
      Each Reads (inlineParts arguments) own ∧ Each ReadsBlock (childBlocks arguments) inner
  | [], _ => ⟨[], [], rfl, .nil, .nil⟩
  | .literal v :: rest, ⟨hv, _, hr⟩ => by
    obtain ⟨own, inner, he, hp, hk⟩ := reads_arguments rest hr
    refine ⟨literalStrings v ++ own, inner, ?_, ?_, hk⟩
    · rw [Node.argumentStrings, he, List.append_assoc, Node.argumentString]
    · rw [inlineParts_cons]
      exact (each_inlinePart? hv).append hp
  | .bare .. :: _, ⟨h, _⟩ => h.elim
  | .children _ nodes :: rest, ⟨h, hl, _⟩ => by
    obtain rfl := hl rfl
    refine ⟨[], Node.nodeStrings nodes, ?_, .nil, ?_⟩
    · simp [Node.argumentStrings, Node.argumentString]
    · simpa [childBlocks, argumentBlocks] using reads_nodeBlocks nodes h

theorem reads_nodeBlocks : ∀ nodes : List Node, RegularChildren nodes →
    Each ReadsBlock (nodeBlocks nodes) (Node.nodeStrings nodes)
  | [], _ => .nil
  | n :: rest, ⟨_, hn, hr⟩ => (reads_nodeBlock n hn).append (reads_nodeBlocks rest hr)

theorem reads_chainBlocks : ∀ chain : List Node, RegularChain chain →
    Each ReadsBlock (chainBlocks chain) (Node.nodeStrings chain)
  | [], _ => .nil
  | n :: rest, ⟨_, hn, hr⟩ => by
    have hd := (reads_nodeBlock n hn).map (f := Block.dotted n.isCall)
      fun _ _ hb => readsBlock_dotted hb n.isCall
    rw [← Option.toList_map] at hd
    exact hd.append (reads_chainBlocks rest hr)

end

/-- The code of a regular tree reads as its strings. -/
theorem reads_code {n : Node} (h : Regular n) {indent : String} (hi : IsIndent indent.toList) :
    Reads (n.code indent).toList n.strings := by
  have hq : '"' ∉ indent.toList := fun hm => absurd (hi _ hm) (by decide)
  have hb := reads_nodeBlock n h
  rw [Node.code, String.toList_ofList, nodeText_eq n (tidy_of_regular n h) hi]
  cases he : nodeBlock? n with
  | none =>
    rw [he] at hb
    cases hs : n.strings with
    | nil => exact reads_of_not_mem (by simp)
    | cons s strings => rw [hs] at hb; cases hb
  | some b =>
    rw [he] at hb
    generalize n.strings = strings at hb ⊢
    cases hb with
    | cons hb hr =>
      cases hr
      rw [List.append_nil]
      obtain ⟨first, rest⟩ := b
      cases hb with
      | cons hf hr => exact hf.append (reads_below hq hr)

end Layout
end PlanCode
