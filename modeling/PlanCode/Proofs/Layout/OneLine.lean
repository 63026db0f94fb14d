import PlanCode.Proofs.Duration.Form
import PlanCode.Proofs.Layout.Live
import PlanCode.Proofs.Text.Compact

/-!
# Trees on one line

The layout decides about separators in finished text: it joins arguments, takes
spaces away at line ends, closes up blank lines and cuts off the start of a
chain. The code of a tree on one line comes from the tree alone. Both are the
same code, however far in it is written and whatever its strings hold: without
comments and layout, what is written is the code on one line.

* `leaves_nodeBlock`: the lines of a legible tree leave the code on one line.
* `compact_code`: so does its code.
-/
namespace PlanCode

open PlanCode.Text PlanCode.Text.Code

/-! ## Code on one line -/

/-- The Java expression of a value without blanks between its parts. -/
def Literal.oneLine : Literal → List Char
  | .strings values => [','].intercalate (values.map fun s => (StringLiteral.ofText s).toList)
  | v => v.code.toList

namespace Node

mutual

/-- The code of a tree on one line, without comments. -/
def oneLine : Node → List Char
  | .empty => []
  | .comment _ => []
  | .call head arguments chain _ =>
    Layout.nameText head.name ++ '(' ::
      ([','].intercalate (oneLineArguments arguments) ++ ')' :: oneLineChain chain)
  | .children nodes =>
    if (oneLineNodes nodes).isEmpty then []
    else "children(".toList ++ ([','].intercalate (oneLineNodes nodes) ++ [')'])

/-- The arguments and children that are written. -/
def oneLineArguments : List (Argument Node) → List (List Char)
  | [] => []
  | a :: rest => oneLineArgument a ++ oneLineArguments rest

def oneLineArgument : Argument Node → List (List Char)
  | .literal v => if v.isIgnored || v.oneLine.isEmpty then [] else [v.oneLine]
  | .bare .. => []
  | .children _ nodes => oneLineNodes nodes

def oneLineNodes : List Node → List (List Char)
  | [] => []
  | n :: rest => (if n.oneLine.isEmpty then [] else [n.oneLine]) ++ oneLineNodes rest

/-- The segments that are written, each behind a dot. -/
def oneLineChain : List Node → List Char
  | [] => []
  | n :: rest => (if n.oneLine.isEmpty then [] else '.' :: n.oneLine) ++ oneLineChain rest

end

/-- Whether a node leaves anything in the code that it is part of. -/
def isWritten (n : Node) : Bool := !(Layout.nodeText [] n).isEmpty

end Node

namespace Layout

/-! ## Legible trees -/

/-- A literal of one of the DSL's types, where the words of enumerations are plain. -/
def TypedLiteral : Literal → Prop
  | .enum type _ value _ => ∀ constant ∈ value, Plain type.toList ∧ Plain constant.toList
  | .fixed .. => False
  | _ => True

/-- What is written last of a chain is no remark. -/
def EndsInCode (chain : List Node) : Prop :=
  ∀ n ∈ (chain.filter Node.isWritten).getLast?, n.isRemark = false

mutual

/-- Nothing is commented out, names are plain as dotted identifiers are, arguments are typed with
children at the end, and no remark is a child or ends a chain. -/
def Legible : Node → Prop
  | .empty => True
  | .comment text => '\n' ∉ text.toList
  | .call head arguments chain _ =>
    (head.commented = false ∧ Plain (nameText head.name) ∧
      ∀ text ∈ head.heading, '\n' ∉ text.toList) ∧
      LegibleArguments arguments ∧ LegibleNodes chain ∧ EndsInCode chain
  | .children nodes => LegibleNodes nodes ∧ ∀ n ∈ nodes, n.isRemark = false

def LegibleArgument : Argument Node → Prop
  | .literal v => TypedLiteral v
  | .bare .. => False
  | .children _ nodes => LegibleNodes nodes ∧ ∀ n ∈ nodes, n.isRemark = false

def LegibleArguments : List (Argument Node) → Prop
  | [] => True
  | a :: rest => LegibleArgument a ∧ (isChildren a = true → rest = []) ∧ LegibleArguments rest

def LegibleNodes : List Node → Prop
  | [] => True
  | n :: rest => Legible n ∧ LegibleNodes rest

end

instance : DecidablePred TypedLiteral
  | .string .. => inferInstanceAs (Decidable True)
  | .int .. => inferInstanceAs (Decidable True)
  | .long .. => inferInstanceAs (Decidable True)
  | .bool .. => inferInstanceAs (Decidable True)
  | .duration .. => inferInstanceAs (Decidable True)
  | .enum type _ value _ => inferInstanceAs
    (Decidable (∀ constant ∈ value, Plain type.toList ∧ Plain constant.toList))
  | .strings _ => inferInstanceAs (Decidable True)
  | .fixed .. => inferInstanceAs (Decidable False)

instance (chain : List Node) : Decidable (EndsInCode chain) :=
  inferInstanceAs (Decidable
    (∀ n ∈ (chain.filter Node.isWritten).getLast?, n.isRemark = false))

mutual

def decidableLegible : ∀ n : Node, Decidable (Legible n)
  | .empty => inferInstanceAs (Decidable True)
  | .comment text => inferInstanceAs (Decidable ('\n' ∉ text.toList))
  | .call head arguments chain _ =>
    have := decidableLegibleArguments arguments
    have := decidableLegibleNodes chain
    inferInstanceAs (Decidable ((head.commented = false ∧ Plain (nameText head.name) ∧
      ∀ text ∈ head.heading, '\n' ∉ text.toList) ∧
      LegibleArguments arguments ∧ LegibleNodes chain ∧ EndsInCode chain))
  | .children nodes =>
    have := decidableLegibleNodes nodes
    inferInstanceAs (Decidable (LegibleNodes nodes ∧ ∀ n ∈ nodes, n.isRemark = false))

def decidableLegibleArgument : ∀ a : Argument Node, Decidable (LegibleArgument a)
  | .literal v => inferInstanceAs (Decidable (TypedLiteral v))
  | .bare .. => inferInstanceAs (Decidable False)
  | .children _ nodes =>
    have := decidableLegibleNodes nodes
    inferInstanceAs (Decidable (LegibleNodes nodes ∧ ∀ n ∈ nodes, n.isRemark = false))

def decidableLegibleArguments : ∀ arguments : List (Argument Node),
    Decidable (LegibleArguments arguments)
  | [] => inferInstanceAs (Decidable True)
  | a :: rest =>
    have := decidableLegibleArgument a
    have := decidableLegibleArguments rest
    inferInstanceAs (Decidable
      (LegibleArgument a ∧ (isChildren a = true → rest = []) ∧ LegibleArguments rest))

def decidableLegibleNodes : ∀ nodes : List Node, Decidable (LegibleNodes nodes)
  | [] => inferInstanceAs (Decidable True)
  | n :: rest =>
    have := decidableLegible n
    have := decidableLegibleNodes rest
    inferInstanceAs (Decidable (Legible n ∧ LegibleNodes rest))

end

instance : DecidablePred Legible := decidableLegible

/-! ## Written literals -/

theorem plain_longText (n : Int) : Plain (Literal.longText n).toList := by
  unfold Literal.longText
  split
  · have h := plain_append.2 ⟨plain_toString n, show Plain ['L'] by decide⟩
    simpa [toString] using h
  · exact plain_toString n

theorem plain_boolText (b : Bool) : Plain (Literal.boolText b).toList := by
  cases b <;> decide

theorem plain_duration (d : Duration) : Plain d.code.toList := by
  rcases d.code_cases with h | ⟨f, count, h⟩
  · rw [h]
    decide
  · have hf : Plain ("Duration." ++ f.name).toList := by cases f <;> decide
    rw [h, String.toList_append, String.toList_append, String.toList_append]
    exact plain_append.2 ⟨plain_append.2 ⟨plain_append.2 ⟨hf, by decide⟩, plain_toString count⟩,
      by decide⟩

theorem plain_getD {α : Type} {value : Option α} {text : α → String}
    (h : ∀ a ∈ value, Plain (text a).toList) : Plain ((value.map text).getD "").toList := by
  cases value with
  | none => exact fun c hc => absurd hc (by simp)
  | some a => exact h a rfl

/-- String literals with a separator between them. -/
def stringLiterals (sep : List Char) (values : List String) : List Char :=
  sep.intercalate (values.map fun s => (StringLiteral.ofText s).toList)

theorem stringLiterals_ne_nil (sep : List Char) {values : List String} (h : values ≠ []) :
    stringLiterals sep values ≠ [] := by
  obtain ⟨s, values, rfl⟩ := List.exists_cons_of_ne_nil h
  have hs : (StringLiteral.ofText s).toList ≠ [] := by simp [StringLiteral.ofText_ne_empty]
  cases values with
  | nil => simpa [stringLiterals] using hs
  | cons => simp [stringLiterals, List.intercalate_cons_cons, hs]

/-- What a typed literal is written as: a plain expression, or strings. -/
theorem typedLiteral_cases {v : Literal} (h : TypedLiteral v) :
    (Plain v.code.toList ∧ v.oneLine = v.code.toList) ∨
      ∃ values, v.code.toList = stringLiterals [',', ' '] values ∧
        v.oneLine = stringLiterals [','] values := by
  cases v with
  | string value =>
    refine Or.inr ?_
    cases value with
    | none => exact ⟨[], rfl, rfl⟩
    | some s => exact ⟨[s], by simp [stringLiterals, Literal.code],
        by simp [stringLiterals, Literal.oneLine, Literal.code]⟩
  | int value => exact Or.inl ⟨plain_getD fun n _ => plain_toString n, rfl⟩
  | long value => exact Or.inl ⟨plain_getD fun n _ => plain_longText n, rfl⟩
  | bool value => exact Or.inl ⟨plain_getD fun b _ => plain_boolText b, rfl⟩
  | duration value => exact Or.inl ⟨plain_getD fun d _ => plain_duration d, rfl⟩
  | enum type qualified value =>
    refine Or.inl ⟨plain_getD fun constant hc => ?_, rfl⟩
    obtain ⟨ht, hv⟩ := h constant hc
    simp only [String.toList_append]
    exact plain_append.2 ⟨plain_append.2 ⟨ht, by decide⟩, hv⟩
  | strings values =>
    refine Or.inr ⟨values, ?_, rfl⟩
    simp [Literal.code, stringLiterals, String.toList_intercalate, Function.comp_def]
  | fixed => exact h.elim

theorem feed_not_mem_literal {v : Literal} (h : TypedLiteral v) : '\n' ∉ v.code.toList := by
  rcases typedLiteral_cases h with ⟨hp, -⟩ | ⟨values, hc, -⟩
  · exact hp.not_mem (by decide)
  · rw [hc]
    refine not_mem_intercalate (by decide) fun p hp => ?_
    obtain ⟨s, -, rfl⟩ := List.mem_map.1 hp
    exact feed_not_mem_ofText s

theorem isEmpty_oneLine {v : Literal} (h : TypedLiteral v) :
    v.oneLine.isEmpty = v.code.toList.isEmpty := by
  rcases typedLiteral_cases h with ⟨-, ho⟩ | ⟨values, hc, ho⟩
  · rw [ho]
  · rw [hc, ho]
    by_cases hv : values = []
    · rw [hv]
      rfl
    · rw [List.isEmpty_eq_false_iff.2 (stringLiterals_ne_nil _ hv),
        List.isEmpty_eq_false_iff.2 (stringLiterals_ne_nil _ hv)]

theorem leaves_intercalate {parts outs : List (List Char)} (h : List.Forall₂ Leaves parts outs) :
    Leaves (plainArguments parts) ([','].intercalate outs) := by
  have hc : Leaves [',', ' '] [','] := (leaves_plain (s := [',']) (by decide)).append
    (leaves_blank (by simp))
  unfold plainArguments
  induction h with
  | nil => exact leaves_nil
  | @cons p out parts outs hp hs ih =>
    cases hs with
    | nil => simpa using hp
    | cons _ _ =>
      rw [List.intercalate_cons_cons, List.intercalate_cons_cons]
      exact (hp.append hc).append ih

/-- Of a typed literal nothing is deleted but blanks between its strings. -/
theorem leaves_literal {v : Literal} (h : TypedLiteral v) : Leaves v.code.toList v.oneLine := by
  rcases typedLiteral_cases h with ⟨hp, ho⟩ | ⟨values, hc, ho⟩
  · rw [ho]
    exact leaves_plain hp
  · rw [hc, ho]
    refine leaves_intercalate (List.forall₂_same.2 fun p hp => ?_)
    obtain ⟨s, -, rfl⟩ := List.mem_map.1 hp
    exact leaves_ofText s

/-! ## Legible trees are tidy -/

mutual

theorem tidy_of_legible : ∀ n : Node, Legible n → Tidy n
  | .empty, _ => trivial
  | .comment _, h => h
  | .call _ arguments chain _, ⟨⟨_, hn, hh⟩, ha, hc, _⟩ =>
    ⟨⟨hn.not_mem (by decide), hh⟩, tidyArguments_of_legible arguments ha,
      tidyNodes_of_legible chain hc⟩
  | .children nodes, ⟨h, _⟩ => tidyNodes_of_legible nodes h

theorem tidyArguments_of_legible : ∀ arguments : List (Argument Node),
    LegibleArguments arguments → TidyArguments arguments
  | [], _ => trivial
  | a :: rest, ⟨ha, hl, hr⟩ =>
    ⟨tidyArgument_of_legible a ha, hl, tidyArguments_of_legible rest hr⟩

theorem tidyArgument_of_legible : ∀ a : Argument Node, LegibleArgument a → TidyArgument a
  | .literal _, h => fun _ => feed_not_mem_literal h
  | .bare .., h => h.elim
  | .children _ nodes, ⟨h, _⟩ => tidyNodes_of_legible nodes h

theorem tidyNodes_of_legible : ∀ nodes : List Node, LegibleNodes nodes → TidyNodes nodes
  | [], _ => trivial
  | n :: rest, ⟨hn, hr⟩ => ⟨tidy_of_legible n hn, tidyNodes_of_legible rest hr⟩

end

/-- A tidy node is written when it has a block. -/
theorem isWritten_eq {n : Node} (h : Tidy n) : n.isWritten = (nodeBlock? n).isSome := by
  have hi : IsIndent [] := by decide
  rw [Node.isWritten, nodeText_eq n h hi]
  cases hb : nodeBlock? n with
  | none => rfl
  | some b => simp [text_ne_nil (solid_nodeBlock n h b hb)]

theorem chainBlocks_eq_nil_iff {chain : List Node} (h : TidyNodes chain) :
    chainBlocks chain = [] ↔ chain.filter Node.isWritten = [] := by
  induction chain with
  | nil => simp [chainBlocks]
  | cons n rest ih =>
    have hw := isWritten_eq h.1
    rw [chainBlocks, List.filter_cons, hw]
    cases hb : nodeBlock? n <;> simp [ih h.2]

/-! ## Blocks -/

/-- Lines of code of which a text is left. -/
def LeavesCode (b : Block) (left : List Char) : Prop :=
  ∃ ts, Closes b.lines ts ∧ written ts = left

/-- Blocks with commas between them. -/
theorem leaves_separated {bs : List Block} {outs : List (List Char)}
    (h : List.Forall₂ LeavesCode bs outs) :
    ∃ ts, Each ShowsLine (inward ((separated bs).map tightenLine)) ts ∧
      written ts = [','].intercalate outs := by
  suffices hs : ∃ ts, Each ShowsLine (separated bs) ts ∧ written ts = [','].intercalate outs by
    obtain ⟨ts, hts, hw⟩ := hs
    exact ⟨ts, each_inward_lines (hts.map fun _ _ hl => hl.tightenLine), hw⟩
  induction h with
  | nil => exact ⟨[], .nil, rfl⟩
  | @cons b out bs outs hb hs ih =>
    obtain ⟨ts, hts, rfl⟩ := hb
    cases hs with
    | nil => exact ⟨ts, by simpa [separated] using hts.each, by simp⟩
    | cons _ _ =>
      obtain ⟨us, hus, hw⟩ := ih
      refine ⟨ts ++ [.sign ','] ++ us, ?_, ?_⟩
      · rw [separated]
        · exact hts.addComma.each.append hus
        · simp
      · rw [written_append, written_append, hw, List.intercalate_cons_cons]
        rfl

theorem intercalate_append (sep : List Char) (xs ys : List (List Char)) :
    sep.intercalate (xs ++ ys) = sep.intercalate xs ++
      (if ys.isEmpty || xs.isEmpty then [] else sep) ++ sep.intercalate ys := by
  induction xs with
  | nil => simp
  | cons x xs ih =>
    cases xs with
    | nil =>
      cases ys with
      | nil => simp
      | cons y ys => simp [List.intercalate_cons_cons]
    | cons x' xs =>
      rw [List.cons_append, List.cons_append, List.intercalate_cons_cons, ← List.cons_append, ih,
        List.intercalate_cons_cons]
      simp

/-- Lines of a chain of which a text is left. Where there are any, the last one stays code. -/
def LeavesChain (bs : List Block) (left : List Char) : Prop :=
  ∃ ts, (bs ≠ [] → Closes (bs.flatMap Block.lines) ts) ∧ (bs = [] → ts = []) ∧ written ts = left

theorem leavesChain_nil : LeavesChain [] [] := ⟨[], fun h => absurd rfl h, fun _ => rfl, rfl⟩

theorem LeavesChain.remark {bs : List Block} {left : List Char} (h : LeavesChain bs left)
    (hne : bs ≠ []) {text : String} (ht : '\n' ∉ text.toList) :
    LeavesChain (⟨commentText text, []⟩ :: bs) left := by
  obtain ⟨ts, hts, -, hw⟩ := h
  rw [LeavesChain, List.flatMap_cons]
  exact ⟨[] ++ ts, fun _ => Closes.append (each_showsLine_remark ht) (hts hne), by simp, hw⟩

theorem LeavesChain.dotted {b : Block} {bs : List Block} {left right : List Char}
    (hb : LeavesCode b left) (h : LeavesChain bs right) :
    LeavesChain (b.dotted true :: bs) ('.' :: left ++ right) := by
  obtain ⟨us, hus, rfl⟩ := hb
  obtain ⟨ts, hts, he, rfl⟩ := h
  rw [LeavesChain, List.flatMap_cons]
  refine ⟨.sign '.' :: us ++ ts, fun _ => ?_, by simp, written_append _ _⟩
  cases bs with
  | nil =>
    rw [he rfl, List.append_nil]
    simpa using closes_dotted hus
  | cons => exact Closes.append (closes_dotted hus).each (hts (by simp))

/-- A call, from what its arguments, its children and its chain leave. -/
theorem leavesCode_callBody {name : Option String} (hn : Plain (nameText name))
    {parts own inner : List (List Char)} {children chain : List Block} {left : List Char}
    (hp : List.Forall₂ Leaves parts own) (hk : List.Forall₂ LeavesCode children inner)
    (hc : LeavesChain chain left) :
    LeavesCode (callBody name parts children chain)
      (nameText name ++ '(' :: ([','].intercalate (own ++ inner) ++ ')' :: left)) := by
  obtain ⟨c, hcl, hce, rfl⟩ := hc
  have ho : Leaves (nameText name ++ ['('] ++ plainArguments parts)
      (nameText name ++ ['('] ++ [','].intercalate own) :=
    ((leaves_plain hn).append (leaves_plain (s := ['(']) (by decide))).append
      (leaves_intercalate hp)
  obtain ⟨ts, hts, hw⟩ := ho
  obtain ⟨us, hus, hu⟩ := leaves_separated hk
  rw [List.append_assoc, List.singleton_append] at hts
  refine ⟨_, closes_callBody_of_shows hts hus hcl hce, ?_⟩
  have hpe : parts.isEmpty = own.isEmpty := by cases hp <;> rfl
  have hke : children.isEmpty = inner.isEmpty := by cases hk <;> rfl
  have hcomma : written (if children.isEmpty || parts.isEmpty then [] else [.sign ',']) =
      if inner.isEmpty || own.isEmpty then [] else [','] := by
    rw [hpe, hke]
    split <;> rfl
  rw [written_append, written_append, written_append, hw, hu, hcomma, written_cons,
    intercalate_append]
  simp [Token.text]

theorem leavesCode_withHeading {heading : Option String}
    (hh : ∀ text ∈ heading, '\n' ∉ text.toList) {b : Block} {left : List Char}
    (h : LeavesCode b left) : LeavesCode (withHeading heading b) left := by
  cases heading with
  | none => exact h
  | some text =>
    obtain ⟨ts, hts, hw⟩ := h
    have hf : '\n' ∉ ' ' :: text.toList := by simp [hh text rfl]
    exact ⟨[] ++ ts, .cons (Or.inr (isRemark_slashes hf)) hts, hw⟩

theorem leavesCode_childrenBlock? {bs : List Block} {outs : List (List Char)}
    (h : List.Forall₂ LeavesCode bs outs) {b : Block} (hb : childrenBlock? bs = some b) :
    LeavesCode b ("children(".toList ++ ([','].intercalate outs ++ [')'])) := by
  obtain ⟨ts, hts, hw⟩ := leaves_separated h
  refine ⟨_, closes_childrenBlock_of_each hts hb, ?_⟩
  rw [written_append, written_cons, written_append, hw]
  rfl

/-! ## Trees -/

/-- The code of a node on one line, where there is any. -/
def oneLinePart (n : Node) : List (List Char) := if n.oneLine.isEmpty then [] else [n.oneLine]

theorem oneLinePart_eq_nil_iff {n : Node} : oneLinePart n = [] ↔ n.oneLine = [] := by
  simp [oneLinePart]

/-- What the block of a node leaves is its code on one line. -/
theorem leavesCode_of_oneLinePart {n : Node} {b : Block}
    (h : List.Forall₂ LeavesCode [b] (oneLinePart n)) :
    LeavesCode b n.oneLine ∧ n.oneLine ≠ [] := by
  obtain ⟨out, outs, hb, -, ho⟩ := List.forall₂_cons_left_iff.1 h
  have hne : n.oneLine ≠ [] := fun he => by
    rw [oneLinePart_eq_nil_iff.2 he] at ho
    cases ho
  rw [oneLinePart, if_neg (by simpa using hne)] at ho
  obtain ⟨rfl, -⟩ := List.cons.inj ho
  exact ⟨hb, hne⟩

theorem leaves_inlinePart? {v : Literal} (h : TypedLiteral v) :
    List.Forall₂ Leaves (inlinePart? (.literal v)).toList
      (Node.oneLineArgument (.literal v)) := by
  rw [inlinePart?, Node.oneLineArgument, isEmpty_oneLine h]
  by_cases he : (v.isIgnored || v.code.toList.isEmpty) = true
  · rw [if_pos he, if_pos he]
    exact .nil
  · rw [if_neg he, if_neg he]
    exact .cons (leaves_literal h) .nil

theorem endsInCode_tail {n : Node} {rest : List Node} (h : EndsInCode (n :: rest)) :
    EndsInCode rest := by
  intro m hm
  refine h m ?_
  cases hw : n.isWritten with
  | false => rwa [List.filter_cons_of_neg (by simp [hw])]
  | true =>
    rw [List.filter_cons_of_pos hw, Option.mem_def, List.getLast?_cons, Option.mem_def.1 hm]
    rfl

/-- Behind a remark something is written. -/
theorem filter_ne_nil_of_isRemark {n : Node} {rest : List Node} (h : EndsInCode (n :: rest))
    (hw : n.isWritten = true) (hr : n.isRemark = true) :
    rest.filter Node.isWritten ≠ [] := by
  intro he
  have hn := h n (by simp [hw, he])
  rw [hr] at hn
  cases hn

-- One induction on the tree. A chain has a relation of its own, because a remark may stand in it
-- as long as the last line stays code; children are blocks one by one.
mutual

/-- **Code on one line.** The lines of a legible tree leave its code on one line. -/
theorem leaves_nodeBlock : ∀ n : Node, Legible n → n.isRemark = false →
    List.Forall₂ LeavesCode (nodeBlock? n).toList (oneLinePart n)
  | .empty, _, _ => .nil
  | .comment _, _, h => by cases h
  | .call head arguments chain definitions, ⟨⟨hm, hn, hh⟩, ha, hc, he⟩, _ => by
    obtain ⟨own, inner, ho, hp, hk⟩ := leaves_arguments arguments ha
    have hb := leavesCode_withHeading hh
      (leavesCode_callBody hn hp hk (leaves_chainBlocks chain hc he))
    have hcall : callBlock head (inlineParts arguments) (childBlocks arguments)
        (chainBlocks chain) = withHeading head.heading (callBody head.name (inlineParts arguments)
          (childBlocks arguments) (chainBlocks chain)) := by
      rw [callBlock, hm]
      rfl
    have hpart : oneLinePart (.call head arguments chain definitions) =
        [nameText head.name ++
          '(' :: ([','].intercalate (own ++ inner) ++ ')' :: Node.oneLineChain chain)] := by
      rw [oneLinePart, Node.oneLine, ho, if_neg (by simp)]
    rw [nodeBlock?, hcall, hpart]
    exact .cons hb .nil
  | .children nodes, ⟨h, hr⟩, _ => by
    have hs := leaves_nodeBlocks nodes h hr
    rw [nodeBlock?, oneLinePart, Node.oneLine]
    cases hb : nodeBlocks nodes with
    | nil =>
      rw [hb, List.forall₂_nil_left_iff] at hs
      rw [hs]
      exact .nil
    | cons b bs =>
      rw [hb] at hs
      obtain ⟨out, outs, -, -, ho⟩ := List.forall₂_cons_left_iff.1 hs
      have hne : (Node.oneLineNodes nodes).isEmpty = false := by
        rw [ho]
        rfl
      rw [hne]
      exact .cons (leavesCode_childrenBlock? hs rfl) .nil

/-- Of the arguments the written ones come first, then the children. -/
theorem leaves_arguments : ∀ arguments : List (Argument Node), LegibleArguments arguments →
    ∃ own inner, Node.oneLineArguments arguments = own ++ inner ∧
      List.Forall₂ Leaves (inlineParts arguments) own ∧
      List.Forall₂ LeavesCode (childBlocks arguments) inner
  | [], _ => ⟨[], [], rfl, .nil, .nil⟩
  | .literal v :: rest, ⟨hv, _, hr⟩ => by
    obtain ⟨own, inner, he, hp, hk⟩ := leaves_arguments rest hr
    refine ⟨Node.oneLineArgument (.literal v) ++ own, inner, ?_, ?_, hk⟩
    · rw [Node.oneLineArguments, he, List.append_assoc]
    · rw [inlineParts_cons]
      exact List.rel_append (leaves_inlinePart? hv) hp
  | .bare .. :: _, ⟨h, _⟩ => h.elim
  | .children _ nodes :: rest, ⟨⟨h, hm⟩, hl, _⟩ => by
    obtain rfl := hl rfl
    refine ⟨[], Node.oneLineNodes nodes, ?_, .nil, ?_⟩
    · simp [Node.oneLineArguments, Node.oneLineArgument]
    · simpa [childBlocks, argumentBlocks] using leaves_nodeBlocks nodes h hm

theorem leaves_nodeBlocks : ∀ nodes : List Node, LegibleNodes nodes →
    (∀ n ∈ nodes, n.isRemark = false) →
    List.Forall₂ LeavesCode (nodeBlocks nodes) (Node.oneLineNodes nodes)
  | [], _, _ => .nil
  | n :: rest, ⟨hn, hr⟩, hm =>
    List.rel_append (leaves_nodeBlock n hn (hm n (List.mem_cons_self ..)))
      (leaves_nodeBlocks rest hr fun m h => hm m (List.mem_cons_of_mem _ h))

/-- The lines of a chain leave its segments. -/
theorem leaves_chainBlocks : ∀ chain : List Node, LegibleNodes chain → EndsInCode chain →
    LeavesChain (chainBlocks chain) (Node.oneLineChain chain)
  | [], _, _ => leavesChain_nil
  | n :: rest, ⟨hn, hr⟩, he => by
    have ih := leaves_chainBlocks rest hr (endsInCode_tail he)
    cases hm : n.isRemark with
    | true =>
      cases n with
      | comment text =>
        -- a remark is not the last one that is written, so its line is not the last line
        have hne : chainBlocks rest ≠ [] :=
          mt (chainBlocks_eq_nil_iff (tidyNodes_of_legible rest hr)).1
            (filter_ne_nil_of_isRemark he rfl hm)
        exact ih.remark hne hn
      | _ => cases hm
    | false =>
      have hs := leaves_nodeBlock n hn hm
      rw [Node.oneLineChain]
      cases hb : nodeBlock? n with
      | none =>
        rw [hb, Option.toList_none, List.forall₂_nil_left_iff, oneLinePart_eq_nil_iff] at hs
        rw [chainBlocks, hb, hs]
        exact ih
      | some b =>
        rw [hb, Option.toList_some] at hs
        obtain ⟨hcode, hne⟩ := leavesCode_of_oneLinePart hs
        rw [chainBlocks_cons hb, isCall_of_nodeBlock? hb hm, if_neg (by simpa using hne)]
        exact ih.dotted hcode

end

/-! ## Code -/

/-- **Layout.** Without its comments and its layout, the code of a legible tree is its code on one
line, whatever the indent. -/
theorem compact_code {n : Node} (h : Legible n) {indent : String} (hi : IsIndent indent.toList) :
    compact? (n.code indent).toList = some n.oneLine := by
  rw [Node.code, String.toList_ofList]
  cases hm : n.isRemark with
  | true =>
    cases n with
    | comment text =>
      have hf : '\n' ∉ ' ' :: text.toList := by simp [show '\n' ∉ text.toList from h]
      exact compact?_of_ends (Or.inr rfl) (isRemark_slashes hf)
    | _ => cases hm
  | false =>
    have hs := leaves_nodeBlock n h hm
    rw [nodeText_eq n (tidy_of_legible n h) hi]
    cases hb : nodeBlock? n with
    | none =>
      rw [hb, Option.toList_none, List.forall₂_nil_left_iff, oneLinePart_eq_nil_iff] at hs
      rw [hs]
      exact compact?_of_ends (Or.inl rfl) shows_nil
    | some b =>
      rw [hb, Option.toList_some] at hs
      obtain ⟨⟨ts, hts, hw⟩, -⟩ := leavesCode_of_oneLinePart hs
      rw [← hw]
      exact compact?_of_ends (Or.inl rfl) (Closes.text hts hi)

/-- A thread group with a heading and a remark in its chain, where nothing is left of one child
and of one segment. -/
def postingGroup : Node :=
  .call { name := some "threadGroup", target := "DslThreadGroup", heading := some "load, peak" }
    [.literal (.text "a, \"b\" // c"), .literal (.int none none),
      .literal (.duration (some ⟨90000000, by decide, by decide⟩) none),
      .children "ThreadGroupChild[]" [
        .call { name := some "httpSampler", target := "DslHttpSampler" }
          [.literal (.strings ["http://x", "y, z"]), .literal (.text " ")]
          [.comment "one, ",
            .call { name := some "in", target := "DslHttpSampler" }
              [.literal (.enum "Target.Field" "x.Target" (some "BODY") none)] [] [],
            .children [.empty]]
          [],
        .empty]]
    [.comment "two", .children [.call { name := some "timer", target := "DslTimer" } [] [] []]]
    []

theorem legible_postingGroup : Legible postingGroup := by decide

theorem compact_code_postingGroup : Legible postingGroup ∧ IsIndent "  ".toList ∧
    compact? (postingGroup.code "  ").toList = some ("threadGroup(\"a, \\\"b\\\" // c\"," ++
      "Duration.ofSeconds(90),httpSampler(\"http://x\",\"y, z\",\" \").in(Target.Field.BODY))" ++
      ".children(timer())").toList :=
  ⟨legible_postingGroup, by decide,
    (compact_code legible_postingGroup (by decide)).trans (congrArg some (by decide +kernel))⟩

end Layout
end PlanCode
