import PlanCode.Proofs.Layout.Block

/-!
# The code of tidy trees

A tree is `Tidy` when no name, comment or written literal holds a line feed, and
children are the last argument of a call. Such a tree is written as the lines of
its block.

* `nodeText_eq`: the code of a tidy node at an indent is its block, with a line
  feed and the indent in front of every line but the first.
* `solid_nodeBlock`: no line of that block is blank or holds a line feed.
-/
namespace PlanCode.Layout

/-! ## Tidy trees -/

def isChildren : Argument Node → Bool
  | .children .. => true
  | _ => false

mutual

/-- No name, comment or written literal holds a line feed, and children are the last argument. -/
def Tidy : Node → Prop
  | .empty => True
  | .comment text => '\n' ∉ text.toList
  | .call head arguments chain _ =>
    ('\n' ∉ nameText head.name ∧ ∀ text ∈ head.heading, '\n' ∉ text.toList) ∧
      TidyArguments arguments ∧ TidyNodes chain
  | .children nodes => TidyNodes nodes

def TidyArgument : Argument Node → Prop
  | .literal v => v.isIgnored = false → '\n' ∉ v.code.toList
  | .bare .. => True
  | .children _ nodes => TidyNodes nodes

def TidyArguments : List (Argument Node) → Prop
  | [] => True
  | a :: rest => TidyArgument a ∧ (isChildren a = true → rest = []) ∧ TidyArguments rest

def TidyNodes : List Node → Prop
  | [] => True
  | n :: rest => Tidy n ∧ TidyNodes rest

end

mutual

def decidableTidy : ∀ n : Node, Decidable (Tidy n)
  | .empty => inferInstanceAs (Decidable True)
  | .comment text => inferInstanceAs (Decidable ('\n' ∉ text.toList))
  | .call head arguments chain _ =>
    have := decidableTidyArguments arguments
    have := decidableTidyNodes chain
    inferInstanceAs (Decidable (('\n' ∉ nameText head.name ∧
      ∀ text ∈ head.heading, '\n' ∉ text.toList) ∧ TidyArguments arguments ∧ TidyNodes chain))
  | .children nodes => decidableTidyNodes nodes

def decidableTidyArgument : ∀ a : Argument Node, Decidable (TidyArgument a)
  | .literal v => inferInstanceAs (Decidable (v.isIgnored = false → '\n' ∉ v.code.toList))
  | .bare .. => inferInstanceAs (Decidable True)
  | .children _ nodes => decidableTidyNodes nodes

def decidableTidyArguments : ∀ arguments : List (Argument Node),
    Decidable (TidyArguments arguments)
  | [] => inferInstanceAs (Decidable True)
  | a :: rest =>
    have := decidableTidyArgument a
    have := decidableTidyArguments rest
    inferInstanceAs (Decidable
      (TidyArgument a ∧ (isChildren a = true → rest = []) ∧ TidyArguments rest))

def decidableTidyNodes : ∀ nodes : List Node, Decidable (TidyNodes nodes)
  | [] => inferInstanceAs (Decidable True)
  | n :: rest =>
    have := decidableTidy n
    have := decidableTidyNodes rest
    inferInstanceAs (Decidable (Tidy n ∧ TidyNodes rest))

end

instance : DecidablePred Tidy := decidableTidy

theorem not_mem_inlinePart? {a : Argument Node} (h : TidyArgument a) :
    ∀ p ∈ inlinePart? a, '\n' ∉ p := by
  intro p hp
  cases a with
  | literal v =>
    simp only [inlinePart?, Option.mem_def, Option.ite_none_left_eq_some, Option.some.injEq,
      Bool.or_eq_true, not_or, Bool.not_eq_true] at hp
    exact hp.2 ▸ h hp.1.1
  | bare => cases hp
  | children => cases hp

theorem not_mem_inlineParts {arguments : List (Argument Node)} (h : TidyArguments arguments) :
    ∀ p ∈ inlineParts arguments, '\n' ∉ p := by
  induction arguments with
  | nil => simp [inlineParts]
  | cons a rest ih =>
    intro p hp
    rw [inlineParts_cons, List.mem_append, Option.mem_toList] at hp
    exact hp.elim (not_mem_inlinePart? h.1 p) (ih h.2.2 p)

mutual

theorem solid_nodeBlock : ∀ n : Node, Tidy n → ∀ b ∈ nodeBlock? n, b.Solid
  | .empty, _ => by simp [nodeBlock?]
  | .comment text, h => by
    intro b hb l hl
    rw [nodeBlock?, Option.mem_some] at hb
    subst hb
    rw [Block.lines, List.mem_singleton] at hl
    exact hl ▸ solid_commentText h
  | .call head arguments chain _, ⟨⟨hn, hh⟩, ha, hc⟩ => by
    intro b hb
    rw [nodeBlock?, Option.mem_some] at hb
    exact hb ▸ solid_callBlock hn hh (not_mem_inlineParts ha) (solid_childBlocks arguments ha)
      (solid_chainBlocks chain hc)
  | .children nodes, h => by
    intro b hb
    exact solid_childrenBlock? (solid_nodeBlocks nodes h) hb

theorem solid_childBlocks : ∀ arguments : List (Argument Node), TidyArguments arguments →
    ∀ b ∈ childBlocks arguments, b.Solid
  | [], _ => by simp [childBlocks]
  | a :: rest, ⟨ha, _, hr⟩ => by
    intro b hb
    rw [childBlocks, List.mem_append] at hb
    exact hb.elim (solid_argumentBlocks a ha b) (solid_childBlocks rest hr b)

theorem solid_argumentBlocks : ∀ a : Argument Node, TidyArgument a →
    ∀ b ∈ argumentBlocks a, b.Solid
  | .literal _, _ => by simp [argumentBlocks]
  | .bare .., _ => by simp [argumentBlocks]
  | .children _ nodes, h => solid_nodeBlocks nodes h

theorem solid_nodeBlocks : ∀ nodes : List Node, TidyNodes nodes → ∀ b ∈ nodeBlocks nodes, b.Solid
  | [], _ => by simp [nodeBlocks]
  | n :: rest, ⟨hn, hr⟩ => by
    intro b hb
    rw [nodeBlocks, List.mem_append, Option.mem_toList] at hb
    exact hb.elim (solid_nodeBlock n hn b) (solid_nodeBlocks rest hr b)

theorem solid_chainBlocks : ∀ chain : List Node, TidyNodes chain → ∀ b ∈ chainBlocks chain, b.Solid
  | [], _ => by simp [chainBlocks]
  | n :: rest, ⟨hn, hr⟩ => by
    intro b hb
    rw [chainBlocks, List.mem_append, Option.mem_toList] at hb
    rcases hb with hb | hb
    · obtain ⟨c, hc, rfl⟩ := Option.map_eq_some_iff.1 hb
      exact solid_dotted (solid_nodeBlock n hn c hc) _
    · exact solid_chainBlocks rest hr b hb

end

/-! ## The code of a call from its lines -/

theorem text_ne_nil {b : Block} (h : b.Solid) (indent : List Char) : b.text indent ≠ [] := by
  obtain ⟨-, c, hc, -⟩ := h b.first (by simp [Block.lines])
  exact List.append_ne_nil_of_left_ne_nil (List.ne_nil_of_mem hc) _

theorem below_inward (indent : List Char) (ls : List (List Char)) :
    below indent (inward ls) = below (indent ++ indentStep) ls :=
  below_map indent indentStep ls

theorem chainLines_cons (b : Block) (bs : List Block) :
    chainLines (b :: bs) = inward b.lines ++ chainLines bs := rfl

theorem below_closingLines (indent : List Char) (bs : List Block) :
    below indent (closingLines bs) =
      '\n' :: (indent ++ ')' :: (below indent (chainLines bs)).drop
        (1 + indent.length + indentStep.length)) := by
  cases bs with
  | nil => simp [closingLines, chainLines]
  | cons b bs =>
    have hd : ∀ s : List Char, ('\n' :: (indent ++ indentStep ++ s)).drop
        (1 + indent.length + indentStep.length) = s := by
      intro s
      rw [← List.cons_append]
      exact List.drop_left' (by simp; omega)
    rw [closingLines, chainLines_cons, below_append, below_append, below_inward, below_cons,
      below_inward, Block.lines, below_cons, List.cons_append,
      List.cons_append, List.append_assoc (indent ++ indentStep),
      List.append_assoc (indent ++ indentStep), hd]
    simp

theorem endsLine_append_feed (s : List Char) : endsLine (s ++ ['\n']) = true := by
  simp [endsLine]

theorem endsLine_of_not_mem {s : List Char} (h : '\n' ∉ s) : endsLine s = false := by
  rw [endsLine, beq_eq_false_iff_ne]
  exact fun he => h (List.mem_of_getLast? he)

/-- The children among the arguments, as one more part. -/
def childrenPart (indent : List Char) (children : List Block) : List (List Char) :=
  if children.isEmpty then []
  else [below (indent ++ indentStep) (separated children) ++ ['\n']]

/-- A call without its heading and without comment marks. -/
theorem callBody_text {indent : List Char} (hi : IsIndent indent) (name : Option String)
    {parts : List (List Char)} (hp : ∀ p ∈ parts, '\n' ∉ p) {children : List Block}
    (hk : ∀ b ∈ children, b.Solid) (chain : List Block) :
    nameText name ++ '(' ::
      (if endsLine (argumentList (parts ++ childrenPart indent children)) then
        argumentList (parts ++ childrenPart indent children) ++ indent ++
          ')' :: (below indent (chainLines chain)).drop (1 + indent.length + indentStep.length)
      else argumentList (parts ++ childrenPart indent children) ++
        ')' :: below indent (chainLines chain)) =
      (callBody name parts children chain).text indent := by
  unfold callBody childrenPart
  by_cases he : children.isEmpty
  · simp only [he, if_true, List.append_nil]
    rw [argumentList_plain hp, endsLine_of_not_mem (not_mem_plainArguments hp)]
    simp [Block.text]
  · have hne : children ≠ [] := by simpa using he
    simp only [he, if_false, Bool.false_eq_true]
    rw [argumentList_children (isIndent_step hi) hp (solid_separated hk)
      (separated_ne_nil hne), ← List.append_assoc, endsLine_append_feed, if_pos rfl, Block.text,
      below_append, below_inward, below_closingLines]
    simp

theorem callText_eq {indent : List Char} (hi : IsIndent indent) {head : Head}
    (hn : '\n' ∉ nameText head.name) (hh : ∀ text ∈ head.heading, '\n' ∉ text.toList)
    {parts : List (List Char)} (hp : ∀ p ∈ parts, '\n' ∉ p) {children chain : List Block}
    (hk : ∀ b ∈ children, b.Solid) (hc : ∀ b ∈ chain, b.Solid) :
    callText head indent (argumentList (parts ++ childrenPart indent children))
      (below indent (chainLines chain)) = (callBlock head parts children chain).text indent := by
  have hb := callBody_text hi head.name hp hk chain
  have hw := solid_withHeading hh (solid_callBody hn hp hk hc)
  have ht : callText { head with commented := false } indent
      (argumentList (parts ++ childrenPart indent children)) (below indent (chainLines chain)) =
      (withHeading head.heading (callBody head.name parts children chain)).text indent := by
    unfold callText
    generalize argumentList (parts ++ childrenPart indent children) = arguments at hb ⊢
    cases head.heading with
    | none =>
      rw [withHeading, ← hb]
      by_cases he : endsLine arguments = true <;> simp [he]
    | some text =>
      rw [withHeading, Block.text, Block.below_lines, ← hb]
      by_cases he : endsLine arguments = true <;> simp [he]
  unfold callBlock
  by_cases hm : head.commented = true
  · rw [if_pos hm, ← commentOut_text fun l hl => (hw l hl).1, ← ht]
    simp [callText, hm]
  · rw [if_neg hm, ← ht]
    simp [callText, hm]

mutual

/-- **Code of a tidy tree.** It is the block of the tree, set at the indent. -/
theorem nodeText_eq : ∀ n : Node, Tidy n → ∀ {indent : List Char}, IsIndent indent →
    nodeText indent n = ((nodeBlock? n).map (Block.text indent)).getD []
  | .empty, _, _, _ => rfl
  | .comment text, _, _, _ => by simp [nodeText, nodeBlock?, Block.text]
  | .call head arguments chain _, ⟨⟨hn, hh⟩, ha, hc⟩, indent, hi => by
    simp only [nodeText, nodeBlock?, Option.map_some, Option.getD_some]
    rw [argumentParts_eq arguments ha hi, chainText_eq chain hc hi]
    exact callText_eq hi hn hh (not_mem_inlineParts ha) (solid_childBlocks arguments ha)
      (solid_chainBlocks chain hc)
  | .children nodes, h, indent, hi => by
    have hs := solid_nodeBlocks nodes h
    simp only [nodeText, nodeBlock?]
    rw [nodeParts_eq nodes h (isIndent_step hi), childLines_text]
    unfold childrenBlock?
    cases hb : nodeBlocks nodes with
    | nil => rfl
    | cons b bs =>
      rw [hb] at hs
      have hp : ∀ p ∈ ([] : List (List Char)), '\n' ∉ p := by simp
      have ha := argumentList_children (isIndent_step hi) hp (solid_separated hs)
        (separated_ne_nil (List.cons_ne_nil b bs))
      rw [List.nil_append] at ha
      simp only [List.isEmpty_cons, Bool.false_eq_true, if_false, ha]
      simp [childrenText, plainArguments, Block.text, below_append, below_inward]

/-- The arguments of a call whose code starts at the indent. -/
theorem argumentParts_eq : ∀ arguments : List (Argument Node), TidyArguments arguments →
    ∀ {indent : List Char}, IsIndent indent →
    argumentParts (indent ++ indentStep) arguments =
      inlineParts arguments ++ childrenPart indent (childBlocks arguments)
  | [], _, _, _ => rfl
  | .literal v :: rest, ⟨_, _, hr⟩, indent, hi => by
    have ih := argumentParts_eq rest hr hi
    simp only [argumentParts, argumentText, inlineParts_cons, inlinePart?, childBlocks,
      argumentBlocks, Argument.isIgnored, List.nil_append]
    by_cases hv : (v.isIgnored || v.code.toList.isEmpty) = true
    · simpa only [hv, if_true, Option.toList_none, List.nil_append] using ih
    · simpa only [hv, if_false, Bool.false_eq_true, Option.toList_some, List.singleton_append,
        List.cons_append, List.nil_append, List.cons.injEq, true_and] using ih
  | .bare .. :: rest, ⟨_, _, hr⟩, indent, hi => by
    have ih := argumentParts_eq rest hr hi
    simpa [argumentParts, argumentText, inlineParts_cons, inlinePart?, childBlocks,
      argumentBlocks, Argument.isIgnored] using ih
  | .children _ nodes :: rest, ⟨ha, hl, _⟩, indent, hi => by
    obtain rfl := hl rfl
    have ht := nodeParts_eq nodes ha (isIndent_step hi)
    simp only [argumentParts, argumentText, ht, childLines_text, inlineParts, inlinePart?,
      childBlocks, argumentBlocks, Argument.isIgnored, childrenPart, List.append_nil,
      List.filterMap_cons, List.filterMap_nil, List.nil_append, Bool.false_or]
    by_cases he : (nodeBlocks nodes).isEmpty = true
    · simp [he]
    · simp [he]

theorem nodeParts_eq : ∀ nodes : List Node, TidyNodes nodes → ∀ {indent : List Char},
    IsIndent indent → nodeParts indent nodes = (nodeBlocks nodes).map (Block.text indent)
  | [], _, _, _ => rfl
  | n :: rest, ⟨hn, hr⟩, indent, hi => by
    have hs := solid_nodeBlock n hn
    rw [nodeParts, nodeBlocks, nodeText_eq n hn hi, nodeParts_eq rest hr hi]
    cases hb : nodeBlock? n with
    | none => simp
    | some b => simp [text_ne_nil (hs b hb)]

theorem chainText_eq : ∀ chain : List Node, TidyNodes chain → ∀ {indent : List Char},
    IsIndent indent →
    chainText (indent ++ indentStep) chain = below indent (chainLines (chainBlocks chain))
  | [], _, _, _ => rfl
  | n :: rest, ⟨hn, hr⟩, indent, hi => by
    have hs := solid_nodeBlock n hn
    rw [chainText, chainBlocks, nodeText_eq n hn (isIndent_step hi), chainText_eq rest hr hi]
    cases hb : nodeBlock? n with
    | none => simp [chainLine]
    | some b =>
      have hne := text_ne_nil (hs b hb) (indent ++ indentStep)
      simp only [Option.map_some, Option.getD_some, chainLine, List.isEmpty_iff, hne, if_false,
        Option.toList_some, List.singleton_append, chainLines_cons, below_append, below_inward,
        Block.below_lines]
      simp [Block.dotted, Block.text]

end

end PlanCode.Layout
