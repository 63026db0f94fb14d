import PlanCode.Proofs.Layout.Regular
import PlanCode.Proofs.Text.Commas

/-!
# The live code of regular trees

What is left of the code of a tree for a reader that skips comments. A call that
is commented out leaves nothing, and the comma behind it goes with it; the comma
in front of it stays with the sibling before.

* `shows_nodeBlock`: the lines of a tree show its live code.
* `shows_code`: so does the code of a tree that is not commented out.
-/
namespace PlanCode

open PlanCode.Text PlanCode.Text.Code

namespace Node

/-- Whether there are children among the arguments. -/
def hasChildren (arguments : List (Argument Node)) : Bool :=
  arguments.any fun a => match a with
    | .children _ nodes => !nodes.isEmpty
    | _ => false

/-- The arguments that are no children, with commas between them. -/
def inlineTokens (arguments : List (Argument Node)) : List Token :=
  [Token.sign ','].intercalate ((Layout.inlineParts arguments).map tokens)

/-- The comma between the arguments and the children, when there are both. -/
def innerComma (arguments : List (Argument Node)) : List Token :=
  if hasChildren arguments && !(Layout.inlineParts arguments).isEmpty then [.sign ','] else []

mutual

/-- The tokens of what a tree is written as, what is commented out apart. -/
def live : Node → List Token
  | .empty => []
  | .comment _ => []
  | .call head arguments chain _ =>
    if head.commented then []
    else
      signs (Layout.nameText head.name) ++ .sign '(' ::
        (inlineTokens arguments ++ innerComma arguments ++ liveArguments arguments ++
          [.sign ')']) ++ liveChain chain
  | .children nodes =>
    signs "children".toList ++ .sign '(' :: (liveChildren nodes ++ [.sign ')'])

/-- The children among arguments. -/
def liveArguments : List (Argument Node) → List Token
  | [] => []
  | a :: rest => liveArgument a ++ liveArguments rest

def liveArgument : Argument Node → List Token
  | .literal _ => []
  | .bare .. => []
  | .children _ nodes => liveChildren nodes

/-- Children with the commas behind them, of which those behind comments are no code. -/
def liveChildren : List Node → List Token
  | [] => []
  | n :: rest =>
    n.live ++ (if n.isCommented || rest.isEmpty then [] else [.sign ',']) ++ liveChildren rest

def liveChain : List Node → List Token
  | [] => []
  | n :: rest => (if n.isCall then .sign '.' :: n.live else []) ++ liveChain rest

end

end Node

namespace Layout

/-! ## Lines of code -/

/-- Lines of which the last one stays code. -/
inductive Closes : List (List Char) → List Token → Prop where
  | last {l : List Char} {a : List Token} (h : Shows l a) : Closes [l] a
  | cons {l : List Char} {ls : List (List Char)} {a b : List Token} (h : ShowsLine l a)
    (hs : Closes ls b) : Closes (l :: ls) (a ++ b)

/-- Lines that are all comment. -/
def Dead (ls : List (List Char)) : Prop := ∀ l ∈ ls, IsRemark l

theorem Closes.each {ls : List (List Char)} {a : List Token} (h : Closes ls a) :
    Each ShowsLine ls a := by
  induction h with
  | last h => exact .singleton h.line
  | cons h _ ih => exact .cons h ih

theorem Closes.append {ls ms : List (List Char)} {a b : List Token} (h : Each ShowsLine ls a)
    (h' : Closes ms b) : Closes (ls ++ ms) (a ++ b) := by
  induction h with
  | nil => exact h'
  | cons hl _ ih =>
    rw [List.append_assoc]
    exact .cons hl ih

theorem Dead.each {ls : List (List Char)} (h : Dead ls) : Each ShowsLine ls [] := by
  induction ls with
  | nil => exact .nil
  | cons l ls ih =>
    exact .cons (x := []) (Or.inr (h l (List.mem_cons_self ..)))
      (ih fun m hm => h m (List.mem_cons_of_mem _ hm))

theorem shows_step : Shows indentStep [] := shows_blank (by simp [indentStep])

theorem each_inward_lines {ls : List (List Char)} {a : List Token} (h : Each ShowsLine ls a) :
    Each ShowsLine (inward ls) a :=
  h.map fun _ _ hl => shows_step.append_line hl

theorem Closes.inward {ls : List (List Char)} {a : List Token} (h : Closes ls a) :
    Closes (inward ls) a := by
  induction h with
  | last h => exact .last (shows_step.append h)
  | cons h _ ih => exact .cons (shows_step.append_line h) ih

/-- Code in front of the first line. -/
theorem Closes.prefix {p : List Char} {c : List Token} (hp : Shows p c) {l : List Char}
    {ls : List (List Char)} {a : List Token} (h : Closes (l :: ls) a) :
    Closes ((p ++ l) :: ls) (c ++ a) := by
  cases h with
  | last h => exact .last (hp.append h)
  | cons h hs =>
    rw [← List.append_assoc]
    exact .cons (hp.append_line h) hs

/-- Code in front of the first line, with the others further in. -/
theorem Closes.prefix_inward {p : List Char} {c : List Token} (hp : Shows p c) {l : List Char}
    {ls : List (List Char)} {a : List Token} (h : Closes (l :: ls) a) :
    Closes ((p ++ l) :: Layout.inward ls) (c ++ a) := by
  cases h with
  | last h => exact .last (hp.append h)
  | cons h hs =>
    rw [← List.append_assoc]
    exact .cons (hp.append_line h) hs.inward

theorem shows_comma : Shows [','] [.sign ','] :=
  shows_sign (by decide) (by decide) (by decide)

theorem Closes.addComma {ls : List (List Char)} {a : List Token} (h : Closes ls a) :
    Closes (addComma ls) (a ++ [.sign ',']) := by
  induction h with
  | last h => exact .last (h.append shows_comma)
  | @cons l ls a b h hs ih =>
    rw [List.append_assoc]
    cases ls with
    | nil => cases hs
    | cons m ms => exact .cons h ih

theorem Dead.addComma {ls : List (List Char)} (h : Dead ls) : Dead (addComma ls) := by
  intro l hl
  obtain ⟨m, hm, rfl | rfl⟩ := mem_addComma hl
  · exact h _ hm
  · exact (h m hm).append_comment (by decide)

/-- A block of code at an indent. -/
theorem Closes.text {b : Block} {a : List Token} (h : Closes b.lines a) {indent : List Char}
    (hi : IsIndent indent) : Shows (b.text indent) a := by
  have key : ∀ {ls : List (List Char)} {a : List Token}, Closes ls a →
      ∀ {l : List Char} {rest : List (List Char)}, ls = l :: rest →
      Shows (l ++ Layout.below indent rest) a := by
    intro ls a h
    induction h with
    | last h =>
      rintro l rest ⟨⟩
      simpa using h
    | @cons l ls a b h hs ih =>
      rintro l rest ⟨⟩
      cases ls with
      | nil => cases hs
      | cons m ms =>
        have hm := (shows_blank hi).append (ih rfl)
        have hl := h.feed.append hm
        simpa using hl
  obtain ⟨first, rest⟩ := b
  exact key h rfl

/-- A block that is all comment, at an indent. -/
theorem Dead.text {b : Block} (h : Dead b.lines) {indent : List Char} (hi : IsIndent indent) :
    IsRemark (b.text indent) := by
  obtain ⟨first, rest⟩ := b
  have hf : IsRemark first := h first (List.mem_cons_self ..)
  have hr : ∀ l ∈ rest, IsRemark l := fun l hl => h l (List.mem_cons_of_mem _ hl)
  clear h
  unfold Block.text
  dsimp only
  induction rest generalizing first with
  | nil => simpa using hf
  | cons l rest ih =>
    have hl := ih l (hr l (List.mem_cons_self ..)) fun m hm => hr m (List.mem_cons_of_mem _ hm)
    have hfeed : Shows (first ++ ['\n']) [] := ShowsLine.feed (Or.inr hf)
    have := hfeed.append ((shows_blank hi).append hl)
    simpa using this

/-! ## Arguments -/

theorem shows_open : Shows ['('] [.sign '('] :=
  shows_sign (by decide) (by decide) (by decide)

theorem shows_close : Shows [')'] [.sign ')'] :=
  shows_sign (by decide) (by decide) (by decide)

theorem shows_plainArguments {β : Type} {text : β → List Char} {shown : β → List Token}
    {bs : List β} (h : ∀ b ∈ bs, Shows (text b) (shown b)) :
    Shows (plainArguments (bs.map text)) ([Token.sign ','].intercalate (bs.map shown)) := by
  unfold plainArguments
  induction bs with
  | nil => exact shows_nil
  | cons b bs ih =>
    have hb := h b (List.mem_cons_self ..)
    have ih := ih fun c hc => h c (List.mem_cons_of_mem _ hc)
    cases bs with
    | nil => simpa using hb
    | cons c bs =>
      have hblank : Shows [' '] [] := shows_blank (by simp)
      have hs : Shows (text b ++ [',', ' ']) (shown b ++ [.sign ',']) :=
        hb.append (shows_comma.append hblank)
      simp only [List.map_cons, List.intercalate_cons_cons]
      exact hs.append ih

/-- What a literal is written as can stand as an argument. -/
theorem operand_literalText {s : List Char} {strings : List String} (h : LiteralText s strings)
    (hs : s ≠ []) : ∃ a, Shows s a ∧ Operand a ∧ Filled a := by
  cases h with
  | nothing => exact absurd rfl hs
  | word h => exact ⟨_, shows_free h.1, operand_signs h⟩
  | call hn ha =>
    have ho := operand_signs ha
    obtain ⟨hc, hf⟩ := operand_call (operand_signs hn) ho.1.neutral
    refine ⟨_, ?_, hc, hf.2 ((filled_parenthesized ho.1).2 ho.2)⟩
    exact (shows_free hn.1).append (shows_open.append ((shows_free ha.1).append shows_close))
  | strings hv =>
    refine ⟨_, shows_plainArguments fun s _ => shows_ofText s,
      operand_separated (by simpa using hv) fun p hp => ?_⟩
    obtain ⟨s, -, rfl⟩ := List.mem_map.1 hp
    exact operand_of_plain (by simp) (by simp)

/-- The written arguments that are no children. -/
theorem operand_inlineParts {arguments : List (Argument Node)} (h : RegularArguments arguments) :
    ∀ p ∈ inlineParts arguments, Shows p (tokens p) ∧ Operand (tokens p) ∧ Filled (tokens p) := by
  induction arguments with
  | nil => simp [inlineParts]
  | cons a rest ih =>
    obtain ⟨ha, -, hr⟩ := h
    intro p hp
    rw [inlineParts_cons, List.mem_append, Option.mem_toList] at hp
    rcases hp with hp | hp
    · cases a with
      | literal v =>
        simp only [inlinePart?, Option.ite_none_left_eq_some, Option.some.injEq, Bool.or_eq_true,
          not_or, Bool.not_eq_true, List.isEmpty_eq_false_iff] at hp
        obtain ⟨⟨hi, hne⟩, rfl⟩ := hp
        obtain ⟨a, hs, ho⟩ := operand_literalText (literalText_code ha hi) hne
        rw [tokens_of_shows hs]
        exact ⟨hs, ho⟩
      | bare => exact ha.elim
      | children => cases hp
    · exact ih hr p hp

theorem shows_inlineTokens {arguments : List (Argument Node)} (h : RegularArguments arguments) :
    Shows (plainArguments (inlineParts arguments)) (Node.inlineTokens arguments) := by
  have hp : Shows (plainArguments ((inlineParts arguments).map id)) (Node.inlineTokens arguments) :=
    shows_plainArguments fun p hp => (operand_inlineParts h p hp).1
  rwa [List.map_id] at hp

/-! ## Blocks -/

/-- What the block of a node shows: its live code, or nothing where it is commented out. -/
def ShowsBlock (n : Node) (b : Block) : Prop :=
  if n.isCommented then Dead b.lines else Closes b.lines n.live

theorem live_of_isCommented {n : Node} (h : n.isCommented = true) : n.live = [] := by
  cases n with
  | call head arguments chain definitions => exact if_pos h
  | _ => cases h

theorem each_showsBlock {n : Node} {b : Block} (h : ShowsBlock n b) :
    Each ShowsLine b.lines n.live := by
  unfold ShowsBlock at h
  split at h
  · rename_i hm
    rw [live_of_isCommented hm]
    exact h.each
  · exact h.each

/-- Blocks of children with the commas between them. -/
theorem each_separated_children {nodes : List Node} {bs : List Block}
    (h : List.Forall₂ ShowsBlock nodes bs) :
    Each ShowsLine (separated bs) (Node.liveChildren nodes) := by
  induction h with
  | nil => exact .nil
  | @cons n b nodes bs hb hs ih =>
    cases hs with
    | nil =>
      have he := each_showsBlock hb
      simpa [separated, Node.liveChildren] using he
    | @cons m c nodes bs hc hs =>
      have hcomma : Each ShowsLine (addComma b.lines)
          (n.live ++ if n.isCommented then [] else [.sign ',']) := by
        unfold ShowsBlock at hb
        by_cases hm : n.isCommented = true
        · rw [if_pos hm] at hb
          simpa [hm, live_of_isCommented hm] using hb.addComma.each
        · rw [if_neg hm] at hb
          simpa [hm] using hb.addComma.each
      simpa [separated, Node.liveChildren] using hcomma.append ih

theorem each_tightened_children {nodes : List Node} {bs : List Block}
    (h : List.Forall₂ ShowsBlock nodes bs) :
    Each ShowsLine (inward ((separated bs).map tightenLine)) (Node.liveChildren nodes) :=
  each_inward_lines ((each_separated_children h).map fun _ _ hl => hl.tightenLine)

theorem chainLines_eq (bs : List Block) : chainLines bs = inward (bs.flatMap Block.lines) := by
  simp [chainLines, inward, List.map_flatMap]

/-- The closing parenthesis and the chain behind it. -/
theorem closes_closingLines {bs : List Block} {a : List Token}
    (h : bs ≠ [] → Closes (bs.flatMap Block.lines) a) (hn : bs = [] → a = []) :
    Closes (closingLines bs) ([.sign ')'] ++ a) := by
  cases bs with
  | nil =>
    rw [hn rfl]
    exact .last shows_close
  | cons b bs =>
    have hb := h (by simp)
    rw [List.flatMap_cons, Block.lines, List.cons_append] at hb
    have hc := hb.prefix_inward shows_close
    rw [closingLines, chainLines_eq]
    simpa [inward] using hc

/-- A call that is not commented out, from what its name and written arguments, its children and
its chain show. -/
theorem closes_callBody_of_shows {name : Option String} {parts : List (List Char)}
    {children chain : List Block} {o a c : List Token}
    (ho : Shows (nameText name ++ '(' :: plainArguments parts) o)
    (hk : Each ShowsLine (inward ((separated children).map tightenLine)) a)
    (hc : chain ≠ [] → Closes (chain.flatMap Block.lines) c) (hce : chain = [] → c = []) :
    Closes (callBody name parts children chain).lines
      (o ++ (if children.isEmpty || parts.isEmpty then [] else [.sign ',']) ++ a ++
        .sign ')' :: c) := by
  unfold callBody
  cases children with
  | nil =>
    cases hk
    have hl : ShowsLine _ _ := Or.inl (ho.append shows_close)
    by_cases hn : chain = []
    · subst hn
      rw [hce rfl]
      simpa [Block.lines, chainLines] using Closes.last (ho.append shows_close)
    · have hs := Closes.cons hl (hc hn).inward
      simpa [Block.lines, chainLines_eq] using hs
  | cons b bs =>
    have hi : Shows (if parts.isEmpty then [] else [','])
        (if parts.isEmpty then [] else [.sign ',']) := by
      cases parts.isEmpty
      · exact shows_comma
      · exact shows_nil
    have hs := Closes.cons (Or.inl (ho.append hi)) (Closes.append hk (closes_closingLines hc hce))
    simpa [Block.lines] using hs

theorem closes_callBody {name : Option String} (hn : Word (nameText name))
    {arguments : List (Argument Node)} (ha : RegularArguments arguments)
    {children chain : List Block} {a c : List Token}
    (hk : Each ShowsLine (inward ((separated children).map tightenLine)) a)
    (he : children.isEmpty = !Node.hasChildren arguments)
    (hc : chain ≠ [] → Closes (chain.flatMap Block.lines) c) (hce : chain = [] → c = []) :
    Closes (callBody name (inlineParts arguments) children chain).lines
      (signs (nameText name) ++ .sign '(' :: (Node.inlineTokens arguments ++
        Node.innerComma arguments ++ a ++ [.sign ')']) ++ c) := by
  have ho : Shows (nameText name ++ '(' :: plainArguments (inlineParts arguments))
      (signs (nameText name) ++ .sign '(' :: Node.inlineTokens arguments) :=
    (shows_free hn.1).append (shows_open.append (shows_inlineTokens ha))
  have hi : Node.innerComma arguments =
      if children.isEmpty || (inlineParts arguments).isEmpty then [] else [.sign ','] := by
    rw [Node.innerComma, he]
    cases Node.hasChildren arguments <;> cases (inlineParts arguments).isEmpty <;> rfl
  rw [hi]
  simpa using closes_callBody_of_shows ho hk hc hce

/-- A `children` segment, from what its children show. -/
theorem closes_childrenBlock_of_each {bs : List Block} {a : List Token}
    (hk : Each ShowsLine (inward ((separated bs).map tightenLine)) a) {b : Block}
    (hb : childrenBlock? bs = some b) :
    Closes b.lines (signs "children".toList ++ .sign '(' :: (a ++ [.sign ')'])) := by
  have ho : Shows "children(".toList (signs "children".toList ++ [.sign '(']) :=
    (shows_free (show Free "children".toList by decide)).append shows_open
  cases bs with
  | nil => cases hb
  | cons c cs =>
    obtain rfl := Option.some.inj hb
    have hs := Closes.cons (Or.inl ho) (Closes.append hk (.last shows_close))
    simpa [Block.lines] using hs

theorem dead_commentedOut {b : Block} (h : b.Solid) : Dead b.commentedOut.lines := by
  intro l hl
  rw [Block.lines, Block.commentedOut, List.mem_cons, List.mem_map] at hl
  rcases hl with rfl | ⟨m, hm, rfl⟩
  · exact isRemark_slashes (h b.first (List.mem_cons_self ..)).1
  · exact isRemark_slashes (h m (List.mem_cons_of_mem _ hm)).1

theorem closes_dotted {b : Block} {a : List Token} (h : Closes b.lines a) :
    Closes (b.dotted true).lines (.sign '.' :: a) :=
  Closes.prefix (shows_sign (by decide) (by decide) (by decide)) h

theorem each_showsLine_remark {text : String} (h : '\n' ∉ text.toList) :
    Each ShowsLine [commentText text] [] := by
  have hf : '\n' ∉ ' ' :: text.toList := by simp [h]
  exact .singleton (Or.inr (isRemark_slashes hf))

/-! ## Trees -/

theorem exists_nodeBlock {n : Node} (h : Regular n) : ∃ b, nodeBlock? n = some b := by
  cases n with
  | empty => exact h.elim
  | comment => exact ⟨_, rfl⟩
  | call => exact ⟨_, rfl⟩
  | children nodes =>
    obtain ⟨hn, hr⟩ := h
    cases nodes with
    | nil => exact absurd rfl hn
    | cons m rest =>
      cases m with
      | call => exact ⟨_, rfl⟩
      | _ => cases hr.1

theorem chainBlocks_cons {n : Node} {rest : List Node} {b : Block} (h : nodeBlock? n = some b) :
    chainBlocks (n :: rest) = b.dotted n.isCall :: chainBlocks rest := by
  rw [chainBlocks, h]
  rfl

/-- What is written and is no remark is a call. -/
theorem isCall_of_nodeBlock? {n : Node} {b : Block} (h : nodeBlock? n = some b)
    (hr : n.isRemark = false) : n.isCall = true := by
  cases n with
  | empty => cases h
  | comment => cases hr
  | _ => rfl

theorem chainBlocks_eq_nil {chain : List Node} (h : RegularChain chain) :
    chainBlocks chain = [] ↔ chain = [] := by
  cases chain with
  | nil => simp [chainBlocks]
  | cons n rest =>
    obtain ⟨b, hb⟩ := exists_nodeBlock h.2.1
    simp [chainBlocks_cons hb]

mutual

/-- **Live code of a tree.** The lines of a regular tree show what is not commented out. -/
theorem shows_nodeBlock : ∀ n : Node, Regular n → n.isRemark = false →
    ∃ b, nodeBlock? n = some b ∧ ShowsBlock n b
  | .empty, h, _ => h.elim
  | .comment _, _, h => by cases h
  | .call head arguments chain _, ⟨⟨hh, hs⟩, ha, hc, _⟩, _ => by
    refine ⟨_, rfl, ?_⟩
    have ht := tidyArguments_of_regular arguments ha
    have hb := solid_callBody (hh.name.1.not_mem rfl) (not_mem_inlineParts ht)
      (solid_childBlocks arguments ht) (solid_chainBlocks chain (tidyNodes_of_chain chain hc))
    unfold ShowsBlock callBlock
    rw [hh.heading, withHeading, Node.isCommented]
    by_cases hm : head.commented = true
    · simpa [hm] using dead_commentedOut hb
    · obtain ⟨hk, he⟩ := shows_childBlocks arguments ha
      have hl : chainBlocks chain ≠ [] →
          Closes ((chainBlocks chain).flatMap Block.lines) (Node.liveChain chain) := fun hn =>
        shows_chainBlocks chain hc hs (mt (chainBlocks_eq_nil hc).2 hn)
      have hn : chainBlocks chain = [] → Node.liveChain chain = [] := fun hn => by
        rw [(chainBlocks_eq_nil hc).1 hn]
        rfl
      simpa [hm, Node.live] using closes_callBody hh.name ha hk he hl hn
  | .children nodes, ⟨hn, h⟩, _ => by
    have hs := shows_nodeBlocks nodes h
    obtain ⟨b, hb⟩ := exists_nodeBlock (n := .children nodes) ⟨hn, h⟩
    exact ⟨b, hb, closes_childrenBlock_of_each (each_tightened_children hs) hb⟩

theorem shows_childBlocks : ∀ arguments : List (Argument Node), RegularArguments arguments →
    Each ShowsLine (inward ((separated (childBlocks arguments)).map tightenLine))
      (Node.liveArguments arguments) ∧
      (childBlocks arguments).isEmpty = !Node.hasChildren arguments
  | [], _ => ⟨.nil, rfl⟩
  | .literal _ :: rest, ⟨_, _, hr⟩ => by
    simpa [childBlocks, argumentBlocks, Node.liveArguments, Node.liveArgument, Node.hasChildren]
      using shows_childBlocks rest hr
  | .bare .. :: _, ⟨h, _⟩ => h.elim
  | .children _ nodes :: rest, ⟨h, hl, _⟩ => by
    obtain rfl := hl rfl
    have hb := shows_nodeBlocks nodes h
    rw [childBlocks, argumentBlocks, childBlocks, List.append_nil]
    refine ⟨by simpa [Node.liveArguments, Node.liveArgument] using each_tightened_children hb, ?_⟩
    have hn := hb.length_eq
    cases nodes with
    | nil => rfl
    | cons n nodes =>
      rw [List.length_cons] at hn
      rw [List.isEmpty_eq_false_iff.2 (List.ne_nil_of_length_pos (by omega))]
      rfl

theorem shows_nodeBlocks : ∀ nodes : List Node, RegularChildren nodes →
    List.Forall₂ ShowsBlock nodes (nodeBlocks nodes)
  | [], _ => .nil
  | n :: rest, ⟨ho, hn, hr⟩ => by
    have hm : n.isRemark = false := by
      cases n with
      | comment => cases ho
      | _ => rfl
    obtain ⟨b, hb, hs⟩ := shows_nodeBlock n hn hm
    rw [nodeBlocks, hb]
    exact .cons hs (shows_nodeBlocks rest hr)

/-- The lines of a chain show its live code, and the last of them stays code. -/
theorem shows_chainBlocks : ∀ chain : List Node, RegularChain chain → Settled chain →
    chain ≠ [] → Closes ((chainBlocks chain).flatMap Block.lines) (Node.liveChain chain)
  | [], _, _, hn => absurd rfl hn
  | n :: rest, ⟨hm, h, hr⟩, hs, _ => by
    obtain ⟨b, hb⟩ := exists_nodeBlock h
    have hc : n.isRemark = false → n.isCall = true ∧ Closes b.lines n.live := fun hrm => by
      obtain ⟨c, hc, hl⟩ := shows_nodeBlock n h hrm
      obtain rfl := Option.some.inj (hb.symm.trans hc)
      rw [ShowsBlock, hm] at hl
      exact ⟨isCall_of_nodeBlock? hb hrm, hl⟩
    rw [chainBlocks_cons hb, List.flatMap_cons, Node.liveChain]
    cases rest with
    | nil =>
      obtain ⟨hd, hl⟩ := hc (hs n rfl)
      rw [hd]
      simpa [chainBlocks, Node.liveChain] using closes_dotted hl
    | cons m rest =>
      have hl := shows_chainBlocks (m :: rest) hr hs (by simp)
      refine Closes.append ?_ hl
      cases hrm : n.isRemark with
      | false =>
        obtain ⟨hd, hl⟩ := hc hrm
        rw [hd]
        exact (closes_dotted hl).each
      | true =>
        cases n with
        | comment text =>
          obtain rfl := Option.some.inj hb
          exact each_showsLine_remark h.1
        | _ => cases hrm

end

/-! ## Code -/

/-- The code of a regular tree that is not a remark, at an indent. -/
theorem shows_code {n : Node} (h : Regular n) (hr : n.isRemark = false) {indent : String}
    (hi : IsIndent indent.toList) :
    if n.isCommented then IsRemark (n.code indent).toList
    else Shows (n.code indent).toList n.live := by
  obtain ⟨b, hb, hs⟩ := shows_nodeBlock n h hr
  rw [Node.code, String.toList_ofList, nodeText_eq n (tidy_of_regular n h) hi, hb]
  unfold ShowsBlock at hs
  cases hm : n.isCommented with
  | true =>
    rw [hm] at hs
    exact Dead.text hs hi
  | false =>
    rw [hm] at hs
    exact Closes.text hs hi

end Layout
end PlanCode
