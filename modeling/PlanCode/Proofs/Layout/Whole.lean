import PlanCode.Proofs.Layout.Live

/-!
# Whole argument lists

The comma between two children is written before either is commented out. When
the child behind it is, and all after that one too, the comma stays in the live
code with no argument behind it. A tree is whole when that happens nowhere in it.

* `operand_live`: the live code of a call can stand as an argument, whole or not.
* `filled_live`: no argument is missing in it exactly when the call is whole.
-/
namespace PlanCode

namespace Node

/-- Whether the last of some children stays code; no children do no harm either. -/
def endsLive (nodes : List Node) : Bool := nodes.getLast?.all (!·.isCommented)

/-- Whether the commas around children have arguments behind them: the last child stays code, or
none does and nothing stands in front of them. -/
def commasKept (alone : Bool) (nodes : List Node) : Bool :=
  endsLive nodes || (alone && nodes.all isCommented)

mutual

/-- Whether every comma of the live code has an argument behind it. -/
def isWhole : Node → Bool
  | .empty => true
  | .comment _ => true
  | .call head arguments chain _ =>
    head.commented ||
      (wholeArguments (Layout.inlineParts arguments).isEmpty arguments && wholeNodes chain)
  | .children nodes => commasKept true nodes && wholeNodes nodes

def wholeArguments (alone : Bool) : List (Argument Node) → Bool
  | [] => true
  | a :: rest => wholeArgument alone a && wholeArguments alone rest

def wholeArgument (alone : Bool) : Argument Node → Bool
  | .literal _ => true
  | .bare .. => true
  | .children _ nodes => commasKept alone nodes && wholeNodes nodes

def wholeNodes : List Node → Bool
  | [] => true
  | n :: rest => n.isWhole && wholeNodes rest

end

end Node

namespace Layout

open PlanCode.Text PlanCode.Text.Code

/-! ## Live code as an argument -/

theorem neutral_comma : Neutral [.sign ','] := neutral_singleton (by decide) (by decide)

theorem operand_inlineTokens {arguments : List (Argument Node)} (h : RegularArguments arguments)
    (hn : (inlineParts arguments).isEmpty = false) :
    Operand (Node.inlineTokens arguments) ∧ Filled (Node.inlineTokens arguments) := by
  refine operand_separated (by simpa using hn) fun p hp => ?_
  obtain ⟨q, hq, rfl⟩ := List.mem_map.1 hp
  exact (operand_inlineParts h q hq).2

theorem inlineTokens_eq_nil {arguments : List (Argument Node)}
    (hn : (inlineParts arguments).isEmpty = true) : Node.inlineTokens arguments = [] := by
  rw [Node.inlineTokens, List.isEmpty_iff.1 hn]
  rfl

theorem neutral_inlineTokens {arguments : List (Argument Node)} (h : RegularArguments arguments) :
    Neutral (Node.inlineTokens arguments ++ Node.innerComma arguments) := by
  refine Neutral.append ?_ ?_
  · cases hn : (inlineParts arguments).isEmpty with
    | true =>
      rw [inlineTokens_eq_nil hn]
      exact neutral_nil
    | false => exact (operand_inlineTokens h hn).1.neutral
  · unfold Node.innerComma
    split
    · exact neutral_comma
    · exact neutral_nil

/-- The live code of a node: an operand, or nothing. -/
def LiveOperand (n : Node) : Prop :=
  if n.isCall && !n.isCommented then Operand n.live else n.live = []

theorem LiveOperand.neutral {n : Node} (h : LiveOperand n) : Neutral n.live := by
  unfold LiveOperand at h
  split at h
  · exact h.neutral
  · rw [h]
    exact neutral_nil

/-- A call of its own that is not commented out is an operand. -/
theorem LiveOperand.operand {n : Node} (h : LiveOperand n) (ho : n.isOwnCall = true)
    (hm : n.isCommented = false) : Operand n.live := by
  cases n with
  | call =>
    unfold LiveOperand at h
    rw [hm] at h
    exact h
  | _ => cases ho

theorem operand_dotted {ts : List Token} (h : Operand ts) : Operand (.sign '.' :: ts) := by
  have hdot : Operand [.sign '.'] := (operand_of_plain (by simp) (by decide)).1
  exact hdot.append h

theorem operand_children : Operand (signs "children".toList) ∧ Filled (signs "children".toList) :=
  operand_signs (word_ofList (by decide))

mutual

/-- The live code of a regular tree can stand as an argument. -/
theorem operand_live : ∀ n : Node, Regular n → LiveOperand n
  | .empty, h => h.elim
  | .comment _, _ => rfl
  | .call head arguments chain _, ⟨⟨hh, _⟩, ha, hc, _⟩ => by
    unfold LiveOperand
    simp only [Node.isCall, Node.isCommented, Node.live, Bool.true_and]
    cases hm : head.commented with
    | true => rfl
    | false =>
      have hi := (neutral_inlineTokens ha).append (neutral_liveArguments arguments ha)
      have ho := (operand_call (operand_signs hh.name) hi).1
      have hl := operand_liveChain chain hc
      simp only [Bool.not_false, if_true, Bool.false_eq_true, if_false]
      rcases hl with hl | hl
      · rwa [hl, List.append_nil]
      · exact ho.append hl
  | .children nodes, ⟨_, h⟩ => (operand_call operand_children (neutral_liveChildren nodes h)).1

theorem neutral_liveArguments : ∀ arguments : List (Argument Node), RegularArguments arguments →
    Neutral (Node.liveArguments arguments)
  | [], _ => neutral_nil
  | .literal _ :: rest, ⟨_, _, hr⟩ => neutral_liveArguments rest hr
  | .bare .. :: _, ⟨h, _⟩ => h.elim
  | .children _ nodes :: rest, ⟨h, _, hr⟩ =>
    (neutral_liveChildren nodes h).append (neutral_liveArguments rest hr)

theorem neutral_liveChildren : ∀ nodes : List Node, RegularChildren nodes →
    Neutral (Node.liveChildren nodes)
  | [], _ => neutral_nil
  | n :: rest, ⟨_, hn, hr⟩ => by
    have hc : Neutral (if n.isCommented || rest.isEmpty then [] else [.sign ',']) := by
      split
      · exact neutral_nil
      · exact neutral_comma
    exact ((operand_live n hn).neutral.append hc).append (neutral_liveChildren rest hr)

theorem operand_liveChain : ∀ chain : List Node, RegularChain chain →
    Node.liveChain chain = [] ∨ Operand (Node.liveChain chain)
  | [], _ => Or.inl rfl
  | n :: rest, ⟨hm, hn, hr⟩ => by
    have ho := operand_live n hn
    have ih := operand_liveChain rest hr
    unfold LiveOperand at ho
    rw [hm, Bool.not_false, Bool.and_true] at ho
    rw [Node.liveChain]
    cases hd : n.isCall with
    | false => simpa using ih
    | true =>
      rw [if_pos hd] at ho
      rcases ih with ih | ih
      · rw [ih]
        exact Or.inr (by simpa using operand_dotted ho)
      · exact Or.inr ((operand_dotted ho).append ih)

end

/-! ## Missing arguments -/

theorem not_filled_gap {t u : Token} (h : isGap t u = true) (ts : List Token) :
    ¬Filled (t :: u :: ts) := by
  intro hf
  have hg := (List.isChain_cons_cons.1 hf).1
  rw [h] at hg
  cases hg

theorem filled_sign_cons {t : Token} {ts : List Token} (h : ∀ u ∈ ts.head?, isFirst u = true) :
    Filled (t :: ts) ↔ Filled ts := by
  rw [← List.singleton_append, filled_append_of_isFirst h]
  exact ⟨fun hf => hf.2, fun hf => ⟨.singleton t, hf⟩⟩

/-- Live code of children starts as an argument does, unless all of them are commented out. -/
theorem liveChildren_cases {nodes : List Node} (h : RegularChildren nodes) :
    if nodes.all Node.isCommented then Node.liveChildren nodes = []
    else Node.liveChildren nodes ≠ [] ∧
      ∀ t ∈ (Node.liveChildren nodes).head?, isFirst t = true := by
  induction nodes with
  | nil => rfl
  | cons n rest ih =>
    obtain ⟨ho, hn, hr⟩ := h
    have hl := operand_live n hn
    rw [List.all_cons, Node.liveChildren]
    cases hm : n.isCommented with
    | true =>
      rw [live_of_isCommented hm]
      simpa using ih hr
    | false =>
      have hl := hl.operand ho hm
      rw [List.append_assoc, Bool.false_and, if_neg (by simp)]
      refine ⟨by simp [hl.ne_nil], fun t ht => ?_⟩
      rw [List.head?_append_of_ne_nil _ hl.ne_nil] at ht
      exact hl.first t ht

theorem endsLive_cons (n : Node) {rest : List Node} (h : rest ≠ []) :
    Node.endsLive (n :: rest) = Node.endsLive rest := by
  cases rest with
  | nil => exact absurd rfl h
  | cons m rest => rfl

theorem endsLive_eq_false {nodes : List Node} (hn : nodes ≠ [])
    (h : nodes.all Node.isCommented = true) : Node.endsLive nodes = false := by
  obtain ⟨n, hl⟩ := Option.ne_none_iff_exists'.1 (mt List.getLast?_eq_none_iff.1 hn)
  rw [List.all_eq_true] at h
  simp [Node.endsLive, hl, h n (List.mem_of_getLast? hl)]

/-- Children right behind the opening parenthesis. -/
theorem filled_open_children {nodes : List Node} (h : RegularChildren nodes) :
    Filled (.sign '(' :: (Node.liveChildren nodes ++ [.sign ')'])) ↔
      Filled (Node.liveChildren nodes ++ [.sign ')']) := by
  have hc := liveChildren_cases h
  split at hc
  · rw [hc]
    exact ⟨fun _ => .singleton _, fun _ => by decide⟩
  · refine filled_sign_cons fun u hu => hc.2 u ?_
    rwa [List.head?_append_of_ne_nil _ hc.1] at hu

/-- Children behind a comma. -/
theorem filled_comma_children {nodes : List Node} (h : RegularChildren nodes) :
    Filled (.sign ',' :: (Node.liveChildren nodes ++ [.sign ')'])) ↔
      nodes.all Node.isCommented = false ∧ Filled (Node.liveChildren nodes ++ [.sign ')']) := by
  have hc := liveChildren_cases h
  split at hc
  · rename_i ha
    rw [hc, ha]
    exact ⟨fun hf => absurd hf (not_filled_gap rfl []), fun hf => by cases hf.1⟩
  · rename_i ha
    rw [filled_sign_cons fun u hu => hc.2 u (by rwa [List.head?_append_of_ne_nil _ hc.1] at hu)]
    exact ⟨fun hf => ⟨by simpa using ha, hf⟩, fun hf => hf.2⟩

/-- Children behind an argument and a comma. -/
theorem filled_before_children {nodes : List Node} (h : RegularChildren nodes)
    {before : List Token} (hb : Operand before ∧ Filled before) :
    Filled (.sign '(' :: (before ++ [.sign ','] ++ Node.liveChildren nodes ++ [.sign ')'])) ↔
      nodes.all Node.isCommented = false ∧ Filled (Node.liveChildren nodes ++ [.sign ')']) := by
  have hf : ∀ u ∈ (before ++ [Token.sign ','] ++ Node.liveChildren nodes ++ [Token.sign ')']).head?,
      isFirst u = true := fun u hu => by
    rw [List.append_assoc, List.append_assoc, List.head?_append_of_ne_nil _ hb.1.ne_nil] at hu
    exact hb.1.first u hu
  rw [filled_sign_cons hf, List.append_assoc, List.append_assoc,
    filled_append_of_isLast hb.1.last, and_iff_right hb.2, List.singleton_append,
    filled_comma_children h]

mutual

/-- **Missing arguments.** None is missing in the live code of a regular tree exactly when the
tree is whole. -/
theorem filled_live : ∀ n : Node, Regular n → (Filled n.live ↔ n.isWhole = true)
  | .empty, h => h.elim
  | .comment _, _ => ⟨fun _ => rfl, fun _ => .nil⟩
  | .call head arguments chain _, ⟨⟨hh, _⟩, ha, hc, _⟩ => by
    rw [Node.live, Node.isWhole]
    cases hm : head.commented with
    | true => exact ⟨fun _ => rfl, fun _ => .nil⟩
    | false =>
      have hi := (neutral_inlineTokens ha).append (neutral_liveArguments arguments ha)
      obtain ⟨ho, hf⟩ := operand_call (operand_signs hh.name) hi
      have hb : if (inlineParts arguments).isEmpty then Node.inlineTokens arguments = []
          else Operand (Node.inlineTokens arguments) ∧ Filled (Node.inlineTokens arguments) := by
        cases hn : (inlineParts arguments).isEmpty with
        | true => exact inlineTokens_eq_nil hn
        | false => exact operand_inlineTokens ha hn
      rw [Bool.false_or, Bool.and_eq_true, ← filled_liveArguments arguments ha hb,
        ← filled_liveChain chain hc]
      simp only [Bool.false_eq_true, if_false]
      rw [filled_append_of_isLast ho.last, hf]
      rfl
  | .children nodes, ⟨_, h⟩ => by
    rw [Node.live, (operand_call operand_children (neutral_liveChildren nodes h)).2,
      filled_open_children h, filled_liveChildren nodes h]
    rfl

/-- The children among arguments, with what stands in front of them. -/
theorem filled_liveArguments : ∀ arguments : List (Argument Node), RegularArguments arguments →
    ∀ {alone : Bool} {before : List Token},
    (if alone then before = [] else Operand before ∧ Filled before) →
    (Filled (.sign '(' :: (before ++
      (if Node.hasChildren arguments && !alone then [.sign ','] else []) ++
        Node.liveArguments arguments ++ [.sign ')'])) ↔
      Node.wholeArguments alone arguments = true)
  | [], _, alone, before, hb => by
    refine ⟨fun _ => rfl, fun _ => ?_⟩
    cases alone with
    | true =>
      obtain rfl : before = [] := hb
      decide
    | false => simpa [Node.hasChildren, Node.liveArguments] using (filled_parenthesized hb.1).2 hb.2
  | .literal _ :: rest, ⟨_, _, hr⟩, _, _, hb => filled_liveArguments rest hr hb
  | .bare .. :: _, ⟨h, _⟩, _, _, _ => h.elim
  | .children t nodes :: rest, ⟨h, hl, _⟩, alone, before, hb => by
    obtain rfl := hl rfl
    have hf := filled_liveChildren nodes h
    simp only [Node.liveArguments, Node.liveArgument, Node.wholeArguments, Node.wholeArgument,
      List.append_nil, Bool.and_true]
    cases alone with
    | true =>
      obtain rfl : before = [] := hb
      rw [Bool.not_true, Bool.and_false, ← hf, ← filled_open_children h]
      rfl
    | false =>
      by_cases hn : nodes = []
      · subst hn
        refine ⟨fun _ => rfl, fun _ => ?_⟩
        simpa [Node.hasChildren, Node.liveChildren] using (filled_parenthesized hb.1).2 hb.2
      · have hc : (Node.hasChildren [.children t nodes] && !false) = true := by
          simpa [Node.hasChildren] using hn
        rw [if_pos hc, filled_before_children h hb, hf]
        cases ha : nodes.all Node.isCommented with
        | true => simp [Node.commasKept, endsLive_eq_false hn ha]
        | false => simp [Node.commasKept, ha]

/-- Children in front of the closing parenthesis. -/
theorem filled_liveChildren : ∀ nodes : List Node, RegularChildren nodes →
    (Filled (Node.liveChildren nodes ++ [.sign ')']) ↔
      (Node.commasKept true nodes && Node.wholeNodes nodes) = true)
  | [], _ => ⟨fun _ => rfl, fun _ => .singleton _⟩
  | n :: rest, ⟨ho, hn, hr⟩ => by
    have ih := filled_liveChildren rest hr
    have hf := filled_live n hn
    have hl := operand_live n hn
    rw [Node.liveChildren, Node.wholeNodes]
    cases hm : n.isCommented with
    | true =>
      have hw : n.isWhole = true := by
        rw [← hf, live_of_isCommented hm]
        exact .nil
      rw [live_of_isCommented hm, Bool.true_or, if_pos rfl, hw, Bool.true_and]
      refine ih.trans ?_
      by_cases hrn : rest = []
      · simp [hrn, Node.commasKept, Node.endsLive, hm]
      · simp [Node.commasKept, endsLive_cons n hrn, hm]
    | false =>
      have hl := hl.operand ho hm
      rw [Bool.false_or, List.append_assoc, List.append_assoc, filled_append_of_isLast hl.last, hf]
      by_cases hrn : rest = []
      · subst hrn
        have hs : Filled [.sign ')'] := .singleton _
        simp [Node.liveChildren, Node.commasKept, Node.endsLive, hm, Node.wholeNodes, hs]
      · rw [if_neg (by simpa using hrn), List.singleton_append, filled_comma_children hr, ih]
        have hk : Node.commasKept true (n :: rest) = Node.endsLive rest := by
          simp [Node.commasKept, endsLive_cons n hrn, hm]
        rw [hk]
        cases ha : rest.all Node.isCommented with
        | true => simp [endsLive_eq_false hrn ha]
        | false =>
          simp only [Node.commasKept, ha, Bool.and_false, Bool.or_false, Bool.and_eq_true,
            true_and]
          exact and_left_comm

theorem filled_liveChain : ∀ chain : List Node, RegularChain chain →
    (Filled (Node.liveChain chain) ↔ Node.wholeNodes chain = true)
  | [], _ => ⟨fun _ => rfl, fun _ => .nil⟩
  | n :: rest, ⟨hm, hn, hr⟩ => by
    have hf := filled_live n hn
    have ih := filled_liveChain rest hr
    have hl := operand_live n hn
    rw [Node.liveChain, Node.wholeNodes, Bool.and_eq_true, ← hf, ← ih]
    unfold LiveOperand at hl
    rw [hm, Bool.not_false, Bool.and_true] at hl
    cases hd : n.isCall with
    | false =>
      rw [if_neg (by simp [hd])] at hl
      have hs : Filled n.live := by
        rw [hl]
        exact .nil
      simp [hs]
    | true =>
      rw [if_pos hd] at hl
      rw [if_pos rfl, filled_append_of_isLast (operand_dotted hl).last, filled_sign_cons hl.first]

end

end Layout
end PlanCode
