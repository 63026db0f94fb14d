import PlanCode.Call.Layout
import PlanCode.Proofs.Text.Replace

/-!
# The lines of written code

The layout of a call repairs finished text: it drops the space of a separator at
a line end, closes up blank lines, cuts off the start of a chain and puts marks
behind line feeds. Here the same code is made of lines. A `Block` is what a node
is written as, without the indent that its lines after the first one start with,
and `nodeBlock?` builds the block of a node from those of its parts.

A line is `Solid` when it holds no line feed and something to see. Each repair is
then a map of lines:

* `argumentList_children`: separators lose their space at line ends, and no line
  is closed up.
* `commentOut_text`: every line gets the comment mark.
* `solid_callBlock`: the block of a call is solid when its parts are.
-/
namespace PlanCode.Layout

open PlanCode.Text

/-! ## Lines -/

/-- A line of code: no line feed, and something to see. -/
def Solid (l : List Char) : Prop := '\n' ∉ l ∧ ∃ c ∈ l, isBlank c = false

/-- An indent is made of spaces. -/
def IsIndent (indent : List Char) : Prop := ∀ c ∈ indent, c = ' '

instance (indent : List Char) : Decidable (IsIndent indent) := List.decidableBAll _ indent

theorem IsIndent.not_mem {indent : List Char} (h : IsIndent indent) : '\n' ∉ indent :=
  fun hm => absurd (h _ hm) (by decide)

theorem isIndent_step {indent : List Char} (h : IsIndent indent) :
    IsIndent (indent ++ indentStep) := by
  intro c hc
  rcases List.mem_append.1 hc with hc | hc
  · exact h c hc
  · simpa [indentStep] using hc

/-- Drops the space of a separator at the end of a line. -/
def tightenLine : List Char → List Char
  | [',', ' '] => [',']
  | c :: rest => c :: tightenLine rest
  | [] => []

/-- Lines that stand under others at an indent. -/
def below (indent : List Char) (ls : List (List Char)) : List Char :=
  ls.flatMap fun l => '\n' :: indent ++ l

@[simp] theorem below_nil (indent : List Char) : below indent [] = [] := rfl

@[simp] theorem below_cons (indent l : List Char) (ls : List (List Char)) :
    below indent (l :: ls) = '\n' :: (indent ++ l ++ below indent ls) := by
  simp [below]

theorem below_append (indent : List Char) (ls ms : List (List Char)) :
    below indent (ls ++ ms) = below indent ls ++ below indent ms := by
  simp [below]

theorem below_map (indent pre : List Char) (ls : List (List Char)) :
    below indent (ls.map (pre ++ ·)) = below (indent ++ pre) ls := by
  simp [below, List.flatMap_map]

/-- The last line gets a comma. -/
def addComma : List (List Char) → List (List Char)
  | [] => []
  | [l] => [l ++ [',']]
  | l :: ls => l :: addComma ls

theorem below_addComma (indent : List Char) {ls : List (List Char)} (h : ls ≠ []) :
    below indent (addComma ls) = below indent ls ++ [','] := by
  induction ls with
  | nil => exact absurd rfl h
  | cons l ls ih =>
    cases ls with
    | nil => simp [addComma]
    | cons m ms => simp [addComma, ih]

theorem mem_addComma {l : List Char} {ls : List (List Char)} (h : l ∈ addComma ls) :
    ∃ m ∈ ls, l = m ∨ l = m ++ [','] := by
  induction ls with
  | nil => simp [addComma] at h
  | cons m ms ih =>
    cases ms with
    | nil => exact ⟨m, by simp, Or.inr (by simpa [addComma] using h)⟩
    | cons k ks =>
      rw [addComma, List.mem_cons] at h
      rcases h with rfl | h
      · exact ⟨l, by simp, Or.inl rfl⟩
      · obtain ⟨n, hn, hl⟩ := ih h
        exact ⟨n, List.mem_cons_of_mem _ hn, hl⟩
      · simp

/-! ## Blocks -/

/-- The lines of a written node; those under the first one come without its indent. -/
structure Block where
  first : List Char
  rest : List (List Char) := []

namespace Block

def lines (b : Block) : List (List Char) := b.first :: b.rest

/-- A block as text, where its first line starts at the given indent. -/
def text (indent : List Char) (b : Block) : List Char := b.first ++ below indent b.rest

/-- A block as comment. -/
def commentedOut (b : Block) : Block :=
  ⟨['/', '/'] ++ b.first, b.rest.map (['/', '/'] ++ ·)⟩

/-- A chained block, with a dot in front of a call. -/
def dotted (dot : Bool) (b : Block) : Block :=
  { b with first := (if dot then ['.'] else []) ++ b.first }

def Solid (b : Block) : Prop := ∀ l ∈ b.lines, Layout.Solid l

theorem below_lines (indent : List Char) (b : Block) :
    below indent b.lines = '\n' :: (indent ++ b.text indent) := by
  simp [lines, text]

end Block

/-- The lines of blocks with commas between the blocks. -/
def separated : List Block → List (List Char)
  | [] => []
  | [b] => b.lines
  | b :: rest => addComma b.lines ++ separated rest

/-- The lines of one level further in. -/
def inward (ls : List (List Char)) : List (List Char) := ls.map (indentStep ++ ·)

/-- The lines of chained blocks that follow a line. -/
def chainLines (chain : List Block) : List (List Char) := chain.flatMap fun b => inward b.lines

/-- Arguments without children. -/
def plainArguments (parts : List (List Char)) : List Char := [',', ' '].intercalate parts

/-- The closing parenthesis under children, where the chain goes on right behind it. -/
def closingLines : List Block → List (List Char)
  | [] => [[')']]
  | segment :: chain => (')' :: segment.first) :: inward segment.rest ++ chainLines chain

/-- A call from the parts of its arguments, the blocks of its children and those of its chain. -/
def callBody (name : Option String) (parts : List (List Char)) (children chain : List Block) :
    Block :=
  let opening := nameText name ++ '(' :: plainArguments parts
  if children.isEmpty then ⟨opening ++ [')'], chainLines chain⟩
  else
    ⟨opening ++ (if parts.isEmpty then [] else [',']),
      inward ((separated children).map tightenLine) ++ closingLines chain⟩

def withHeading : Option String → Block → Block
  | none, b => b
  | some text, b => ⟨commentText text, b.lines⟩

def callBlock (head : Head) (parts : List (List Char)) (children chain : List Block) : Block :=
  let block := withHeading head.heading (callBody head.name parts children chain)
  if head.commented then block.commentedOut else block

def childrenBlock? : List Block → Option Block
  | [] => none
  | children =>
    some ⟨"children(".toList, inward ((separated children).map tightenLine) ++ [[')']]⟩

/-- An argument that is written and is no children. -/
def inlinePart? : Argument Node → Option (List Char)
  | .literal v => if v.isIgnored || v.code.toList.isEmpty then none else some v.code.toList
  | _ => none

def inlineParts (arguments : List (Argument Node)) : List (List Char) :=
  arguments.filterMap inlinePart?

theorem inlineParts_cons (a : Argument Node) (rest : List (Argument Node)) :
    inlineParts (a :: rest) = (inlinePart? a).toList ++ inlineParts rest := by
  cases h : inlinePart? a <;> simp [inlineParts, h]

mutual

/-- The block of a node, none where it is written as nothing. -/
def nodeBlock? : Node → Option Block
  | .empty => none
  | .comment text => some ⟨commentText text, []⟩
  | .call head arguments chain _ =>
    some (callBlock head (inlineParts arguments) (childBlocks arguments) (chainBlocks chain))
  | .children nodes => childrenBlock? (nodeBlocks nodes)

/-- The blocks of the children among the arguments. -/
def childBlocks : List (Argument Node) → List Block
  | [] => []
  | a :: rest => argumentBlocks a ++ childBlocks rest

def argumentBlocks : Argument Node → List Block
  | .literal _ => []
  | .bare .. => []
  | .children _ nodes => nodeBlocks nodes

def nodeBlocks : List Node → List Block
  | [] => []
  | n :: rest => (nodeBlock? n).toList ++ nodeBlocks rest

def chainBlocks : List Node → List Block
  | [] => []
  | n :: rest => ((nodeBlock? n).map (Block.dotted n.isCall)).toList ++ chainBlocks rest

end

/-! ## Readings one by one -/

/-- Items of which each reads as something by itself; all of it stands in a row. -/
inductive Each {β α : Type} (R : β → List α → Prop) : List β → List α → Prop where
  | nil : Each R [] []
  | cons {b : β} {bs : List β} {x xs : List α} (h : R b x) (hs : Each R bs xs) :
    Each R (b :: bs) (x ++ xs)

namespace Each

variable {β γ α : Type} {R : β → List α → Prop}

theorem singleton {b : β} {x : List α} (h : R b x) : Each R [b] x := by
  simpa using cons h nil

theorem append {bs cs : List β} {xs ys : List α} (h : Each R bs xs) (h' : Each R cs ys) :
    Each R (bs ++ cs) (xs ++ ys) := by
  induction h with
  | nil => exact h'
  | cons hb _ ih => rw [List.append_assoc]; exact cons hb ih

theorem map {S : γ → List α → Prop} {f : β → γ} (hf : ∀ b x, R b x → S (f b) x) {bs : List β}
    {xs : List α} (h : Each R bs xs) : Each S (bs.map f) xs := by
  induction h with
  | nil => exact nil
  | cons hb _ ih => exact cons (hf _ _ hb) ih

theorem flatMap {S : γ → List α → Prop} {f : β → List γ} (hf : ∀ b x, R b x → Each S (f b) x)
    {bs : List β} {xs : List α} (h : Each R bs xs) : Each S (bs.flatMap f) xs := by
  induction h with
  | nil => exact nil
  | cons hb _ ih => exact (hf _ _ hb).append ih

end Each

/-! ## Repairs of text made of lines -/

theorem tightenCommas_cons {c : Char} {s : List Char}
    (h : ∀ rest, c :: s ≠ ',' :: ' ' :: '\n' :: rest) :
    tightenCommas (c :: s) = c :: tightenCommas s := by
  rw [tightenCommas]
  intro rest h1 h2
  exact h rest (by rw [h1, h2])

theorem tightenLine_cons {c : Char} {l : List Char} (h : c :: l ≠ [',', ' ']) :
    tightenLine (c :: l) = c :: tightenLine l := by
  rw [tightenLine]
  intro h1 h2
  exact h (by rw [h1, h2])

theorem tightenCommas_of_not_mem {l : List Char} (h : '\n' ∉ l) : tightenCommas l = l := by
  induction l with
  | nil => rfl
  | cons c l ih =>
    rw [List.mem_cons, not_or] at h
    rw [tightenCommas_cons, ih h.2]
    intro rest he
    obtain ⟨-, rfl⟩ := List.cons.inj he
    exact h.2 (by simp)

/-- Each line is tightened where it ends. -/
theorem tightenCommas_line {l : List Char} (h : '\n' ∉ l) (s : List Char) :
    tightenCommas (l ++ '\n' :: s) = tightenLine l ++ '\n' :: tightenCommas s := by
  induction l with
  | nil => exact tightenCommas_cons (by simp)
  | cons c l ih =>
    rw [List.mem_cons, not_or] at h
    by_cases hc : c :: l = [',', ' ']
    · obtain ⟨rfl, rfl⟩ := List.cons.inj hc
      rfl
    · rw [tightenLine_cons hc, List.cons_append, List.cons_append, ← ih h.2, tightenCommas_cons]
      intro rest he
      obtain ⟨rfl, he⟩ := List.cons.inj he
      rcases l with _ | ⟨d, _ | ⟨e, l⟩⟩
      · simp at he
      · rw [List.singleton_append] at he
        simp only [List.cons.injEq] at he
        exact hc (by rw [he.2.1])
      · simp only [List.cons_append, List.cons.injEq] at he
        exact h.2 (by simp [he.2.2.1])

/-- Only a line that ends in a separator is changed. -/
theorem tightenLine_cases (l : List Char) :
    tightenLine l = l ∨ ∃ k, l = k ++ [',', ' '] ∧ tightenLine l = k ++ [','] := by
  induction l with
  | nil => exact Or.inl rfl
  | cons c l ih =>
    by_cases hc : c :: l = [',', ' ']
    · exact Or.inr ⟨[], hc, by rw [hc]; rfl⟩
    · rw [tightenLine_cons hc]
      rcases ih with h | ⟨k, hk, ht⟩
      · exact Or.inl (by rw [h])
      · exact Or.inr ⟨c :: k, by rw [hk]; rfl, by rw [ht]; rfl⟩

theorem tightenLine_prefix {pre : List Char} (h : ',' ∉ pre) (l : List Char) :
    tightenLine (pre ++ l) = pre ++ tightenLine l := by
  induction pre with
  | nil => rfl
  | cons c pre ih =>
    rw [List.mem_cons, not_or] at h
    rw [List.cons_append, tightenLine_cons, ih h.2, List.cons_append]
    intro he
    exact h.1 (List.cons.inj he).1.symm

theorem mem_tightenLine {c : Char} {l : List Char} (h : c ∈ tightenLine l) : c ∈ l := by
  induction l with
  | nil => exact h
  | cons d l ih =>
    by_cases hd : d :: l = [',', ' ']
    · rw [hd] at h ⊢
      simp only [tightenLine, List.mem_singleton] at h
      simp [h]
    · rw [tightenLine_cons hd, List.mem_cons] at h
      exact h.elim (fun e => by simp [e]) fun e => List.mem_cons_of_mem _ (ih e)

theorem mem_tightenLine_of_ne_space {c : Char} {l : List Char} (h : c ∈ l) (hc : c ≠ ' ') :
    c ∈ tightenLine l := by
  induction l with
  | nil => exact h
  | cons d l ih =>
    by_cases hd : d :: l = [',', ' ']
    · rw [hd] at h ⊢
      simpa [tightenLine, hc] using h
    · rw [tightenLine_cons hd, List.mem_cons]
      exact (List.mem_cons.1 h).imp id ih

theorem solid_tightenLine {l : List Char} (h : Solid l) : Solid (tightenLine l) := by
  obtain ⟨hn, c, hc, hb⟩ := h
  refine ⟨fun hm => hn (mem_tightenLine hm), c, mem_tightenLine_of_ne_space hc ?_, hb⟩
  rintro rfl
  exact absurd hb (by decide)

theorem closeBlankLines_append {l : List Char} (h : '\n' ∉ l) (s : List Char) :
    closeBlankLines (l ++ s) = l ++ closeBlankLines s := by
  induction l with
  | nil => rfl
  | cons c l ih =>
    rw [List.mem_cons, not_or] at h
    rw [List.cons_append, closeBlankLines_cons (Ne.symm h.1), ih h.2, List.cons_append]

/-- The blanks in front of something to see do not end at a line feed. -/
theorem dropWhile_solid {l : List Char} (h : Solid l) (s : List Char) :
    ∃ c t, (l ++ s).dropWhile (fun c => c != '\n' && isBlank c) = c :: t ∧ c ≠ '\n' := by
  obtain ⟨hn, d, hd, hb⟩ := h
  induction l with
  | nil => simp at hd
  | cons c l ih =>
    rw [List.mem_cons, not_or] at hn
    by_cases hc : isBlank c = true
    · rw [List.cons_append, List.dropWhile_cons_of_pos (by simp [hc, Ne.symm hn.1])]
      refine ih hn.2 ?_
      rcases List.mem_cons.1 hd with rfl | hd
      · rw [hb] at hc; cases hc
      · exact hd
    · refine ⟨c, l ++ s, ?_, Ne.symm hn.1⟩
      rw [List.cons_append, List.dropWhile_cons_of_neg (by simp [hc])]

theorem joinLine_solid {l : List Char} (h : Solid l) (s : List Char) :
    joinLine (l ++ s) = '\n' :: (l ++ s) := by
  obtain ⟨c, t, he, hc⟩ := dropWhile_solid h s
  unfold joinLine
  rw [he]
  split
  · rename_i h'
    exact absurd (List.cons.inj h').1 hc
  · rfl

theorem solid_indent {indent l : List Char} (hi : IsIndent indent) (h : Solid l) :
    Solid (indent ++ l) := by
  obtain ⟨hn, c, hc, hb⟩ := h
  exact ⟨by simp [hi.not_mem, hn], c, by simp [hc], hb⟩

/-- Lines that are solid have no blank line among them. -/
theorem closeBlankLines_below {indent : List Char} (hi : IsIndent indent)
    {ls : List (List Char)} (h : ∀ l ∈ ls, Solid l) (s : List Char) :
    closeBlankLines (below indent ls ++ s) = below indent ls ++ closeBlankLines s := by
  induction ls with
  | nil => rfl
  | cons l ls ih =>
    have hl := solid_indent hi (h l (List.mem_cons_self ..))
    rw [below_cons, List.cons_append, List.cons_append, closeBlankLines, if_pos rfl,
      List.append_assoc, closeBlankLines_append hl.1, joinLine_solid hl,
      ih fun m hm => h m (List.mem_cons_of_mem _ hm)]
    simp

theorem below_append_feed (indent : List Char) (ls : List (List Char)) (s : List Char) :
    ∃ t, below indent ls ++ '\n' :: s = '\n' :: t := by
  cases ls with
  | nil => exact ⟨s, rfl⟩
  | cons l ls => exact ⟨_, by rw [below_cons]; rfl⟩

theorem tightenCommas_below {indent : List Char} (hi : IsIndent indent)
    {ls : List (List Char)} (h : ∀ l ∈ ls, '\n' ∉ l) (s : List Char) :
    tightenCommas (below indent ls ++ '\n' :: s) =
      below indent (ls.map tightenLine) ++ '\n' :: tightenCommas s := by
  have hc : ',' ∉ indent := fun hm => absurd (hi _ hm) (by decide)
  induction ls with
  | nil => exact tightenCommas_line (l := []) (by simp) s
  | cons l ls ih =>
    have hl : '\n' ∉ indent ++ l := by simp [hi.not_mem, h l (List.mem_cons_self ..)]
    obtain ⟨t, ht⟩ := below_append_feed indent ls s
    have hf : ∀ u, tightenCommas ('\n' :: u) = '\n' :: tightenCommas u :=
      fun u => tightenCommas_cons (by simp)
    rw [below_cons, List.cons_append, List.append_assoc, ht, hf, tightenCommas_line hl, ← hf, ← ht,
      ih fun m hm => h m (List.mem_cons_of_mem _ hm), tightenLine_prefix hc]
    simp

/-! ## Arguments -/

theorem not_mem_intercalate {c : Char} {sep : List Char} (hs : c ∉ sep)
    {parts : List (List Char)} (h : ∀ p ∈ parts, c ∉ p) : c ∉ sep.intercalate parts := by
  induction parts with
  | nil => simp
  | cons p parts ih =>
    have hp := h p (List.mem_cons_self ..)
    have ih := ih fun q hq => h q (List.mem_cons_of_mem _ hq)
    cases parts with
    | nil => simpa using hp
    | cons q parts =>
      rw [List.intercalate_cons_cons, List.mem_append, List.mem_append, not_or, not_or]
      exact ⟨⟨hp, hs⟩, ih⟩

theorem not_mem_plainArguments {parts : List (List Char)} (h : ∀ p ∈ parts, '\n' ∉ p) :
    '\n' ∉ plainArguments parts := not_mem_intercalate (by decide) h

theorem argumentList_plain {parts : List (List Char)} (h : ∀ p ∈ parts, '\n' ∉ p) :
    argumentList parts = plainArguments parts := by
  have hn := not_mem_plainArguments h
  have hc := closeBlankLines_append hn []
  unfold argumentList
  rw [← plainArguments, tightenCommas_of_not_mem hn]
  simpa [closeBlankLines] using hc

theorem intercalate_append_singleton (sep x : List Char) {parts : List (List Char)}
    (h : parts ≠ []) :
    sep.intercalate (parts ++ [x]) = sep.intercalate parts ++ sep ++ x := by
  induction parts with
  | nil => exact absurd rfl h
  | cons p parts ih =>
    cases parts with
    | nil => simp [List.intercalate_cons_cons]
    | cons q parts =>
      rw [List.cons_append, List.cons_append, List.intercalate_cons_cons, ← List.cons_append,
        ih (by simp), List.intercalate_cons_cons]
      simp

theorem tightenLine_separator (l : List Char) : tightenLine (l ++ [',', ' ']) = l ++ [','] := by
  induction l with
  | nil => rfl
  | cons c l ih =>
    rw [List.cons_append, tightenLine_cons, ih, List.cons_append]
    intro h
    simpa using congrArg List.length h

/-- Arguments in front of children end their line with a comma. -/
theorem argumentList_children {indent : List Char} (hi : IsIndent indent)
    {parts : List (List Char)} (hp : ∀ p ∈ parts, '\n' ∉ p) {ls : List (List Char)}
    (hs : ∀ l ∈ ls, Solid l) (hne : ls ≠ []) :
    argumentList (parts ++ [below indent ls ++ ['\n']]) =
      plainArguments parts ++ (if parts.isEmpty then [] else [',']) ++
        (below indent (ls.map tightenLine) ++ ['\n']) := by
  have hn := not_mem_plainArguments hp
  have ht := tightenCommas_below hi (fun l hl => (hs l hl).1) []
  have hst : ∀ l ∈ ls.map tightenLine, Solid l := by
    intro l hl
    obtain ⟨m, hm, rfl⟩ := List.mem_map.1 hl
    exact solid_tightenLine (hs m hm)
  have hb := closeBlankLines_below hi hst ['\n']
  have hf : ∀ u, tightenCommas ('\n' :: u) = '\n' :: tightenCommas u :=
    fun u => tightenCommas_cons (by simp)
  obtain ⟨l, ls, rfl⟩ := List.exists_cons_of_ne_nil hne
  obtain ⟨t, he⟩ : ∃ t, below indent (l :: ls) ++ ['\n'] = '\n' :: t :=
    ⟨_, by rw [below_cons]; rfl⟩
  unfold argumentList
  by_cases hparts : parts = []
  · subst hparts
    rw [List.nil_append, List.intercalate_singleton, ht]
    simpa [plainArguments, tightenCommas, closeBlankLines, joinLine] using hb
  · have hc : '\n' ∉ plainArguments parts ++ [','] := by simp [hn]
    rw [intercalate_append_singleton _ _ hparts, ← plainArguments, he, tightenCommas_line
      (by simp [hn]), tightenLine_separator, ← hf, ← he, ht, closeBlankLines_append hc]
    simp only [tightenCommas]
    rw [hb]
    simp [hparts, closeBlankLines, joinLine]

theorem separated_ne_nil {bs : List Block} (h : bs ≠ []) : separated bs ≠ [] := by
  rcases bs with _ | ⟨b, _ | ⟨c, bs⟩⟩
  · exact absurd rfl h
  · simp [separated, Block.lines]
  · rcases b with ⟨f, _ | ⟨l, ls⟩⟩ <;> simp [separated, Block.lines, addComma]

theorem childLines_text (indent : List Char) (bs : List Block) :
    childLines indent (bs.map (Block.text indent)) =
      if bs.isEmpty then [] else below indent (separated bs) ++ ['\n'] := by
  have key : ∀ b bs, '\n' :: indent ++
      ([',', '\n'] ++ indent).intercalate ((b :: bs).map (Block.text indent)) =
        below indent (separated (b :: bs)) := by
    intro b bs
    induction bs generalizing b with
    | nil => simp [separated, Block.below_lines]
    | cons c bs ih =>
      have ih := ih c
      rw [List.map_cons] at ih ⊢
      rw [List.map_cons, List.intercalate_cons_cons, separated, below_append,
        below_addComma _ (by simp [Block.lines]), ← ih, Block.below_lines]
      · simp
      · simp
  cases bs with
  | nil => rfl
  | cons b bs =>
    rw [← key]
    simp [childLines]

/-! ## Comment marks -/

theorem replaceAll_below {indent pre : List Char} {ls : List (List Char)}
    (h : ∀ l ∈ ls, '\n' ∉ l) :
    replaceAll ('\n' :: indent) ('\n' :: indent ++ pre) (below indent ls) =
      below indent (ls.map (pre ++ ·)) := by
  induction ls with
  | nil => rfl
  | cons l ls ih =>
    have hl := h l (List.mem_cons_self ..)
    rw [below_cons, List.append_assoc, ← List.cons_append, replaceAll_pattern,
      replaceAll_append_of_not_mem hl, ih fun m hm => h m (List.mem_cons_of_mem _ hm)]
    simp

/-- The mark gets in front of every line. -/
theorem commentOut_text {indent : List Char} {b : Block} (h : ∀ l ∈ b.lines, '\n' ∉ l) :
    commentOut indent (b.text indent) = b.commentedOut.text indent := by
  have hf := h b.first (by simp [Block.lines])
  have hr : ∀ l ∈ b.rest, '\n' ∉ l := fun l hl => h l (by simp [Block.lines, hl])
  unfold commentOut Block.text Block.commentedOut
  rw [replaceAll_append_of_not_mem hf, replaceAll_below hr]
  simp

/-! ## Solid blocks -/

theorem solid_append_left {l : List Char} (h : Solid l) {m : List Char} (hm : '\n' ∉ m) :
    Solid (l ++ m) := by
  obtain ⟨hn, c, hc, hb⟩ := h
  exact ⟨by simp [hn, hm], c, by simp [hc], hb⟩

theorem solid_append_right {l : List Char} (h : Solid l) {m : List Char} (hm : '\n' ∉ m) :
    Solid (m ++ l) := by
  obtain ⟨hn, c, hc, hb⟩ := h
  exact ⟨by simp [hn, hm], c, by simp [hc], hb⟩

theorem solid_addComma {ls : List (List Char)} (h : ∀ l ∈ ls, Solid l) :
    ∀ l ∈ addComma ls, Solid l := by
  intro l hl
  obtain ⟨m, hm, rfl | rfl⟩ := mem_addComma hl
  · exact h _ hm
  · exact solid_append_left (h m hm) (by decide)

theorem solid_inward {ls : List (List Char)} (h : ∀ l ∈ ls, Solid l) :
    ∀ l ∈ inward ls, Solid l := by
  intro l hl
  obtain ⟨m, hm, rfl⟩ := List.mem_map.1 hl
  exact solid_append_right (h m hm) (by decide)

theorem solid_separated {bs : List Block} (h : ∀ b ∈ bs, b.Solid) :
    ∀ l ∈ separated bs, Solid l := by
  induction bs with
  | nil => simp [separated]
  | cons b bs ih =>
    have hb := h b (List.mem_cons_self ..)
    cases bs with
    | nil => exact hb
    | cons c bs =>
      intro l hl
      rw [separated, List.mem_append] at hl
      · exact hl.elim (solid_addComma hb l) (ih (fun d hd => h d (List.mem_cons_of_mem _ hd)) l)
      · simp

theorem solid_tightened {ls : List (List Char)} (h : ∀ l ∈ ls, Solid l) :
    ∀ l ∈ ls.map tightenLine, Solid l := by
  intro l hl
  obtain ⟨m, hm, rfl⟩ := List.mem_map.1 hl
  exact solid_tightenLine (h m hm)

theorem solid_chainLines {bs : List Block} (h : ∀ b ∈ bs, b.Solid) :
    ∀ l ∈ chainLines bs, Solid l := by
  intro l hl
  obtain ⟨b, hb, hl⟩ := List.mem_flatMap.1 hl
  exact solid_inward (h b hb) l hl

theorem solid_closingLines {bs : List Block} (h : ∀ b ∈ bs, b.Solid) :
    ∀ l ∈ closingLines bs, Solid l := by
  intro l hl
  have hp : Solid [')'] := ⟨by decide, ')', by simp, by decide⟩
  cases bs with
  | nil => rw [closingLines, List.mem_singleton] at hl; exact hl ▸ hp
  | cons b bs =>
    have hb := h b (List.mem_cons_self ..)
    simp only [closingLines, List.cons_append, List.mem_cons, List.mem_append] at hl
    rcases hl with rfl | hl | hl
    · exact solid_append_left hp (hb b.first (by simp [Block.lines])).1
    · exact solid_inward (fun m hm => hb m (by simp [Block.lines, hm])) l hl
    · exact solid_chainLines (fun c hc => h c (List.mem_cons_of_mem _ hc)) l hl

theorem solid_commentedOut {b : Block} (h : b.Solid) : b.commentedOut.Solid := by
  intro l hl
  simp only [Block.lines, Block.commentedOut, List.mem_cons, List.mem_map] at hl
  rcases hl with rfl | ⟨m, hm, rfl⟩
  · exact solid_append_right (h _ (by simp [Block.lines])) (by decide)
  · exact solid_append_right (h m (by simp [Block.lines, hm])) (by decide)

theorem solid_dotted {b : Block} (h : b.Solid) (dot : Bool) : (b.dotted dot).Solid := by
  intro l hl
  rw [Block.lines, Block.dotted, List.mem_cons] at hl
  rcases hl with rfl | hl
  · exact solid_append_right (h _ (by simp [Block.lines])) (by cases dot <;> decide)
  · exact h l (by simp [Block.lines, hl])

theorem solid_commentText {text : String} (h : '\n' ∉ text.toList) : Solid (commentText text) :=
  ⟨by simp [commentText, h], '/', by simp [commentText], by decide⟩

theorem solid_callBody {name : Option String} (hn : '\n' ∉ nameText name)
    {parts : List (List Char)} (hp : ∀ p ∈ parts, '\n' ∉ p) {children chain : List Block}
    (hk : ∀ b ∈ children, b.Solid) (hc : ∀ b ∈ chain, b.Solid) :
    (callBody name parts children chain).Solid := by
  have ho : Solid (nameText name ++ '(' :: plainArguments parts) :=
    ⟨by simp [hn, not_mem_plainArguments hp], '(', by simp, by decide⟩
  intro l hl
  unfold callBody at hl
  by_cases he : children.isEmpty
  · simp only [he, if_true, Block.lines, List.mem_cons] at hl
    rcases hl with rfl | hl
    · exact solid_append_left ho (by decide)
    · exact solid_chainLines hc l hl
  · simp only [he, if_false, Block.lines, List.mem_cons, List.mem_append, Bool.false_eq_true] at hl
    rcases hl with rfl | hl | hl
    · exact solid_append_left ho (by split <;> decide)
    · exact solid_inward (solid_tightened (solid_separated hk)) l hl
    · exact solid_closingLines hc l hl

theorem solid_withHeading {heading : Option String}
    (hh : ∀ text ∈ heading, '\n' ∉ text.toList) {b : Block} (h : b.Solid) :
    (withHeading heading b).Solid := by
  cases heading with
  | none => exact h
  | some text =>
    intro l hl
    rw [withHeading, Block.lines, List.mem_cons] at hl
    exact hl.elim (fun e => e ▸ solid_commentText (hh text rfl)) (h l)

theorem solid_callBlock {head : Head} (hn : '\n' ∉ nameText head.name)
    (hh : ∀ text ∈ head.heading, '\n' ∉ text.toList) {parts : List (List Char)}
    (hp : ∀ p ∈ parts, '\n' ∉ p) {children chain : List Block} (hk : ∀ b ∈ children, b.Solid)
    (hc : ∀ b ∈ chain, b.Solid) : (callBlock head parts children chain).Solid := by
  have hw := solid_withHeading hh (solid_callBody hn hp hk hc)
  unfold callBlock
  by_cases hm : head.commented = true
  · simpa [hm] using solid_commentedOut hw
  · simpa [hm] using hw

theorem solid_childrenBlock? {children : List Block} (hk : ∀ b ∈ children, b.Solid) {b : Block}
    (h : childrenBlock? children = some b) : b.Solid := by
  unfold childrenBlock? at h
  split at h
  · cases h
  · cases h
    intro l hl
    simp only [Block.lines, List.mem_cons, List.mem_append, List.not_mem_nil, or_false] at hl
    rcases hl with rfl | hl | rfl
    · exact ⟨by decide, 'c', by decide, by decide⟩
    · exact solid_inward (solid_tightened (solid_separated hk)) l hl
    · exact ⟨by decide, ')', by decide, by decide⟩

end PlanCode.Layout
