import Mathlib.Data.List.Chain
import PlanCode.Proofs.Text.Tokens

/-!
# Parentheses and commas

When parentheses pair up, and when no argument between commas is missing.

* `depthAfter_append`: depths add up along the tokens.
* `filled_append_of_isLast`: behind a token that an argument may end with, the rest is judged by
  itself.
* `operand_call`: a name, a parenthesis and what is in it are an operand, whatever the commas.
-/
namespace PlanCode.Text.Code

/-! ## Parentheses -/

/-- How many parentheses are open after a token, none when it closes one that was not open. -/
def depthNext (depth : Nat) (t : Token) : Option Nat :=
  if t = .sign '(' then some (depth + 1)
  else if t = .sign ')' then (if depth = 0 then none else some (depth - 1))
  else some depth

def depthAfter (depth : Nat) (ts : List Token) : Option Nat := ts.foldlM depthNext depth

/-- Every parenthesis that opens closes, and none closes before it opened. -/
def Balanced (ts : List Token) : Prop := depthAfter 0 ts = some 0

instance (ts : List Token) : Decidable (Balanced ts) := inferInstanceAs (Decidable (_ = _))

/-- At any depth the tokens leave as many parentheses open as were open before. -/
def Neutral (ts : List Token) : Prop := ∀ depth, depthAfter depth ts = some depth

theorem depthAfter_append (depth : Nat) (ts us : List Token) :
    depthAfter depth (ts ++ us) = (depthAfter depth ts).bind (depthAfter · us) :=
  List.foldlM_append

theorem depthAfter_singleton (depth : Nat) (t : Token) :
    depthAfter depth [t] = depthNext depth t := by
  simp [depthAfter]

theorem neutral_nil : Neutral [] := fun _ => rfl

theorem Neutral.append {ts us : List Token} (h : Neutral ts) (h' : Neutral us) :
    Neutral (ts ++ us) := by
  intro depth
  rw [depthAfter_append, h, Option.bind_some, h']

theorem Neutral.parenthesized {ts : List Token} (h : Neutral ts) :
    Neutral (.sign '(' :: (ts ++ [.sign ')'])) := by
  intro depth
  rw [← List.singleton_append, depthAfter_append, depthAfter_singleton, depthNext, if_pos rfl,
    Option.bind_some, depthAfter_append, h, Option.bind_some, depthAfter_singleton]
  simp [depthNext]

theorem neutral_singleton {t : Token} (ho : t ≠ .sign '(') (hc : t ≠ .sign ')') :
    Neutral [t] := by
  intro depth
  rw [depthAfter_singleton, depthNext, if_neg ho, if_neg hc]

theorem neutral_of_not_mem {ts : List Token} (ho : .sign '(' ∉ ts) (hc : .sign ')' ∉ ts) :
    Neutral ts := by
  induction ts with
  | nil => exact neutral_nil
  | cons t ts ih =>
    rw [List.mem_cons, not_or] at ho hc
    exact (neutral_singleton (Ne.symm ho.1) (Ne.symm hc.1)).append (ih ho.2 hc.2)

theorem Neutral.balanced {ts : List Token} (h : Neutral ts) : Balanced ts := h 0

/-! ## Commas -/

/-- Two tokens between which an argument is missing: commas in a row, a comma in front of a
closing parenthesis, and one behind an opening parenthesis. -/
def isGap (t u : Token) : Bool :=
  (t == .sign ',' && (u == .sign ',' || u == .sign ')')) || (t == .sign '(' && u == .sign ',')

/-- No argument is missing. -/
def Filled (ts : List Token) : Prop := ts.IsChain fun t u => isGap t u = false

instance (ts : List Token) : Decidable (Filled ts) :=
  inferInstanceAs (Decidable (List.IsChain _ _))

/-- A token that an argument may start with. -/
def isFirst (t : Token) : Bool := t != .sign ',' && t != .sign ')'

/-- A token that an argument may end with. -/
def isLast (t : Token) : Bool := t != .sign ',' && t != .sign '('

theorem isGap_of_isFirst {t u : Token} (h : isFirst u = true) : isGap t u = false := by
  simp only [isFirst, bne_iff_ne, Bool.and_eq_true] at h
  simp [isGap, h.1, h.2]

theorem isGap_of_isLast {t u : Token} (h : isLast t = true) : isGap t u = false := by
  simp only [isLast, bne_iff_ne, Bool.and_eq_true] at h
  simp [isGap, h.1, h.2]

theorem filled_append_of_isLast {ts us : List Token} (h : ∀ t ∈ ts.getLast?, isLast t = true) :
    Filled (ts ++ us) ↔ Filled ts ∧ Filled us := by
  rw [Filled, List.isChain_append]
  exact ⟨fun ⟨ht, hu, _⟩ => ⟨ht, hu⟩,
    fun ⟨ht, hu⟩ => ⟨ht, hu, fun t hm _ _ => isGap_of_isLast (h t hm)⟩⟩

theorem filled_append_of_isFirst {ts us : List Token} (h : ∀ u ∈ us.head?, isFirst u = true) :
    Filled (ts ++ us) ↔ Filled ts ∧ Filled us := by
  rw [Filled, List.isChain_append]
  exact ⟨fun ⟨ht, hu, _⟩ => ⟨ht, hu⟩,
    fun ⟨ht, hu⟩ => ⟨ht, hu, fun _ _ u hm => isGap_of_isFirst (h u hm)⟩⟩

/-! ## Operands -/

/-- Tokens that can stand as an argument, apart from the arguments in them. -/
structure Operand (ts : List Token) : Prop where
  ne_nil : ts ≠ []
  first : ∀ t ∈ ts.head?, isFirst t = true
  last : ∀ t ∈ ts.getLast?, isLast t = true
  neutral : Neutral ts

theorem Operand.append {ts us : List Token} (h : Operand ts) (h' : Operand us) :
    Operand (ts ++ us) where
  ne_nil := List.append_ne_nil_of_left_ne_nil h.ne_nil _
  first t ht := by
    rw [List.head?_append_of_ne_nil _ h.ne_nil] at ht
    exact h.first t ht
  last t ht := by
    rw [List.getLast?_append_of_ne_nil _ h'.ne_nil] at ht
    exact h'.last t ht
  neutral := h.neutral.append h'.neutral

/-- Tokens none of which is a mark. -/
theorem operand_of_plain {ts : List Token} (hne : ts ≠ [])
    (h : ∀ t ∈ ts, t ≠ .sign ',' ∧ t ≠ .sign '(' ∧ t ≠ .sign ')') :
    Operand ts ∧ Filled ts := by
  have hf : ∀ t ∈ ts, isFirst t = true := fun t ht => by simp [isFirst, h t ht]
  have hl : ∀ t ∈ ts, isLast t = true := fun t ht => by simp [isLast, h t ht]
  refine ⟨⟨hne, fun t ht => hf t (List.mem_of_head? ht), fun t ht => hl t (List.mem_of_getLast? ht),
    neutral_of_not_mem (fun hm => (h _ hm).2.1 rfl) fun hm => (h _ hm).2.2 rfl⟩, ?_⟩
  clear hne hf
  induction ts with
  | nil => exact .nil
  | cons t ts ih =>
    have ht := hl t (List.mem_cons_self ..)
    rw [← List.singleton_append, filled_append_of_isLast (by simpa using ht)]
    exact ⟨.singleton t, ih (fun u hu => h u (List.mem_cons_of_mem _ hu))
      fun u hu => hl u (List.mem_cons_of_mem _ hu)⟩

theorem operand_signs {text : List Char} (h : Word text) :
    Operand (signs text) ∧ Filled (signs text) := by
  obtain ⟨hf, c, hc, hb⟩ := h
  refine operand_of_plain ?_ ?_
  · simp only [signs, ne_eq, List.map_eq_nil_iff, List.filter_eq_nil_iff, not_forall]
    exact ⟨c, hc, by simp [hb]⟩
  · intro t ht
    obtain ⟨d, hd, rfl⟩ := List.mem_map.1 ht
    have hm := hf d (List.mem_filter.1 hd).1
    simp only [isMark, Bool.or_eq_false_iff, beq_eq_false_iff_ne] at hm
    obtain ⟨⟨⟨⟨⟨⟨-, ho⟩, hc⟩, hk⟩, -⟩, -⟩, -⟩ := hm
    simp [ho, hc, hk]

/-- Operands with commas between them. -/
theorem operand_separated {parts : List (List Token)} (hne : parts ≠ [])
    (h : ∀ p ∈ parts, Operand p ∧ Filled p) :
    Operand ([Token.sign ','].intercalate parts) ∧
      Filled ([Token.sign ','].intercalate parts) := by
  induction parts with
  | nil => exact absurd rfl hne
  | cons p parts ih =>
    have hp := h p (List.mem_cons_self ..)
    cases parts with
    | nil => simpa using hp
    | cons q parts =>
      obtain ⟨ho, hf⟩ := ih (by simp) fun r hr => h r (List.mem_cons_of_mem _ hr)
      rw [List.intercalate_cons_cons]
      have hn : Neutral [Token.sign ','] := neutral_singleton (by decide) (by decide)
      refine ⟨⟨?_, ?_, ?_, (hp.1.neutral.append hn).append ho.neutral⟩, ?_⟩
      · simp
      · intro t ht
        rw [List.append_assoc, List.head?_append_of_ne_nil _ hp.1.ne_nil] at ht
        exact hp.1.first t ht
      · intro t ht
        rw [List.getLast?_append_of_ne_nil _ ho.ne_nil] at ht
        exact ho.last t ht
      · rw [filled_append_of_isFirst ho.first, filled_append_of_isLast hp.1.last]
        exact ⟨⟨hp.2, .singleton _⟩, hf⟩

/-- A call is an operand, and its arguments are judged within the parentheses. -/
theorem operand_call {name arguments : List Token} (hn : Operand name ∧ Filled name)
    (ha : Neutral arguments) :
    Operand (name ++ .sign '(' :: (arguments ++ [.sign ')'])) ∧
      (Filled (name ++ .sign '(' :: (arguments ++ [.sign ')'])) ↔
        Filled (.sign '(' :: (arguments ++ [.sign ')']))) := by
  refine ⟨⟨by simp, ?_, ?_, hn.1.neutral.append ha.parenthesized⟩, ?_⟩
  · intro t ht
    rw [List.head?_append_of_ne_nil _ hn.1.ne_nil] at ht
    exact hn.1.first t ht
  · intro t ht
    rw [← List.cons_append, ← List.append_assoc, List.getLast?_append] at ht
    obtain rfl : Token.sign ')' = t := by simpa using ht
    decide
  · rw [filled_append_of_isLast hn.1.last]
    exact ⟨fun h => h.2, fun h => ⟨hn.2, h⟩⟩

/-- Operands between parentheses. -/
theorem filled_parenthesized {ts : List Token} (h : Operand ts) :
    Filled (.sign '(' :: (ts ++ [.sign ')'])) ↔ Filled ts := by
  have hf : ∀ u ∈ (ts ++ [Token.sign ')']).head?, isFirst u = true := by
    intro u hu
    rw [List.head?_append_of_ne_nil _ h.ne_nil] at hu
    exact h.first u hu
  rw [← List.singleton_append, filled_append_of_isFirst hf, filled_append_of_isLast h.last]
  exact ⟨fun ⟨_, hf, _⟩ => hf, fun hf => ⟨.singleton _, hf, .singleton _⟩⟩

end PlanCode.Text.Code
