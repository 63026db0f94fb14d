import Mathlib.Data.List.Chain
import PlanCode.Profile.Schedule
import PlanCode.Proofs.Expression.Operand

/-!
# Sums as one call

Where one of two lengths of time is an expression, their sum is a call of a JMeter
function whose only argument is Groovy code. JMeter reads the whole text before
Groovy does: it would expand a `${` inside the argument, and split the argument at
a comma that no backslash takes back. A backslash takes back the one behind it, so
what counts is whether the backslashes before a comma are odd in number.

Groovy's own escapes double every backslash, hence leave an even number before
each comma, and the escape of the comma adds one.

* `closed_groovyInt`, `commasBehind_groovyInt`: the code of an operand.
* `isOneCall_add?`: the sum is a single call with a single argument.
-/
namespace PlanCode.Expression

open PlanCode.Text

/-! ## Nothing to expand -/

/-- No dollar sign stands right before a brace. -/
def Closed (s : List Char) : Prop := s.IsChain fun a b => ¬ (a = '$' ∧ b = '\x7b')

theorem closed_iff {s : List Char} : Closed s ↔ ¬ ['$', '\x7b'] <:+: s := by
  rw [Closed, List.isChain_iff_forall_rel_of_append_cons_cons]
  constructor
  · rintro h ⟨before, after, rfl⟩
    exact h (List.append_assoc ..) ⟨rfl, rfl⟩
  · rintro h _ _ before after rfl ⟨rfl, rfl⟩
    exact h ⟨before, after, List.append_assoc ..⟩

theorem Closed.append_ne {s t : List Char} (hs : Closed s) (ht : Closed t)
    (h : ∀ c ∈ s.getLast?, c ≠ '$') : Closed (s ++ t) :=
  List.isChain_append.2 ⟨hs, ht, fun c hc _ _ hd => h c hc hd.1⟩

theorem Closed.cons_ne {c : Char} (hc : c ≠ '$') {s : List Char} (h : Closed s) :
    Closed (c :: s) :=
  List.isChain_cons.2 ⟨fun _ _ hd => hc hd.1, h⟩

theorem closed_of_not_mem {s : List Char} (h : '$' ∉ s) : Closed s := by
  rw [closed_iff]
  intro hi
  exact h (hi.subset (by simp))

theorem closed_append_of_not_mem {s t : List Char} (hs : '$' ∉ s) (ht : Closed t) :
    Closed (s ++ t) := by
  refine (closed_of_not_mem hs).append_ne ht ?_
  rintro c hc rfl
  exact hs (List.mem_of_getLast? hc)

theorem head?_veil {n : Nat} (hn : 0 < n) {s : List Char} (h : (veil n s).head? = some '\x7b') :
    s.head? = some '\x7b' := by
  fun_cases veil n s with
  | case1 rest =>
    obtain ⟨m, rfl⟩ : ∃ m, n = m + 1 := ⟨n - 1, by omega⟩
    simp [veil, signs_succ] at h
  | case2 c rest hno =>
    rw [veil] at h
    · exact h
    · exact hno
  | case3 => exact h

/-- Nothing is left to expand under a mask. -/
theorem closed_veil {n : Nat} (hn : 0 < n) (s : List Char) : Closed (veil n s) := by
  fun_induction veil n s with
  | case1 rest ih =>
    apply closed_append_of_not_mem
    · simp [signs]
    · exact ih.cons_ne (by decide)
  | case2 c rest hno ih =>
    refine List.isChain_cons.2 ⟨?_, ih⟩
    rintro _ hb ⟨rfl, rfl⟩
    have hr := head?_veil hn hb
    cases rest with
    | nil => simp at hr
    | cons d rest =>
      obtain rfl : d = '\x7b' := by simpa using hr
      exact hno rest rfl rfl
  | case3 => exact List.isChain_nil

/-- Backslashes open nothing, whichever characters they are put before. -/
theorem closed_escaped (p : Char → Bool) {s : List Char} (h : Closed s) :
    Closed (s.flatMap fun c => if p c then ['\\', c] else [c]) := by
  induction s with
  | nil => exact h
  | cons c s ih =>
    obtain ⟨hn, hs⟩ := List.isChain_cons.1 h
    have hc : Closed (c :: s.flatMap fun c => if p c then ['\\', c] else [c]) := by
      refine List.isChain_cons.2 ⟨?_, ih hs⟩
      cases s with
      | nil => simp
      | cons d s =>
        rw [List.flatMap_cons]
        by_cases hd : p d
        · simp [hd]
        · simpa [hd] using hn
    rw [List.flatMap_cons]
    by_cases hp : p c
    · rw [if_pos hp]
      exact hc.cons_ne (by decide)
    · rw [if_neg hp]
      exact hc

theorem closed_escapeCommas {s : List Char} (h : Closed s) : Closed (escapeCommas s) := by
  have he : escapeCommas s = s.flatMap fun c => if c == ',' then ['\\', c] else [c] := by
    unfold escapeCommas
    congr
    funext c
    by_cases hc : c = ',' <;> simp [hc]
  rw [he]
  exact closed_escaped (· == ',') h

theorem closed_quoted {text t : List Char} (h : Closed text) (ht : Closed t) :
    Closed (quoted text ++ t) := by
  have hq : Closed ('\'' :: t) := ht.cons_ne (by decide)
  rw [quoted, List.append_assoc, List.cons_append]
  refine Closed.cons_ne (by decide) ?_
  exact List.isChain_append.2 ⟨closed_escaped _ h, hq, by simp⟩

theorem closed_groovyInt (s : List Char) {t : List Char} (ht : Closed t) :
    Closed (groovyInt s ++ t) := by
  have hmask : Closed (mask s) := closed_of_not_mem (by simp [mask])
  have htext : Closed (masked s) := by
    rw [masked_eq]
    exact closed_veil (Nat.succ_pos _) s
  simp only [groovyInt_eq, operand, List.append_assoc]
  apply closed_append_of_not_mem (by decide)
  apply closed_quoted htext
  apply closed_append_of_not_mem (by decide)
  apply closed_quoted hmask
  apply closed_append_of_not_mem (by decide)
  apply closed_quoted (List.isChain_singleton _)
  exact closed_append_of_not_mem (by decide) ht

/-! ## Nothing to split -/

/-- How many backslashes a text ends in. -/
def slashesAtEnd (s : List Char) : Nat := (s.reverse.takeWhile (· = '\\')).length

/-- The number of backslashes right before each comma is of a kind; `run` of them stand before the
text. -/
def CommasBehind (p : Nat → Prop) (run : Nat) : List Char → Prop
  | [] => True
  | c :: rest =>
    if c = '\\' then CommasBehind p (run + 1) rest
    else (c = ',' → p run) ∧ CommasBehind p 0 rest

theorem slashesAtEnd_cons {c : Char} (hc : c ≠ '\\') (before s : List Char) :
    slashesAtEnd (before ++ c :: s) = slashesAtEnd s := by
  have hs : (before ++ c :: s).reverse = s.reverse ++ c :: before.reverse := by simp
  rw [slashesAtEnd, slashesAtEnd, hs, List.takeWhile_append,
    List.takeWhile_cons_of_neg (by simp [hc]), List.append_nil]
  split
  · rename_i he
    exact he.symm
  · rfl

/-- What is said of all commas holds of each. -/
theorem CommasBehind.of_comma {p : Nat → Prop} {run : Nat} {s : List Char}
    (h : CommasBehind p run s) {before after : List Char} (he : s = before ++ ',' :: after) :
    p (slashesAtEnd (List.replicate run '\\' ++ before)) := by
  subst he
  induction before generalizing run with
  | nil =>
    have hp : p run := h.1 rfl
    simpa [slashesAtEnd] using hp
  | cons c before ih =>
    rw [List.cons_append, CommasBehind] at h
    by_cases hc : c = '\\'
    · subst hc
      rw [if_pos rfl] at h
      have hp := ih h
      rw [List.replicate_succ', List.append_assoc] at hp
      exact hp
    · rw [if_neg hc] at h
      rw [slashesAtEnd_cons hc]
      exact ih h.2

section

variable {p : Nat → Prop} {t : List Char}

/-- Without commas of its own, a text leaves what is behind it to itself. -/
theorem commasBehind_append {s : List Char} (hne : s ≠ []) (hc : ',' ∉ s) (hb : '\\' ∉ s)
    (ht : CommasBehind p 0 t) (run : Nat) : CommasBehind p run (s ++ t) := by
  induction s generalizing run with
  | nil => exact absurd rfl hne
  | cons c s ih =>
    rw [List.mem_cons, not_or] at hc hb
    rw [List.cons_append, CommasBehind, if_neg (Ne.symm hb.1)]
    refine ⟨fun he => absurd he.symm hc.1, ?_⟩
    cases s with
    | nil => exact ht
    | cons d s => exact ih (by simp) hc.2 hb.2 0

end

/-- Escaped, every comma gets one more backslash than it had. -/
theorem commasBehind_escapeCommas {s t : List Char} {run : Nat}
    (h : CommasBehind (· % 2 = 0) run s) (ht : ∀ run, CommasBehind (· % 2 = 1) run t) :
    CommasBehind (· % 2 = 1) run (escapeCommas s ++ t) := by
  induction s generalizing run with
  | nil => exact ht run
  | cons c s ih =>
    rw [escapeCommas, List.flatMap_cons, List.append_assoc, ← escapeCommas]
    rw [CommasBehind] at h
    by_cases hb : c = '\\'
    · subst hb
      exact ih h
    rw [if_neg hb] at h
    by_cases hc : c = ','
    · subst hc
      have hr : run % 2 = 0 := h.1 rfl
      refine ⟨fun _ => ?_, ih h.2⟩
      show (run + 1) % 2 = 1
      omega
    · rw [if_neg hc, List.singleton_append, CommasBehind, if_neg hb]
      exact ⟨fun he => absurd he hc, ih h.2⟩

/-- In a literal, backslashes come in pairs, but for those before quotes. -/
theorem commasBehind_groovyEscaped (s : List Char) {t : List Char}
    (ht : ∀ run, run % 2 = 0 → CommasBehind (· % 2 = 0) run t) {run : Nat} (hr : run % 2 = 0) :
    CommasBehind (· % 2 = 0) run (groovyEscaped s ++ t) := by
  induction s generalizing run with
  | nil => exact ht run hr
  | cons c s ih =>
    rw [groovyEscaped, List.flatMap_cons, List.append_assoc, ← groovyEscaped]
    by_cases hb : c = '\\'
    · subst hb
      have hr' : (run + 1 + 1) % 2 = 0 := by omega
      exact ih hr'
    by_cases hq : c = '\''
    · subst hq
      exact ⟨by simp, ih rfl⟩
    · simp only [hb, hq, decide_false, Bool.or_self, Bool.false_eq_true, if_false,
        List.singleton_append]
      rw [CommasBehind, if_neg hb]
      exact ⟨fun _ => hr, ih rfl⟩

theorem commasBehind_quoted (text : List Char) {t : List Char}
    (ht : CommasBehind (· % 2 = 0) 0 t) (run : Nat) :
    CommasBehind (· % 2 = 0) run (quoted text ++ t) := by
  rw [quoted, List.append_assoc, List.cons_append]
  refine ⟨by simp, commasBehind_groovyEscaped text ?_ rfl⟩
  intro run _
  exact ⟨by simp, ht⟩

theorem commasBehind_groovyInt (s : List Char) {t : List Char}
    (ht : CommasBehind (· % 2 = 0) 0 t) :
    CommasBehind (· % 2 = 0) 0 (groovyInt s ++ t) := by
  simp only [groovyInt_eq, operand, List.append_assoc]
  apply commasBehind_append (by decide) (by decide) (by decide)
  apply commasBehind_quoted
  apply commasBehind_append (by decide) (by decide) (by decide)
  apply commasBehind_quoted
  refine ⟨fun _ => rfl, ?_⟩
  apply commasBehind_quoted
  exact commasBehind_append (by decide) (by decide) (by decide) ht 0

/-! ## One call -/

/-- A call of the function for Groovy code that JMeter reads as one, with one argument. -/
structure IsOneCall (text : List Char) : Prop where
  framed : ∃ argument, text = "$\x7b__groovy(".toList ++ argument ++ ")\x7d".toList
  /-- Nothing inside opens a call. -/
  alone : ¬ ['$', '\x7b'] <:+: text.tail
  /-- Every comma is taken back. -/
  whole : ∀ before after, text = before ++ ',' :: after → slashesAtEnd before % 2 = 1

/-- The call of a function with one argument that opens no call, and in which backslashes come in
pairs before commas. -/
theorem isOneCall_callChars {argument : List Char} (hc : Closed argument)
    (hs : CommasBehind (· % 2 = 0) 0 argument) :
    IsOneCall (callChars "__groovy".toList [argument]) := by
  have ht : callChars "__groovy".toList [argument] =
      "$\x7b__groovy(".toList ++ (escapeCommas argument ++ ")\x7d".toList) := by
    simp [callChars]
  have hend : ∀ run, CommasBehind (· % 2 = 1) run ")\x7d".toList := fun run =>
    ⟨nofun, nofun, trivial⟩
  constructor
  case framed => exact ⟨escapeCommas argument, by rw [ht, List.append_assoc]⟩
  case alone =>
    have hclosed : Closed (escapeCommas argument ++ ")\x7d".toList) := by
      refine List.isChain_append.2 ⟨closed_escapeCommas hc, closed_of_not_mem (by decide), ?_⟩
      simp
    rw [← closed_iff, ht]
    exact closed_append_of_not_mem (s := "\x7b__groovy(".toList) (by decide) hclosed
  case whole =>
    intro before after he
    have hcommas : CommasBehind (· % 2 = 1) 0 (callChars "__groovy".toList [argument]) := by
      rw [ht]
      apply commasBehind_append (by decide) (by decide) (by decide)
      exact commasBehind_escapeCommas hs hend
    exact hcommas.of_comma he

/-- **Sums.** The sum of two lengths of time of which one is an expression: the searches for both
masks end, and the sum is a single call with a single argument. -/
theorem isOneCall_add? {a b : Span} (h : (∃ s, a = .expression s) ∨ ∃ s, b = .expression s) :
    (∀ found, Settles a.text.toList ['#'] found ↔ found = mask a.text.toList) ∧
      (∀ found, Settles b.text.toList ['#'] found ↔ found = mask b.text.toList) ∧
      ∃ text, a.add? b = some (.expression text) ∧ IsOneCall text.toList := by
  refine ⟨fun _ => settles_iff, fun _ => settles_iff, sum a.text b.text, ?_, ?_⟩
  · rcases h with ⟨s, rfl⟩ | ⟨s, rfl⟩
    · rfl
    · cases a <;> rfl
  · rw [sum, String.toList_ofList]
    apply isOneCall_callChars
    · rw [List.append_assoc]
      apply closed_groovyInt
      apply closed_append_of_not_mem (by decide)
      rw [← List.append_nil (groovyInt _)]
      exact closed_groovyInt _ List.isChain_nil
    · rw [List.append_assoc]
      apply commasBehind_groovyInt
      apply commasBehind_append (by decide) (by decide) (by decide)
      rw [← List.append_nil (groovyInt _)]
      exact commasBehind_groovyInt _ trivial

/-- An expression with a sum in it, a comma behind backslashes, a quote, and a number sign before a
brace. -/
def nestedSum : Span := .expression (sum "$\x7bX\x7d" "$\x7b__P(a\\\\,'#\x7b')\x7d")

theorem isOneCall_add?_nestedSum :
    ((∃ s, Span.fixed .second = .expression s) ∨ ∃ s, nestedSum = .expression s) ∧
      (∀ found, Settles (Span.fixed .second).text.toList ['#'] found ↔
        found = mask (Span.fixed .second).text.toList) ∧
      (∀ found, Settles nestedSum.text.toList ['#'] found ↔ found = mask nestedSum.text.toList) ∧
      ∃ text, (Span.fixed .second).add? nestedSum = some (.expression text) ∧
        IsOneCall text.toList :=
  ⟨Or.inr ⟨_, rfl⟩, isOneCall_add? (Or.inr ⟨_, rfl⟩)⟩

end PlanCode.Expression
