import PlanCode.Proofs.Text.Literals
import PlanCode.Proofs.Text.Replace
import PlanCode.Proofs.Text.Units
import PlanCode.Text.Hex

/-!
# What Java takes from a string literal

Java reads source code twice. First it translates Unicode escapes, wherever they stand: a backslash
starts one when an even number of backslashes stands directly in front of it and a `u` behind it.
Then it finds the literals, which have escapes of their own. What is read the second time, and what
the values of literals are made of, are UTF-16 code units.

The backslashes of an encoded text come in escapes of two characters. So whatever the text holds, a
backslash with an even number of them in front of it begins such an escape, and no `u` is behind it.

* `replacedInTurn_eq`: five replacements, each made on what the last one left, are one pass.
* `untranslated_encode`: a literal holds no Unicode escape.
* `inside?_escaped`: its body is read as the text, up to the quote behind it.
* `javaLiteral?_ofText`: the literal of a text is one literal, of that text and no other.
-/
namespace PlanCode.Text

/-! ## Unicode escapes -/

mutual

/-- Source code as code units, with its Unicode escapes translated; none where an escape is not
well-formed. The flag tells whether an even number of backslashes stands directly in front. -/
def translated? : Bool → List Char → Option (List Nat)
  | _, [] => some []
  | true, '\\' :: 'u' :: code => behindMark? code
  | even, c :: code => (translated? (c != '\\' || !even) code).map (unitsOf c ++ ·)

/-- The same behind the first `u` of an escape: more of them, and four hexadecimal digits. -/
def behindMark? : List Char → Option (List Nat)
  | 'u' :: code => behindMark? code
  | a :: b :: c :: d :: code =>
    match readHex? [a, b, c, d], translated? true code with
    | some unit, some rest => some (unit :: rest)
    | _, _ => none
  | _ => none

end

/-- A piece of code in which nothing is translated, and behind which a backslash may start an escape
as it may in front. -/
def Untranslated (piece : List Char) : Prop :=
  ∀ code, translated? true (piece ++ code) = (translated? true code).map (units piece ++ ·)

theorem Untranslated.append {piece more : List Char} (h : Untranslated piece)
    (h' : Untranslated more) : Untranslated (piece ++ more) := by
  intro code
  rw [List.append_assoc, h, h', Option.map_map, units_append]
  congr 1
  funext rest
  exact (List.append_assoc ..).symm

theorem Untranslated.flatMap {f : Char → List Char} (h : ∀ c, Untranslated (f c)) (s : List Char) :
    Untranslated (s.flatMap f) := by
  induction s with
  | nil => exact fun code => by simp [units]
  | cons c s ih =>
    rw [List.flatMap_cons]
    exact (h c).append ih

theorem Untranslated.translated?_eq {piece : List Char} (h : Untranslated piece) :
    translated? true piece = some (units piece) := by
  have hnil := h []
  rwa [List.append_nil, translated?, Option.map_some, List.append_nil] at hnil

/-- A character that starts no escape passes, and is counted if it is a backslash. -/
theorem translated?_cons {even : Bool} {c : Char} {code : List Char}
    (h : even = true → c = '\\' → code.head? ≠ some 'u') :
    translated? even (c :: code) =
      (translated? (c != '\\' || !even) code).map (unitsOf c ++ ·) := by
  rw [translated?]
  rintro rest he hc rfl
  exact h he hc rfl

theorem untranslated_singleton {c : Char} (hc : c ≠ '\\') : Untranslated [c] := by
  intro code
  have hn : (c != '\\' || !true) = true := by simpa using hc
  rw [List.singleton_append, translated?_cons (fun _ h => absurd h hc), hn]
  simp [units]

/-- The backslash of an escape is even, so the character behind it is not: it starts nothing, not
even when it is a backslash. -/
theorem untranslated_escape {d : Char} (hd : d ≠ 'u') : Untranslated ['\\', d] := by
  intro code
  show translated? true ('\\' :: d :: code) = _
  rw [translated?_cons (fun _ _ => by simpa using hd), translated?_cons (by simp)]
  simp [units, Function.comp_def]

namespace StringLiteral

/-! ## Replacing in turn -/

/-- What cannot stand in a literal, with the character that follows the backslash in its place. The
backslash is the first, or it would be replaced in the escapes of the others. -/
def replacements : List (Char × Char) :=
  [('\\', '\\'), ('"', '"'), ('\n', 'n'), ('\r', 'r'), ('\t', 't')]

/-- A text with all occurrences of a character replaced by its escape. -/
def replaceOne (s : List Char) (r : Char × Char) : List Char := replaceAll [r.1] ['\\', r.2] s

/-- A text after all replacements, each of which is made on what the last one has left. -/
def replacedInTurn (s : List Char) : List Char := replacements.foldl replaceOne s

/-- Replacements of characters do not look at the neighbours. -/
theorem foldl_replaceOne (rs : List (Char × Char)) (s : List Char) :
    rs.foldl replaceOne s = s.flatMap fun c => rs.foldl replaceOne [c] := by
  induction rs generalizing s with
  | nil => simp
  | cons r rs ih =>
    have hone : ∀ s, replaceOne s r = s.flatMap fun d => if d = r.1 then ['\\', r.2] else [d] :=
      replaceAll_singleton r.1 ['\\', r.2]
    calc (r :: rs).foldl replaceOne s
        = (replaceOne s r).flatMap fun c => rs.foldl replaceOne [c] := ih _
      _ = s.flatMap fun d => (replaceOne [d] r).flatMap fun c => rs.foldl replaceOne [c] := by
          simp only [hone, List.flatMap_assoc, List.flatMap_singleton]
      _ = s.flatMap fun d => (r :: rs).foldl replaceOne [d] := by
          congr 1
          funext d
          exact (ih _).symm

theorem replacedInTurn_singleton (c : Char) : replacedInTurn [c] = escapedChar c := by
  by_cases h : c ∈ ['\\', '"', '\n', '\r', '\t']
  · simp only [List.mem_cons, List.not_mem_nil, or_false] at h
    rcases h with rfl | rfl | rfl | rfl | rfl <;> decide
  · simp only [List.mem_cons, List.not_mem_nil, or_false, not_or] at h
    obtain ⟨hb, hq, hn, hr, ht⟩ := h
    simp [replacedInTurn, replacements, replaceOne, replaceAll_singleton, escapedChar, hb, hq, hn,
      hr, ht]

/-- **One pass.** The replacements made in turn escape every character by itself. -/
theorem replacedInTurn_eq (s : List Char) : replacedInTurn s = escaped s := by
  rw [replacedInTurn, foldl_replaceOne, escaped]
  congr 1
  funext c
  exact replacedInTurn_singleton c

/-! ## Literals in code units -/

/-- The unit that an escape of a literal stands for; a surrogate is no escape. -/
def escapeUnit? (u : Nat) : Option Nat := (escapeValue? (Char.ofNat u)).map Char.toNat

mutual

/-- The value of a literal whose opening quote is read, and what is behind its closing quote. A line
cannot end in it. -/
def inside? : List Nat → Option (List Nat × List Nat)
  | [] => none
  | u :: rest =>
    if u = '"'.toNat then some ([], rest)
    else if u = '\\'.toNat then behindBackslash? rest
    else if u = '\n'.toNat ∨ u = '\r'.toNat then none
    else (inside? rest).map fun (value, behind) => (u :: value, behind)

def behindBackslash? : List Nat → Option (List Nat × List Nat)
  | [] => none
  | e :: rest =>
    match escapeUnit? e, inside? rest with
    | some u, some (value, behind) => some (u :: value, behind)
    | _, _ => none

end

/-- The value of a literal at the start, and what is behind it. Three quotes open no literal but a
text block. -/
def atStart? : List Nat → Option (List Nat × List Nat)
  | [] => none
  | u :: rest =>
    if u = '"'.toNat ∧ rest.take 2 ≠ ['"'.toNat, '"'.toNat] then inside? rest else none

/-- What Java reads at the start of some code: the value of a string literal, and the code behind
it. -/
def javaLiteral? (code : List Char) : Option (List Nat × List Nat) :=
  (translated? true code).bind atStart?

/-- Units that stand for themselves in a literal. -/
def Bare (us : List Nat) : Prop :=
  ∀ u ∈ us, u ≠ '"'.toNat ∧ u ≠ '\\'.toNat ∧ u ≠ '\n'.toNat ∧ u ≠ '\r'.toNat

theorem inside?_bare {us : List Nat} (h : Bare us) (rest : List Nat) :
    inside? (us ++ rest) = (inside? rest).map fun (value, behind) => (us ++ value, behind) := by
  induction us with
  | nil => simp
  | cons u us ih =>
    obtain ⟨⟨hq, hb, hn, hr⟩, hus⟩ := List.forall_mem_cons.1 h
    rw [List.cons_append, inside?, if_neg hq, if_neg hb, if_neg (not_or.2 ⟨hn, hr⟩), ih hus,
      Option.map_map]
    rfl

/-- The surrogates of a character are no signs of ASCII, so it is enough to look at the character. -/
theorem bare_unitsOf {c : Char} (hq : c ≠ '"') (hb : c ≠ '\\') (hn : c ≠ '\n') (hr : c ≠ '\r') :
    Bare (unitsOf c) := by
  intro u hu
  rcases unitsOf_cases c with ⟨hc, -⟩ | ⟨high, low, hc, -, -, -⟩
  · rw [hc, List.mem_singleton] at hu
    subst hu
    simpa only [ne_eq, Char.toNat_inj] using ⟨hq, hb, hn, hr⟩
  · rw [hc] at hu
    simp only [List.mem_cons, List.not_mem_nil, or_false] at hu
    simp only [Char.reduceToNat]
    omega

/-- The characters of escapes are of ASCII, and so are those that they stand for. -/
theorem lt_of_escapeValue? {d c : Char} (h : escapeValue? d = some c) :
    d.toNat < 0x80 ∧ c.toNat < 0x80 := by
  unfold escapeValue? at h
  split at h
  · rename_i hd
    simp only [Bool.or_eq_true, decide_eq_true_eq] at hd
    obtain rfl := Option.some.inj h
    rcases hd with rfl | rfl <;> decide
  split at h
  · rename_i hd; subst hd; obtain rfl := Option.some.inj h; decide
  split at h
  · rename_i hd; subst hd; obtain rfl := Option.some.inj h; decide
  split at h
  · rename_i hd; subst hd; obtain rfl := Option.some.inj h; decide
  · cases h

theorem inside?_escape {d c : Char} (h : escapeValue? d = some c) (rest : List Nat) :
    inside? (units ['\\', d] ++ rest) =
      (inside? rest).map fun (value, behind) => (unitsOf c ++ value, behind) := by
  obtain ⟨hd, hc⟩ := lt_of_escapeValue? h
  have hu : units ['\\', d] = ['\\'.toNat, d.toNat] := by
    rw [units_cons, units_cons, unitsOf_of_lt (c := d) (by omega)]
    rfl
  have hv : escapeUnit? d.toNat = some c.toNat := by rw [escapeUnit?, Char.ofNat_toNat, h]; rfl
  rw [hu, unitsOf_of_lt (c := c) (by omega), List.cons_append, inside?, if_neg (by decide),
    if_pos rfl, List.singleton_append, behindBackslash?, hv]
  cases inside? rest <;> rfl

/-! ## Encoded texts -/

theorem untranslated_escapedChar (c : Char) : Untranslated (escapedChar c) := by
  rcases escapedChar_cases c with ⟨he, -, hb⟩ | ⟨d, he, hv⟩
  · rw [he]
    exact untranslated_singleton hb
  · rw [he]
    refine untranslated_escape ?_
    rintro rfl
    simp [escapeValue?] at hv

theorem untranslated_encode (s : List Char) : Untranslated (encode s) := by
  have hq : Untranslated ['"'] := untranslated_singleton (by decide)
  exact (hq.append (.flatMap untranslated_escapedChar s)).append hq

theorem inside?_escapedChar (c : Char) (rest : List Nat) :
    inside? (units (escapedChar c) ++ rest) =
      (inside? rest).map fun (value, behind) => (unitsOf c ++ value, behind) := by
  rcases escapedChar_cases c with ⟨he, hq, hb⟩ | ⟨d, he, hv⟩
  · have hm : c ∈ escaped [c] := by simp [escaped, he]
    obtain ⟨hn, hr⟩ := mem_escaped_ne hm
    have hu : units [c] = unitsOf c := List.append_nil _
    rw [he, hu]
    exact inside?_bare (bare_unitsOf hq hb hn hr) rest
  · rw [he]
    exact inside?_escape hv rest

/-- **Bodies.** Behind its opening quote, the literal of a text is read as the text, up to the quote
that closes it and no further. -/
theorem inside?_escaped (s : List Char) (behind : List Nat) :
    inside? (units (escaped s) ++ '"'.toNat :: behind) = some (units s, behind) := by
  induction s with
  | nil => rfl
  | cons c s ih =>
    rw [escaped_cons, units_append, List.append_assoc, inside?_escapedChar, ih]
    rfl

/-- What is read to its end does not start with the two quotes of a text block, which would have
closed it at once. -/
theorem atStart?_quote {rest value : List Nat} (h : inside? rest = some (value, [])) :
    atStart? ('"'.toNat :: rest) = some (value, []) := by
  rw [atStart?, if_pos, h]
  refine ⟨rfl, fun hb => ?_⟩
  rcases rest with _ | ⟨u, _ | ⟨v, rest⟩⟩
  · cases hb
  · cases hb
  · obtain ⟨rfl, rfl⟩ : u = '"'.toNat ∧ v = '"'.toNat := by simpa using hb
    cases h

theorem javaLiteral?_encode (s : List Char) : javaLiteral? (encode s) = some (units s, []) := by
  have hu : units (encode s) = '"'.toNat :: (units (escaped s) ++ ['"'.toNat]) := by
    rw [encode, List.cons_append, units_cons, units_append]
    rfl
  rw [javaLiteral?, (untranslated_encode s).translated?_eq, Option.bind_some, hu]
  exact atStart?_quote (inside?_escaped s [])

/-- **Literals.** The five replacements, made in turn between two quotes, make a text into source
code in which Java reads one string literal and nothing behind it. The value of the literal is the
text, so different texts have different literals. -/
theorem javaLiteral?_ofText :
    (∀ s : String, (ofText s).toList = '"' :: replacedInTurn s.toList ++ ['"'] ∧
      javaLiteral? (ofText s).toList = some (units s.toList, [])) ∧
    Function.Injective ofText := by
  have reads (s : String) : javaLiteral? (ofText s).toList = some (units s.toList, []) := by
    rw [toList_ofText]
    exact javaLiteral?_encode s.toList
  refine ⟨fun s => ⟨?_, reads s⟩, fun s t h => ?_⟩
  · rw [replacedInTurn_eq, toList_ofText, encode]
  · have hvalue : some (units s.toList, ([] : List Nat)) = some (units t.toList, []) := by
      rw [← reads s, ← reads t, h]
    have hunits : units s.toList = units t.toList := congrArg Prod.fst (Option.some.inj hvalue)
    exact String.toList_inj.1 (units_injective hunits)

/-- A text that looks like a Unicode escape is read as itself. With one backslash less it is one. -/
example : javaLiteral? (ofText "C:\\u0041").toList = some (units "C:\\u0041".toList, []) ∧
    javaLiteral? "\"C:\\u0041\"".toList = some (units "C:A".toList, []) := by
  decide +kernel

end StringLiteral
end PlanCode.Text
