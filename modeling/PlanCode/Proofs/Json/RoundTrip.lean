import Mathlib.Data.List.Forall2
import Mathlib.Data.List.TakeDrop
import PlanCode.Json.Reader
import PlanCode.Json.Writer
import PlanCode.Proofs.Number.Numeral
import PlanCode.Proofs.Text.Units

/-!
# JSON that is read back

Documents that are written are read back as the data that they were made of. Only
data that JSON has a form for is meant: no fractions, and mappings with different
texts as keys. A value is read to its end whatever follows it, as long as that is
a comma or a line break.

* `readString?_escaped`: escaped characters are read as themselves.
* `readItems?_joined`, `readMembers?_joined`: what stands between brackets.
* `read?_write`: whole documents.
-/
namespace PlanCode.Json

/-! ## Strings -/

theorem hexValue?_digitChar {n : Nat} (h : n < 16) : Text.hexValue? (Nat.digitChar n) = some n := by
  revert n
  decide

theorem readUnit?_hexDigits {unit : Nat} (h : unit < 0x10000) (rest : List Char) :
    readUnit? (Text.hexDigits 4 unit ++ rest) = some (unit, rest) := by
  have hl : (Text.hexDigits 4 unit).length = 4 := Text.length_hexDigits 4 unit
  have hv : ∀ n, Text.hexValue? (Nat.digitChar (n % 16)) = some (n % 16) := fun n =>
    hexValue?_digitChar (Nat.mod_lt _ (by decide))
  have hr : Text.readHex? (Text.hexDigits 4 unit) = some unit := by
    simp [Text.readHex?, Text.hexDigits, hv]
    omega
  rw [readUnit?, List.take_left' hl, List.drop_left' hl]
  simp [hl, hr]

/-- A character that is written as it is. -/
theorem readString?_plain {c : Char} (hq : c ≠ '"') (hb : c ≠ '\\') (hc : 0x20 ≤ c.toNat)
    (seen : List Char) (fuel : Nat) (s : List Char) :
    readString? seen (fuel + 1) (c :: s) = readString? (c :: seen) fuel s := by
  have hlt : ¬ c.toNat < 0x20 := by omega
  rw [readString?]
  · rw [if_neg hlt]
  · exact hq
  · exact fun _ h => absurd h hb
  · exact fun _ _ h => absurd h hb

theorem readString?_unit {unit : Nat} (h : unit < 0x10000) (seen : List Char) (fuel : Nat)
    (s : List Char) : readString? seen (fuel + 1) (escapedUnit unit ++ s) =
      readString? ((readEscapedUnit unit s).1 :: seen) fuel (readEscapedUnit unit s).2 := by
  simp [escapedUnit, readString?, readUnit?_hexDigits h]

/-- A character outside of the plane of units is read from its two surrogates. -/
theorem readEscapedUnit_surrogates {n high low : Nat} (hh : 0xD800 ≤ high ∧ high < 0xDC00)
    (hl : 0xDC00 ≤ low ∧ low < 0xE000)
    (hn : 0x10000 + (high - 0xD800) * 0x400 + (low - 0xDC00) = n) (s : List Char) :
    readEscapedUnit high (escapedUnit low ++ s) = (Char.ofNat n, s) := by
  have hu : low < 0x10000 := by omega
  change readEscapedUnit high ('\\' :: 'u' :: (Text.hexDigits 4 low ++ s)) = _
  rw [readEscapedUnit, if_pos (by simpa using hh), readUnit?_hexDigits hu]
  dsimp only
  rw [if_pos (by simpa using hl), hn]

/-- **Characters.** An escaped character is read as itself. -/
theorem readString?_escapedChar (c : Char) (seen : List Char) (fuel : Nat) (s : List Char) :
    readString? seen (fuel + 1) (escapedChar c ++ s) = readString? (c :: seen) fuel s := by
  have hvalid := Text.toNat_lt c
  by_cases hnamed : c ∈ ['"', '\\', '\n', '\r', '\t', '\x08', '\x0c']
  · simp only [List.mem_cons, List.not_mem_nil, or_false] at hnamed
    rcases hnamed with rfl | rfl | rfl | rfl | rfl | rfl | rfl <;> simp [escapedChar, readString?]
  · simp only [List.mem_cons, List.not_mem_nil, or_false, not_or] at hnamed
    obtain ⟨hq, hb, hn, hr, ht, hbs, hff⟩ := hnamed
    simp only [escapedChar, hq, hb, hn, hr, ht, hbs, hff, decide_false, Bool.or_self,
      Bool.false_eq_true, if_false]
    split
    · rename_i h
      simp only [Bool.and_eq_true, decide_eq_true_eq] at h
      exact readString?_plain hq hb h.1 seen fuel s
    split
    · rename_i h
      rw [readString?_unit h]
      have hhigh : ¬(0xD800 ≤ c.toNat ∧ c.toNat < 0xDC00) := by omega
      have hlow : ¬(0xDC00 ≤ c.toNat ∧ c.toNat < 0xE000) := by omega
      simp [readEscapedUnit, hhigh, hlow]
    · rename_i h
      rw [List.append_assoc, readString?_unit (by omega),
        readEscapedUnit_surrogates (n := c.toNat) (by omega) (by omega) (by omega),
        Char.ofNat_toNat]

theorem readString?_escaped {s : List Char} {fuel : Nat} (h : s.length < fuel)
    (seen rest : List Char) :
    readString? seen fuel (s.flatMap escapedChar ++ '"' :: rest) =
      some (String.ofList (seen.reverse ++ s), rest) := by
  induction s generalizing seen fuel with
  | nil =>
    obtain ⟨fuel, rfl⟩ := Nat.exists_eq_succ_of_ne_zero (Nat.ne_of_gt h)
    simp [readString?]
  | cons c s ih =>
    obtain ⟨fuel, rfl⟩ := Nat.exists_eq_succ_of_ne_zero (Nat.ne_of_gt (Nat.zero_lt_of_lt h))
    rw [List.flatMap_cons, List.append_assoc, Nat.succ_eq_add_one, readString?_escapedChar,
      ih (by simpa using h)]
    simp

theorem escapedChar_ne_nil (c : Char) : escapedChar c ≠ [] := by
  unfold escapedChar escapedUnit
  repeat' split
  all_goals simp

theorem length_le_escaped (s : List Char) : s.length ≤ (s.flatMap escapedChar).length := by
  induction s with
  | nil => simp
  | cons c s ih =>
    have hc := List.length_pos_iff.2 (escapedChar_ne_nil c)
    rw [List.flatMap_cons, List.length_append, List.length_cons]
    omega

/-- **Strings.** A written text is read as itself, up to the quote behind it. -/
theorem readString?_stringText (s : String) (rest : List Char) :
    ∃ inside, (stringText s).toList ++ rest = '"' :: inside ∧
      readString? [] (inside.length + 1) inside = some (s, rest) := by
  refine ⟨s.toList.flatMap escapedChar ++ '"' :: rest, by simp [stringText], ?_⟩
  have hl := length_le_escaped s.toList
  rw [readString?_escaped (by rw [List.length_append]; omega)]
  simp

/-! ## Numbers -/

/-- What may stand behind a value. -/
def IsBreak (rest : List Char) : Prop := ∀ c ∈ rest.head?, c = ',' ∨ c = '\n'

theorem isBreak_cases {rest : List Char} (h : IsBreak rest) :
    rest = [] ∨ (∃ s, rest = ',' :: s) ∨ ∃ s, rest = '\n' :: s := by
  cases rest with
  | nil => exact Or.inl rfl
  | cons c s =>
    obtain rfl | rfl := h c rfl
    · exact Or.inr (Or.inl ⟨s, rfl⟩)
    · exact Or.inr (Or.inr ⟨s, rfl⟩)

theorem span_isDigit {ds rest : List Char} (hd : Number.IsDigits ds) (h : IsBreak rest) :
    (ds ++ rest).span Char.isDigit = (ds, rest) := by
  have hr : rest.takeWhile Char.isDigit = [] ∧ rest.dropWhile Char.isDigit = rest := by
    obtain rfl | ⟨s, rfl⟩ | ⟨s, rfl⟩ := isBreak_cases h
    · exact ⟨rfl, rfl⟩
    · exact ⟨rfl, rfl⟩
    · exact ⟨rfl, rfl⟩
  rw [List.span_eq_takeWhile_dropWhile, List.takeWhile_append_of_pos hd,
    List.dropWhile_append_of_pos hd, hr.1, hr.2, List.append_nil]

/-- Digits with nothing but a break behind them are a whole number. -/
theorem readNumber?_digits {ds rest : List Char} (hd : Number.IsDigits ds) (hne : ds ≠ [])
    (h : IsBreak rest) :
    readNumber? (ds ++ rest) = some (.int (toNat ds), rest) ∧
      readNumber? ('-' :: (ds ++ rest)) = some (.int (-toNat ds), rest) := by
  have hempty : ds.isEmpty = false := by simpa using hne
  have hsign : ∀ s, ds ++ rest = '-' :: s → False := by
    cases ds with
    | nil => exact absurd rfl hne
    | cons c ds =>
      rintro s hs
      cases hs
      exact absurd (hd '-' (List.mem_cons_self ..)) (by decide)
  have hspan := span_isDigit hd h
  constructor
  · simp only [readNumber?, hspan, hempty]
    obtain rfl | ⟨s, rfl⟩ | ⟨s, rfl⟩ := isBreak_cases h <;> rfl
  · simp only [readNumber?, hspan, hempty]
    obtain rfl | ⟨s, rfl⟩ | ⟨s, rfl⟩ := isBreak_cases h <;> rfl

theorem toNat_toDigits (n : Nat) : toNat (Nat.toDigits 10 n) = n := by
  have h := Number.digitsToNat_toDigits n
  rwa [Number.digitsToNat, List.foldl_map] at h

/-- A whole number is written as digits, maybe with a minus in front. -/
theorem toString_cases (n : Int) : ∃ ds, Number.IsDigits ds ∧ ds ≠ [] ∧
    ((toString n).toList = ds ∧ n = toNat ds ∨
      (toString n).toList = '-' :: ds ∧ n = -toNat ds) := by
  have hd : ∀ m : Nat, Number.IsDigits (Nat.toDigits 10 m) := fun m =>
    Text.toList_toString_nat m ▸ Number.isDigits_toString m
  cases n with
  | ofNat m =>
    refine ⟨_, hd m, Nat.toDigits_ne_nil, Or.inl ⟨Text.toList_toString_nat m, ?_⟩⟩
    rw [toNat_toDigits]
    rfl
  | negSucc m =>
    refine ⟨_, hd (m + 1), Nat.toDigits_ne_nil, Or.inr ⟨?_, ?_⟩⟩
    · rw [Text.toList_toString_negSucc, Text.toList_toString_nat]
    · rw [toNat_toDigits]
      rfl

/-! ## Values -/

/-- A text starts neither with a blank nor with a closing bracket. -/
def Opens (text : List Char) : Prop :=
  ∃ c s, text = c :: s ∧ c ≠ ' ' ∧ c ≠ '\n' ∧ c ≠ '\t' ∧ c ≠ '\r' ∧ c ≠ ']' ∧ c ≠ '\x7d'

/-- A text that is read as a value, with any break behind it. Fuel twice its length suffices, as
each level of nesting takes two readers and two brackets. -/
structure Spells (text : List Char) (d : Datum) : Prop where
  opens : Opens text
  reads : ∀ fuel rest, 2 * text.length ≤ fuel → IsBreak rest →
    readValue? fuel (text ++ rest) = some (d, rest)

theorem skipBlanks_opens {text : List Char} (h : Opens text) (s : List Char) :
    skipBlanks (text ++ s) = text ++ s := by
  obtain ⟨c, t, rfl, h1, h2, h3, h4, -⟩ := h
  simp [skipBlanks, h1, h2, h3, h4]

theorem skipBlanks_lineBreak (level : Nat) (s : List Char) :
    skipBlanks ((lineBreak level).toList ++ s) = skipBlanks s := by
  have hblank : ∀ n, (List.replicate n ' ' ++ s).dropWhile
      (fun c => c == ' ' || c == '\n' || c == '\t' || c == '\r') = skipBlanks s := by
    intro n
    exact List.dropWhile_append_of_pos (by simp)
  simp [lineBreak, skipBlanks, hblank]

/-- Blanks in front of a value do not count. -/
theorem readValue?_blanks {s t : List Char} (h : skipBlanks s = skipBlanks t) (fuel : Nat) :
    readValue? fuel s = readValue? fuel t := by
  cases fuel with
  | zero => simp only [readValue?]
  | succ fuel => simp only [readValue?, h]

theorem readItems?_blanks {s t : List Char} (h : skipBlanks s = skipBlanks t) (fuel : Nat) :
    readItems? fuel s = readItems? fuel t := by
  cases fuel with
  | zero => simp only [readItems?]
  | succ fuel => simp only [readItems?, readValue?_blanks h]

theorem readMembers?_blanks {s t : List Char} (h : skipBlanks s = skipBlanks t) (fuel : Nat)
    (seen : List (Datum × Datum)) : readMembers? fuel s seen = readMembers? fuel t seen := by
  cases fuel with
  | zero => simp only [readMembers?]
  | succ fuel => simp only [readMembers?, h]

/-- A value that is told by its first character is read with any fuel at all. -/
theorem spells_of_step {text : List Char} {d : Datum} (ho : Opens text)
    (h : ∀ fuel rest, IsBreak rest → readValue? (fuel + 1) (text ++ rest) = some (d, rest)) :
    Spells text d := by
  refine ⟨ho, fun fuel rest hf hr => ?_⟩
  obtain ⟨c, s, rfl, -⟩ := ho
  obtain ⟨fuel, rfl⟩ : ∃ k, fuel = k + 1 := ⟨fuel - 1, by simp at hf; omega⟩
  exact h fuel rest hr

theorem spells_null : Spells "null".toList .null :=
  spells_of_step ⟨'n', _, rfl, by decide⟩ fun _ _ _ => by
    simp [readValue?, skipBlanks, expect?]

theorem spells_bool (b : Bool) : Spells (if b then "true" else "false").toList (.bool b) := by
  cases b with
  | true =>
    refine spells_of_step ⟨'t', _, rfl, by decide⟩ fun _ _ _ => ?_
    simp [readValue?, skipBlanks, expect?]
  | false =>
    refine spells_of_step ⟨'f', _, rfl, by decide⟩ fun _ _ _ => ?_
    simp [readValue?, skipBlanks, expect?]

theorem opens_stringText (s : String) : Opens (stringText s).toList := by
  refine ⟨'"', s.toList.flatMap escapedChar ++ ['"'], by simp [stringText], by decide⟩

theorem spells_text (s : String) : Spells (stringText s).toList (.text s) := by
  refine spells_of_step (opens_stringText s) fun fuel rest _ => ?_
  obtain ⟨inside, hi, hr⟩ := readString?_stringText s rest
  have hskip := skipBlanks_opens (opens_stringText s) rest
  rw [hi] at hskip ⊢
  simp [readValue?, hskip, hr]

/-- What starts as a number is read as one. -/
theorem readValue?_number {c : Char} (hc : c.isDigit = true) (fuel : Nat) (s : List Char) :
    readValue? (fuel + 1) (c :: s) = readNumber? (c :: s) ∧
      readValue? (fuel + 1) ('-' :: c :: s) = readNumber? ('-' :: c :: s) := by
  have other : ∀ x : Char, x.isDigit = false → c ≠ x := by
    rintro x hx rfl
    rw [hx] at hc
    cases hc
  have hskip : skipBlanks (c :: s) = c :: s ∧ skipBlanks ('-' :: c :: s) = '-' :: c :: s := by
    simp [skipBlanks, other ' ' rfl, other '\n' rfl, other '\t' rfl, other '\r' rfl]
  have quote := other '"' rfl
  have list := other '[' rfl
  have map := other '\x7b' rfl
  have null := other 'n' rfl
  have yes := other 't' rfl
  have no := other 'f' rfl
  have nan := other 'N' rfl
  have infinity := other 'I' rfl
  have minus := other '-' rfl
  constructor
  · rw [readValue?, hskip.1]
    split <;> simp_all
  · rw [readValue?, hskip.2]
    split <;> simp_all

/-- **Numbers.** A written whole number is read as itself. -/
theorem spells_int (n : Int) : Spells (toString n).toList (.int n) := by
  obtain ⟨ds, hd, hne, h⟩ := toString_cases n
  have hread := fun rest (hr : IsBreak rest) => readNumber?_digits hd hne hr
  obtain ⟨c, s, rfl⟩ : ∃ c s, ds = c :: s := List.exists_cons_of_ne_nil hne
  have hc := hd c (List.mem_cons_self ..)
  have other : ∀ x : Char, x.isDigit = false → c ≠ x := by
    rintro x hx rfl
    rw [hx] at hc
    cases hc
  obtain ⟨ht, hn⟩ | ⟨ht, hn⟩ := h
  · rw [ht, hn]
    refine spells_of_step ⟨c, s, rfl, other _ rfl, other _ rfl, other _ rfl, other _ rfl,
      other _ rfl, other _ rfl⟩ fun fuel rest hr => ?_
    rw [← (hread rest hr).1]
    exact (readValue?_number hc fuel _).1
  · rw [ht, hn]
    refine spells_of_step ⟨'-', c :: s, rfl, by decide⟩ fun fuel rest hr => ?_
    rw [← (hread rest hr).2]
    exact (readValue?_number hc fuel _).2


/-! ## Items and members -/

/-- Texts with a comma and a line break between them. -/
def joined (level : Nat) (texts : List (List Char)) : List Char :=
  (',' :: (lineBreak level).toList).intercalate texts

theorem joined_cons_cons (level : Nat) (t u : List Char) (texts : List (List Char)) :
    joined level (t :: u :: texts) =
      t ++ ',' :: ((lineBreak level).toList ++ joined level (u :: texts)) := by
  simp [joined, List.intercalate_cons_cons]

theorem isBreak_comma (s : List Char) : IsBreak (',' :: s) := by
  rintro c ⟨⟩
  exact Or.inl rfl

theorem isBreak_lineBreak (level : Nat) (s : List Char) :
    IsBreak ((lineBreak level).toList ++ s) := by
  intro c hc
  simp only [lineBreak, String.toList_append] at hc
  cases hc
  exact Or.inr rfl

/-- The closing bracket of a block, on a line of its own. -/
theorem skipBlanks_closing (level : Nat) (c : Char) (hc : c = ']' ∨ c = '\x7d') (s : List Char) :
    skipBlanks ((lineBreak level).toList ++ c :: s) = c :: s := by
  rw [skipBlanks_lineBreak]
  obtain rfl | rfl := hc <;> rfl

theorem skipBlanks_comma (s : List Char) : skipBlanks (',' :: s) = ',' :: s := rfl

/-- **Items.** What stands in brackets is read up to the closing one. -/
theorem readItems?_joined {texts : List (List Char)} {items : List Datum}
    (h : List.Forall₂ Spells texts items) (hne : texts ≠ []) (level outer : Nat) {fuel : Nat}
    (hf : 2 * (joined level texts).length < fuel) (rest : List Char) :
    readItems? fuel (joined level texts ++ ((lineBreak outer).toList ++ ']' :: rest)) =
      some (items, rest) := by
  induction h generalizing fuel with
  | nil => exact absurd rfl hne
  | @cons t d texts items ht hrest ih =>
    obtain ⟨fuel, rfl⟩ : ∃ n, fuel = n + 1 := ⟨fuel - 1, by omega⟩
    cases hrest with
    | nil =>
      have hj : joined level [t] = t := by simp [joined]
      rw [hj] at hf ⊢
      rw [readItems?, ht.reads fuel _ (by omega) (isBreak_lineBreak outer _)]
      simp only [skipBlanks_closing outer ']' (Or.inl rfl)]
    | @cons u d' texts items hu hrest =>
      rw [joined_cons_cons] at hf ⊢
      simp only [List.length_append, List.length_cons] at hf
      rw [List.append_assoc, List.cons_append, List.append_assoc, readItems?,
        ht.reads fuel _ (by omega) (isBreak_comma _)]
      simp only [skipBlanks_comma]
      rw [readItems?_blanks (skipBlanks_lineBreak level _), ih nofun (by omega)]
      rfl

/-- A text that is read as a name with a value. -/
def SpellsMember (text : List Char) (member : String × Datum) : Prop :=
  ∃ value, text = (stringText member.1).toList ++ ':' :: ' ' :: value ∧ Spells value member.2

theorem readMembers?_member {text : List Char} {member : String × Datum}
    (h : SpellsMember text member) {fuel : Nat} (hf : 2 * text.length ≤ fuel) {rest : List Char}
    (hr : IsBreak rest) (seen : List (Datum × Datum)) :
    readMembers? (fuel + 1) (text ++ rest) seen =
      match skipBlanks rest with
      | ',' :: rest => readMembers? fuel rest (Datum.put (.text member.1) member.2 seen)
      | '\x7d' :: rest => some (Datum.put (.text member.1) member.2 seen, rest)
      | _ => none := by
  obtain ⟨value, rfl, hv⟩ := h
  simp only [List.length_append, List.length_cons] at hf
  obtain ⟨inside, hi, hs⟩ := readString?_stringText member.1 (':' :: ' ' :: (value ++ rest))
  have hskip := skipBlanks_opens (opens_stringText member.1) (':' :: ' ' :: (value ++ rest))
  have hcolon : skipBlanks (':' :: ' ' :: (value ++ rest)) = ':' :: ' ' :: (value ++ rest) := rfl
  have hblank : skipBlanks (' ' :: (value ++ rest)) = skipBlanks (value ++ rest) := rfl
  rw [List.append_assoc, List.cons_append, List.cons_append, readMembers?, hskip, hi]
  have hvalue := (readValue?_blanks hblank fuel).trans (hv.reads fuel rest (by omega) hr)
  simp only [hs, hcolon]
  generalize readValue? fuel (' ' :: (value ++ rest)) = value? at hvalue ⊢
  subst hvalue
  rfl

theorem readMembers?_joined {texts : List (List Char)} {fields : List (String × Datum)}
    (h : List.Forall₂ SpellsMember texts fields) (hne : texts ≠ []) (level outer : Nat)
    {done : List (String × Datum)} (hn : ((done ++ fields).map (·.1)).Nodup) {fuel : Nat}
    (hf : 2 * (joined level texts).length < fuel) (rest : List Char) :
    readMembers? fuel (joined level texts ++ ((lineBreak outer).toList ++ '\x7d' :: rest))
        (done.map fun (k, v) => (.text k, v)) =
      some ((done ++ fields).map fun (k, v) => (.text k, v), rest) := by
  induction h generalizing fuel done with
  | nil => exact absurd rfl hne
  | @cons t field texts fields ht hrest ih =>
    obtain ⟨fuel, rfl⟩ : ∃ n, fuel = n + 1 := ⟨fuel - 1, by omega⟩
    have hkey : field.1 ∉ done.map (·.1) := by
      rw [List.map_append, List.map_cons] at hn
      exact fun hm => (List.nodup_append.1 hn).2.2 _ hm _ (List.mem_cons_self ..) rfl
    cases hrest with
    | nil =>
      have hj : joined level [t] = t := by simp [joined]
      rw [hj] at hf ⊢
      rw [readMembers?_member ht (by omega) (isBreak_lineBreak outer _), Datum.put_text,
        Entries.put_of_not_mem hkey]
      simp only [skipBlanks_closing outer '\x7d' (Or.inr rfl)]
    | @cons u field' texts fields hu hrest =>
      rw [joined_cons_cons] at hf ⊢
      simp only [List.length_append, List.length_cons] at hf
      rw [List.append_assoc, List.cons_append, List.append_assoc,
        readMembers?_member ht (by omega) (isBreak_comma _), Datum.put_text,
        Entries.put_of_not_mem hkey]
      simp only [skipBlanks_comma]
      rw [readMembers?_blanks (skipBlanks_lineBreak level _),
        ih nofun (by rwa [List.append_assoc]) (by omega), List.append_assoc]
      rfl

/-! ## Documents -/

/-- Data that JSON has a form for, fractions aside. -/
inductive IsJson : Datum → Prop where
  | null : IsJson .null
  | bool (b : Bool) : IsJson (.bool b)
  | int (n : Int) : IsJson (.int n)
  | text (s : String) : IsJson (.text s)
  | list {items : List Datum} (h : ∀ d ∈ items, IsJson d) : IsJson (.list items)
  | map {fields : List (String × Datum)} (h : ∀ field ∈ fields, IsJson field.2)
    (hn : (fields.map (·.1)).Nodup) : IsJson (.map (fields.map fun (k, v) => (.text k, v)))

theorem writeItems_eq_map (level : Nat) (items : List Datum) :
    writeItems level items = items.map (writeAt level) := by
  induction items with
  | nil => rfl
  | cons d items ih => rw [writeItems, ih, List.map_cons]

theorem writeEntries_eq_map (level : Nat) (fields : List (String × Datum)) :
    writeEntries level (fields.map fun (k, v) => (.text k, v)) =
      fields.map fun (k, v) => stringText k ++ ": " ++ writeAt level v := by
  induction fields with
  | nil => rfl
  | cons field fields ih =>
    rw [List.map_cons, writeEntries, ih, List.map_cons]
    rfl

theorem toList_block {opening closing : String} {o c : Char} (ho : opening.toList = [o])
    (hc : closing.toList = [c]) (level : Nat) {items : List String} (h : items ≠ []) :
    (block opening closing level items).toList =
      o :: ((lineBreak (level + 1)).toList ++
        (joined (level + 1) (items.map String.toList) ++ ((lineBreak level).toList ++ [c]))) := by
  have he : items.isEmpty = false := by simpa using h
  simp [block, he, ho, hc, joined, String.toList_intercalate]

theorem opens_joined {t : List Char} (h : Opens t) (level : Nat) (texts : List (List Char)) :
    Opens (joined level (t :: texts)) := by
  obtain ⟨c, s, rfl, hc⟩ := h
  cases texts with
  | nil => exact ⟨c, s, by simp [joined], hc⟩
  | cons u texts => exact ⟨c, _, joined_cons_cons level (c :: s) u texts, hc⟩

theorem readValue?_openList {text : List Char} (h : Opens text) (level fuel : Nat)
    (s : List Char) :
    readValue? (fuel + 1) ('[' :: ((lineBreak level).toList ++ (text ++ s))) =
      (readItems? fuel (text ++ s)).map fun (items, rest) => (.list items, rest) := by
  have hb := skipBlanks_opens h s
  obtain ⟨c, t, rfl, -, -, -, -, hc, -⟩ := h
  have hs : skipBlanks ('[' :: ((lineBreak level).toList ++ (c :: t ++ s))) =
      '[' :: ((lineBreak level).toList ++ (c :: t ++ s)) := rfl
  rw [readValue?, hs]
  simp only [skipBlanks_lineBreak, hb]
  split
  · rename_i h
    exact absurd (List.cons.inj h).1 hc
  · rfl

theorem readValue?_openMap {text : List Char} (h : Opens text) (level fuel : Nat)
    (s : List Char) :
    readValue? (fuel + 1) ('\x7b' :: ((lineBreak level).toList ++ (text ++ s))) =
      (readMembers? fuel (text ++ s) []).map fun (entries, rest) => (.map entries, rest) := by
  have hb := skipBlanks_opens h s
  obtain ⟨c, t, rfl, -, -, -, -, -, hc⟩ := h
  have hs : skipBlanks ('\x7b' :: ((lineBreak level).toList ++ (c :: t ++ s))) =
      '\x7b' :: ((lineBreak level).toList ++ (c :: t ++ s)) := rfl
  rw [readValue?, hs]
  simp only [skipBlanks_lineBreak, hb]
  split
  · rename_i h
    exact absurd (List.cons.inj h).1 hc
  · rfl

theorem spells_list {level : Nat} {items : List Datum}
    (h : ∀ d ∈ items, Spells (writeAt (level + 1) d).toList d) :
    Spells (writeAt level (.list items)).toList (.list items) := by
  rw [writeAt, writeItems_eq_map]
  cases items with
  | nil =>
    refine spells_of_step ⟨'[', [']'], by simp [block], by decide⟩ fun fuel rest _ => ?_
    simp [block, readValue?, skipBlanks]
  | cons d items =>
    rw [toList_block (o := '[') (c := ']') rfl rfl _ (by simp)]
    have hall : List.Forall₂ Spells (((d :: items).map (writeAt (level + 1))).map String.toList)
        (d :: items) := by
      rw [List.map_map, List.forall₂_map_left_iff, List.forall₂_same]
      exact h
    have ho := opens_joined (h d (List.mem_cons_self ..)).opens (level + 1)
      ((items.map (writeAt (level + 1))).map String.toList)
    have hread := fun fuel (hf : 2 * (joined (level + 1) _).length < fuel) rest =>
      readItems?_joined hall nofun (level + 1) level hf rest
    rw [List.map_cons, List.map_cons] at hread ⊢
    generalize joined (level + 1) _ = inside at *
    refine ⟨⟨'[', _, rfl, by decide⟩, fun fuel rest hf _ => ?_⟩
    simp only [List.length_append, List.length_cons] at hf
    obtain ⟨fuel, rfl⟩ : ∃ n, fuel = n + 1 := ⟨fuel - 1, by omega⟩
    simp only [List.cons_append, List.append_assoc, List.nil_append]
    rw [readValue?_openList ho, hread fuel (by omega) rest]
    rfl

theorem spells_map {level : Nat} {fields : List (String × Datum)}
    (h : ∀ field ∈ fields, Spells (writeAt (level + 1) field.2).toList field.2)
    (hn : (fields.map (·.1)).Nodup) :
    Spells (writeAt level (.map (fields.map fun (k, v) => (.text k, v)))).toList
      (.map (fields.map fun (k, v) => (.text k, v))) := by
  rw [writeAt, writeEntries_eq_map]
  cases fields with
  | nil =>
    refine spells_of_step ⟨'\x7b', ['\x7d'], by simp [block], by decide⟩ fun fuel rest _ => ?_
    simp [block, readValue?, skipBlanks]
  | cons field fields =>
    rw [toList_block (o := '\x7b') (c := '\x7d') rfl rfl _ (by simp)]
    have hall : List.Forall₂ SpellsMember (((field :: fields).map fun (k, v) =>
        stringText k ++ ": " ++ writeAt (level + 1) v).map String.toList) (field :: fields) := by
      rw [List.map_map, List.forall₂_map_left_iff, List.forall₂_same]
      exact fun f hf => ⟨_, by simp, h f hf⟩
    have ho : Opens (stringText field.1 ++ ": " ++ writeAt (level + 1) field.2).toList := by
      obtain ⟨c, s, hs, hc⟩ := opens_stringText field.1
      exact ⟨c, _, by rw [String.toList_append, String.toList_append, hs]; rfl, hc⟩
    replace ho := opens_joined ho (level + 1) ((fields.map fun (k, v) =>
        stringText k ++ ": " ++ writeAt (level + 1) v).map String.toList)
    have hn' : (([] ++ field :: fields : List (String × Datum)).map (·.1)).Nodup := hn
    have hread := fun fuel (hf : 2 * (joined (level + 1) _).length < fuel) rest =>
      readMembers?_joined hall nofun (level + 1) level hn' hf rest
    rw [List.map_cons, List.map_cons] at hread ⊢
    generalize joined (level + 1) _ = inside at *
    refine ⟨⟨'\x7b', _, rfl, by decide⟩, fun fuel rest hf _ => ?_⟩
    simp only [List.length_append, List.length_cons] at hf
    obtain ⟨fuel, rfl⟩ : ∃ n, fuel = n + 1 := ⟨fuel - 1, by omega⟩
    simp only [List.cons_append, List.append_assoc, List.nil_append]
    rw [readValue?_openMap ho]
    exact congrArg (Option.map _) (hread fuel (by omega) rest)

theorem spells_writeAt {d : Datum} (h : IsJson d) : ∀ level, Spells (writeAt level d).toList d := by
  induction h with
  | null =>
    intro level
    rw [writeAt]
    exact spells_null
  | bool b =>
    intro level
    rw [writeAt]
    exact spells_bool b
  | int n =>
    intro level
    rw [writeAt]
    exact spells_int n
  | text s =>
    intro level
    rw [writeAt]
    exact spells_text s
  | list _ ih => exact fun level => spells_list fun d hd => ih d hd (level + 1)
  | map _ hn ih => exact fun level => spells_map (fun f hf => ih f hf (level + 1)) hn

/-- **Documents.** A document that is written is read back as its data. -/
theorem read?_write {d : Datum} (h : IsJson d) : read? (write d) = some d := by
  have hread := (spells_writeAt h 0).reads (2 * (write d).length + 2) []
    (by rw [String.length_toList, write]; omega) nofun
  rw [List.append_nil] at hread
  change readValue? _ (write d).toList = _ at hread
  rw [read?, hread]
  rfl

end PlanCode.Json
