import PlanCode.Proofs.Number.JavaInteger

/-!
# Written durations

A duration is written as the constant for no time at all, or as a call of a
factory with a number of the factory's units. The factory is the coarsest one
whose unit divides the whole milliseconds, whatever their sign; what is shorter
than a millisecond but not zero is written as no days.

* `Factory.isCoarsest_coarsest`: of the factories whose unit divides, the first is the coarsest.
* `code_eq_text`: the text of a duration is that of its form.
* `Form.read?_text`: the form is read back.
* `code_exact`: what a written duration denotes, and which durations are written alike.
-/
namespace PlanCode.Duration

open PlanCode.Number

/-- The factories of durations. -/
inductive Factory where
  | ofDays
  | ofHours
  | ofMinutes
  | ofSeconds
  | ofMillis
deriving DecidableEq, Repr

namespace Factory

/-- All factories, those of coarser units first. -/
def all : List Factory := [.ofDays, .ofHours, .ofMinutes, .ofSeconds, .ofMillis]

def name : Factory → String
  | .ofDays => "ofDays"
  | .ofHours => "ofHours"
  | .ofMinutes => "ofMinutes"
  | .ofSeconds => "ofSeconds"
  | .ofMillis => "ofMillis"

/-- The milliseconds of the unit. -/
def unit : Factory → Int
  | .ofDays => 86400000
  | .ofHours => 3600000
  | .ofMinutes => 60000
  | .ofSeconds => 1000
  | .ofMillis => 1

/-- The unit divides the milliseconds, and no coarser one does. -/
structure IsCoarsest (f : Factory) (millis : Int) : Prop where
  dvd : f.unit ∣ millis
  unit_le : ∀ other : Factory, other.unit ∣ millis → other.unit ≤ f.unit

/-- The first factory whose unit divides the milliseconds. -/
def coarsest (millis : Int) : Factory :=
  (all.find? fun f => decide (f.unit ∣ millis)).getD .ofMillis

theorem mem_all (f : Factory) : f ∈ all := by
  cases f <;> decide

theorem unit_pos (f : Factory) : 0 < f.unit := by
  cases f <;> decide

theorem isCoarsest_coarsest (millis : Int) : (coarsest millis).IsCoarsest millis := by
  have hsorted : all.Pairwise fun f other => other.unit ≤ f.unit := by decide
  unfold coarsest
  cases hf : all.find? fun f => decide (f.unit ∣ millis) with
  | none =>
    have h := List.find?_eq_none.1 hf .ofMillis (mem_all _)
    simp [unit] at h
  | some f =>
    obtain ⟨hdvd, before, after, hsplit, hbefore⟩ := List.find?_eq_some_iff_append.1 hf
    refine ⟨by simpa using hdvd, fun other ho => ?_⟩
    have hmem := mem_all other
    rw [hsplit] at hmem hsorted
    rcases List.mem_append.1 hmem with hb | ha
    · exact absurd ho (by simpa using hbefore other hb)
    rcases List.mem_cons.1 ha with he | ha
    · rw [he]
      exact Int.le_refl _
    · exact (List.pairwise_cons.1 (List.pairwise_append.1 hsorted).2.1).1 other ha

theorem unit_injective {f other : Factory} (h : f.unit = other.unit) : f = other := by
  have hall : ∀ f ∈ all, ∀ other ∈ all, f.unit = other.unit → f = other := by decide
  exact hall f (mem_all f) other (mem_all other) h

theorem IsCoarsest.eq_coarsest {f : Factory} {millis : Int} (h : f.IsCoarsest millis) :
    coarsest millis = f := by
  have hc := isCoarsest_coarsest millis
  exact unit_injective (Int.le_antisymm (h.unit_le _ hc.dvd) (hc.unit_le f h.dvd))

end Factory

/-- How a duration is written. -/
inductive Form where
  | zero
  /-- A call of a factory with a number of its units. -/
  | made (f : Factory) (count : Int)
deriving DecidableEq, Repr

namespace Form

/-- The milliseconds that are denoted. -/
def millis : Form → Int
  | .zero => 0
  | .made f count => count * f.unit

def callee (f : Factory) : List Char := "Duration.".toList ++ f.name.toList ++ ['(']

def text : Form → List Char
  | .zero => "Duration.ZERO".toList
  | .made f count => callee f ++ (JavaInteger.ofInt count false).text ++ [')']

theorem text_made (f : Factory) (count : Int) :
    (made f count).text = callee f ++ (JavaInteger.ofInt count false).text ++ [')'] := rfl

/-- The number of units that a call of the factory is given. -/
def count? (f : Factory) (s : List Char) : Option JavaInteger := do
  let given ← (callee f).isPrefixOf? s
  JavaInteger.read? (← [')'].isSuffixOf? given)

/-- Reads an expression of a duration. The number is taken for what its digits say, whether or not
it fits its type. -/
def read? (s : List Char) : Option Form :=
  if s = "Duration.ZERO".toList then some .zero
  else Factory.all.findSome? fun f => (count? f s).map fun i => .made f i.value

/-- A call of one factory does not start as that of another does. -/
theorem isPrefixOf?_callee (f other : Factory) (given : List Char) :
    (callee other).isPrefixOf? (callee f ++ given) = if other = f then some given else none := by
  cases other <;> cases f <;> rfl

theorem isSuffixOf?_close (given : List Char) :
    [')'].isSuffixOf? (given ++ [')']) = some given := by
  have hreverse : (given ++ [')']).reverse = ')' :: given.reverse := by simp
  have hstart : [')'].isPrefixOf? (')' :: given.reverse) = some given.reverse := rfl
  show ([')'].isPrefixOf? (given ++ [')']).reverse).map List.reverse = some given
  rw [hreverse, hstart, Option.map_some, List.reverse_reverse]

/-- The number of units is read from a call of the factory, and from no other call. -/
theorem count?_text (f other : Factory) (count : Int) : count? other (made f count).text =
    if other = f then some (JavaInteger.ofInt count false) else none := by
  have hread := JavaInteger.read?_text (JavaInteger.isNumeral_ofInt count false)
  rw [count?, text_made, List.append_assoc, isPrefixOf?_callee]
  split
  · rw [Option.bind_eq_bind, Option.bind_some, isSuffixOf?_close]
    exact hread
  · rfl

/-- The form of a duration is read back. -/
theorem read?_text (form : Form) : read? form.text = some form := by
  cases form with
  | zero => rfl
  | made f count =>
    have hzero : (made f count).text ≠ "Duration.ZERO".toList := by
      intro he
      have hlast := congrArg List.getLast? he
      rw [text_made, List.getLast?_concat] at hlast
      exact absurd hlast (by decide)
    have hvalue : ∀ other, (count? other (made f count).text).map (fun i => made other i.value) =
        if other = f then some (made f count) else none := by
      intro other
      rw [count?_text]
      split
      · rename_i he
        rw [he, Option.map_some, JavaInteger.value_ofInt]
      · rfl
    rw [read?, if_neg hzero]
    simp only [hvalue]
    cases f <;> rfl

end Form

/-- The form in which a duration is written. -/
def form (d : Duration) : Form :=
  if d.isZero then .zero
  else
    let f := Factory.coarsest d.wholeMillis
    .made f (d.wholeMillis / f.unit)

theorem Form.toList_call (f : Factory) (count : Int) :
    ("Duration." ++ f.name ++ "(" ++ toString count ++ ")").toList = (made f count).text := by
  have hopen : "(".toList = ['('] := rfl
  have hclose : ")".toList = [')'] := rfl
  rw [String.toList_append, String.toList_append, String.toList_append, String.toList_append,
    hopen, hclose, JavaInteger.toList_toString]
  rfl

theorem toList_coarsest {f : Factory} {millis count : Int} (h : f.IsCoarsest millis)
    (hc : count = millis / f.unit) :
    ("Duration." ++ f.name ++ "(" ++ toString count ++ ")").toList =
      (Form.made (Factory.coarsest millis) (millis / (Factory.coarsest millis).unit)).text := by
  have hf := h.eq_coarsest
  subst hf
  rw [Form.toList_call, hc]

theorem code_eq_text (d : Duration) : d.code.toList = d.form.text := by
  unfold code form
  split
  · rfl
  generalize d.wholeMillis = m
  dsimp only
  split
  · refine toList_coarsest (f := .ofMillis) ⟨?_, fun other ho => ?_⟩ ?_
    · simp [Factory.unit]
    · cases other <;> simp only [Factory.unit] at ho ⊢ <;> omega
    · simp [Factory.unit]
  split
  · refine toList_coarsest (f := .ofSeconds) ⟨?_, fun other ho => ?_⟩ rfl
    · simp only [Factory.unit]
      omega
    · cases other <;> simp only [Factory.unit] at ho ⊢ <;> omega
  split
  · refine toList_coarsest (f := .ofMinutes) ⟨?_, fun other ho => ?_⟩ ?_
    · simp only [Factory.unit]
      omega
    · cases other <;> simp only [Factory.unit] at ho ⊢ <;> omega
    · simp only [Factory.unit]
      omega
  split
  · refine toList_coarsest (f := .ofHours) ⟨?_, fun other ho => ?_⟩ ?_
    · simp only [Factory.unit]
      omega
    · cases other <;> simp only [Factory.unit] at ho ⊢ <;> omega
    · simp only [Factory.unit]
      omega
  · refine toList_coarsest (f := .ofDays) ⟨?_, fun other ho => ?_⟩ ?_
    · simp only [Factory.unit]
      omega
    · cases other <;> simp only [Factory.unit] at ho ⊢ <;> omega
    · simp only [Factory.unit]
      omega

/-- A duration is written as the constant or as a call of a factory with a number. -/
theorem code_cases (d : Duration) : d.code = "Duration.ZERO" ∨ ∃ (f : Factory) (count : Int),
    d.code = "Duration." ++ f.name ++ "(" ++ toString count ++ ")" := by
  cases hf : d.form with
  | zero =>
    left
    apply String.toList_injective
    rw [code_eq_text, hf]
    rfl
  | made f count =>
    right
    refine ⟨f, count, ?_⟩
    apply String.toList_injective
    rw [code_eq_text, hf, Form.toList_call]

/-! ## What a written duration denotes -/

/-- The whole milliseconds of a duration, rounded down. -/
def HasMillis (d : Duration) (millis : Int) : Prop :=
  millis * 1000 ≤ d.micros ∧ d.micros < (millis + 1) * 1000

theorem hasMillis_iff {d : Duration} {millis : Int} :
    d.HasMillis millis ↔ d.wholeMillis = millis := by
  unfold HasMillis wholeMillis
  omega

theorem isZero_iff {d : Duration} : d.isZero = true ↔ d = zero := by
  constructor
  · intro h
    exact eq_of_micros (by simpa [isZero, zero] using h)
  · intro h
    rw [h]
    rfl

theorem form_of_ne_zero {d : Duration} (h : d.isZero = false) :
    d.form = .made (Factory.coarsest d.wholeMillis)
      (d.wholeMillis / (Factory.coarsest d.wholeMillis).unit) := by
  unfold form
  rw [h, if_neg (by decide)]

theorem form_eq_zero_iff {d : Duration} : d.form = .zero ↔ d = zero := by
  rw [← isZero_iff]
  cases h : d.isZero with
  | true => simp [form, h]
  | false => simp [form_of_ne_zero h]

/-- No part of a millisecond that counts is lost in the form. -/
theorem millis_form (d : Duration) : d.form.millis = d.wholeMillis := by
  cases h : d.isZero with
  | true =>
    have hd : d = zero := isZero_iff.1 h
    rw [hd]
    rfl
  | false =>
    rw [form_of_ne_zero h]
    exact Int.ediv_mul_cancel (Factory.isCoarsest_coarsest d.wholeMillis).dvd

theorem form_eq_iff {d e : Duration} :
    d.form = e.form ↔ d.wholeMillis = e.wholeMillis ∧ (d = zero ↔ e = zero) := by
  constructor
  · intro h
    constructor
    · rw [← millis_form, ← millis_form, h]
    · rw [← form_eq_zero_iff, ← form_eq_zero_iff, h]
  · intro h
    obtain ⟨hm, hz⟩ := h
    rw [← isZero_iff, ← isZero_iff, ← Bool.eq_iff_iff] at hz
    unfold form
    rw [hm, hz]

/-- Texts of durations are the same exactly if their forms are. -/
theorem code_eq_iff {d e : Duration} : d.code = e.code ↔ d.form = e.form := by
  constructor
  · intro h
    have hr := Form.read?_text d.form
    rw [← code_eq_text, h, code_eq_text, Form.read?_text] at hr
    exact (Option.some.inj hr).symm
  · intro h
    apply String.toList_injective
    rw [code_eq_text, code_eq_text, h]

/-- **Durations.** What is written for a duration is read as its whole milliseconds, rounded down,
and if there are any, the factory is the coarsest one. Only the duration zero is written as the
constant; apart from it, two durations are written alike exactly if they have the same whole
milliseconds. -/
theorem code_exact (d e : Duration) (default default' : Option Duration) :
    (∃ form, Form.read? (Literal.duration (some d) default).code.toList = some form ∧
      d.HasMillis form.millis ∧
      (form.millis ≠ 0 → ∃ f count, form = .made f count ∧ f.IsCoarsest form.millis)) ∧
    ((Literal.duration (some d) default).code = "Duration.ZERO" ↔ d = zero) ∧
    ((Literal.duration (some d) default).code = (Literal.duration (some e) default').code ↔
      (∃ millis, d.HasMillis millis ∧ e.HasMillis millis) ∧ (d = zero ↔ e = zero)) := by
  have hcode : ∀ (d : Duration) default, (Literal.duration (some d) default).code = d.code :=
    fun _ _ => rfl
  have hzero : zero.code = "Duration.ZERO" := rfl
  rw [hcode, hcode]
  refine ⟨⟨d.form, ?_, ?_, ?_⟩, ?_, ?_⟩
  · rw [code_eq_text]
    exact Form.read?_text d.form
  · rw [hasMillis_iff, millis_form]
  · intro hm
    have hz : d.isZero = false := by
      refine Bool.eq_false_iff.2 fun hz => hm ?_
      rw [isZero_iff.1 hz]
      rfl
    rw [millis_form]
    exact ⟨_, _, form_of_ne_zero hz, Factory.isCoarsest_coarsest d.wholeMillis⟩
  · rw [← hzero, code_eq_iff, ← form_eq_zero_iff]
    rfl
  · rw [code_eq_iff, form_eq_iff]
    refine and_congr_left fun _ => ?_
    constructor
    · intro h
      exact ⟨d.wholeMillis, hasMillis_iff.2 rfl, hasMillis_iff.2 h.symm⟩
    · intro h
      obtain ⟨millis, hd, he⟩ := h
      rw [hasMillis_iff.1 hd, hasMillis_iff.1 he]

/-- Half a millisecond before zero is a whole one, rounded down. -/
example : (ofMicros? (-500)).map code = some "Duration.ofMillis(-1)" := by decide +kernel

end PlanCode.Duration
