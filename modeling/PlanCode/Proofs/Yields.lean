/-!
# Computations that may fail

What holds of the value of a computation whenever it has one.

* `yields_bind`: a sequence yields what its second part yields after the first.
* `yields_foldlM`: a fold yields what its steps preserve.
* `delivers_bind`: a sequence of computations that do not fail does not fail.
* `ends_bind`: a sequence fails as its first part does, or as its second part does after the first.
* `comesTo_cons`: what the first item that is not passed decides.
-/
namespace PlanCode

variable {ε ε' α β : Type} {P : α → Prop} {Q : β → Prop}

def Yields (c : Except ε α) (P : α → Prop) : Prop := ∀ a, c = .ok a → P a

theorem bind_eq_ok {c : Except ε α} {f : α → Except ε β} {b : β} :
    (c >>= f) = .ok b ↔ ∃ a, c = .ok a ∧ f a = .ok b := by
  cases c <;> simp [bind, Except.bind]

theorem map_eq_ok {c : Except ε α} {f : α → β} {b : β} :
    c.map f = .ok b ↔ ∃ a, c = .ok a ∧ f a = b := by
  cases c <;> simp [Except.map]

theorem mapError_eq_ok {c : Except ε α} {f : ε → ε'} {a : α} :
    c.mapError f = .ok a ↔ c = .ok a := by
  cases c with
  | error => constructor <;> rintro ⟨⟩
  | ok => constructor <;> rintro ⟨⟩ <;> rfl

theorem yields_ok {a : α} (h : P a) : Yields (.ok a : Except ε α) P := by
  rintro _ ⟨⟩
  exact h

theorem yields_error (e : ε) : Yields (.error e) P := fun _ h => absurd h (by simp)

theorem yields_none : Yields (.ok none : Except ε (Option α)) fun a? => ∀ a ∈ a?, P a :=
  yields_ok fun _ h => absurd h (by simp)

theorem yields_some {a : α} (h : P a) :
    Yields (.ok (some a) : Except ε (Option α)) fun a? => ∀ a ∈ a?, P a := by
  refine yields_ok ?_
  rintro _ ⟨⟩
  exact h

theorem Yields.imp {P' : α → Prop} {c : Except ε α} (h : Yields c P) (hp : ∀ a, P a → P' a) :
    Yields c P' := fun a ha => hp a (h a ha)

theorem yields_bind {c : Except ε α} {f : α → Except ε β} (h : Yields c P)
    (hf : ∀ a, P a → Yields (f a) Q) : Yields (c >>= f) Q := by
  intro b hb
  obtain ⟨a, ha, hb⟩ := bind_eq_ok.1 hb
  exact hf a (h a ha) b hb

/-- The first part of a sequence does not matter where the second part yields the same after all. -/
theorem yields_bind_of_forall {c : Except ε α} {f : α → Except ε β}
    (hf : ∀ a, Yields (f a) Q) : Yields (c >>= f) Q :=
  yields_bind (P := fun _ => True) (fun _ _ => trivial) fun a _ => hf a

theorem yields_map {c : Except ε α} {f : α → β} (h : Yields c P) (hf : ∀ a, P a → Q (f a)) :
    Yields (c.map f) Q := by
  intro b hb
  obtain ⟨a, ha, rfl⟩ := map_eq_ok.1 hb
  exact hf a (h a ha)

theorem yields_mapError {c : Except ε α} {f : ε → ε'} (h : Yields c P) :
    Yields (c.mapError f) P := fun a ha => h a (mapError_eq_ok.1 ha)

theorem yields_foldlM {f : α → β → Except ε α} (hf : ∀ a b, P a → Yields (f a b) P) {a : α}
    (ha : P a) (bs : List β) : Yields (bs.foldlM f a) P := by
  induction bs generalizing a with
  | nil => exact yields_ok ha
  | cons b bs ih =>
    rw [List.foldlM_cons]
    exact yields_bind (hf a b ha) fun _ => ih

theorem yields_mapM {f : α → Except ε β} {as : List α} (hf : ∀ a ∈ as, Yields (f a) Q) :
    Yields (as.mapM f) fun bs => ∀ b ∈ bs, Q b := by
  induction as with
  | nil => exact yields_ok (by simp)
  | cons a as ih =>
    rw [List.forall_mem_cons] at hf
    rw [List.mapM_cons]
    refine yields_bind hf.1 fun b hb => yields_bind (ih hf.2) fun bs hbs => ?_
    exact yields_ok (List.forall_mem_cons.2 ⟨hb, hbs⟩)

/-! ## Computations that do not fail -/

/-- A computation ends in a value of which `P` holds. -/
def Delivers (c : Except ε α) (P : α → Prop) : Prop := ∃ a, c = .ok a ∧ P a

theorem delivers_ok {a : α} (h : P a) : Delivers (.ok a : Except ε α) P := ⟨a, rfl, h⟩

theorem Delivers.imp {P' : α → Prop} {c : Except ε α} (h : Delivers c P)
    (hp : ∀ a, P a → P' a) : Delivers c P' := by
  obtain ⟨a, hc, ha⟩ := h
  exact ⟨a, hc, hp a ha⟩

theorem delivers_bind {c : Except ε α} {f : α → Except ε β} (h : Delivers c P)
    (hf : ∀ a, P a → Delivers (f a) Q) : Delivers (c >>= f) Q := by
  obtain ⟨a, rfl, ha⟩ := h
  exact hf a ha

theorem delivers_foldlM {f : α → β → Except ε α} (hf : ∀ a b, P a → Delivers (f a b) P) {a : α}
    (ha : P a) (bs : List β) : Delivers (bs.foldlM f a) P := by
  induction bs generalizing a with
  | nil => exact delivers_ok ha
  | cons b bs ih =>
    rw [List.foldlM_cons]
    exact delivers_bind (hf a b ha) fun _ => ih

/-- A first part that is one of two. -/
theorem delivers_ite_bind {on : Bool} {c c' : Except ε α} {f : α → Except ε β}
    (h : Delivers (if on then c else c') P) (hf : ∀ a, P a → Delivers (f a) Q) :
    Delivers (if on then c >>= f else c' >>= f) Q := by
  cases on with
  | true => exact delivers_bind h hf
  | false => exact delivers_bind h hf

/-! ## Computations with known errors -/

variable {E E' : ε → Prop}

/-- A computation ends in a value of which `P` holds, or in an error of which `E` holds. -/
inductive Ends : Except ε α → (α → Prop) → (ε → Prop) → Prop where
  | ok {P : α → Prop} {E : ε → Prop} {a : α} (h : P a) : Ends (.ok a) P E
  | error {P : α → Prop} {E : ε → Prop} {e : ε} (h : E e) : Ends (.error e) P E

theorem Ends.imp {P' : α → Prop} {c : Except ε α} (h : Ends c P E) (hp : ∀ a, P a → P' a)
    (he : ∀ e, E e → E' e) : Ends c P' E' := by
  cases h with
  | ok h => exact .ok (hp _ h)
  | error h => exact .error (he _ h)

theorem Ends.imp_ok {P' : α → Prop} {c : Except ε α} (h : Ends c P E)
    (hp : ∀ a, P a → P' a) : Ends c P' E := h.imp hp fun _ he => he

theorem Ends.imp_error {c : Except ε α} (h : Ends c P E) (he : ∀ e, E e → E' e) : Ends c P E' :=
  h.imp (fun _ hp => hp) he

theorem Ends.and {P' : α → Prop} {c : Except ε α} (h : Ends c P E) (h' : Ends c P' E') :
    Ends c (fun a => P a ∧ P' a) fun e => E e ∧ E' e := by
  cases h with
  | ok h =>
    cases h' with
    | ok h' => exact .ok ⟨h, h'⟩
  | error h =>
    cases h' with
    | error h' => exact .error ⟨h, h'⟩

theorem Ends.yields {c : Except ε α} (h : Ends c P E) : Yields c P := by
  cases h with
  | ok h => exact yields_ok h
  | error _ => exact yields_error _

/-- What is yielded, where the errors do not matter. -/
theorem Yields.ends {c : Except ε α} (h : Yields c P) : Ends c P fun _ => True := by
  cases c with
  | ok a => exact .ok (h a rfl)
  | error _ => exact .error trivial

/-- A computation without a reason to fail does not fail. -/
theorem Ends.delivers {c : Except ε α} (h : Ends c P E) (he : ∀ e, ¬ E e) : Delivers c P := by
  cases h with
  | ok h => exact delivers_ok h
  | error h => exact absurd h (he _)

theorem Delivers.ends {c : Except ε α} (h : Delivers c P) : Ends c P E := by
  obtain ⟨a, rfl, ha⟩ := h
  exact .ok ha

/-- The value that a computation ends in, with where it comes from. -/
theorem Ends.eq_ok {c : Except ε α} (h : Ends c P E) : Ends c (fun a => c = .ok a ∧ P a) E := by
  cases h with
  | ok h => exact .ok ⟨rfl, h⟩
  | error h => exact .error h

/-- What a computation ends in, with where it comes from. -/
theorem Ends.eq {c : Except ε α} (h : Ends c P E) :
    Ends c (fun a => c = .ok a ∧ P a) fun e => c = .error e ∧ E e := by
  cases h with
  | ok h => exact .ok ⟨rfl, h⟩
  | error h => exact .error ⟨rfl, h⟩

theorem ends_bind {c : Except ε α} {f : α → Except ε β} (h : Ends c P E)
    (hf : ∀ a, P a → Ends (f a) Q E) : Ends (c >>= f) Q E := by
  cases h with
  | ok h => exact hf _ h
  | error h => exact .error h

theorem ends_mapError {E' : ε' → Prop} {c : Except ε α} {f : ε → ε'} (h : Ends c P E)
    (hf : ∀ e, E e → E' (f e)) : Ends (c.mapError f) P E' := by
  cases h with
  | ok h => exact .ok h
  | error h => exact .error (hf _ h)

theorem ends_map {c : Except ε α} {f : α → β} (h : Ends c P E) (hf : ∀ a, P a → Q (f a)) :
    Ends (c.map f) Q E := by
  cases h with
  | ok h => exact .ok (hf _ h)
  | error h => exact .error h

theorem ends_foldlM {f : α → β → Except ε α} {bs : List β}
    (hf : ∀ a, ∀ b ∈ bs, P a → Ends (f a b) P E) {a : α} (ha : P a) :
    Ends (bs.foldlM f a) P E := by
  induction bs generalizing a with
  | nil => exact .ok ha
  | cons b bs ih =>
    rw [List.foldlM_cons]
    exact ends_bind (hf a b (List.mem_cons_self ..) ha) fun _ =>
      ih fun a b hb => hf a b (List.mem_cons_of_mem _ hb)

/-! ## Items in order -/

/-- An item is hit, and all items before it are passed. -/
def ComesTo (passed hit : α → Prop) (items : List α) : Prop :=
  ∃ before a after, items = before ++ a :: after ∧ (∀ b ∈ before, passed b) ∧ hit a

theorem not_comesTo_nil (passed hit : α → Prop) : ¬ ComesTo passed hit [] := by
  rintro ⟨before, a, after, h, -⟩
  simp at h

theorem comesTo_cons {passed hit : α → Prop} {a : α} {rest : List α} :
    ComesTo passed hit (a :: rest) ↔ hit a ∨ passed a ∧ ComesTo passed hit rest := by
  constructor
  · rintro ⟨before, b, after, hc, hb, h⟩
    cases before with
    | nil =>
      cases hc
      exact Or.inl h
    | cons first before =>
      cases hc
      rw [List.forall_mem_cons] at hb
      exact Or.inr ⟨hb.1, before, b, after, rfl, hb.2, h⟩
  · rintro (h | ⟨ha, before, b, after, rfl, hb, h⟩)
    · exact ⟨[], a, rest, rfl, by simp, h⟩
    · exact ⟨a :: before, b, after, rfl, List.forall_mem_cons.2 ⟨ha, hb⟩, h⟩

end PlanCode
