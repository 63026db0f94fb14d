import PlanCode.Proofs.Plan.Convertible

/-!
# Plans with times out of range

A time out of range ends a conversion for good, unless something else has ended
it before. Elements are converted in the order of the document, each before its
children, so it can be told from the plan which of the two comes first.

* `ends_attach_call`: children are given to calls without any time.
* `ends_convertChildren_range`, `ends_convertElement_range`: what ends a conversion for good.
* `generate_eq_overflow`: which plans have a time out of range that their conversion comes to.
-/
namespace PlanCode

namespace Element

/-- The conversion of an element at a place comes to a time out of range before anything else makes
it fail. -/
inductive Overruns (s : Settings) : Place → Element → Prop where
  | own {p : Place} {e : Element} {k : ElementKind} (hk : k.isKindOf e = true)
    (ho : k.Overruns e) : Overruns s p e
  | child {p : Place} {e child : Element} {k : ElementKind} {before after : List Element}
    (hk : k.isKindOf e = true) (hclear : Convert.IsClear k e)
    (he : e.isKept s p.keepsFragments = true) (hc : e.children = before ++ child :: after)
    (hb : ∀ b ∈ before, ¬ Spoils s (p.below true) k b) (h : Overruns s (p.below true) child) :
    Overruns s p e

/-- Among some children one leads to a time out of range, and none before it spoils the parent. -/
def FirstOverruns (s : Settings) (q : Place) (k : ElementKind) : List Element → Prop :=
  ComesTo (¬ Spoils s q k ·) (Overruns s q)

variable {s : Settings} {p q : Place} {k : ElementKind} {e : Element}

theorem overruns_iff (hk : k.isKindOf e = true) : Overruns s p e ↔ k.Overruns e ∨
    Convert.IsClear k e ∧ e.isKept s p.keepsFragments = true ∧
      FirstOverruns s (p.below true) k e.children := by
  constructor
  · intro h
    cases h with
    | own hk' ho =>
      obtain rfl := ElementKind.eq_of_isKindOf hk hk'
      exact Or.inl ho
    | child hk' hclear he hc hb h =>
      obtain rfl := ElementKind.eq_of_isKindOf hk hk'
      exact Or.inr ⟨hclear, he, _, _, _, hc, hb, h⟩
  · rintro (ho | ⟨hclear, he, _, _, _, hc, hb, h⟩)
    · exact .own hk ho
    · exact .child hk hclear he hc hb h

theorem not_overruns_of_unknown (hk : e.isKnown = false) : ¬ Overruns s p e := by
  have hnot : ∀ k : ElementKind, k.isKindOf e ≠ true := fun k h => by
    rw [isKnown_of_isKindOf h] at hk
    cases hk
  intro h
  cases h with
  | own hk' => exact hnot _ hk'
  | child hk' => exact hnot _ hk'

theorem firstOverruns_cons {rest : List Element} : FirstOverruns s q k (e :: rest) ↔
    Overruns s q e ∨ ¬ Spoils s q k e ∧ FirstOverruns s q k rest := comesTo_cons

/-- The kinds of elements that have times have no flags. -/
theorem flagKeys_of_overruns (h : k.Overruns e) : k.flagKeys = [] := by
  cases k <;> first | rfl | exact h.elim

end Element

namespace Generator

open Element

variable {g : Generator} {p q : Place} {k : ElementKind}

theorem ends_attach_call (g : Generator) (call : Option (Draft Node)) (c : Converted) :
    Ends (g.attach call c) (fun _ => True) (· ≠ .durationOverflow) := by
  unfold attach
  cases call with
  | none => exact .ok trivial
  | some d =>
    dsimp only
    split
    · exact .ok trivial
    · split
      · exact .ok trivial
      · cases d.addChild g.surface c.node with
        | ok d' => exact .ok trivial
        | error e => exact .error nofun

variable (hall : g.kinds = ElementKind.all) (hs : g.surface = Surface.standard)

include hall hs

/-- Children are converted and taken in order, so what ends their conversion is the first of them
that leads to a time out of range or spoils the parent. -/
theorem ends_convertChildren_range (hq : q ≠ .root) {es : List Element}
    (ih : ∀ child ∈ es, Ends (g.convertElement q child) (fun _ => ¬ Overruns g.settings q child)
      fun error => error = .durationOverflow ↔ Overruns g.settings q child)
    {call : Option (Draft Node)} (hcall : Receives k call) :
    Ends (g.convertChildren q call es) (fun _ => ¬ FirstOverruns g.settings q k es)
      fun error => error = .durationOverflow ↔ FirstOverruns g.settings q k es := by
  induction es generalizing call with
  | nil =>
    rw [convertChildren]
    exact .ok (not_comesTo_nil _ _)
  | cons e rest ihes =>
    rw [List.forall_mem_cons] at ih
    rw [convertChildren]
    simp only [firstOverruns_cons]
    have hchild := (ends_convertElement hall hs e q).imp
      (fun _ h => h (Or.inl hq)) fun _ => Refusal.imp fun h => h (Or.inl hq)
    refine ends_bind ((ih.1.and hchild).eq_ok.imp_error ?_) ?_
    · rintro error ⟨ho, rfl | ⟨he, hf⟩⟩
      · exact iff_of_true rfl (Or.inl (ho.1 rfl))
      · have hne : error ≠ .durationOverflow := by
          rintro rfl
          cases he
        refine iff_of_false hne ?_
        rintro (h | ⟨h, -⟩)
        · exact hne (ho.2 h)
        · exact h (Or.inl hf)
    rintro c ⟨hc, hin, hclear⟩
    have htaken := (ends_attach_child hall hs hq hc hclear hcall).and (ends_attach_call g call c)
    refine ends_bind (htaken.imp_error ?_) ?_
    · rintro error ⟨hr, hne⟩
      refine iff_of_false hne ?_
      rintro (h | ⟨h, -⟩)
      · exact hin h
      · exact h (hr.resolve_left hne).2
    · rintro call ⟨⟨hcall, hspoils⟩, -⟩
      rw [or_iff_right hin, and_iff_right hspoils]
      exact ends_bind (ihes ih.2 hcall) fun _ hrest => .ok hrest

/-- The children of an element end its conversion for good exactly when one of them leads to a time
out of range and none before it spoils the element. -/
theorem ends_below_range {e : Element}
    (ih : ∀ child ∈ e.children, ∀ p, Ends (g.convertElement p child)
      (fun _ => IsSettled p child → ¬ Overruns g.settings p child)
      fun error => IsSettled p child → (error = .durationOverflow ↔ Overruns g.settings p child))
    (hk : k.isKindOf e = true) {call : Option (Draft Node)}
    (hc : k.convert g.surface e = .ok call) :
    Ends (g.convertChildren (p.below (ownCall p k e call).isSome) (ownCall p k e call) e.children)
      (fun _ => IsSettled p e → ¬ FirstOverruns g.settings (p.below true) k e.children)
      fun error => IsSettled p e →
        (error = .durationOverflow ↔ FirstOverruns g.settings (p.below true) k e.children) := by
  have hq : p.below (ownCall p k e call).isSome ≠ .root := by cases p <;> simp [Place.below]
  have hsame : IsSettled p e → p.below (ownCall p k e call).isSome = p.below true := by
    rw [isSome_ownCall]
    exact below_of_isSettled hk hc
  refine (ends_convertChildren_range hall hs hq (fun child hm => ?_)
    (receives_ownCall hs hc)).imp (fun _ h hset => hsame hset ▸ h) fun _ h hset => hsame hset ▸ h
  exact (ih child hm _).imp (fun _ h => h (Or.inl hq)) fun _ h => h (Or.inl hq)

/-- **Elements.** A time out of range ends the conversion of an element exactly when it comes to one
before anything else makes it fail. -/
theorem ends_convertElement_range (e : Element) : ∀ p, Ends (g.convertElement p e)
    (fun _ => IsSettled p e → ¬ Overruns g.settings p e)
    fun error => IsSettled p e → (error = .durationOverflow ↔ Overruns g.settings p e) := by
  induction e using children_induction with | step e ih => ?_
  intro p
  cases hk : g.kinds.find? (·.isKindOf e) with
  | none =>
    rw [convertElement_unknown p hk]
    rw [hall] at hk
    exact .ok fun _ => not_overruns_of_unknown (isKnown_eq_false.2 hk)
  | some k =>
    rw [convertElement_eq hk]
    rw [hall, ElementKind.find?_all_eq_some] at hk
    simp only [overruns_iff hk]
    have hconvert := (Convert.ends_convert k e).eq_ok
    rw [← hs] at hconvert
    refine ends_bind (hconvert.imp_error ?_) ?_
    · rintro error (⟨rfl, ho⟩ | ⟨⟨m, rfl⟩, key, hkey, hu⟩) _
      · exact iff_of_true rfl (Or.inl ho)
      · refine iff_of_false nofun ?_
        rintro (ho | ⟨hclear, -⟩)
        · rw [flagKeys_of_overruns ho] at hkey
          cases hkey
        · rw [hclear key hkey] at hu
          cases hu
    rintro call ⟨hconv, hclear, hown⟩
    rw [or_iff_right hown, and_iff_right hclear, isKept_eq hk]
    split
    · rename_i ho
      rw [Bool.and_eq_true, Bool.not_eq_true'] at ho
      exact .ok fun _ => by simp [ho.1, ho.2]
    · rename_i ho
      have hkept : (!isOff p k e || g.settings.commentDisabled) = true := by
        cases hoff : isOff p k e with
        | false => rfl
        | true => simpa [hoff] using ho
      rw [and_iff_right hkept]
      exact ends_bind (ends_below_range hall hs ih hk hconv) fun _ h => .ok h

/-- **Plans.** The class of a plan that has a call fails for good exactly when its conversion comes
to a time out of range before anything else makes it fail. -/
theorem generate_eq_overflow {plan : Element} (hcall : plan.hasCall = true) :
    g.generate plan = .error .durationOverflow ↔ Overruns g.settings .root plan := by
  rw [generate_eq]
  have h := ends_convertElement_range hall hs plan .root
  cases hc : g.convertElement .root plan with
  | error error =>
    rw [hc] at h
    cases h with
    | error h =>
      rw [← h (Or.inr hcall)]
      simp [bind, Except.bind]
  | ok c =>
    rw [hc] at h
    cases h with
    | ok h =>
      refine iff_of_false ?_ (h (Or.inr hcall))
      change (if c.node.isEmpty = true then _ else _) ≠ _
      split
      · exact nofun
      · exact nofun

end Generator
end PlanCode
