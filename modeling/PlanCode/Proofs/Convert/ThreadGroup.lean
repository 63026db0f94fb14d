import PlanCode.Convert.ThreadGroup
import PlanCode.Proofs.Yields

/-!
# Thread groups, call by call

A thread group becomes one flat call, or a call to which those of its schedule are
chained. What is true of the result is shown for each of these calls alone, with
what it finds and what it leaves; the ways through the conversion are followed
here.

* `ends_threadGroup_of`: what the calls keep is true of the thread group.
-/
namespace PlanCode.Convert

variable {surface : Surface} {P Q : Draft Node → Prop} {E : ConversionError → Prop}

/-- What the calls of a schedule keep: `P` up to the last one, which makes it `Q`. -/
structure Keeps (surface : Surface) (P Q : Draft Node → Prop) (E : ConversionError → Prop)
    (a : ThreadGroupArguments) : Prop where
  started : Ends (start surface "threadGroup" (literals [a.name])) P E
  holdFor : ∀ d, P d → Ends (chain surface "holdFor" [a.delay] d) P E
  rampTo : ∀ d, P d → Ends (chain surface "rampTo" [a.threads, a.rampUp] d) P E
  holdIterating : ∀ iterations, iterations = .number (-1) ∨ iterations = a.iterations →
    ∀ d, P d → Ends (chain surface "holdIterating" [iterations] d) P E
  /-- Without a duration there is no time to hold. -/
  endless : isDefaultOrZero a.duration = true → ∀ d, P d → Q d
  upTo : isDefaultOrZero a.duration = false → ∀ d, P d → Ends (do
    let (hold, d) ← holdTime a d
    chain surface "upTo" [hold] d) Q E
  rampToAndHold : isDefaultOrZero a.duration = false → ∀ d, P d → Ends (do
    let (hold, d) ← holdTime a d
    chain surface "rampToAndHold" [a.threads, a.rampUp, hold] d) Q E

/-- The one call of a schedule that needs no others. -/
def flatCall (surface : Surface) (a : ThreadGroupArguments) : Conversion :=
  start surface "threadGroup" (literals [a.name, a.threads,
    if isDefaultOrZero a.duration then a.iterations else a.duration] ++
      [noChildren "ThreadGroupChild[]"])

/-- **Thread groups.** A thread group ends as its flat call does, or as its calls keep it. -/
theorem ends_threadGroup_of {e : Element} {A : ThreadGroupArguments → Prop}
    (read : Ends (threadGroupArguments e) A E)
    (flat : ∀ a, A a → a.isFlat = true → Ends (flatCall surface a) Q E)
    (chained : ∀ a, A a → Keeps surface P Q E a.uniform) :
    Ends (threadGroup surface e) Q E := by
  refine ends_bind read fun a ha => ?_
  split
  · rename_i hf
    exact flat a ha hf
  · have h := chained a ha
    generalize a.uniform = a at h
    refine ends_bind h.started fun d hd => ?_
    extract_lets iterations run
    have hr : ∀ d, P d → Ends (run d) Q E := by
      intro d hd
      unfold run
      split
      · refine ends_bind (h.rampTo d hd) fun d hd => ?_
        have hi : iterations = .number (-1) ∨ iterations = a.iterations := by
          unfold iterations
          split
          · exact Or.inl rfl
          · exact Or.inr rfl
        refine ends_bind (h.holdIterating iterations hi d hd) fun d hd => ?_
        split
        · rename_i hz
          exact .ok (h.endless hz d hd)
        · rename_i hz
          exact h.upTo (Bool.eq_false_iff.2 hz) d hd
      · rename_i hz
        rw [Bool.or_eq_true, not_or] at hz
        exact h.rampToAndHold (Bool.eq_false_iff.2 hz.2) d hd
    split
    · exact ends_bind (.ok hd) hr
    · exact ends_bind (h.holdFor d hd) hr

end PlanCode.Convert
