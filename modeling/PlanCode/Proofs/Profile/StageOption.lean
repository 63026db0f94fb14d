import PlanCode.CommandLine.StageOption
import PlanCode.Failure

/-!
# Stages in one text

An option joins the parts of a stage by colons and splits them there again. Any part may be an
expression, but an expression that holds a colon comes apart with the option.

* `agrees_read`: an option of at most three parts is the stage of these, blank where one is missing.
* `parts_joined`: the parts of an option are those of each of the texts that it joins.
* `agrees_joined_iff`: when a joined option stands for the values that it was joined from.
-/
namespace PlanCode

/-! ## Outcomes -/

/-- Whether values are refused. A duration that is out of range ends the run instead. -/
def StageError.isRefusal : StageError → Bool
  | .durationOverflow => false
  | _ => true

theorem StageError.isRefusal_iff {e : StageError} :
    e.isRefusal = true ↔ (Failure.stage e).reportName? = some "ValueError" := by
  cases e <;> simp [isRefusal, Failure.reportName?]

namespace StageOption

def OptionError.isRefusal : OptionError → Bool
  | .badForm _ => true
  | .badStage _ e => e.isRefusal

/-- An option stands for the same stage as values, or is refused where they are. -/
inductive Agrees : Except OptionError Stage → Except StageError Stage → Prop where
  | stage (s : Stage) : Agrees (.ok s) (.ok s)
  | failure {e : OptionError} {e' : StageError} (h : e.isRefusal = e'.isRefusal) :
    Agrees (.error e) (.error e')

theorem agrees_badForm_iff {value : String} {outcome : Except StageError Stage} :
    Agrees (.error (.badForm value)) outcome ↔ ∃ e, outcome = .error e ∧ e.isRefusal = true := by
  constructor
  · rintro ⟨⟩
    rename_i e h
    exact ⟨e, rfl, h.symm⟩
  · rintro ⟨e, rfl, h⟩
    exact .failure h.symm

theorem agrees_ite {p : Prop} [Decidable p] {value : String} {outcome : Except StageError Stage}
    (h : p → ∃ e, outcome = .error e ∧ e.isRefusal = true) :
    Agrees (if p then .error (.badForm value) else outcome.mapError (.badStage value)) outcome := by
  split
  · rename_i hp
    exact agrees_badForm_iff.2 (h hp)
  · cases outcome with
    | ok s => exact .stage s
    | error e => exact .failure rfl

/-! ## Options of few parts -/

theorem parts_ne_nil (value : String) : parts value ≠ [] := by
  simpa [parts] using Text.splitOnChar_ne_nil ':' value.toList

/-- The stage of parts, of which those that are missing are blank. -/
def ofParts (given : List String) : Except StageError Stage :=
  Stage.ofValues (.text (given.getD 0 "")) (.text (given.getD 1 "")) (.text (given.getD 2 ""))

theorem ofParts_blank {given : List String} (h : Text.trim (given.getD 0 "") = "") :
    ofParts given = .error .missingThreads := by
  have hc : Stage.countOf (.text (given.getD 0 "")) = .ok none := by
    rw [Stage.countOf, h]
    rfl
  rw [ofParts, Stage.ofValues, hc]
  rfl

theorem read_of_length_le {value : String} (h : (parts value).length ≤ 3) :
    read value = if Text.trim ((parts value).getD 0 "") = "" then .error (.badForm value)
      else (ofParts (parts value)).mapError (.badStage value) := by
  unfold read
  match hp : parts value with
  | [] => exact absurd hp (parts_ne_nil value)
  | [_] | [_, _] | [_, _, _] => rfl
  | _ :: _ :: _ :: _ :: _ =>
    rw [hp] at h
    simp only [List.length_cons] at h
    omega

theorem agrees_read {value : String} (h : (parts value).length ≤ 3) :
    Agrees (read value) (ofParts (parts value)) := by
  rw [read_of_length_le h]
  exact agrees_ite fun hblank => ⟨_, ofParts_blank hblank, rfl⟩

theorem read_of_length {value : String} (h : 3 < (parts value).length) :
    read value = .error (.badForm value) := by
  unfold read
  dsimp only
  split <;> simp_all

/-! ## Joined options -/

/-- The parts of a stage as they stand in one option. -/
def joined (threads duration iterations : String) : String :=
  threads ++ ":" ++ duration ++ ":" ++ iterations

theorem parts_append (s t : String) : parts (s ++ ":" ++ t) = parts s ++ parts t := by
  have hl : (s ++ ":" ++ t).toList = s.toList ++ ':' :: t.toList := by simp
  rw [parts, hl, Text.splitOnChar_append_sep, List.map_append]
  rfl

theorem parts_joined (threads duration iterations : String) :
    parts (joined threads duration iterations) =
      parts threads ++ (parts duration ++ parts iterations) := by
  unfold joined
  rw [parts_append, parts_append, List.append_assoc]

/-- A text is one part unless it holds a colon. -/
theorem parts_of_not_mem {s : String} (h : ':' ∉ s.toList) : parts s = [s] := by
  rw [parts, Text.splitOnChar_of_not_mem h]
  simp

theorem one_lt_length_parts {s : String} (h : ':' ∈ s.toList) : 1 < (parts s).length := by
  obtain ⟨a, b, hs⟩ := List.append_of_mem h
  have ha := List.length_pos_iff.2 (Text.splitOnChar_ne_nil ':' a)
  have hb := List.length_pos_iff.2 (Text.splitOnChar_ne_nil ':' b)
  rw [parts, hs, Text.splitOnChar_append_sep, List.length_map, List.length_append]
  omega

theorem read_joined_of_mem {threads duration iterations : String}
    (h : ∃ part ∈ [threads, duration, iterations], ':' ∈ part.toList) :
    read (joined threads duration iterations) =
      .error (.badForm (joined threads duration iterations)) := by
  have hpos : ∀ s, 0 < (parts s).length := fun s => List.length_pos_iff.2 (parts_ne_nil s)
  have ht := hpos threads
  have hd := hpos duration
  have hi := hpos iterations
  refine read_of_length ?_
  rw [parts_joined, List.length_append, List.length_append]
  obtain ⟨part, hp, hc⟩ := h
  have hpart := one_lt_length_parts hc
  simp only [List.mem_cons, List.not_mem_nil, or_false] at hp
  rcases hp with rfl | rfl | rfl <;> omega

theorem parts_joined_of_not_mem {threads duration iterations : String}
    (h : ∀ part ∈ [threads, duration, iterations], ':' ∉ part.toList) :
    parts (joined threads duration iterations) = [threads, duration, iterations] := by
  simp only [List.forall_mem_cons] at h
  rw [parts_joined, parts_of_not_mem h.1, parts_of_not_mem h.2.1, parts_of_not_mem h.2.2.1]
  rfl

theorem mapError_ne_badForm {value : String} {outcome : Except StageError Stage} :
    outcome.mapError (OptionError.badStage value) ≠ .error (.badForm value) := by
  intro h
  cases outcome with
  | error e => cases h
  | ok s => cases h

/-- **Joined options.** An option joined from the three parts of a stage stands for these parts
exactly when there is no colon in them, or when they are refused as they are. A colon in a part, or
blank threads, and nothing else has the option refused for its form. -/
theorem agrees_joined_iff (threads duration iterations : String) :
    (Agrees (read (joined threads duration iterations))
        (Stage.ofValues (.text threads) (.text duration) (.text iterations)) ↔
      (∀ part ∈ [threads, duration, iterations], ':' ∉ part.toList) ∨
        ∃ e, Stage.ofValues (.text threads) (.text duration) (.text iterations) = .error e ∧
          e.isRefusal = true) ∧
    (read (joined threads duration iterations) =
        .error (.badForm (joined threads duration iterations)) ↔
      (∃ part ∈ [threads, duration, iterations], ':' ∈ part.toList) ∨
        Text.trim threads = "") := by
  by_cases h : ∃ part ∈ [threads, duration, iterations], ':' ∈ part.toList
  · rw [read_joined_of_mem h, agrees_badForm_iff]
    refine ⟨(or_iff_right ?_).symm, iff_of_true rfl (Or.inl h)⟩
    obtain ⟨part, hp, hc⟩ := h
    exact fun hno => hno part hp hc
  · have hno : ∀ part ∈ [threads, duration, iterations], ':' ∉ part.toList :=
      fun part hp hc => h ⟨part, hp, hc⟩
    have hparts := parts_joined_of_not_mem hno
    have hlength : (parts (joined threads duration iterations)).length ≤ 3 := by simp [hparts]
    have hagrees := agrees_read hlength
    rw [hparts] at hagrees
    refine ⟨iff_of_true hagrees (Or.inl hno), ?_⟩
    rw [read_of_length_le hlength, hparts, or_iff_right h, List.getD_cons_zero]
    by_cases hblank : Text.trim threads = ""
    · rw [if_pos hblank]
      exact iff_of_true rfl hblank
    · rw [if_neg hblank]
      exact iff_of_false mapError_ne_badForm hblank

/-- The time of day as the number of threads. -/
theorem not_agrees_clock : ¬ Agrees (read (joined "${__time(HH:mm)}" "" ""))
    (Stage.ofValues (.text "${__time(HH:mm)}") (.text "") (.text "")) := by
  rw [read_joined_of_mem ⟨_, List.mem_cons_self .., by decide⟩, agrees_badForm_iff]
  rintro ⟨e, he, -⟩
  have hok : (Stage.ofValues (.text "${__time(HH:mm)}") (.text "") (.text "")).toOption =
      some { threads := .expression "${__time(HH:mm)}" } := by decide +kernel
  rw [he] at hok
  cases hok

example : (read "5:${__time(HH:mm)}").toOption = some
    { threads := .number 5, duration := some (.expression "$\x7b__time(HH"),
      iterations := some (.expression "mm)\x7d") } := by decide +kernel

end StageOption
end PlanCode
