/-
This file proves that a teardown runs each of its steps once, the newest first, whatever becomes of
the others. The exchanges of a run are those of the steps, one after another, each with the note of
what became of it, and the number that the run gives is the number of steps that failed.
-/

import Testbed.Proofs.Runs
import Testbed.Teardown

namespace Testbed.Teardown

open Session

/-- A step whose failures have words of their own runs as its work does. -/
theorem runs_describing_iff {Failure : Type} (name : String) (describe : Failure → String)
    (work : Work (Except Failure Unit)) (exchanges : List (Exchange Action Reply))
    (result : Except String Unit) :
    Runs (TeardownStep.describing name describe work).run exchanges result ↔
      ∃ worked, Runs work exchanges worked ∧ result = worked.mapError describe := by
  have turned : (TeardownStep.describing name describe work).run =
      work.bind fun worked => Session.done (worked.mapError describe) := by
    refine congrArg work.bind (funext fun worked => ?_)
    cases worked <;> rfl
  rw [turned, runs_bind_done_iff]

/-- The exchange that notes what became of a step. -/
def stepNoted (step : TeardownStep) : Except String Unit → Exchange Action Reply
  | .ok () => noted .debug "lake.env" "Cleanup step done" [("step", .text step.name)]
  | .error cause =>
    noted .warn "lake.env" "Cleanup step failed" [("step", .text step.name), ("error", .text cause)]

/-- These steps ran in these exchanges, each to its end and with its own result. -/
inductive RanSteps :
    List TeardownStep → List (Exchange Action Reply) → List (Except String Unit) → Prop where
  | nil : RanSteps [] [] []
  | cons (step : TeardownStep) (rest : List TeardownStep)
      (own others : List (Exchange Action Reply)) (result : Except String Unit)
      (results : List (Except String Unit)) (first : Runs step.run own result)
      (tail : RanSteps rest others results) :
      RanSteps (step :: rest) (own ++ stepNoted step result :: others) (result :: results)

/-- Steps that ran in sequence ran in two parts, wherever they are cut. -/
theorem RanSteps.split {first second : List TeardownStep}
    {exchanges : List (Exchange Action Reply)} {results : List (Except String Unit)}
    (ran : RanSteps (first ++ second) exchanges results) :
    ∃ before after earlier later, exchanges = before ++ after ∧
      RanSteps first before earlier ∧ RanSteps second after later := by
  induction first generalizing exchanges results with
  | nil => exact ⟨[], exchanges, [], results, rfl, .nil, ran⟩
  | cons step rest inductionHypothesis =>
    cases ran with
    | cons _ _ own others result results run tail =>
      obtain ⟨before, after, earlier, later, rfl, ranFirst, ranSecond⟩ := inductionHypothesis tail
      refine ⟨own ++ stepNoted step result :: before, after, result :: earlier, later, ?_,
        .cons _ _ _ _ _ _ run ranFirst, ranSecond⟩
      rw [List.append_assoc, List.cons_append]

/-- Steps that ran, and then others, ran in sequence. -/
theorem RanSteps.append {first second : List TeardownStep}
    {before after : List (Exchange Action Reply)} {earlier later : List (Except String Unit)}
    (ranFirst : RanSteps first before earlier) (ranSecond : RanSteps second after later) :
    RanSteps (first ++ second) (before ++ after) (earlier ++ later) := by
  induction ranFirst with
  | nil => exact ranSecond
  | cons step rest own others result results run tail inductionHypothesis =>
    rw [List.append_assoc, List.cons_append]
    exact .cons _ _ _ _ _ _ run inductionHypothesis

/-- The number of steps that failed. -/
def failures (results : List (Except String Unit)) : Nat :=
  results.countP (!·.isOk)

theorem runs_runStep_iff (step : TeardownStep) (exchanges : List (Exchange Action Reply))
    (failed : Nat) :
    Runs (runStep step) exchanges failed ↔
      ∃ own result, exchanges = own ++ [stepNoted step result] ∧ Runs step.run own result ∧
        failed = failures [result] := by
  unfold runStep
  rw [bind_eq, runs_bind_iff]
  constructor
  · rintro ⟨own, result, after, rfl, first, second⟩
    refine ⟨own, result, ?_⟩
    cases result with
    | ok done =>
      obtain ⟨rfl, rfl⟩ := (runs_note_done_iff _ _ _ _ _ _ _).1 second
      exact ⟨rfl, first, rfl⟩
    | error cause =>
      obtain ⟨rfl, rfl⟩ := (runs_note_done_iff _ _ _ _ _ _ _).1 second
      exact ⟨rfl, first, rfl⟩
  · rintro ⟨own, result, rfl, first, rfl⟩
    refine ⟨own, result, _, rfl, first, ?_⟩
    cases result with
    | ok done => exact (runs_note_done_iff _ _ _ _ _ _ _).2 ⟨rfl, rfl⟩
    | error cause => exact (runs_note_done_iff _ _ _ _ _ _ _).2 ⟨rfl, rfl⟩

/-- Running steps one after another runs every one of them and counts those that failed. -/
theorem runs_runSteps_iff (steps : List TeardownStep) (exchanges : List (Exchange Action Reply))
    (failed : Nat) :
    Runs (runSteps steps) exchanges failed ↔
      ∃ results, RanSteps steps exchanges results ∧ failed = failures results := by
  induction steps generalizing exchanges failed with
  | nil =>
    unfold runSteps
    rw [pure_eq, runs_done_iff]
    constructor
    · rintro ⟨rfl, rfl⟩
      exact ⟨[], .nil, rfl⟩
    · rintro ⟨results, ran, rfl⟩
      cases ran
      exact ⟨rfl, rfl⟩
  | cons step rest inductionHypothesis =>
    unfold runSteps
    rw [bind_eq, runs_bind_iff]
    have added (result : Except String Unit) (results : List (Except String Unit)) :
        failures (result :: results) = failures [result] + failures results := by
      show failures ([result] ++ results) = _
      exact List.countP_append
    constructor
    · rintro ⟨before, _, after, rfl, first, second⟩
      obtain ⟨own, result, rfl, run, rfl⟩ := (runs_runStep_iff _ _ _).1 first
      obtain ⟨_, others, rfl⟩ := (runs_bind_done_iff _ _ _ _).1 second
      obtain ⟨results, ran, rfl⟩ := (inductionHypothesis _ _).1 others
      refine ⟨result :: results, ?_, (added result results).symm⟩
      rw [List.append_assoc]
      exact .cons _ _ _ _ _ _ run ran
    · rintro ⟨_, ran, rfl⟩
      cases ran with
      | cons _ _ own others result results run tail =>
        refine ⟨own ++ [stepNoted step result], failures [result], others, ?_, ?_, ?_⟩
        · rw [List.append_assoc]
          rfl
        · exact (runs_runStep_iff _ _ _).2 ⟨own, result, rfl, run, rfl⟩
        · exact (runs_bind_done_iff _ _ _ _).2
            ⟨_, (inductionHypothesis _ _).2 ⟨results, tail, rfl⟩, added result results⟩

/-- A teardown runs its steps, the newest first, and leaves the stack empty. -/
theorem runs_run_iff (teardown left : Teardown) (exchanges : List (Exchange Action Reply))
    (failed : Nat) :
    Runs teardown.run exchanges (failed, left) ↔
      left = empty ∧
        ∃ results, RanSteps teardown.newestFirst exchanges results ∧ failed = failures results := by
  unfold run
  simp only [bind_eq, pure_eq, runs_bind_done_iff, Prod.mk.injEq]
  constructor
  · rintro ⟨_, ran, rfl, rfl⟩
    exact ⟨rfl, (runs_runSteps_iff _ _ _).1 ran⟩
  · rintro ⟨rfl, ran⟩
    exact ⟨failed, (runs_runSteps_iff _ _ _).2 ran, rfl, rfl⟩

end Testbed.Teardown
