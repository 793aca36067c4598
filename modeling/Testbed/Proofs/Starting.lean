/-
This file proves how the start of an environment ends. Either everything is there that is required,
or the error of the provisioning is reported as it is, after all that was made ready has been taken
away again. The teardown makes no probes, so the probes of a start are those of its provisioning:
no more than the budget for each check, with two checks for a topic and one for a store.
-/

import Testbed.Proofs.Stopping

namespace Testbed.Environment

open Session

variable {settings : Settings} {required : RequiredResources} {environment : Environment}
  {exchanges : List (Exchange Action Reply)}

/-! ### Teardowns are quiet -/

section Avoids

variable {kind : Action → Bool}

theorem avoids_describing {Failure : Type} (name : String) (describe : Failure → String)
    {work : Work (Except Failure Unit)} (avoids : Avoids kind work) :
    Avoids kind (TeardownStep.describing name describe work).run := by
  refine avoids.bind fun result => ?_
  cases result <;> exact avoids_done _

theorem avoids_composeRun (other : ∀ arguments, kind (.compose arguments) = false)
    (compose : ComposeProject) (action : String) (arguments : List String) :
    Avoids kind (compose.run action arguments) := by
  refine (avoids_ask _ (other _)).bind fun answer => ?_
  rcases answer with cause | ⟨status, complaint⟩
  · exact avoids_done _
  · simp only []
    split <;> exact avoids_done _

/-- A step that takes something away other than the rows of the relational store. -/
theorem avoids_step (requests : ∀ request, kind (.request request) = false)
    (deletions : ∀ admin name, kind (.deleteTopic admin name) = false)
    (composes : ∀ arguments, kind (.compose arguments) = false)
    (notes : ∀ level message fields,
      kind (.note { level, target := "lake.env", message, fields }) = false)
    {removal : Removal} (unrelated : ∀ store, removal ≠ .relational store) :
    Avoids kind (removal.step required).run := by
  cases removal with
  | series store =>
    refine avoids_describing _ _ ((avoids_seriesSend requests _ _ _ _ _).bind fun deleted => ?_)
    cases deleted with
    | error error => exact avoids_done _
    | ok response => exact (avoids_ask _ (notes _ _ _)).bind fun _ => avoids_done _
  | relational store => exact absurd rfl (unrelated store)
  | topic admin name =>
    refine avoids_describing _ _ ((avoids_ask _ (deletions _ _)).bind fun answer => ?_)
    cases answer with
    | error cause => exact avoids_done _
    | ok results => exact avoids_noteDeletions notes results
  | compose project =>
    exact avoids_describing _ _
      ((avoids_ask _ (notes _ _ _)).bind fun _ => avoids_composeRun composes _ _ _)

end Avoids

/-- Nothing is probed while something is taken away. -/
theorem quiet_step (removal : Removal) : Quiet (removal.step required).run := by
  have unrelated : (∀ store, removal ≠ .relational store) → Quiet (removal.step required).run :=
    avoids_step (fun _ => rfl) (fun _ _ => rfl) (fun _ => rfl) fun _ _ _ => rfl
  cases removal with
  | relational store =>
    refine avoids_describing _ _ ((onlyStates_clearRelational store _).quiet.bind fun cleared => ?_)
    exact (avoids_ask _ rfl).bind fun _ => avoids_done _
  | _ => exact unrelated nofun

theorem probesIn_of_ranSteps {steps : List TeardownStep} {results : List (Except String Unit)}
    (quiet : ∀ step ∈ steps, Quiet step.run) (ran : Teardown.RanSteps steps exchanges results) :
    probesIn exchanges = 0 := by
  induction ran with
  | nil => rfl
  | cons step rest own others result results first tail inductionHypothesis =>
    have noted : notesAttempt (Teardown.stepNoted step result).action = false := by
      cases result <;> rfl
    rw [probesIn_append, (quiet step List.mem_cons_self).probesIn_eq_zero first, probesIn_cons,
      noted, inductionHypothesis fun other member => quiet other (List.mem_cons_of_mem _ member)]
    rfl

/-- Nothing is probed while everything is taken away. -/
theorem TakenAway.probesIn_eq_zero {removals : List Removal}
    (takenAway : TakenAway required removals exchanges) : probesIn exchanges = 0 := by
  obtain ⟨own, results, ran, rfl⟩ := takenAway
  have noted : notesAttempt (stopNoted (Teardown.failures results)).action = false := by
    unfold stopNoted
    split <;> rfl
  rw [probesIn_append, probesIn_cons, noted, probesIn_of_ranSteps ?_ ran]
  · rfl
  · intro step member
    obtain ⟨removal, -, rfl⟩ := List.mem_map.1 member
    exact quiet_step removal

/-! ### The start -/

/-- The exchange that notes that an environment is ready. -/
def readyNoted (environment : Environment) : Exchange Action Reply :=
  noted .info "lake.env" "Environment ready"
    [("topics", .number environment.topics.length),
      ("postgres", .truth environment.table.isSome),
      ("series_store", .truth environment.seriesHandle.isSome)]

/-- The exchange that notes that an environment can not be made ready. -/
def failureNoted (error : ProvisioningError) : Exchange Action Reply :=
  noted .warn "lake.env" "Environment start failed, tearing down" [("error", .text error.message)]

/-- How an environment is started: its provisioning succeeds, or what was made ready is taken away
again. -/
inductive Started (settings : Settings) (required : RequiredResources) :
    List (Exchange Action Reply) → Except ProvisioningError Environment → Prop where
  | ready (provisioning : List (Exchange Action Reply)) (environment : Environment)
      (run : Runs (make settings required).provision provisioning (.ok (), environment)) :
      Started settings required (provisioning ++ [environment.readyNoted]) (.ok environment)
  | failed (provisioning teardown : List (Exchange Action Reply)) (error : ProvisioningError)
      (environment stopped : Environment)
      (run : Runs (make settings required).provision provisioning (.error error, environment))
      (stopping : Runs environment.stop teardown stopped) :
      Started settings required (provisioning ++ failureNoted error :: teardown) (.error error)

theorem runs_start_iff (result : Except ProvisioningError Environment) :
    Runs (start settings required) exchanges result ↔
      Started settings required exchanges result := by
  constructor
  · intro run
    obtain ⟨provisioning, ⟨provisioned, environment⟩, rest, rfl, first, second⟩ :=
      (runs_bind_iff _ _ _ _).1 run
    cases provisioned with
    | ok done =>
      obtain ⟨rfl, rfl⟩ := (runs_note_done_iff _ _ _ _ _ _ _).1 second
      exact .ready provisioning environment first
    | error error =>
      obtain ⟨_, others, rfl, third⟩ := (runs_act_bind_iff _ _ _ _).1 second
      obtain ⟨stopped, stopping, rfl⟩ := (runs_bind_done_iff _ _ _ _).1 third
      exact .failed provisioning others error environment stopped first stopping
  · intro started
    cases started with
    | ready provisioning environment run =>
      exact run.bind ((runs_note_done_iff _ _ _ _ _ _ _).2 ⟨rfl, rfl⟩)
    | failed provisioning teardown error environment stopped run stopping =>
      exact run.bind ((runs_act_bind_iff _ _ _ _).2
        ⟨(), teardown, rfl, (runs_bind_done_iff _ _ _ _).2 ⟨stopped, stopping, rfl⟩⟩)

end Testbed.Environment
