/-
This file proves what starting a service in a scope does to the scope. A launch that has no plan
asks for nothing and registers nothing. A launch with a plan spawns one child and registers one
process, which runs if the child was spawned and is stopped if it was not. Either way it stands
behind the processes that were there, and finishing the scope stops it before them.
-/

import Testbed.Proofs.ScopedRuns
import Testbed.Proofs.Secrecy

namespace Testbed

open Session

variable {exchanges : List (Exchange Action Reply)}

/-! ### Spawning a process -/

namespace Process

/-- The exchange that notes that a process was spawned. -/
def startedNoted (process : Process) (id : Nat) : Exchange Action Reply :=
  noted .info "lake.process" "Service started"
    [process.roleField, ("pid", .text (Text.inspectOption (some (toString id)))),
      ("args", .text (inspectArguments process.arguments))]

/-- What becomes of a process that is spawned by a command: it is stopped or runs, and nothing else
of it changes. -/
inductive Spawned (process : Process) (command : Outside.Command) :
    List (Exchange Action Reply) → Except LaunchError Unit → Process → Prop where
  | refused (cause : String) :
      Spawned process command [⟨.spawn command, .error cause⟩]
        (.error (.spawn process.role process.path cause)) { process with stage := .stopped }
  | started (id : Nat) :
      Spawned process command [⟨.spawn command, .ok id⟩, process.startedNoted id] (.ok ())
        { process with stage := .running { id } }

theorem runs_spawn_iff {process after : Process} {command : Outside.Command}
    {result : Except LaunchError Unit} (isCreated : process.stage = .created command) :
    Runs process.spawn exchanges (result, after) ↔
      Spawned process command exchanges result after := by
  unfold spawn spawnCreated
  rw [isCreated]
  refine (runs_act_bind_iff _ _ _ _).trans ⟨?_, ?_⟩
  · rintro ⟨reply, rest, rfl, run⟩
    cases reply with
    | error cause =>
      obtain ⟨rfl, rfl, rfl⟩ := (runs_done_pair_iff _ _ _ _ _).1 run
      exact .refused cause
    | ok id =>
      obtain ⟨rfl, same⟩ := (runs_note_done_iff _ _ _ _ _ _ _).1 run
      obtain ⟨rfl, rfl⟩ := Prod.mk.inj same
      exact .started id
  · intro spawned
    cases spawned with
    | refused cause => exact ⟨.error cause, [], rfl, .done _⟩
    | started id => exact ⟨.ok id, _, rfl, (runs_note_done_iff _ _ _ _ _ _ _).2 ⟨rfl, rfl⟩⟩

end Process

/-! ### Starting a service -/

namespace Manager

variable {manager : Manager} {launch : Launch}

/-- The command by which the process for a plan is spawned. -/
def command (manager : Manager) (plan : Plan) : Outside.Command where
  path := manager.executable plan.role
  arguments := plan.arguments
  bindings := manager.childVariables plan

theorem runs_prepare_of_error_iff {error : LaunchError} {result : Except LaunchError Process}
    (isError : launch.render = .error error) :
    Runs (manager.prepare launch) exchanges result ↔ exchanges = [] ∧ result = .error error := by
  unfold prepare
  rw [isError]
  exact runs_done_iff _ _ _

theorem runs_prepare_of_ok_iff {plan : Plan} {result : Except LaunchError Process}
    (isPlan : launch.render = .ok plan) :
    Runs (manager.prepare launch) exchanges result ↔
      exchanges = [manager.preparedNoted plan] ∧ result = .ok (manager.process plan) := by
  unfold prepare
  rw [isPlan]
  exact runs_note_done_iff _ _ _ _ _ _ _

/-- A launch without a plan is not started either. -/
theorem runs_start_of_error_iff {error : LaunchError} {result : Except LaunchError Process}
    (isError : launch.render = .error error) :
    Runs (manager.start launch) exchanges result ↔ exchanges = [] ∧ result = .error error := by
  refine (runs_bind_iff _ _ _ _).trans ⟨?_, ?_⟩
  · rintro ⟨before, prepared, rest, rfl, first, second⟩
    obtain ⟨rfl, rfl⟩ := (runs_prepare_of_error_iff isError).1 first
    exact (runs_done_iff _ _ _).1 second
  · rintro ⟨rfl, rfl⟩
    exact ⟨[], _, [], rfl, (runs_prepare_of_error_iff isError).2 ⟨rfl, rfl⟩, .done _⟩

end Manager

namespace Scope

/-- What becomes of a service that is started: which processes are registered for it, if any. -/
inductive ServiceStarted (manager : Manager) (launch : Launch) :
    List (Exchange Action Reply) → Except LaunchError Unit → List Process → Prop where
  | unplanned (error : LaunchError) (isError : launch.render = .error error) :
      ServiceStarted manager launch [] (.error error) []
  | planned (plan : Plan) (exchanges : List (Exchange Action Reply))
      (result : Except LaunchError Unit) (process : Process) (isPlan : launch.render = .ok plan)
      (spawned : (manager.process plan).Spawned (manager.command plan) exchanges result process) :
      ServiceStarted manager launch (manager.preparedNoted plan :: exchanges) result [process]

variable {scope after : Scope} {manager : Manager} {launch : Launch}
  {result : Except LaunchError Unit} {registered : List Process}

theorem runs_startService_iff :
    Runs (scope.startService manager launch) exchanges (result, after) ↔
      ∃ registered, after = { scope with processes := scope.processes ++ registered } ∧
        ServiceStarted manager launch exchanges result registered := by
  refine (runs_bind_iff _ _ _ _).trans ⟨?_, ?_⟩
  · rintro ⟨before, prepared, rest, rfl, first, second⟩
    cases rendered : launch.render with
    | error error =>
      obtain ⟨rfl, rfl⟩ := (Manager.runs_prepare_of_error_iff rendered).1 first
      obtain ⟨rfl, rfl, rfl⟩ := (runs_done_pair_iff _ _ _ _ _).1 second
      exact ⟨[], by rw [List.append_nil], .unplanned error rendered⟩
    | ok plan =>
      obtain ⟨rfl, rfl⟩ := (Manager.runs_prepare_of_ok_iff rendered).1 first
      obtain ⟨⟨spawned, process⟩, third, same⟩ := (runs_bind_done_iff _ _ _ _).1 second
      obtain ⟨rfl, rfl⟩ := Prod.mk.inj same
      exact ⟨[process], rfl,
        .planned plan rest _ process rendered ((Process.runs_spawn_iff rfl).1 third)⟩
  · rintro ⟨registered, rfl, started⟩
    cases started with
    | unplanned error isError =>
      rw [List.append_nil]
      exact ⟨[], _, [], rfl, (Manager.runs_prepare_of_error_iff isError).2 ⟨rfl, rfl⟩, .done _⟩
    | planned plan exchanges _ process isPlan spawned =>
      exact ⟨_, _, exchanges, rfl, (Manager.runs_prepare_of_ok_iff isPlan).2 ⟨rfl, rfl⟩,
        (runs_bind_done_iff _ _ _ _).2 ⟨_, (Process.runs_spawn_iff rfl).2 spawned, rfl⟩⟩

/-- A launch with a plan registers one process, with the variables and arguments of the plan. -/
theorem ServiceStarted.exists_process {plan : Plan} (isPlan : launch.render = .ok plan)
    (started : ServiceStarted manager launch exchanges result registered) :
    ∃ process, registered = [process] ∧ process.bindings = plan.bindings ∧
      process.arguments = plan.arguments ∧
      (result = .ok () ∧ process.stage.phase = .running ∨
        ∃ cause, result = .error (.spawn plan.role process.path cause) ∧
          process.stage.phase = .stopped) := by
  cases started with
  | unplanned error isError => cases isError.symm.trans isPlan
  | planned other _ _ process isOther spawned =>
    cases isOther.symm.trans isPlan
    refine ⟨process, rfl, ?_⟩
    cases spawned with
    | refused cause => exact ⟨rfl, rfl, .inr ⟨cause, rfl, rfl⟩⟩
    | started id => exact ⟨rfl, rfl, .inl ⟨rfl, rfl⟩⟩

/-- A service is started in a scope that is not finished. Without a plan for the launch nothing is
asked for and nothing is registered, and the manager does not start it either. With a plan one
process is registered behind the others, which stay as they were: it runs, with the variables and
the arguments of the plan, or it is stopped because it could not be spawned. A finish stops it
before the others. -/
theorem startService_account (scope : Scope) (unfinished : scope.isFinished = false)
    (manager : Manager) (launch : Launch) :
    (∀ exchanges result after,
      Runs (scope.startService manager launch) exchanges (result, after) ↔
        ∃ registered, after = { scope with processes := scope.processes ++ registered } ∧
          ServiceStarted manager launch exchanges result registered) ∧
    (∀ error, launch.render = .error error →
      (∀ exchanges result, Runs (manager.start launch) exchanges result ↔
        exchanges = [] ∧ result = .error error) ∧
      ∀ exchanges result registered,
        ServiceStarted manager launch exchanges result registered →
          exchanges = [] ∧ result = .error error ∧ registered = []) ∧
    (∀ plan, launch.render = .ok plan → ∀ exchanges result registered,
      ServiceStarted manager launch exchanges result registered →
        ∃ process, registered = [process] ∧ process.bindings = plan.bindings ∧
          process.arguments = plan.arguments ∧
          (result = .ok () ∧ process.stage.phase = .running ∨
            ∃ cause, result = .error (.spawn plan.role process.path cause) ∧
              process.stage.phase = .stopped)) ∧
    ∀ registered finishing finished,
      Runs ({ scope with processes := scope.processes ++ registered } : Scope).finish finishing
          finished →
        ∃ newest earlier rest, finishing = newest ++ (earlier ++ rest) ∧
          StoppedInTurn registered.reverse newest ∧
          StoppedInTurn scope.processes.reverse earlier := by
  refine ⟨fun _ _ _ => runs_startService_iff, fun error isError => ⟨fun _ _ =>
    Manager.runs_start_of_error_iff isError, fun _ _ _ started => ?_⟩,
    fun plan isPlan _ _ _ started => started.exists_process isPlan,
    fun registered finishing finished run => ?_⟩
  · cases started with
    | unplanned other isOther =>
      cases isOther.symm.trans isError
      exact ⟨rfl, rfl, rfl⟩
    | planned plan _ _ _ isPlan spawned => cases isPlan.symm.trans isError
  · have stays : ({ scope with processes := scope.processes ++ registered } : Scope).isFinished =
        false := unfinished
    obtain ⟨stops, deferred, results, removed, environment, inTurn, -, -, -, rfl⟩ :=
      (runs_finish_of_unfinished_iff stays).1 run
    rw [List.reverse_append] at inTurn
    obtain ⟨newest, earlier, rfl, stoppedFirst, stoppedNext⟩ :=
      (stoppedInTurn_append_iff _ _).1 inTurn
    exact ⟨newest, earlier, _, List.append_assoc _ _ _, stoppedFirst, stoppedNext⟩

/-- A launch without settings. -/
def bare : Launch where
  role := .queryRouter
  fragments := []

/-- A scope in which the service of that launch runs. -/
def serving : Scope where
  environment := .make {} .none
  processes := [{ Manager.process ⟨{}⟩ ⟨.queryRouter, .empty, [], none⟩ with
    stage := .running { id := 7 } }]

/-- A service that can not be spawned is registered behind the one that runs, and stopped before it
when the scope is finished. -/
theorem startService_account_refused :
    ∃ exchanges after process, serving.isFinished = false ∧
      Runs (serving.startService ⟨{}⟩ bare) exchanges
        (.error (.spawn .queryRouter process.path "not found"), after) ∧
      after.processes = serving.processes ++ [process] ∧ process.stage.phase = .stopped ∧
      ∀ finishing finished, Runs after.finish finishing finished →
        ∃ newest earlier rest, finishing = newest ++ (earlier ++ rest) ∧
          StoppedInTurn [process] newest ∧ StoppedInTurn serving.processes earlier := by
  obtain ⟨starts, -, -, finishes⟩ := startService_account serving rfl ⟨{}⟩ bare
  let process : Process :=
    { Manager.process ⟨{}⟩ ⟨.queryRouter, .empty, [], none⟩ with stage := .stopped }
  have started : ServiceStarted ⟨{}⟩ bare _ _ [process] :=
    .planned ⟨.queryRouter, .empty, [], none⟩ _ _ _ rfl (.refused "not found")
  exact ⟨_, _, process, rfl, (starts _ _ _).2 ⟨_, rfl, started⟩, rfl, rfl, finishes [process]⟩

end Scope

end Testbed
