/-
This file proves what a scope has registered after any actions of a body. Each action adds what it
registers to what there is, in order, and changes nothing else but the environment and the stages of
processes; only the first finish takes registrations away. The induction is on the actions.
-/

import Testbed.Proofs.Runs
import Testbed.Scope.Body

namespace Testbed

open Session

variable {exchanges : List (Exchange Action Reply)}

/-! ### What stays of a process -/

namespace Process

variable {process after : Process}

/-- The process when it is stopped for good. -/
def atRest (process : Process) : Process :=
  { process with stage := .stopped }

theorem atRest_of_runs_spawn {result : Except LaunchError Unit}
    (run : Runs process.spawn exchanges (result, after)) : after.atRest = process.atRest := by
  unfold spawn at run
  split at run
  case h_1 => obtain ⟨-, -, rfl⟩ := (runs_done_pair_iff _ _ _ _ _).1 run; rfl
  case h_2 => obtain ⟨-, -, rfl⟩ := (runs_done_pair_iff _ _ _ _ _).1 run; rfl
  case h_3 =>
    unfold spawnCreated at run
    split at run
    case h_1 => obtain ⟨-, -, rfl⟩ := (runs_done_pair_iff _ _ _ _ _).1 run; rfl
    case h_2 command _ =>
      obtain ⟨spawned, rest, rfl, second⟩ := (runs_act_bind_iff _ _ _ _).1 run
      cases spawned with
      | ok id =>
        obtain ⟨_, others, rfl, third⟩ := (runs_act_bind_iff _ _ _ _).1 second
        obtain ⟨-, -, rfl⟩ := (runs_done_pair_iff _ _ _ _ _).1 third
        rfl
      | error cause =>
        obtain ⟨-, -, rfl⟩ := (runs_done_pair_iff _ _ _ _ _).1 second
        rfl

theorem atRest_of_runs_ensureRunning {result : Except LaunchError Unit}
    (run : Runs process.ensureRunning exchanges (result, after)) :
    after.atRest = process.atRest := by
  unfold ensureRunning at run
  split at run
  case h_1 child _ _ =>
    obtain ⟨before, ⟨answer, observed⟩, rest, rfl, first, second⟩ := (runs_bind_iff _ _ _ _).1 run
    rcases answer with cause | _ | status
    all_goals
      obtain ⟨-, -, rfl⟩ := (runs_done_pair_iff _ _ _ _ _).1 second
      rfl
  case h_2 => obtain ⟨-, -, rfl⟩ := (runs_done_pair_iff _ _ _ _ _).1 run; rfl
  case h_3 => obtain ⟨-, -, rfl⟩ := (runs_done_pair_iff _ _ _ _ _).1 run; rfl

theorem atRest_of_runs_waitUntilListening {policy : Policy} {result : Except LaunchError String}
    (run : Runs (process.waitUntilListening policy) exchanges (result, after)) :
    after.atRest = process.atRest := by
  unfold waitUntilListening at run
  split at run
  case h_1 => obtain ⟨-, -, rfl⟩ := (runs_done_pair_iff _ _ _ _ _).1 run; rfl
  case h_2 port isListening =>
    obtain ⟨before, outcome, rest, rfl, first, second⟩ := (runs_bind_iff _ _ _ _).1 run
    split at second
    · obtain ⟨_, others, rfl, third⟩ := (runs_act_bind_iff _ _ _ _).1 second
      obtain ⟨-, -, rfl⟩ := (runs_done_pair_iff _ _ _ _ _).1 third
      rfl
    · obtain ⟨between, ⟨running, observed⟩, others, rfl, third, fourth⟩ :=
        (runs_bind_iff _ _ _ _).1 second
      rw [← atRest_of_runs_ensureRunning third]
      cases running <;> obtain ⟨-, -, rfl⟩ := (runs_done_pair_iff _ _ _ _ _).1 fourth <;> rfl

theorem atRest_of_runs_stop (run : Runs process.stop exchanges after) :
    after.atRest = process.atRest := by
  unfold stop at run
  split at run
  case isTrue => obtain ⟨-, rfl⟩ := (runs_done_iff _ _ _).1 run; rfl
  case isFalse => obtain ⟨_, -, rfl⟩ := (runs_bind_done_iff _ _ _ _).1 run; rfl

/-- Nothing that is done with a process changes it, but for the stage of its life. -/
theorem atRest_of_runs_perform {use : ProcessAction} {reply : ProcessReply use}
    (run : Runs (process.perform use) exchanges (reply, after)) :
    after.atRest = process.atRest := by
  cases use with
  | spawn => exact atRest_of_runs_spawn run
  | ensureRunning => exact atRest_of_runs_ensureRunning run
  | waitUntilListening policy => exact atRest_of_runs_waitUntilListening run
  | stop => exact atRest_of_runs_stop ((runs_state_iff _ _ _ _).1 run)

end Process

/-! ### What actions register -/

/-- Whether a body takes its scope down itself. -/
def endsEarly : ScopeAction → Bool
  | .finish => true
  | .stopEnvironment => true
  | _ => false

/-- The process that an action registers. One that can not be spawned is registered as well; one
whose launch can not be rendered is not. -/
def registered? : ScopeAction → Option Process
  | .launch process => some process
  | .startService manager launch => launch.render.toOption.map manager.process
  | _ => none

/-- The teardown step that an action registers. -/
def deferred? : ScopeAction → Option TeardownStep
  | .defer step => some step
  | _ => none

/-- Whether an action finishes the scope. -/
def isFinish : ScopeAction → Bool
  | .finish => true
  | _ => false

theorem endsEarly_of_isFinish {action : ScopeAction} (finishes : isFinish action = true) :
    endsEarly action = true := by
  cases action <;> first | rfl | cases finishes

/-- Whether an action makes sure of a resource. -/
def ensures : ScopeAction → Bool
  | .ensureTopic _ => true
  | .ensureTable => true
  | .ensureSeries => true
  | _ => false

/-- What these actions add to the registrations of a scope. -/
structure Gains (actions : List ScopeAction) (scope after : Scope) : Prop where
  isFinished : after.isFinished = scope.isFinished
  processes : after.processes.map Process.atRest =
    scope.processes.map Process.atRest ++ (actions.filterMap registered?).map Process.atRest
  deferred : after.deferred.newestFirst =
    (actions.filterMap deferred?).reverse ++ scope.deferred.newestFirst

/-- What an action does with the environment of a scope. -/
inductive Uses (environment : Environment) :
    ScopeAction → List (Exchange Action Reply) → Environment → Prop where
  | nothing (action : ScopeAction) (exchanges : List (Exchange Action Reply))
      (noResource : ensures action = false) (noStop : endsEarly action = true → isFinish action) :
      Uses environment action exchanges environment
  | topic (name : String) (exchanges : List (Exchange Action Reply))
      (result : Except ProvisioningError TopicHandle) (after : Environment)
      (run : Runs (environment.ensureTopic name) exchanges (result, after)) :
      Uses environment (.ensureTopic name) exchanges after
  | table (exchanges : List (Exchange Action Reply))
      (result : Except ProvisioningError TableHandle) (after : Environment)
      (run : Runs environment.ensureTable exchanges (result, after)) :
      Uses environment .ensureTable exchanges after
  | series (exchanges : List (Exchange Action Reply))
      (result : Except ProvisioningError SeriesHandle) (after : Environment)
      (run : Runs environment.ensureSeries exchanges (result, after)) :
      Uses environment .ensureSeries exchanges after
  | stop (exchanges : List (Exchange Action Reply)) (after : Environment)
      (run : Runs environment.stop exchanges after) :
      Uses environment .stopEnvironment exchanges after

namespace Gains

variable {actions more : List ScopeAction} {scope middle after : Scope}

theorem trans (first : Gains actions scope middle) (second : Gains more middle after) :
    Gains (actions ++ more) scope after where
  isFinished := second.isFinished.trans first.isFinished
  processes := by
    rw [second.processes, first.processes, List.filterMap_append, List.map_append,
      List.append_assoc]
  deferred := by
    rw [second.deferred, first.deferred, List.filterMap_append, List.reverse_append,
      List.append_assoc]

/-- Actions that register nothing can change only the environment. -/
theorem unregistered {action : ScopeAction} (environment : Environment)
    (noProcess : registered? action = none) (noStep : deferred? action = none) :
    Gains [action] scope { scope with environment } where
  isFinished := rfl
  processes := by
    rw [List.filterMap_cons_none noProcess, List.filterMap_nil, List.map_nil, List.append_nil]
  deferred := by
    rw [List.filterMap_cons_none noStep, List.filterMap_nil, List.reverse_nil, List.nil_append]

theorem nothing (scope : Scope) : Gains [] scope scope :=
  ⟨rfl, (List.append_nil _).symm, rfl⟩

theorem unchanged {action : ScopeAction} (noProcess : registered? action = none)
    (noStep : deferred? action = none) : Gains [action] scope scope :=
  .unregistered scope.environment noProcess noStep

/-- An action registers a process behind those that are registered. -/
theorem launched {process : Process} {action : ScopeAction}
    (registers : (registered? action).map Process.atRest = some process.atRest)
    (noStep : deferred? action = none) : Gains [action] scope (scope.launch process) where
  isFinished := rfl
  processes := by
    obtain ⟨known, isKnown, same⟩ := Option.map_eq_some_iff.1 registers
    rw [List.filterMap_cons_some isKnown, List.filterMap_nil, List.map_singleton, same]
    exact List.map_append
  deferred := by
    rw [List.filterMap_cons_none noStep, List.filterMap_nil, List.reverse_nil, List.nil_append]
    rfl

end Gains

/-! ### One action -/

section Steps

variable {scope after : Scope}

theorem gains_of_runs_startService {manager : Manager} {launch : Launch}
    {result : Except LaunchError Unit}
    (run : Runs (scope.startService manager launch) exchanges (result, after)) :
    Gains [.startService manager launch] scope after ∧ after.environment = scope.environment := by
  obtain ⟨before, prepared, rest, rfl, first, second⟩ := (runs_bind_iff _ _ _ _).1 run
  unfold Manager.prepare at first
  cases rendered : launch.render with
  | error error =>
    rw [rendered] at first
    obtain ⟨rfl, rfl⟩ := (runs_done_iff _ _ _).1 first
    obtain ⟨-, -, rfl⟩ := (runs_done_pair_iff _ _ _ _ _).1 second
    refine ⟨.unchanged ?_ rfl, rfl⟩
    show launch.render.toOption.map manager.process = none
    rw [rendered]
    rfl
  | ok plan =>
    rw [rendered] at first
    obtain ⟨_, -, rfl⟩ := (runs_bind_done_iff _ _ _ _).1 first
    obtain ⟨between, ⟨spawned, process⟩, others, rfl, third, fourth⟩ :=
      (runs_bind_iff _ _ _ _).1 second
    obtain ⟨-, -, rfl⟩ := (runs_done_pair_iff _ _ _ _ _).1 fourth
    refine ⟨.launched ?_ rfl, rfl⟩
    show (launch.render.toOption.map manager.process).map Process.atRest = _
    rw [rendered, Process.atRest_of_runs_spawn third]
    rfl

theorem gains_of_runs_performOn {number : Nat} {use : ProcessAction}
    {reply : Option (ProcessReply use)}
    (run : Runs (scope.performOn number use) exchanges (reply, after)) :
    Gains [.withProcess number use] scope after ∧ after.environment = scope.environment := by
  unfold Scope.performOn at run
  split at run
  case h_1 =>
    obtain ⟨-, -, rfl⟩ := (runs_done_pair_iff _ _ _ _ _).1 run
    exact ⟨.unchanged rfl rfl, rfl⟩
  case h_2 process isThere =>
    obtain ⟨before, ⟨answer, changed⟩, rest, rfl, first, second⟩ := (runs_bind_iff _ _ _ _).1 run
    obtain ⟨-, -, rfl⟩ := (runs_done_pair_iff _ _ _ _ _).1 second
    refine ⟨⟨rfl, ?_, rfl⟩, rfl⟩
    obtain ⟨inside, rfl⟩ := List.getElem?_eq_some_iff.1 isThere
    show (scope.processes.set number changed).map Process.atRest = _ ++ []
    rw [List.append_nil, List.map_set, Process.atRest_of_runs_perform first,
      ← List.getElem_map Process.atRest, List.set_getElem_self]
    rw [List.length_map]
    exact inside

/-- What is done with the environment changes nothing else in the scope. -/
theorem runs_inEnvironment {Answer : Type} {use : Environment → Work (Answer × Environment)}
    {answer : Answer} (run : Runs (scope.inEnvironment use) exchanges (answer, after)) :
    Runs (use scope.environment) exchanges (answer, after.environment) ∧
      after = { scope with environment := after.environment } := by
  obtain ⟨before, ⟨answered, environment⟩, rest, rfl, first, second⟩ :=
    (runs_bind_iff _ _ _ _).1 run
  obtain ⟨rfl, rfl, rfl⟩ := (runs_done_pair_iff _ _ _ _ _).1 second
  rw [List.append_nil]
  exact ⟨first, rfl⟩

theorem runs_stopEnvironment {reply : Unit}
    (run : Runs (Scope.perform .stopEnvironment scope) exchanges (reply, after)) :
    Runs scope.environment.stop exchanges after.environment ∧
      after = { scope with environment := after.environment } := by
  have stopRun : Runs (scope.inEnvironment fun environment =>
      environment.stop.bind fun stopped => Session.done ((), stopped)) exchanges
      (reply, after) := run
  obtain ⟨used, same⟩ := runs_inEnvironment stopRun
  exact ⟨(runs_state_iff _ _ _ _).1 used, same⟩

/-- Work on the side leaves the scope as it is. -/
theorem eq_of_runs_aside {Answer : Type} {work : Work Answer} {answer : Answer}
    (run : Runs (work.bind fun answer => Session.done (answer, scope)) exchanges (answer, after)) :
    after = scope :=
  ((runs_aside_iff _ _ _ _ _).1 run).2

/-- What an action adds to a scope and does with its environment, unless it is the first finish. -/
theorem gains_of_runs_perform {action : ScopeAction} {reply : ScopeReply action}
    (idle : isFinish action = true → scope.isFinished = true)
    (run : Runs (Scope.perform action scope) exchanges (reply, after)) :
    Gains [action] scope after ∧ Uses scope.environment action exchanges after.environment := by
  cases action with
  | startService manager launch =>
    obtain ⟨gains, same⟩ := gains_of_runs_startService run
    rw [same]
    exact ⟨gains, .nothing _ _ rfl nofun⟩
  | launch process =>
    obtain ⟨-, -, rfl⟩ := (runs_done_pair_iff _ _ _ _ _).1 run
    exact ⟨.launched rfl rfl, .nothing _ _ rfl nofun⟩
  | defer step =>
    obtain ⟨-, -, rfl⟩ := (runs_done_pair_iff _ _ _ _ _).1 run
    exact ⟨⟨rfl, (List.append_nil _).symm, rfl⟩, .nothing _ _ rfl nofun⟩
  | finish =>
    have finishing := (runs_state_iff _ _ _ _).1 run
    unfold Scope.finish at finishing
    rw [if_pos (idle rfl)] at finishing
    obtain ⟨-, rfl⟩ := (runs_done_iff _ _ _).1 finishing
    exact ⟨.unchanged rfl rfl, .nothing _ _ rfl fun _ => rfl⟩
  | ensureTopic name =>
    have topicRun : Runs (scope.inEnvironment fun environment => environment.ensureTopic name)
        exchanges (reply, after) := run
    obtain ⟨used, same⟩ := runs_inEnvironment topicRun
    rw [same]
    exact ⟨.unregistered _ rfl rfl, .topic _ _ _ _ used⟩
  | ensureTable =>
    obtain ⟨used, same⟩ := runs_inEnvironment run
    rw [same]
    exact ⟨.unregistered _ rfl rfl, .table _ _ _ used⟩
  | ensureSeries =>
    obtain ⟨used, same⟩ := runs_inEnvironment run
    rw [same]
    exact ⟨.unregistered _ rfl rfl, .series _ _ _ used⟩
  | waitForBroker =>
    rw [eq_of_runs_aside run]
    exact ⟨.unchanged rfl rfl, .nothing _ _ rfl nofun⟩
  | reset =>
    rw [eq_of_runs_aside run]
    exact ⟨.unchanged rfl rfl, .nothing _ _ rfl nofun⟩
  | stopEnvironment =>
    obtain ⟨stopping, same⟩ := runs_stopEnvironment run
    rw [same]
    exact ⟨.unregistered _ rfl rfl, .stop _ _ stopping⟩
  | withProcess number use =>
    obtain ⟨gains, same⟩ := gains_of_runs_performOn run
    rw [same]
    exact ⟨gains, .nothing _ _ rfl nofun⟩
  | look =>
    obtain ⟨-, -, rfl⟩ := (runs_done_pair_iff _ _ _ _ _).1 run
    exact ⟨.unchanged rfl rfl, .nothing _ _ rfl nofun⟩
  | outside action =>
    rw [eq_of_runs_aside run]
    exact ⟨.unchanged rfl rfl, .nothing _ _ rfl nofun⟩

end Steps

/-! ### All actions -/

/-- What actions add to a scope, none of which is the first finish. -/
theorem gains_of_threaded {scope after : Scope} {own : List (Exchange ScopeAction ScopeReply)}
    (idle : scope.isFinished = true ∨ ∀ exchange ∈ own, isFinish exchange.action = false)
    (threaded : Threaded Scope.perform scope own exchanges after) :
    Gains (own.map Exchange.action) scope after := by
  induction threaded with
  | nil scope => exact .nothing scope
  | cons action reply own before others scope next after first rest inductionHypothesis =>
    have firstIdle : isFinish action = true → scope.isFinished = true := by
      intro finishes
      rcases idle with finished | unfinished
      · exact finished
      · exact absurd finishes (by simp [unfinished _ List.mem_cons_self])
    obtain ⟨gains, -⟩ := gains_of_runs_perform firstIdle first
    refine gains.trans (inductionHypothesis ?_)
    rw [gains.isFinished]
    exact idle.imp_right fun unfinished exchange member =>
      unfinished exchange (List.mem_cons_of_mem _ member)

end Testbed
