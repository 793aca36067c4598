/-
This file proves what the first finish of a scope does, whatever was done in the scope before it. It
stops the processes, the newest first, then runs the registered steps, the newest first, and then
stops the environment. An action registers one more process, uses one of those that are registered,
or leaves them as they are; so a process that was stopped before the finish is still there and still
stopped, and its stop does nothing. The induction is on the actions.
-/

import Testbed.Proofs.Commands
import Testbed.Proofs.ScopedRuns

namespace Testbed

open Session

variable {settings : Settings} {required : RequiredResources} {scope after left : Scope}
  {processes changed : List Process} {exchanges : List (Exchange Action Reply)}
  {own : List (Exchange ScopeAction ScopeReply)}

/-! ### The processes of a scope -/

/-- What an action can do with the processes of a scope. -/
inductive Touches (processes : List Process) : List Process → Prop where
  | nothing : Touches processes processes
  | registered (process : Process) : Touches processes (processes ++ [process])
  | used (number : Nat) (use : ProcessAction) (reply : ProcessReply use)
      (process after : Process) (exchanges : List (Exchange Action Reply))
      (isThere : processes[number]? = some process)
      (run : Runs (process.perform use) exchanges (reply, after)) :
      Touches processes (processes.set number after)

theorem touches_of_runs_startService {manager : Manager} {launch : Launch}
    {result : Except LaunchError Unit}
    (run : Runs (scope.startService manager launch) exchanges (result, after)) :
    Touches scope.processes after.processes := by
  obtain ⟨before, prepared, rest, rfl, -, second⟩ := (runs_bind_iff _ _ _ _).1 run
  cases prepared with
  | error error =>
    obtain ⟨-, -, rfl⟩ := (runs_done_pair_iff _ _ _ _ _).1 second
    exact .nothing
  | ok process =>
    obtain ⟨_, ⟨spawned, process⟩, _, rfl, -, third⟩ := (runs_bind_iff _ _ _ _).1 second
    obtain ⟨-, -, rfl⟩ := (runs_done_pair_iff _ _ _ _ _).1 third
    exact .registered process

/-- What is done with the process of a number takes place there, if there is one. -/
theorem runs_performOn_cases {number : Nat} {use : ProcessAction}
    {reply : Option (ProcessReply use)}
    (run : Runs (scope.performOn number use) exchanges (reply, after)) :
    (reply = none ∧ after = scope) ∨
      ∃ process answer changed, scope.processes[number]? = some process ∧
        Runs (process.perform use) exchanges (answer, changed) ∧ reply = some answer ∧
        after = { scope with processes := scope.processes.set number changed } := by
  unfold Scope.performOn at run
  split at run
  case h_1 =>
    obtain ⟨-, rfl, rfl⟩ := (runs_done_pair_iff _ _ _ _ _).1 run
    exact .inl ⟨rfl, rfl⟩
  case h_2 process isThere =>
    obtain ⟨before, ⟨answer, changed⟩, rest, rfl, first, second⟩ := (runs_bind_iff _ _ _ _).1 run
    obtain ⟨rfl, rfl, rfl⟩ := (runs_done_pair_iff _ _ _ _ _).1 second
    rw [List.append_nil]
    exact .inr ⟨process, answer, changed, isThere, first, rfl, rfl⟩

/-- An action that does not finish the scope touches one process at most. -/
theorem touches_of_runs_perform {action : ScopeAction} {reply : ScopeReply action}
    (goesOn : isFinish action = false)
    (run : Runs (Scope.perform action scope) exchanges (reply, after)) :
    Touches scope.processes after.processes := by
  cases action with
  | startService manager launch => exact touches_of_runs_startService run
  | launch process =>
    obtain ⟨-, -, rfl⟩ := (runs_done_pair_iff _ _ _ _ _).1 run
    exact .registered process
  | defer step =>
    obtain ⟨-, -, rfl⟩ := (runs_done_pair_iff _ _ _ _ _).1 run
    exact .nothing
  | finish => cases goesOn
  | ensureTopic name =>
    have topicRun : Runs (scope.inEnvironment fun environment => environment.ensureTopic name)
        exchanges (reply, after) := run
    rw [(runs_inEnvironment topicRun).2]
    exact .nothing
  | ensureTable =>
    rw [(runs_inEnvironment run).2]
    exact .nothing
  | ensureSeries =>
    rw [(runs_inEnvironment run).2]
    exact .nothing
  | waitForBroker =>
    rw [eq_of_runs_aside run]
    exact .nothing
  | reset =>
    rw [eq_of_runs_aside run]
    exact .nothing
  | stopEnvironment =>
    rw [(runs_stopEnvironment run).2]
    exact .nothing
  | withProcess number use =>
    rcases runs_performOn_cases run with ⟨-, rfl⟩ | ⟨_, _, _, isThere, used, -, rfl⟩
    · exact .nothing
    · exact .used number use _ _ _ exchanges isThere used
  | look =>
    obtain ⟨-, -, rfl⟩ := (runs_done_pair_iff _ _ _ _ _).1 run
    exact .nothing
  | outside action =>
    rw [eq_of_runs_aside run]
    exact .nothing

/-! ### Processes that were stopped -/

/-- The process of the number is there and was stopped for good. -/
def StoppedAt (number : Nat) (processes : List Process) : Prop :=
  ∃ process, processes[number]? = some process ∧ process.stage.phase = .stopped

theorem Process.stop_of_stopped {process : Process} (stopped : process.stage.phase = .stopped) :
    process.stop = .done process := by
  unfold stop
  rw [if_pos stopped]
  rfl

/-- A process that was stopped stays where it is and as it is, whatever is touched. -/
theorem Touches.stoppedAt {number : Nat} (touches : Touches processes changed)
    (stopped : StoppedAt number processes) : StoppedAt number changed := by
  obtain ⟨process, isThere, isStopped⟩ := stopped
  have inside := (List.getElem?_eq_some_iff.1 isThere).1
  cases touches with
  | nothing => exact ⟨process, isThere, isStopped⟩
  | registered added =>
    refine ⟨process, ?_, isStopped⟩
    rw [List.getElem?_append_left inside, isThere]
  | used other use reply before after exchanges isThereToo run =>
    -- A use of the process itself changes nothing any more, and one of another leaves it alone.
    by_cases same : other = number
    · subst same
      obtain rfl := Option.some.inj (isThere.symm.trans isThereToo)
      obtain ⟨rfl, -⟩ := Process.unchanged_of_runs_perform isStopped run
      refine ⟨after, ?_, isStopped⟩
      rw [List.getElem?_set_self inside]
    · refine ⟨process, ?_, isStopped⟩
      rw [List.getElem?_set_ne same, isThere]

theorem StoppedAt.threaded {number : Nat} (stopped : StoppedAt number scope.processes)
    (goesOn : ∀ exchange ∈ own, isFinish exchange.action = false)
    (threaded : Threaded Scope.perform scope own exchanges left) :
    StoppedAt number left.processes := by
  induction threaded with
  | nil scope => exact stopped
  | cons action reply own before others scope next left first rest inductionHypothesis =>
    have touches := touches_of_runs_perform (goesOn _ List.mem_cons_self) first
    exact inductionHypothesis (touches.stoppedAt stopped)
      fun exchange member => goesOn exchange (List.mem_cons_of_mem _ member)

/-- The action that stops the process of a number, which is there. -/
def stopOf (number : Nat) : Exchange ScopeAction ScopeReply :=
  ⟨.withProcess number .stop, some ()⟩

theorem stoppedAt_of_runs_stop {number : Nat}
    (run : Runs (Scope.perform (.withProcess number .stop) scope) exchanges (some (), after)) :
    StoppedAt number after.processes := by
  rcases runs_performOn_cases run with ⟨none, -⟩ | ⟨process, answer, changed, isThere, used, -, rfl⟩
  · cases none
  · refine ⟨changed, List.getElem?_set_self (List.getElem?_eq_some_iff.1 isThere).1, ?_⟩
    have stopping := (runs_state_iff _ _ _ _).1 used
    unfold Process.stop at stopping
    split at stopping
    case isTrue stopped =>
      obtain ⟨-, rfl⟩ := (runs_done_iff _ _ _).1 stopping
      exact stopped
    case isFalse =>
      obtain ⟨_, -, rfl⟩ := (runs_bind_done_iff _ _ _ _).1 stopping
      rfl

/-- A process that was stopped by an action is stopped in the end. -/
theorem stoppedAt_of_threaded {number : Nat} (stops : stopOf number ∈ own)
    (goesOn : ∀ exchange ∈ own, isFinish exchange.action = false)
    (threaded : Threaded Scope.perform scope own exchanges left) :
    StoppedAt number left.processes := by
  -- Cut at the stop: what comes before it does not matter, what comes behind it keeps its effect.
  obtain ⟨earlier, later, rfl⟩ := List.append_of_mem stops
  obtain ⟨before, standing, _, rfl, -, rest⟩ := (threaded_append_iff _ _ _ _ _).1 threaded
  cases rest with
  | cons _ _ _ stopping others _ stopped _ run behind =>
    exact (stoppedAt_of_runs_stop run).threaded
      (fun exchange member => goesOn exchange
        (List.mem_append_right _ (List.mem_cons_of_mem _ member))) behind

/-! ### Signals -/

theorem TakenDown.eq_of_killed {id child : Nat} {reply : Except String Unit}
    {events : List ChildEvent} (taken : TakenDown id events)
    (killed : .killed child reply ∈ events) : child = id := by
  cases taken with
  | ended => simp at killed
  | reaped first =>
    have same : child = id ∧ reply = first := by simpa using killed
    exact same.1
  | abandoned first rest released =>
    cases released with
    | signalled =>
      have same : child = id ∧ reply = .ok () := by simpa using killed
      exact same.1
    | again cause second =>
      have same : (child = id ∧ reply = .error cause) ∨ child = id ∧ reply = second := by
        simpa using killed
      exact same.elim And.left And.left

/-- A process is sent a signal by its stop only if it was not stopped before and has a child, and
then it is that child that gets the signal. -/
theorem Process.signalled_of_runs_stop {process stopped : Process} {child : Nat}
    {reply : Except String Unit} (run : Runs process.stop exchanges stopped)
    (killed : (⟨.kill child, reply⟩ : Exchange Action Reply) ∈ exchanges) :
    process.stage.phase ≠ .stopped ∧ process.stage.child.map Child.id = some child := by
  unfold stop at run
  split at run
  case isTrue =>
    obtain ⟨rfl, -⟩ := (runs_done_iff _ _ _).1 run
    cases killed
  case isFalse goesOn =>
    refine ⟨goesOn, ?_⟩
    obtain ⟨_, stopping, -⟩ := (runs_bind_done_iff _ _ _ _).1 run
    unfold stopAnyChild at stopping
    split at stopping
    case h_1 =>
      rw [(runs_note_iff _ _ _ _ _ _).1 stopping] at killed
      simp [noted] at killed
    case h_2 held isHeld =>
      have event : ChildEvent.killed child reply ∈ held.seen ++ childEvents exchanges :=
        List.mem_append_right _ (List.mem_filterMap.2 ⟨_, killed, rfl⟩)
      rw [isHeld, Option.map_some, (takenDown_of_runs_stopChild stopping).eq_of_killed event]

/-- Every signal that is sent while processes are stopped goes to the child of one that was not
stopped before. -/
theorem StoppedInTurn.signalled {child : Nat} {reply : Except String Unit}
    (inTurn : StoppedInTurn processes exchanges)
    (killed : (⟨.kill child, reply⟩ : Exchange Action Reply) ∈ exchanges) :
    ∃ process ∈ processes, process.stage.phase ≠ .stopped ∧
      process.stage.child.map Child.id = some child := by
  induction inTurn with
  | nil => cases killed
  | cons process stopped rest own others first tail inductionHypothesis =>
    rcases List.mem_append.1 killed with here | later
    · exact ⟨process, List.mem_cons_self, process.signalled_of_runs_stop first here⟩
    · obtain ⟨other, member, found⟩ := inductionHypothesis later
      exact ⟨other, List.mem_cons_of_mem _ member, found⟩

/-! ### What a stop of a process does -/

/-- Whether an action is about something else than a process: it neither concerns a child nor notes
an event in the life of a process. -/
def leavesProcesses : Action → Bool
  | .note event => event.target != "lake.process"
  | action => !concernsChild action

/-- What a stop consists of is about a process. -/
theorem leavesProcesses_of_isForeign {action : Action} (own : isForeign action = false) :
    leavesProcesses action = false := by
  cases action <;> first | exact own | rfl

theorem StoppedInTurn.leavesProcesses_eq (inTurn : StoppedInTurn processes exchanges) :
    ∀ exchange ∈ exchanges, leavesProcesses exchange.action = false := by
  induction inTurn with
  | nil => exact fun _ member => absurd member List.not_mem_nil
  | cons process stopped rest own others first tail inductionHypothesis =>
    have leaves := process.avoids_stop.mono fun _ => leavesProcesses_of_isForeign
    exact List.forall_mem_append.2 ⟨leaves _ _ first, inductionHypothesis⟩

/-! ### The first finish -/

/-- A scope that was started holds its environment and nothing else. -/
theorem Scope.held_of_runs_start
    (run : Runs (Scope.start settings required) exchanges (.ok scope)) :
    Held settings required [] scope := by
  obtain ⟨before, started, rest, rfl, first, second⟩ := (runs_bind_iff _ _ _ _).1 run
  cases (Environment.runs_start_iff started).1 first with
  | ready provisioning environment provisioned =>
    obtain ⟨-, same⟩ := (runs_done_iff _ _ _).1 second
    cases same
    exact ⟨rfl, .provisioned _ _ _ provisioned, rfl, rfl⟩
  | failed provisioning teardown error environment stopped provisioned stopping =>
    obtain ⟨-, same⟩ := (runs_done_iff _ _ _).1 second
    cases same

/-- Whatever was done in a scope before, its first finish stops every process that was registered,
the newest first, then runs every step that was registered, the newest first and whatever becomes of
the others, and then stops the environment. What it does up to the first step is about processes
only. A process that an action stopped is still registered, and its stop does nothing: every signal
goes to the child of a process that was not stopped. The environment, unless an action stopped it,
takes away what it holds. A finish that follows does nothing. -/
theorem Scope.finish_account {starting performed : List (Exchange Action Reply)}
    (started : Runs (Scope.start settings required) starting (.ok scope))
    (unfinished : ∀ exchange ∈ own, isFinish exchange.action = false)
    (threaded : Threaded Scope.perform scope own performed left) :
    left.processes.map Process.atRest =
        ((own.map Exchange.action).filterMap registered?).map Process.atRest ∧
      left.deferred.newestFirst = ((own.map Exchange.action).filterMap deferred?).reverse ∧
      (∀ number, stopOf number ∈ own →
        ∃ process, left.processes[number]? = some process ∧ process.stop = .done process) ∧
      (∀ exchanges finished, Runs left.finish exchanges finished ↔
        ∃ stops deferred results removed environment,
          StoppedInTurn left.processes.reverse stops ∧
          Teardown.RanSteps left.deferred.newestFirst deferred results ∧
          Runs left.environment.stop removed environment ∧
          finished = { environment, deferred := .empty, isFinished := true } ∧
          exchanges = stops ++ ((deferred ++ deferredNoted (Teardown.failures results)) ++
            (removed ++ [noted .info "lake.env" "Test scope finished" []]))) ∧
      (∀ stops, StoppedInTurn left.processes.reverse stops →
        (∀ exchange ∈ stops, leavesProcesses exchange.action = false) ∧
        ∀ child reply, (⟨.kill child, reply⟩ : Exchange Action Reply) ∈ stops →
          ∃ process ∈ left.processes, process.stage.phase ≠ .stopped ∧
            process.stage.child.map Child.id = some child) ∧
      ((∀ exchange ∈ own, endsEarly exchange.action = false) →
        ∃ admin, (left.environment.topics ≠ [] → left.environment.admin = some admin) ∧
          ∀ removed environment, Runs left.environment.stop removed environment ↔
            environment = left.environment.cleared ∧
              Environment.TakenAway required (left.environment.removals admin) removed) ∧
      ∀ exchanges finished, Runs left.finish exchanges finished →
        finished.finish = .done finished := by
  have fresh := Scope.held_of_runs_start started
  have gains := gains_of_threaded (.inr unfinished) threaded
  have goesOn := gains.isFinished.trans fresh.unfinished
  refine ⟨?_, ?_, fun number stops => ?_, fun _ _ => runs_finish_of_unfinished_iff goesOn,
    fun stops inTurn => ⟨inTurn.leavesProcesses_eq, fun child reply killed => ?_⟩,
    fun noEnd => ?_, fun exchanges finished run => ?_⟩
  · rw [gains.processes, fresh.processes]
    rfl
  · rw [gains.deferred, fresh.deferred]
    exact List.append_nil _
  · obtain ⟨process, isThere, isStopped⟩ := stoppedAt_of_threaded stops unfinished threaded
    exact ⟨process, isThere, process.stop_of_stopped isStopped⟩
  · obtain ⟨process, member, found⟩ := inTurn.signalled killed
    exact ⟨process, List.mem_reverse.1 member, found⟩
  · exact Environment.exists_runs_stop_iff (fresh.threaded noEnd threaded).environment.consistent
  · obtain ⟨_, _, _, _, environment, -, -, -, rfl, -⟩ :=
      (runs_finish_of_unfinished_iff goesOn).1 run
    rfl

/-- A process whose child runs. -/
def resident (id : Nat) : Process where
  role := .queryRouter
  path := "query-router"
  bindings := .empty
  arguments := []
  port := none
  stage := .running { id }

/-- Two processes are registered and a step that will fail. The first of the processes is stopped
before the scope is finished. -/
def stopsFirst : List (Exchange ScopeAction ScopeReply) :=
  [⟨.launch (resident 7), ()⟩, ⟨.launch (resident 8), ()⟩, stopOf 0,
    ⟨.defer ⟨"restore", .done (.error "gone")⟩, ()⟩]

theorem Scope.finish_account_stopsFirst :
    ∃ starting scope performed left exchanges finished,
      Runs (Scope.start {} .none) starting (.ok scope) ∧
      (∀ exchange ∈ stopsFirst, isFinish exchange.action = false) ∧
      Threaded Scope.perform scope stopsFirst performed left ∧
      Runs left.finish exchanges finished ∧
      left.processes.length = 2 ∧
      (∃ process, left.processes[0]? = some process ∧ process.stop = .done process) ∧
      (∀ stops, StoppedInTurn left.processes.reverse stops →
        ∀ child reply, (⟨.kill child, reply⟩ : Exchange Action Reply) ∈ stops → child = 8) ∧
      finished.finish = .done finished := by
  let stopped : Process := { resident 7 with stage := .stopped }
  let fresh : Scope := { environment := Environment.make {} .none }
  have unfinished : ∀ exchange ∈ stopsFirst, isFinish exchange.action = false := by
    simp [stopsFirst, stopOf, isFinish]
  obtain ⟨starting, started⟩ : ∃ starting, Runs (Scope.start {} .none) starting (.ok fresh) :=
    exists_runs_act () ⟨[], .done _⟩
  have stopping (id : Nat) : ∃ exchanges,
      Runs (resident id).stop exchanges { resident id with stage := .stopped } := by
    refine exists_runs_act (.ok none) (exists_runs_act (.ok ()) ?_)
    exact exists_runs_act (.exited (.signal 9 false)) (exists_runs_act () ⟨[], .done _⟩)
  obtain ⟨stops, stopRun⟩ := stopping 7
  obtain ⟨later, laterRun⟩ := stopping 8
  have performing : Runs ((resident 7).perform .stop) (stops ++ []) ((), stopped) :=
    stopRun.bind (.done _)
  have stopsOne : Runs (({ fresh with processes := [resident 7, resident 8] } : Scope).perform
      (.withProcess 0 .stop)) (stops ++ [] ++ [])
      (some (), { fresh with processes := [stopped, resident 8] }) :=
    performing.bind (.done _)
  have threaded : Threaded Scope.perform fresh stopsFirst _
      { fresh with
        processes := [stopped, resident 8]
        deferred := .push .empty ⟨"restore", .done (.error "gone")⟩ } :=
    .cons _ _ _ _ _ _ _ _ (.done _) (.cons _ _ _ _ _ _ _ _ (.done _)
      (.cons _ _ _ _ _ _ _ _ stopsOne (.cons _ _ _ _ _ _ _ _ (.done _) (.nil _))))
  obtain ⟨-, -, isStopped, finishes, signalled, -, again⟩ :=
    Scope.finish_account started unfinished threaded
  have inTurn : StoppedInTurn [resident 8, stopped] _ :=
    .cons _ _ _ _ _ laterRun (.cons _ _ _ _ _ (.done _) .nil)
  have finishing := (finishes _ _).2 ⟨_, _, _, _, _, inTurn, .cons _ _ _ _ _ _ (.done _) .nil,
    .act _ _ () _ _ (.done _), rfl, rfl⟩
  refine ⟨starting, _, _, _, _, _, started, unfinished, threaded, finishing, rfl,
    isStopped 0 (by simp [stopsFirst]), ?_, again _ _ finishing⟩
  intro stops inTurn child reply killed
  obtain ⟨process, member, unstopped, isChild⟩ := (signalled stops inTurn).2 child reply killed
  rcases List.mem_cons.1 member with rfl | member
  · exact absurd rfl unstopped
  · rw [List.mem_singleton.1 member] at isChild
    exact (Option.some.inj isChild).symm

end Testbed
