/-
This file proves what becomes of registrations when a body takes its scope down itself. The first
finish of a scope stops the processes and runs the steps that are registered by then, and the first
stop of its environment takes away what the environment holds by then. Both happen once, and a scope
that is finished does nothing any more when it is finished again. So whatever a body registers
behind the first finish is left: its steps do not run, its processes are not stopped, and the
resources that it makes sure of behind the first stop are not taken away.
-/

import Testbed.Proofs.ScopedRuns

namespace Testbed

open Session

variable {settings : Settings} {required : RequiredResources} {scope after final : Scope}
  {exchanges : List (Exchange Action Reply)} {own : List (Exchange ScopeAction ScopeReply)}

/-! ### The first action of a kind -/

section First

variable {kind : ScopeAction → Bool}

/-- The actions before the first of a kind. -/
def beforeFirst (kind : ScopeAction → Bool) (actions : List ScopeAction) : List ScopeAction :=
  actions.takeWhile (!kind ·)

/-- The actions behind the first of a kind, if there is one. -/
def behindFirst (kind : ScopeAction → Bool) (actions : List ScopeAction) : List ScopeAction :=
  (actions.dropWhile (!kind ·)).tail

theorem exists_first (some : ∃ exchange ∈ own, kind exchange.action = true) :
    ∃ before first behind, own = before ++ first :: behind ∧
      (∀ exchange ∈ before, kind exchange.action = false) ∧ kind first.action = true := by
  induction own with
  | nil =>
    obtain ⟨_, member, -⟩ := some
    cases member
  | cons exchange rest inductionHypothesis =>
    cases isKind : kind exchange.action with
    | true =>
      exact ⟨[], exchange, rest, rfl, fun _ member => absurd member List.not_mem_nil, isKind⟩
    | false =>
      obtain ⟨found, member, isFound⟩ := some
      rcases List.mem_cons.1 member with rfl | later
      · exact absurd isFound (by simp [isKind])
      · obtain ⟨before, first, behind, rfl, none, isFirst⟩ :=
          inductionHypothesis ⟨found, later, isFound⟩
        exact ⟨exchange :: before, first, behind, rfl, List.forall_mem_cons.2 ⟨isKind, none⟩,
          isFirst⟩

variable {before behind : List (Exchange ScopeAction ScopeReply)}
  {first : Exchange ScopeAction ScopeReply}

theorem beforeFirst_eq (none : ∀ exchange ∈ before, kind exchange.action = false)
    (isFirst : kind first.action = true) :
    beforeFirst kind ((before ++ first :: behind).map Exchange.action) =
      before.map Exchange.action := by
  unfold beforeFirst
  rw [List.map_append, List.takeWhile_append_of_pos (by simpa using none), List.map_cons,
    List.takeWhile_cons_of_neg (by simp [isFirst]), List.append_nil]

theorem behindFirst_eq (none : ∀ exchange ∈ before, kind exchange.action = false)
    (isFirst : kind first.action = true) :
    behindFirst kind ((before ++ first :: behind).map Exchange.action) =
      behind.map Exchange.action := by
  unfold behindFirst
  rw [List.map_append, List.dropWhile_append_of_pos (by simpa using none), List.map_cons,
    List.dropWhile_cons_of_neg (by simp [isFirst]), List.tail_cons]

end First

/-! ### The first finish -/

/-- Up to its first finish a scope gains what is registered, and behind it what is registered from
then on. -/
theorem exists_first_finish (unfinished : scope.isFinished = false)
    (finishes : ∃ exchange ∈ own, isFinish exchange.action = true)
    (threaded : Threaded Scope.perform scope own exchanges final) :
    ∃ standing before whole behind finished, exchanges = before ++ (whole ++ behind) ∧
      standing.isFinished = false ∧
      Gains (beforeFirst isFinish (own.map Exchange.action)) scope standing ∧
      Runs standing.finish whole finished ∧
      Gains (behindFirst isFinish (own.map Exchange.action)) finished final := by
  obtain ⟨earlier, ⟨action, reply⟩, later, rfl, none, isFirst⟩ := exists_first finishes
  rw [beforeFirst_eq none isFirst, behindFirst_eq none isFirst]
  obtain ⟨before, standing, _, rfl, early, rest⟩ := (threaded_append_iff _ _ _ _ _).1 threaded
  have gains := gains_of_threaded (.inr none) early
  have stillUnfinished := gains.isFinished.trans unfinished
  cases rest with
  | cons _ _ _ whole behind _ finished _ finishing late =>
    cases action with
    | finish =>
      have run := (runs_state_iff _ _ _ _).1 finishing
      have isFinished : finished.isFinished = true := by
        obtain ⟨_, _, _, _, _, -, -, -, rfl, -⟩ :=
          (runs_finish_of_unfinished_iff stillUnfinished).1 run
        rfl
      exact ⟨standing, before, whole, behind, finished, rfl, stillUnfinished, gains, run,
        gains_of_threaded (.inl isFinished) late⟩
    | _ => cases isFirst

/-- In these exchanges, in which these actions were taken on a scope without registrations, the
processes were stopped and the steps ran that were registered before the first finish, the newest
first. -/
def FinishedOnce (actions : List ScopeAction) (exchanges : List (Exchange Action Reply)) : Prop :=
  ∃ (standing : Scope) (before stops deferred behind : List (Exchange Action Reply))
      (results : List (Except String Unit)),
    exchanges = before ++ (stops ++ (deferred ++ behind)) ∧
    standing.processes.map Process.atRest =
      ((beforeFirst isFinish actions).filterMap registered?).map Process.atRest ∧
    standing.deferred.newestFirst = ((beforeFirst isFinish actions).filterMap deferred?).reverse ∧
    StoppedInTurn standing.processes.reverse stops ∧
    Teardown.RanSteps standing.deferred.newestFirst deferred results

/-- These are the registrations that were made behind the first finish. -/
structure LeftLate (actions : List ScopeAction) (scope : Scope) : Prop where
  isFinished : scope.isFinished = true
  processes : scope.processes.map Process.atRest =
    ((behindFirst isFinish actions).filterMap registered?).map Process.atRest
  deferred : scope.deferred.newestFirst =
    ((behindFirst isFinish actions).filterMap deferred?).reverse

theorem finishedOnce_of_threaded {environment : Environment}
    (finishes : ∃ exchange ∈ own, isFinish exchange.action = true)
    (threaded : Threaded Scope.perform { environment } own exchanges final) :
    FinishedOnce (own.map Exchange.action) exchanges ∧
      LeftLate (own.map Exchange.action) final := by
  obtain ⟨standing, before, whole, behind, finished, rfl, unfinished, early, run, late⟩ :=
    exists_first_finish rfl finishes threaded
  obtain ⟨stops, deferred, results, removed, environment, inTurn, ran, -, rfl, rfl⟩ :=
    (runs_finish_of_unfinished_iff unfinished).1 run
  refine ⟨⟨standing, before, stops, deferred, (deferredNoted (Teardown.failures results) ++
    (removed ++ [noted .info "lake.env" "Test scope finished" []])) ++ behind, results, ?_,
    early.processes, ?_, inTurn, ran⟩, late.isFinished, late.processes, ?_⟩
  · simp only [List.append_assoc]
  · rw [early.deferred]
    exact List.append_nil _
  · rw [late.deferred]
    exact List.append_nil _

/-! ### The first stop of the environment -/

namespace Environment

variable {environment changed : Environment}

theorem AddsTopics.isStopped_eq {topics : List TopicHandle}
    (adds : AddsTopics environment topics changed) :
    changed.isStopped = environment.isStopped := by
  cases adds <;> rfl

theorem AddsTable.isStopped_eq {isReady : Bool} (adds : AddsTable environment isReady changed) :
    changed.isStopped = environment.isStopped := by
  cases adds <;> rfl

theorem AddsSeries.isStopped_eq {isReady : Bool} (adds : AddsSeries environment isReady changed) :
    changed.isStopped = environment.isStopped := by
  cases adds <;> rfl

end Environment

/-- An environment that is stopped stays so, and only making sure of a resource changes it. -/
theorem Uses.isStopped {environment changed : Environment} {action : ScopeAction}
    (uses : Uses environment action exchanges changed) (stopped : environment.isStopped = true) :
    changed.isStopped = true ∧ (ensures action = false → changed = environment) := by
  cases uses with
  | nothing => exact ⟨stopped, fun _ => rfl⟩
  | topic name _ result _ run =>
    obtain ⟨topics, ensured⟩ := Environment.runs_ensureTopic run
    exact ⟨ensured.adds.isStopped_eq.trans stopped, nofun⟩
  | table _ result _ run =>
    obtain ⟨-, ⟨-, -, rfl⟩ | ⟨-, adds⟩⟩ := Environment.runs_ensureTable run
    · exact ⟨stopped, nofun⟩
    · exact ⟨adds.isStopped_eq.trans stopped, nofun⟩
  | series _ result _ run =>
    obtain ⟨-, ⟨-, -, rfl⟩ | ⟨-, adds⟩⟩ := Environment.runs_ensureSeries run
    · exact ⟨stopped, nofun⟩
    · exact ⟨adds.isStopped_eq.trans stopped, nofun⟩
  | stop _ _ run =>
    obtain ⟨-, rfl⟩ := (Environment.runs_stop_of_isStopped_iff stopped).1 run
    exact ⟨stopped, fun _ => rfl⟩

theorem isStopped_of_runs_perform {action : ScopeAction} {reply : ScopeReply action}
    (stopped : scope.environment.isStopped = true)
    (run : Runs (Scope.perform action scope) exchanges (reply, after)) :
    after.environment.isStopped = true ∧
      (ensures action = false → after.environment = scope.environment) := by
  by_cases idle : isFinish action = true → scope.isFinished = true
  · exact (gains_of_runs_perform idle run).2.isStopped stopped
  · obtain ⟨finishes, unfinished⟩ := Classical.not_imp.1 idle
    cases action with
    | finish =>
      obtain ⟨_, _, _, _, environment, -, -, stopping, rfl, -⟩ :=
        (runs_finish_of_unfinished_iff (Bool.eq_false_of_not_eq_true unfinished)).1
          ((runs_state_iff _ _ _ _).1 run)
      obtain ⟨-, rfl⟩ := (Environment.runs_stop_of_isStopped_iff stopped).1 stopping
      exact ⟨stopped, fun _ => rfl⟩
    | _ => cases finishes

theorem isStopped_of_threaded (stopped : scope.environment.isStopped = true)
    (threaded : Threaded Scope.perform scope own exchanges final) :
    final.environment.isStopped = true ∧
      ((∀ action ∈ own.map Exchange.action, ensures action = false) →
        final.environment = scope.environment) := by
  induction threaded with
  | nil scope => exact ⟨stopped, fun _ => rfl⟩
  | cons action reply own before others scope next final first rest inductionHypothesis =>
    obtain ⟨stays, same⟩ := isStopped_of_runs_perform stopped first
    obtain ⟨staysOn, sameOn⟩ := inductionHypothesis stays
    refine ⟨staysOn, fun noResource => ?_⟩
    rw [sameOn fun action member => noResource action (List.mem_cons_of_mem _ member),
      same (noResource _ List.mem_cons_self)]

/-- The first stop takes away what the environment of a scope holds by then, once. -/
def StoppedOnce (required : RequiredResources) (scope : Scope)
    (own : List (Exchange ScopeAction ScopeReply)) (exchanges : List (Exchange Action Reply)) :
    Prop :=
  ∃ earlier performed standing between removed behind admin,
    exchanges = performed ++ (between ++ (removed ++ behind)) ∧
    earlier.map Exchange.action = beforeFirst endsEarly (own.map Exchange.action) ∧
    Threaded Scope.perform scope earlier performed standing ∧
    (standing.environment.topics ≠ [] → standing.environment.admin = some admin) ∧
    Environment.TakenAway required (standing.environment.removals admin) removed

theorem stoppedOnce_of_threaded {actions : List ScopeAction}
    (held : Held settings required actions scope)
    (ends : ∃ exchange ∈ own, endsEarly exchange.action = true)
    (threaded : Threaded Scope.perform scope own exchanges final) :
    StoppedOnce required scope own exchanges ∧ final.environment.isStopped = true ∧
      ((∀ action ∈ behindFirst endsEarly (own.map Exchange.action), ensures action = false) →
        final.environment.resourceCount = 0) := by
  obtain ⟨earlier, ⟨action, reply⟩, later, rfl, none, isFirst⟩ := exists_first ends
  rw [behindFirst_eq none isFirst]
  obtain ⟨before, standing, _, rfl, early, rest⟩ := (threaded_append_iff _ _ _ _ _).1 threaded
  have stillHeld := held.threaded none early
  obtain ⟨admin, fits, stops⟩ :=
    Environment.exists_runs_stop_iff stillHeld.environment.consistent
  cases rest with
  | cons _ _ _ whole behind _ stopped _ stopping late =>
    have taken : ∃ between removed closing, whole = between ++ (removed ++ closing) ∧
        Environment.TakenAway required (standing.environment.removals admin) removed ∧
        stopped.environment = standing.environment.cleared := by
      cases action with
      | finish =>
        obtain ⟨_, _, _, removed, _, -, -, environmentStop, rfl, rfl⟩ :=
          (runs_finish_of_unfinished_iff stillHeld.unfinished).1
            ((runs_state_iff _ _ _ _).1 stopping)
        obtain ⟨rfl, takenAway⟩ := (stops _ _).1 environmentStop
        exact ⟨_, removed, _, (List.append_assoc _ _ _).symm, takenAway, rfl⟩
      | stopEnvironment =>
        obtain ⟨run, -⟩ := runs_stopEnvironment stopping
        obtain ⟨same, takenAway⟩ := (stops _ _).1 run
        exact ⟨[], whole, [], (List.append_nil _).symm, takenAway, same⟩
      | _ => cases isFirst
    obtain ⟨between, removed, closing, rfl, takenAway, same⟩ := taken
    have isStopped : stopped.environment.isStopped = true := by
      rw [same]
      rfl
    obtain ⟨stays, unchanged⟩ := isStopped_of_threaded isStopped late
    refine ⟨⟨earlier, before, standing, between, removed, closing ++ behind, admin, ?_,
      (beforeFirst_eq none isFirst).symm, early, fits, takenAway⟩, stays, fun noResource => ?_⟩
    · simp only [List.append_assoc]
    · rw [unchanged noResource, same]
      rfl

/-! ### Scoped runs -/

variable {Value Failure Payload : Type}

/-- A scoped run whose body may take its scope down itself. The first finish, which is that of the
run at the latest, stops the processes and runs the steps that are registered by then, and the first
stop of the environment takes away what it holds by then, each once. What the body registers behind
the first finish is left, and so is what it makes sure of behind the first stop. Nothing else is. -/
theorem runScoped_teardown_account (settings : Settings) (required : RequiredResources)
    (body : Body Value Failure Payload) (reported : Ending Value (ScopeError Failure) Payload)
    (run : Runs (runScoped settings required body) exchanges reported) :
    (∃ error, reported = .returned (.error (.provisioning error))) ∨
    ∃ own ending environment provisioning performed final dropping,
      Runs (Environment.make settings required).provision provisioning (.ok (), environment) ∧
      Runs body own ending ∧ Reports ending reported ∧
      Threaded Scope.perform { environment } (own ++ [⟨.finish, ()⟩]) performed final ∧
      Runs final.drop dropping () ∧
      exchanges = provisioning ++ environment.readyNoted :: (performed ++ dropping) ∧
      FinishedOnce (own.map Exchange.action ++ [.finish]) performed ∧
      LeftLate (own.map Exchange.action ++ [.finish]) final ∧
      StoppedOnce required { environment } (own ++ [⟨.finish, ()⟩]) performed ∧
      ((∀ action ∈ behindFirst endsEarly (own.map Exchange.action ++ [.finish]),
          ensures action = false) → final.environment.resourceCount = 0) := by
  obtain ⟨decided, left, teardown, rfl, deciding, leaving⟩ := (runs_runScoped_iff reported).1 run
  cases (runs_decision_iff reported left).1 deciding with
  | unprovisioned provisioning error environment first => exact .inl ⟨error, rfl⟩
  | ended provisioning performed environment own ending scope first ran threaded =>
    obtain ⟨finishing, final, dropping, rfl, finish, drop⟩ := (runs_bind_iff _ _ _ _).1 leaving
    -- The finish of the run is one more action behind those of the body.
    have whole : Threaded Scope.perform { environment } (own ++ [⟨.finish, ()⟩])
        (performed ++ (finishing ++ [])) final :=
      (threaded_append_iff _ _ _ _ _).2 ⟨performed, scope, _, rfl, threaded,
        .cons _ _ _ _ _ _ _ _ ((runs_state_iff _ _ _ _).2 finish) (.nil final)⟩
    rw [List.append_nil] at whole
    have finishes : ∃ exchange ∈ own ++ [(⟨.finish, ()⟩ : Exchange ScopeAction ScopeReply)],
        isFinish exchange.action = true :=
      ⟨_, List.mem_append_right _ List.mem_cons_self, rfl⟩
    have ends : ∃ exchange ∈ own ++ [(⟨.finish, ()⟩ : Exchange ScopeAction ScopeReply)],
        endsEarly exchange.action = true :=
      finishes.imp fun _ ⟨member, isLast⟩ => ⟨member, endsEarly_of_isFinish isLast⟩
    have fresh : Held settings required [] { environment } :=
      ⟨rfl, .provisioned _ _ _ first, rfl, rfl⟩
    obtain ⟨finished, late⟩ := finishedOnce_of_threaded finishes whole
    obtain ⟨stopped, -, lateResources⟩ := stoppedOnce_of_threaded fresh ends whole
    rw [List.map_append] at finished late lateResources
    refine .inr ⟨own, ending, environment, provisioning, performed ++ finishing, final, dropping,
      first, ran, (reports_iff _ _).2 rfl, whole, drop, ?_, finished, late, stopped, lateResources⟩
    simp only [List.append_assoc, List.cons_append]

/-- A step that performs a task of the test. -/
def lateStep : TeardownStep where
  name := "late"
  run := (ask (.task "late")).bind fun _ => .done (.ok ())

/-- A body that finishes its scope and registers a step behind that. -/
def registersLate : Body Unit String String :=
  .act .finish fun _ => .act (.defer lateStep) fun _ => .done (.returned (.ok ()))

/-- The step is left when the run ends. -/
theorem runScoped_teardown_account_late :
    ∃ exchanges, Runs (runScoped {} .none registersLate) exchanges (.returned (.ok ())) ∧
      ∃ environment performed final,
        Threaded Scope.perform { environment }
          [⟨.finish, ()⟩, ⟨.defer lateStep, ()⟩, ⟨.finish, ()⟩] performed final ∧
        final.deferred.newestFirst = [lateStep] := by
  obtain ⟨exchanges, run⟩ : ∃ exchanges,
      Runs (runScoped {} .none registersLate) exchanges (.returned (.ok ())) :=
    exists_runs_act () (exists_runs_act () (exists_runs_act () ⟨[], .done _⟩))
  refine ⟨exchanges, run, ?_⟩
  rcases runScoped_teardown_account _ _ _ _ run with ⟨error, same⟩ |
    ⟨own, ending, environment, _, performed, final, _, -, ran, -, threaded, -, -, -, late, -⟩
  · cases same
  · obtain ⟨_, _, rfl, second⟩ := (runs_act_iff _ _ _ _).1 ran
    obtain ⟨_, _, rfl, third⟩ := (runs_act_iff _ _ _ _).1 second
    obtain ⟨rfl, -⟩ := (runs_done_iff _ _ _).1 third
    exact ⟨environment, performed, final, threaded, late.deferred⟩

/-- No run of the body performs the task of the step that it registered. -/
theorem runScoped_skips_late_step :
    (∃ exchanges, Runs (runScoped {} .none registersLate) exchanges (.returned (.ok ()))) ∧
      ∀ exchanges reported, Runs (runScoped {} .none registersLate) exchanges reported →
        ∀ exchange ∈ exchanges, exchange.action ≠ .task "late" := by
  refine ⟨exists_runs_act () (exists_runs_act () (exists_runs_act () ⟨[], .done _⟩)), ?_⟩
  intro exchanges reported run
  obtain ⟨_, _, rfl, second⟩ := (runs_act_iff _ _ _ _).1 run
  obtain ⟨_, _, rfl, third⟩ := (runs_act_iff _ _ _ _).1 second
  obtain ⟨_, _, rfl, fourth⟩ := (runs_act_iff _ _ _ _).1 third
  obtain ⟨rfl, -⟩ := (runs_done_iff _ _ _).1 fourth
  simp

end Testbed
