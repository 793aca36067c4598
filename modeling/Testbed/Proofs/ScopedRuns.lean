/-
This file proves that a scoped run reports what provisioning and the body decide, and nothing else.
What follows a body is the whole teardown: every registered process is stopped, the newest first,
every registered step runs, and the environment is stopped. What a body registers is read off its
actions, and the scope that it leaves holds exactly that; the induction is on the actions, and a
body that neither finishes its scope nor stops its environment leaves the teardown to be done. Two
runs that agree up to the end of the body report the same, whatever becomes of their teardowns.
-/

import Testbed.Proofs.Registrations
import Testbed.Proofs.Starting

namespace Testbed

open Session

variable {settings : Settings} {required : RequiredResources}
  {exchanges : List (Exchange Action Reply)}

/-! ### What a body leaves -/

/-- A scope for settings and required resources on which a body has taken these actions, none of
which took the scope down. -/
structure Held (settings : Settings) (required : RequiredResources) (actions : List ScopeAction)
    (scope : Scope) : Prop where
  unfinished : scope.isFinished = false
  environment : Environment.Reached settings required scope.environment
  processes : scope.processes.map Process.atRest =
    (actions.filterMap registered?).map Process.atRest
  deferred : scope.deferred.newestFirst = (actions.filterMap deferred?).reverse

namespace Held

variable {actions : List ScopeAction} {scope after : Scope}

/-- What a scope holds after one more action. -/
theorem perform {action : ScopeAction} {reply : ScopeReply action}
    (held : Held settings required actions scope) (goesOn : endsEarly action = false)
    (run : Runs (Scope.perform action scope) exchanges (reply, after)) :
    Held settings required (actions ++ [action]) after := by
  have idle (finishes : isFinish action = true) : scope.isFinished = true :=
    absurd (endsEarly_of_isFinish finishes) (by simp [goesOn])
  obtain ⟨gains, uses⟩ := gains_of_runs_perform idle run
  refine ⟨gains.isFinished.trans held.unfinished, ?_, ?_, ?_⟩
  · generalize after.environment = environment at uses
    cases uses with
    | nothing => exact held.environment
    | topic name _ _ _ topicRun => exact .topic _ _ _ _ _ held.environment topicRun
    | table _ _ _ tableRun => exact .table _ _ _ _ held.environment tableRun
    | series _ _ _ seriesRun => exact .series _ _ _ _ held.environment seriesRun
    | stop => cases goesOn
  · rw [gains.processes, held.processes, List.filterMap_append, List.map_append]
  · rw [gains.deferred, held.deferred, List.filterMap_append, List.reverse_append]

/-- What a scope holds after all the actions of a body. -/
theorem threaded {own : List (Exchange ScopeAction ScopeReply)}
    (held : Held settings required actions scope)
    (goesOn : ∀ exchange ∈ own, endsEarly exchange.action = false)
    (threaded : Threaded Scope.perform scope own exchanges after) :
    Held settings required (actions ++ own.map Exchange.action) after := by
  induction threaded generalizing actions with
  | nil scope =>
    rw [List.map_nil, List.append_nil]
    exact held
  | cons action reply own before others scope next after first rest inductionHypothesis =>
    rw [List.map_cons, List.append_cons]
    exact inductionHypothesis (held.perform (goesOn _ List.mem_cons_self) first)
      fun exchange member => goesOn exchange (List.mem_cons_of_mem _ member)

end Held

/-! ### The teardown of a scope -/

/-- These processes were stopped, one after another, in these exchanges. -/
inductive StoppedInTurn : List Process → List (Exchange Action Reply) → Prop where
  | nil : StoppedInTurn [] []
  | cons (process stopped : Process) (rest : List Process)
      (own others : List (Exchange Action Reply)) (first : Runs process.stop own stopped)
      (tail : StoppedInTurn rest others) : StoppedInTurn (process :: rest) (own ++ others)

/-- Processes that were stopped in turn were stopped in two parts, wherever they are cut. -/
theorem stoppedInTurn_append_iff (first second : List Process) :
    StoppedInTurn (first ++ second) exchanges ↔
      ∃ before behind, exchanges = before ++ behind ∧ StoppedInTurn first before ∧
        StoppedInTurn second behind := by
  induction first generalizing exchanges with
  | nil =>
    constructor
    · intro inTurn
      exact ⟨[], exchanges, rfl, .nil, inTurn⟩
    · rintro ⟨_, behind, rfl, nothing, inTurn⟩
      cases nothing
      exact inTurn
  | cons process rest inductionHypothesis =>
    constructor
    · intro inTurn
      cases inTurn with
      | cons _ stopped _ own others run tail =>
        obtain ⟨before, behind, rfl, earlier, later⟩ := inductionHypothesis.1 tail
        exact ⟨own ++ before, behind, (List.append_assoc _ _ _).symm,
          .cons _ _ _ _ _ run earlier, later⟩
    · rintro ⟨_, behind, rfl, earlier, later⟩
      cases earlier with
      | cons _ stopped _ own others run tail =>
        rw [List.append_assoc]
        exact .cons _ _ _ _ _ run (inductionHypothesis.2 ⟨others, behind, rfl, tail, later⟩)

theorem stoppedInTurn_singleton_iff (process : Process) :
    StoppedInTurn [process] exchanges ↔ ∃ stopped, Runs process.stop exchanges stopped := by
  constructor
  · intro inTurn
    cases inTurn with
    | cons _ stopped _ own others run tail =>
      cases tail
      rw [List.append_nil]
      exact ⟨stopped, run⟩
  · rintro ⟨stopped, run⟩
    have inTurn := StoppedInTurn.cons process stopped [] exchanges [] run .nil
    rw [List.append_nil] at inTurn
    exact inTurn

/-- Processes are stopped in the reverse of the order in which they were registered. -/
theorem runs_stopNewestFirst_iff (processes : List Process) (done : Unit) :
    Runs (Scope.stopNewestFirst processes) exchanges done ↔
      StoppedInTurn processes.reverse exchanges := by
  induction processes generalizing exchanges done with
  | nil =>
    unfold Scope.stopNewestFirst
    rw [pure_eq, runs_done_iff]
    constructor
    · rintro ⟨rfl, -⟩
      exact .nil
    · intro inTurn
      cases inTurn
      exact ⟨rfl, rfl⟩
  | cons process newer inductionHypothesis =>
    unfold Scope.stopNewestFirst
    rw [List.reverse_cons, stoppedInTurn_append_iff, bind_eq, runs_bind_iff]
    constructor
    · rintro ⟨before, _, own, rfl, first, second⟩
      obtain ⟨stopped, stopping, -⟩ := (runs_bind_done_iff _ _ _ _).1 second
      exact ⟨before, own, rfl, (inductionHypothesis _).1 first,
        (stoppedInTurn_singleton_iff _).2 ⟨stopped, stopping⟩⟩
    · rintro ⟨before, own, rfl, earlier, last⟩
      obtain ⟨stopped, stopping⟩ := (stoppedInTurn_singleton_iff _).1 last
      exact ⟨before, (), own, rfl, (inductionHypothesis _).2 earlier,
        (runs_bind_done_iff _ _ _ _).2 ⟨stopped, stopping, rfl⟩⟩

/-- The exchange that notes the failures among the registered steps, if there are any. -/
def deferredNoted (failures : Nat) : List (Exchange Action Reply) :=
  if failures = 0 then []
  else
    [noted .warn "lake.env" "Deferred teardown steps failed" [("failures", .number failures)]]

theorem runs_runDeferred_iff (deferred left : Teardown) :
    Runs (Scope.runDeferred deferred) exchanges left ↔
      left = .empty ∧ ∃ own results, Teardown.RanSteps deferred.newestFirst own results ∧
        exchanges = own ++ deferredNoted (Teardown.failures results) := by
  have closing (failures : Nat) (rest : List (Exchange Action Reply)) (final : Teardown) :
      Runs (if failures = 0 then Session.done .empty
          else (note .warn "lake.env" "Deferred teardown steps failed"
            [("failures", .number failures)]).bind fun _ => Session.done .empty) rest final ↔
        rest = deferredNoted failures ∧ final = .empty := by
    unfold deferredNoted
    split
    · exact runs_done_iff _ _ _
    · exact runs_note_done_iff _ _ _ _ _ _ _
  unfold Scope.runDeferred
  rw [bind_eq, runs_bind_iff]
  constructor
  · rintro ⟨own, ⟨failed, emptied⟩, rest, rfl, first, second⟩
    obtain ⟨rfl, results, ran, rfl⟩ := (Teardown.runs_run_iff _ _ _ _).1 first
    obtain ⟨rfl, rfl⟩ := (closing (Teardown.failures results) _ _).1 second
    exact ⟨rfl, own, results, ran, rfl⟩
  · rintro ⟨rfl, own, results, ran, rfl⟩
    exact ⟨own, (Teardown.failures results, .empty), _, rfl,
      (Teardown.runs_run_iff _ _ _ _).2 ⟨rfl, results, ran, rfl⟩,
      (closing (Teardown.failures results) _ _).2 ⟨rfl, rfl⟩⟩

/-- The first finish of a scope stops its processes, the newest first, runs its registered steps,
the newest first, and stops its environment. -/
theorem runs_finish_of_unfinished_iff {scope finished : Scope}
    (unfinished : scope.isFinished = false) :
    Runs scope.finish exchanges finished ↔
      ∃ stops deferred results removed environment,
        StoppedInTurn scope.processes.reverse stops ∧
        Teardown.RanSteps scope.deferred.newestFirst deferred results ∧
        Runs scope.environment.stop removed environment ∧
        finished = { environment, deferred := .empty, isFinished := true } ∧
        exchanges = stops ++ ((deferred ++ deferredNoted (Teardown.failures results)) ++
          (removed ++ [noted .info "lake.env" "Test scope finished" []])) := by
  unfold Scope.finish
  rw [if_neg (by rw [unfinished]; exact Bool.false_ne_true), bind_eq, runs_bind_iff]
  constructor
  · rintro ⟨stopped, _, rest, rfl, first, run⟩
    obtain ⟨own, deferred, rest, rfl, second, run⟩ := (runs_bind_iff _ _ _ _).1 run
    obtain ⟨removed, environment, rest, rfl, third, run⟩ := (runs_bind_iff _ _ _ _).1 run
    obtain ⟨rfl, rfl⟩ := (runs_note_done_iff _ _ _ _ _ _ _).1 run
    obtain ⟨rfl, steps, results, ran, rfl⟩ := (runs_runDeferred_iff _ _).1 second
    exact ⟨stopped, steps, results, removed, environment, (runs_stopNewestFirst_iff _ _).1 first,
      ran, third, rfl, rfl⟩
  · rintro ⟨stopped, steps, results, removed, environment, inTurn, ran, third, rfl, rfl⟩
    refine ⟨stopped, (), _, rfl, (runs_stopNewestFirst_iff _ _).2 inTurn, ?_⟩
    have second : Runs (Scope.runDeferred scope.deferred) _ .empty :=
      (runs_runDeferred_iff _ _).2 ⟨rfl, steps, results, ran, rfl⟩
    exact second.bind (third.bind ((runs_note_done_iff _ _ _ _ _ _ _).2 ⟨rfl, rfl⟩))

/-- The scope was finished in these exchanges: its processes were stopped, the newest first, then
its registered steps ran, the newest first, and then everything was taken away that its environment
holds. -/
def Finished (required : RequiredResources) (scope : Scope)
    (exchanges : List (Exchange Action Reply)) : Prop :=
  ∃ stops deferred results removed admin,
    StoppedInTurn scope.processes.reverse stops ∧
    Teardown.RanSteps scope.deferred.newestFirst deferred results ∧
    (scope.environment.topics ≠ [] → scope.environment.admin = some admin) ∧
    Environment.TakenAway required (scope.environment.removals admin) removed ∧
    exchanges = stops ++ ((deferred ++ deferredNoted (Teardown.failures results)) ++
      (removed ++ [noted .info "lake.env" "Test scope finished" []]))

theorem runs_finish_iff {actions : List ScopeAction} {scope finished : Scope}
    (held : Held settings required actions scope) :
    Runs scope.finish exchanges finished ↔
      finished =
          { environment := scope.environment.cleared, deferred := .empty, isFinished := true } ∧
        Finished required scope exchanges := by
  obtain ⟨admin, fits, stops⟩ := Environment.exists_runs_stop_iff held.environment.consistent
  rw [runs_finish_of_unfinished_iff held.unfinished]
  constructor
  · rintro ⟨stopped, steps, results, removed, environment, inTurn, ran, stopping, rfl, rfl⟩
    obtain ⟨rfl, takenAway⟩ := (stops _ _).1 stopping
    exact ⟨rfl, stopped, steps, results, removed, admin, inTurn, ran, fits, takenAway, rfl⟩
  · rintro ⟨rfl, stopped, steps, results, removed, other, inTurn, ran, fitting, takenAway, rfl⟩
    rw [Environment.removals_eq fitting fits] at takenAway
    exact ⟨stopped, steps, results, removed, _, inTurn, ran, (stops _ _).2 ⟨rfl, takenAway⟩, rfl,
      rfl⟩

/-- A scope that a body leaves is finished once, and nothing is left to do when it is dropped. -/
theorem runs_finish_drop_iff {actions : List ScopeAction} {scope : Scope}
    (held : Held settings required actions scope) (done : Unit) :
    Runs (scope.finish.bind Scope.drop) exchanges done ↔ Finished required scope exchanges := by
  rw [runs_bind_iff]
  constructor
  · rintro ⟨before, finished, after, rfl, first, second⟩
    obtain ⟨rfl, whole⟩ := (runs_finish_iff held).1 first
    obtain ⟨rfl, -⟩ := (runs_done_iff _ _ _).1 second
    rw [List.append_nil]
    exact whole
  · intro whole
    exact ⟨exchanges, _, [], (List.append_nil _).symm, (runs_finish_iff held).2 ⟨rfl, whole⟩,
      .done _⟩

/-! ### What decides a scoped run -/

variable {Value Failure Payload : Type} {body : Body Value Failure Payload}

/-- What a scoped run reports for the end of its body. -/
inductive Reports :
    Ending Value Failure Payload → Ending Value (ScopeError Failure) Payload → Prop where
  | value (value : Value) : Reports (.returned (.ok value)) (.returned (.ok value))
  | failure (cause : Failure) :
      Reports (.returned (.error cause)) (.returned (.error (.body cause)))
  | panic (payload : Payload) : Reports (.panicked payload) (.panicked payload)

theorem reports_iff (ending : Ending Value Failure Payload)
    (reported : Ending Value (ScopeError Failure) Payload) :
    Reports ending reported ↔ reported = ending.ofBody := by
  constructor
  · intro reports
    cases reports <;> rfl
  · rintro rfl
    rcases ending with (cause | value) | payload
    · exact .failure cause
    · exact .value value
    · exact .panic payload

/-- A scoped run: what decides it, then its teardown, and what it reports. -/
inductive ScopedRun (settings : Settings) (required : RequiredResources)
    (body : Body Value Failure Payload) :
    List (Exchange Action Reply) → List (Exchange Action Reply) →
      Ending Value (ScopeError Failure) Payload → Prop where
  /-- The provisioning fails. The body does not run. -/
  | unprovisioned (provisioning teardown : List (Exchange Action Reply))
      (error : ProvisioningError) (environment : Environment) (admin : Broker.TopicAdmin)
      (run : Runs (Environment.make settings required).provision provisioning
        (.error error, environment))
      (fits : environment.topics ≠ [] → environment.admin = some admin)
      (takenAway : Environment.TakenAway required (environment.removals admin) teardown) :
      ScopedRun settings required body (provisioning ++ [Environment.failureNoted error]) teardown
        (.returned (.error (.provisioning error)))
  /-- The body runs, and the scope that it leaves is finished. -/
  | ended (provisioning performed teardown : List (Exchange Action Reply))
      (environment : Environment) (own : List (Exchange ScopeAction ScopeReply))
      (ending : Ending Value Failure Payload) (left : Scope)
      (reported : Ending Value (ScopeError Failure) Payload)
      (start : Runs (Environment.make settings required).provision provisioning
        (.ok (), environment))
      (run : Runs body own ending)
      (threaded : Threaded Scope.perform { environment } own performed left)
      (held : Held settings required (own.map Exchange.action) left)
      (reports : Reports ending reported) (finished : Finished required left teardown) :
      ScopedRun settings required body (provisioning ++ environment.readyNoted :: performed)
        teardown reported

/-- The part of a scoped run before its teardown. Gives what is reported, and what is left to be
taken down: the environment whose provisioning failed, or the scope as the body leaves it. -/
def decision (settings : Settings) (required : RequiredResources)
    (body : Body Value Failure Payload) :
    Work (Ending Value (ScopeError Failure) Payload × (Environment ⊕ Scope)) := do
  let (provisioned, environment) ← (Environment.make settings required).provision
  match provisioned with
  | .error error =>
    note .warn "lake.env" "Environment start failed, tearing down" [("error", .text error.message)]
    return (.returned (.error (.provisioning error)), .inl environment)
  | .ok () =>
    note .info "lake.env" "Environment ready"
      [("topics", .number environment.topics.length),
        ("postgres", .truth environment.table.isSome),
        ("series_store", .truth environment.seriesHandle.isSome)]
    let (ending, scope) ← body.runIn { environment }
    return (ending.ofBody, .inr scope)

/-- How a scoped run is decided, by what it reports and what is left to be taken down. -/
inductive Decided (settings : Settings) (required : RequiredResources)
    (body : Body Value Failure Payload) :
    List (Exchange Action Reply) → Ending Value (ScopeError Failure) Payload →
      Environment ⊕ Scope → Prop where
  | unprovisioned (provisioning : List (Exchange Action Reply)) (error : ProvisioningError)
      (environment : Environment)
      (run : Runs (Environment.make settings required).provision provisioning
        (.error error, environment)) :
      Decided settings required body (provisioning ++ [Environment.failureNoted error])
        (.returned (.error (.provisioning error))) (.inl environment)
  | ended (provisioning performed : List (Exchange Action Reply)) (environment : Environment)
      (own : List (Exchange ScopeAction ScopeReply)) (ending : Ending Value Failure Payload)
      (scope : Scope)
      (start : Runs (Environment.make settings required).provision provisioning
        (.ok (), environment))
      (run : Runs body own ending)
      (threaded : Threaded Scope.perform { environment } own performed scope) :
      Decided settings required body (provisioning ++ environment.readyNoted :: performed)
        ending.ofBody (.inr scope)

theorem runs_decision_iff (reported : Ending Value (ScopeError Failure) Payload)
    (left : Environment ⊕ Scope) :
    Runs (decision settings required body) exchanges (reported, left) ↔
      Decided settings required body exchanges reported left := by
  constructor
  · intro run
    obtain ⟨provisioning, ⟨provisioned, environment⟩, rest, rfl, first, second⟩ :=
      (runs_bind_iff _ _ _ _).1 run
    cases provisioned with
    | error error =>
      obtain ⟨rfl, same⟩ := (runs_note_done_iff _ _ _ _ _ _ _).1 second
      obtain ⟨rfl, rfl⟩ := Prod.mk.inj same
      exact .unprovisioned provisioning error environment first
    | ok done =>
      obtain ⟨_, performed, rfl, third⟩ := (runs_act_bind_iff _ _ _ _).1 second
      obtain ⟨⟨ending, scope⟩, bodyRun, same⟩ := (runs_bind_done_iff _ _ _ _).1 third
      obtain ⟨rfl, rfl⟩ := Prod.mk.inj same
      obtain ⟨own, ran, threaded⟩ := (runs_threaded_iff _ _ _ _ _).1 bodyRun
      exact .ended provisioning performed environment own ending scope first ran threaded
  · intro decided
    cases decided with
    | unprovisioned provisioning error environment run =>
      exact run.bind ((runs_note_done_iff _ _ _ _ _ _ _).2 ⟨rfl, rfl⟩)
    | ended provisioning performed environment own ending scope start run threaded =>
      have performing : Runs (body.runIn { environment }) performed (ending, scope) :=
        (runs_threaded_iff _ _ _ _ _).2 ⟨own, run, threaded⟩
      exact start.bind ((runs_act_bind_iff _ _ _ _).2
        ⟨(), performed, rfl, (runs_bind_done_iff _ _ _ _).2 ⟨_, performing, rfl⟩⟩)

/-- Takes down what is left. -/
def leave : Environment ⊕ Scope → Work Unit
  | .inl environment => environment.stop.bind fun _ => .done ()
  | .inr scope => scope.finish.bind Scope.drop

/-- A scoped run is its decision, followed by a teardown whose result is not looked at. -/
theorem runScoped_eq (settings : Settings) (required : RequiredResources)
    (body : Body Value Failure Payload) :
    runScoped settings required body =
      (decision settings required body).bind fun decided =>
        (leave decided.2).bind fun _ => .done decided.1 := by
  unfold runScoped Scope.start Environment.start decision
  simp only [bind_eq, pure_eq, bind_bind]
  congr 1
  funext ⟨provisioned, environment⟩
  cases provisioned with
  | error error => simp only [bind_bind, done_bind, leave]
  | ok done => simp only [bind_bind, done_bind, leave]

theorem runs_runScoped_iff (reported : Ending Value (ScopeError Failure) Payload) :
    Runs (runScoped settings required body) exchanges reported ↔
      ∃ decided left teardown, exchanges = decided ++ teardown ∧
        Runs (decision settings required body) decided (reported, left) ∧
        Runs (leave left) teardown () := by
  rw [runScoped_eq, runs_bind_iff]
  constructor
  · rintro ⟨decided, ⟨reported, left⟩, teardown, rfl, first, second⟩
    obtain ⟨_, leaving, rfl⟩ := (runs_bind_done_iff _ _ _ _).1 second
    exact ⟨decided, left, teardown, rfl, first, leaving⟩
  · rintro ⟨decided, left, teardown, rfl, first, leaving⟩
    exact ⟨decided, _, teardown, rfl, first, (runs_bind_done_iff _ _ _ _).2 ⟨(), leaving, rfl⟩⟩

/-- A scoped run of a body that leaves the teardown to be done is one of its decision. -/
theorem scopedRun_of_runs {decided teardown : List (Exchange Action Reply)}
    {left : Environment ⊕ Scope} {reported : Ending Value (ScopeError Failure) Payload}
    (goesOn : Avoids endsEarly body)
    (deciding : Runs (decision settings required body) decided (reported, left))
    (leaving : Runs (leave left) teardown ()) :
    ScopedRun settings required body decided teardown reported := by
  cases (runs_decision_iff reported left).1 deciding with
  | unprovisioned provisioning error environment first =>
    obtain ⟨stopped, stopping, -⟩ := (runs_bind_done_iff _ _ _ _).1 leaving
    obtain ⟨admin, fits, stops⟩ :=
      Environment.exists_runs_stop_iff (Environment.runs_provision first).consistent
    exact .unprovisioned provisioning teardown error environment admin first fits
      ((stops _ _).1 stopping).2
  | ended provisioning performed environment own ending scope first bodyRun threaded =>
    have fresh : Held settings required [] { environment } :=
      ⟨rfl, .provisioned _ _ _ first, rfl, rfl⟩
    -- The body takes nothing down, so all that it registered is left to the teardown.
    have held := fresh.threaded (goesOn own ending bodyRun) threaded
    exact .ended provisioning performed teardown environment own ending scope _ first bodyRun
      threaded held ((reports_iff _ _).2 rfl) ((runs_finish_drop_iff held ()).1 leaving)

/-- What a scoped run reports is part of its decision. -/
theorem ScopedRun.exists_runs {decided teardown : List (Exchange Action Reply)}
    {reported : Ending Value (ScopeError Failure) Payload}
    (scopedRun : ScopedRun settings required body decided teardown reported) :
    ∃ left, Runs (decision settings required body) decided (reported, left) ∧
      Runs (leave left) teardown () := by
  cases scopedRun with
  | unprovisioned provisioning _ error environment admin run fits takenAway =>
    obtain ⟨other, fitting, stops⟩ :=
      Environment.exists_runs_stop_iff (Environment.runs_provision run).consistent
    rw [Environment.removals_eq fits fitting] at takenAway
    exact ⟨.inl environment, (runs_decision_iff _ _).2 (.unprovisioned _ _ _ run),
      (runs_bind_done_iff _ _ _ _).2 ⟨_, (stops _ _).2 ⟨rfl, takenAway⟩, rfl⟩⟩
  | ended provisioning performed _ environment own ending left _ start run threaded held reports
      finished =>
    obtain rfl := (reports_iff _ _).1 reports
    exact ⟨.inr left, (runs_decision_iff _ _).2 (.ended _ _ _ _ _ _ start run threaded),
      (runs_finish_drop_iff held ()).2 finished⟩

/-- A scoped run whose body leaves the teardown to be done reports the error of its provisioning, in
which case the body does not run, or what its body ended with, after the whole teardown. Whatever
becomes of the teardown, what is reported stays the same. -/
theorem runScoped_account (settings : Settings) (required : RequiredResources)
    (body : Body Value Failure Payload) (goesOn : Avoids endsEarly body) :
    (∀ exchanges reported, Runs (runScoped settings required body) exchanges reported ↔
      ∃ decided teardown, exchanges = decided ++ teardown ∧
        ScopedRun settings required body decided teardown reported) ∧
    ∀ decided teardown other reported result,
      ScopedRun settings required body decided teardown reported →
        Runs (runScoped settings required body) (decided ++ other) result → result = reported := by
  constructor
  · intro exchanges reported
    rw [runs_runScoped_iff]
    constructor
    · rintro ⟨decided, left, teardown, rfl, deciding, leaving⟩
      exact ⟨decided, teardown, rfl, scopedRun_of_runs goesOn deciding leaving⟩
    · rintro ⟨decided, teardown, rfl, scopedRun⟩
      obtain ⟨left, deciding, leaving⟩ := scopedRun.exists_runs
      exact ⟨decided, left, teardown, rfl, deciding, leaving⟩
  · intro decided teardown other reported result scopedRun run
    -- Both decisions are runs of one session that begin with the same exchanges.
    obtain ⟨left, deciding, -⟩ := scopedRun.exists_runs
    obtain ⟨start, remains, rest, same, starting, -⟩ := (runs_runScoped_iff _).1 run
    obtain ⟨-, sameResult⟩ := starting.unique deciding same.symm
    exact (Prod.mk.inj sameResult).1

/-- A body that registers a step, which will fail, and then panics. -/
def panicking : Body Unit String String :=
  .act (.defer ⟨"restore", .done (.error "gone")⟩) fun _ => .done (.panicked "assertion failed")

/-- The panic is reported after the teardown, in which a step fails. -/
theorem runScoped_account_panicking :
    Avoids endsEarly panicking ∧
      (∃ exchanges, Runs (runScoped {} .none panicking) exchanges (.panicked "assertion failed")) ∧
      ∃ decided teardown,
        ScopedRun {} .none panicking decided teardown (.panicked "assertion failed") := by
  have goesOn : Avoids endsEarly panicking := (avoids_act_done _ rfl).bind fun _ => avoids_done _
  have run : ∃ exchanges,
      Runs (runScoped {} .none panicking) exchanges (.panicked "assertion failed") := by
    refine exists_runs_act () (exists_runs_act () (exists_runs_act () ?_))
    exact exists_runs_act () (exists_runs_act () ⟨[], .done _⟩)
  refine ⟨goesOn, run, ?_⟩
  obtain ⟨exchanges, run⟩ := run
  obtain ⟨decided, teardown, -, scopedRun⟩ := ((runScoped_account _ _ _ goesOn).1 _ _).1 run
  exact ⟨decided, teardown, scopedRun⟩

end Testbed
