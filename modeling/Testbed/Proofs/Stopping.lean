/-
This file proves what the first stop of an environment takes away: the series, the rows of the
relational store and its pool, the topics, the newest first, and the compose project. What is to be
taken away is read off what the environment holds, independently of the stack of steps that the stop
builds; that both agree rests on the invariant that held topics have an administrator. Each step
runs once, whatever becomes of the others, and nothing is left for a second stop. What a step asks
of the world outside is fixed by what it takes away and does not depend on the replies, but for what
the relational store is asked between its first statement and the closing of its pool.
-/

import Testbed.Proofs.Consistency
import Testbed.Proofs.TeardownRuns

namespace Testbed.Environment

open Session

variable {settings : Settings} {required : RequiredResources} {environment : Environment}
  {exchanges : List (Exchange Action Reply)}

/-! ### What there is to take away -/

/-- Something that a stop takes away. -/
inductive Removal where
  /-- Delete all series. -/
  | series (store : SeriesStore)
  /-- Empty the relational store and close its pool. -/
  | relational (store : RelationalStore)
  /-- Delete a topic. -/
  | topic (admin : Broker.TopicAdmin) (name : String)
  /-- Take the compose project down. -/
  | compose (project : ComposeProject)

/-- The step that takes something away. -/
def Removal.step (required : RequiredResources) : Removal → TeardownStep
  | series store => .describing "delete series" SeriesError.message store.deleteAll
  | relational store =>
    .describing "clear relational store" RelationalError.message
      (clearAndClose store required.clearsRelations)
  | topic admin name =>
    .describing ("delete topic " ++ name) Broker.AdminError.message (admin.delete name)
  | compose project => .describing "compose down" ProvisioningError.message project.down

/-- What is to be taken away of an environment, in the order in which it is, if the administrator
deletes the topics. -/
def removals (environment : Environment) (admin : Broker.TopicAdmin) : List Removal :=
  environment.series.toList.map .series ++
    (environment.relational.toList.map .relational ++
      (environment.topicNames.reverse.map (.topic admin) ++
        environment.settings.composeFile.toList.map fun file =>
          .compose { file, project := environment.settings.composeProject }))

theorem newestFirst_topicSteps (admin : Broker.TopicAdmin) (topics : List TopicHandle)
    (teardown : Teardown) :
    (topics.foldl (fun teardown topic =>
        teardown.pushFailing ("delete topic " ++ topic.name) Broker.AdminError.message
          (admin.delete topic.name)) teardown).newestFirst =
      ((topics.map TopicHandle.name).reverse.map (.topic admin)).map (Removal.step required) ++
        teardown.newestFirst := by
  induction topics generalizing teardown with
  | nil => rfl
  | cons topic rest inductionHypothesis =>
    rw [List.foldl_cons, inductionHypothesis, List.map_cons, List.reverse_cons, List.map_append,
      List.map_append, List.append_assoc]
    rfl

/-- The steps of the teardown are those of what is to be taken away. -/
theorem exists_newestFirst_teardown (consistent : Consistent settings required environment) :
    ∃ admin, (environment.topics ≠ [] → environment.admin = some admin) ∧
      environment.teardown.newestFirst =
        (environment.removals admin).map (Removal.step required) := by
  have compose : (environment.composeSteps .empty).newestFirst =
      (environment.settings.composeFile.toList.map fun file => Removal.compose
        { file, project := environment.settings.composeProject }).map (Removal.step required) := by
    have same := consistent.compose_eq
    rw [← consistent.settings_eq] at same
    unfold composeSteps
    rw [consistent.composeStarted, same]
    unfold make
    cases environment.settings.composeFile <;> rfl
  have relational (teardown : Teardown) : (environment.relationalSteps teardown).newestFirst =
      (environment.relational.toList.map .relational).map (Removal.step required) ++
        teardown.newestFirst := by
    unfold relationalSteps
    rw [consistent.required_eq]
    cases environment.relational <;> rfl
  have series (teardown : Teardown) : (environment.seriesSteps teardown).newestFirst =
      (environment.series.toList.map .series).map (Removal.step required) ++
        teardown.newestFirst := by
    unfold seriesSteps
    cases environment.series <;> rfl
  have topics : ∃ admin, (environment.topics ≠ [] → environment.admin = some admin) ∧
      ∀ teardown, (environment.topicSteps teardown).newestFirst =
        (environment.topicNames.reverse.map (.topic admin)).map (Removal.step required) ++
          teardown.newestFirst := by
    cases held : environment.admin with
    | some admin =>
      refine ⟨admin, fun _ => rfl, fun teardown => ?_⟩
      unfold topicSteps
      rw [held]
      exact newestFirst_topicSteps admin environment.topics teardown
    | none =>
      -- The invariant leaves no topics that the missing administrator would have to delete.
      have none : environment.topics = [] := by
        by_contra some
        have isSome := consistent.admin some
        rw [held] at isSome
        cases isSome
      refine ⟨⟨0⟩, fun some => absurd none some, fun teardown => ?_⟩
      unfold topicSteps topicNames
      rw [held, none]
      rfl
  obtain ⟨admin, fits, topics⟩ := topics
  refine ⟨admin, fits, ?_⟩
  unfold teardown removals
  rw [series, relational, topics, compose, List.map_append, List.map_append, List.map_append]

/-- Without topics it does not matter who deletes them. -/
theorem removals_eq {first second : Broker.TopicAdmin}
    (fits : environment.topics ≠ [] → environment.admin = some first)
    (fitting : environment.topics ≠ [] → environment.admin = some second) :
    environment.removals first = environment.removals second := by
  by_cases none : environment.topics = []
  · unfold removals topicNames
    rw [none]
    rfl
  · have same := (fits none).symm.trans (fitting none)
    cases same
    rfl

/-- Nothing is taken away twice. -/
theorem nodup_removals (admin : Broker.TopicAdmin) (distinct : environment.topicNames.Nodup) :
    (environment.removals admin).Nodup := by
  have topics : (environment.topicNames.map (Removal.topic admin)).Nodup :=
    List.Nodup.map (fun first second same => by cases same; rfl) distinct
  unfold removals
  cases environment.series <;> cases environment.relational <;>
    cases environment.settings.composeFile <;>
    simp [List.nodup_append, List.nodup_cons, topics]

/-! ### What the removals ask for -/

/-- Whether an action writes a log event. -/
def isNote : Action → Bool
  | .note _ => true
  | _ => false

/-- What is asked of the world outside, one action after another: everything but log events. -/
def asked (exchanges : List (Exchange Action Reply)) : List Action :=
  (exchanges.map Exchange.action).filter fun action => !isNote action

/-- What a removal asks for, one action after another. Unless the URL of the series store is
unusable, one request deletes all series. The rows of the data table are deleted first, and the pool
of the relational store is closed last, with nothing in between if the relations are to stay. A
topic takes one request, and the compose project one run of the compose program. -/
def Removal.Asks (required : RequiredResources) (actions : List Action) : Removal → Prop
  | series store =>
    actions = (Http.destination (store.baseUrl ++ "/api/v1/admin/tsdb/delete_series")
      [("match[]", SeriesStore.everySeries)]).toOption.toList.map fun url =>
        .request { method := .post, url, headers := [], body := "" }
  | relational store =>
    ∃ between,
      actions =
        .perform (.pool store.pool) .count
            (RelationalStore.deleteFrom (RelationalStore.qualified store.schema "data")) ::
          (between ++ [.closePool store.pool]) ∧
        (required.clearsRelations = false → between = [])
  | topic admin name => actions = [.deleteTopic admin.client name]
  | compose project =>
    actions = [.compose ["compose", "-f", project.file, "-p", project.project, "down", "-v"]]

@[simp] theorem asked_append (first second : List (Exchange Action Reply)) :
    asked (first ++ second) = asked first ++ asked second := by
  simp [asked]

/-- Work that asks for these actions, one after another, whatever the replies. -/
def AsksExactly {Result : Type} (actions : List Action) (work : Work Result) : Prop :=
  ∀ exchanges result, Runs work exchanges result → asked exchanges = actions

/-- Work that does nothing but write log events. -/
abbrev OnlyNotes {Result : Type} (work : Work Result) : Prop :=
  Avoids (fun action => !isNote action) work

section AsksExactly

variable {Value Result : Type} {actions others : List Action} {work : Work Value}
  {next : Value → Work Result}

theorem OnlyNotes.asksExactly (onlyNotes : OnlyNotes work) : AsksExactly [] work := by
  intro exchanges result run
  refine List.filter_eq_nil_iff.2 fun action member => ?_
  obtain ⟨exchange, made, rfl⟩ := List.mem_map.1 member
  exact Bool.eq_false_iff.1 (onlyNotes exchanges result run exchange made)

theorem asksExactly_ask {action : Action} (noNote : isNote action = false) :
    AsksExactly [action] (ask action) := by
  intro exchanges reply run
  rw [(runs_ask_iff _ _ _).1 run]
  simp [asked, noNote]

theorem AsksExactly.bind (first : AsksExactly actions work)
    (second : ∀ value, AsksExactly others (next value)) :
    AsksExactly (actions ++ others) (work.bind next) := by
  intro exchanges result run
  obtain ⟨before, value, after, rfl, start, rest⟩ := (runs_bind_iff _ _ _ _).1 run
  rw [asked_append, first _ _ start, second _ _ _ rest]

/-- Log events at the end add nothing to what is asked for. -/
theorem AsksExactly.bind_onlyNotes (first : AsksExactly actions work)
    (second : ∀ value, OnlyNotes (next value)) : AsksExactly actions (work.bind next) := by
  simpa using first.bind fun value => (second value).asksExactly

/-- A step whose failures have words of their own asks for what its work asks for. -/
theorem AsksExactly.describing {Failure : Type} {work : Work (Except Failure Unit)}
    (asks : AsksExactly actions work) (name : String) (describe : Failure → String) :
    AsksExactly actions (TeardownStep.describing name describe work).run := by
  intro exchanges result run
  obtain ⟨worked, run, -⟩ := (Teardown.runs_describing_iff _ _ _ _ _).1 run
  exact asks _ _ run

end AsksExactly

/-- A request is sent if its URL is usable. -/
theorem asksExactly_send (method : Http.Method) (url : String)
    (parameters headers : List (String × String)) (body : String) :
    AsksExactly ((Http.destination url parameters).toOption.toList.map fun url =>
      .request { method, url, headers, body }) (Http.send method url parameters headers body) := by
  unfold Http.send
  cases Http.destination url parameters with
  | error fault => exact OnlyNotes.asksExactly (avoids_done _)
  | ok url => exact asksExactly_ask rfl

theorem asksExactly_seriesSend (store : SeriesStore) (method : Http.Method) (endpoint : String)
    (parameters : List (String × String)) (body : String) :
    AsksExactly ((Http.destination (store.baseUrl ++ endpoint) parameters).toOption.toList.map
      fun url => .request { method, url, headers := [], body })
      (store.send method endpoint parameters body) := by
  refine (asksExactly_send _ _ _ _ _).bind_onlyNotes fun sent => ?_
  cases sent with
  | error failure => exact avoids_done _
  | ok response =>
    simp only []
    split <;> exact avoids_done _

theorem asksExactly_deleteAll (store : SeriesStore) :
    AsksExactly ((Http.destination (store.baseUrl ++ "/api/v1/admin/tsdb/delete_series")
      [("match[]", SeriesStore.everySeries)]).toOption.toList.map fun url =>
        .request { method := .post, url, headers := [], body := "" }) store.deleteAll := by
  refine (asksExactly_seriesSend _ _ _ _ _).bind_onlyNotes fun sent => ?_
  cases sent with
  | error error => exact avoids_done _
  | ok response => exact (avoids_ask _ rfl).bind fun _ => avoids_done _

theorem avoids_noteDeletions {kind : Action → Bool}
    (other : ∀ level message fields,
      kind (.note { level, target := "lake.env", message, fields }) = false)
    (results : List (String × Option Broker.ErrorCode)) :
    Avoids kind (Broker.TopicAdmin.noteDeletions results) := by
  induction results with
  | nil => exact avoids_done _
  | cons result rest inductionHypothesis =>
    rcases result with ⟨name, _ | code⟩
    · exact (avoids_ask _ (other _ _ _)).bind fun _ => inductionHypothesis
    · unfold Broker.TopicAdmin.noteDeletions
      split
      · exact (avoids_ask _ (other _ _ _)).bind fun _ => inductionHypothesis
      · exact avoids_done _

theorem asksExactly_deleteTopic (admin : Broker.TopicAdmin) (name : String) :
    AsksExactly [.deleteTopic admin.client name] (admin.delete name) := by
  refine (asksExactly_ask rfl).bind_onlyNotes fun answer => ?_
  cases answer with
  | error cause => exact avoids_done _
  | ok results => exact avoids_noteDeletions (fun _ _ _ => rfl) results

theorem asksExactly_down (project : ComposeProject) :
    AsksExactly
      [.compose ["compose", "-f", project.file, "-p", project.project, "down", "-v"]]
      project.down := by
  have noting : OnlyNotes (note .info "lake.env" "Stopping compose project"
    [("project", .text project.project)]) := avoids_ask _ rfl
  refine noting.asksExactly.bind fun _ => (asksExactly_ask rfl).bind_onlyNotes fun answer => ?_
  rcases answer with cause | ⟨status, complaint⟩
  · exact avoids_done _
  · simp only []
    split <;> exact avoids_done _

theorem asksExactly_clearData (store : RelationalStore) :
    AsksExactly
      [.perform (.pool store.pool) .count
        (RelationalStore.deleteFrom (RelationalStore.qualified store.schema "data"))]
      store.clearData := by
  refine AsksExactly.bind_onlyNotes ((asksExactly_ask rfl).bind_onlyNotes fun answer => ?_)
    fun deleted => ?_
  · cases answer <;> exact avoids_done _
  · cases deleted with
    | error error => exact avoids_done _
    | ok count => exact (avoids_ask _ rfl).bind fun _ => avoids_done _

/-- The relational step clears the store, and then closes the pool whatever became of that. -/
theorem exists_runs_clearRelational {store : RelationalStore} {result : Except String Unit}
    (run : Runs ((Removal.relational store).step required).run exchanges result) :
    ∃ statements cleared, exchanges = statements ++ [⟨.closePool store.pool, ()⟩] ∧
      Runs (clearRelational store required.clearsRelations) statements cleared := by
  obtain ⟨worked, run, -⟩ := (Teardown.runs_describing_iff _ _ _ _ _).1 run
  obtain ⟨statements, cleared, closing, rfl, first, second⟩ := (runs_bind_iff _ _ _ _).1 run
  obtain ⟨_, closed, -⟩ := (runs_bind_done_iff _ _ _ _).1 second
  obtain rfl := (runs_ask_iff _ _ _).1 closed
  exact ⟨statements, cleared, rfl, first⟩

/-- A removal asks for what takes its thing away, and for nothing else. -/
theorem asks_of_runs_step {removal : Removal} {result : Except String Unit}
    (run : Runs (removal.step required).run exchanges result) :
    removal.Asks required (asked exchanges) := by
  cases removal with
  | series store => exact (asksExactly_deleteAll store).describing _ _ _ _ run
  | relational store =>
    obtain ⟨statements, cleared, rfl, clears⟩ := exists_runs_clearRelational run
    obtain ⟨before, deleted, after, rfl, first, second⟩ := (runs_bind_iff _ _ _ _).1 clears
    refine ⟨asked after, ?_, fun isOmitted => ?_⟩
    · rw [asked_append, asked_append, asksExactly_clearData store _ _ first, List.append_assoc]
      rfl
    · rw [isOmitted] at second
      refine OnlyNotes.asksExactly ?_ _ _ second
      cases deleted <;> exact avoids_done _
  | topic admin name => exact (asksExactly_deleteTopic admin name).describing _ _ _ _ run
  | compose project => exact (asksExactly_down project).describing _ _ _ _ run

/-! ### The stop -/

/-- The exchange that notes the end of a stop. -/
def stopNoted (failures : Nat) : Exchange Action Reply :=
  if failures = 0 then noted .info "lake.env" "Environment stopped" []
  else
    noted .warn "lake.env" "Environment stopped with teardown failures"
      [("failures", .number failures)]

/-- In these exchanges everything was taken away, one thing after another, each once and each with
its own result, before the end was noted. -/
def TakenAway (required : RequiredResources) (removals : List Removal)
    (exchanges : List (Exchange Action Reply)) : Prop :=
  ∃ own results, Teardown.RanSteps (removals.map (Removal.step required)) own results ∧
    exchanges = own ++ [stopNoted (Teardown.failures results)]

/-- A stop of an environment that is not stopped runs its teardown and holds nothing any more. -/
theorem runs_stop_iff {stopped : Environment} (unstopped : environment.isStopped = false) :
    Runs environment.stop exchanges stopped ↔
      stopped = environment.cleared ∧
        ∃ own results, Teardown.RanSteps environment.teardown.newestFirst own results ∧
          exchanges = own ++ [stopNoted (Teardown.failures results)] := by
  have closing (failures : Nat) (after : List (Exchange Action Reply)) (final : Environment) :
      Runs (if failures = 0 then (note .info "lake.env" "Environment stopped" []).bind fun _ =>
            Session.done environment.cleared
          else (note .warn "lake.env" "Environment stopped with teardown failures"
            [("failures", .number failures)]).bind fun _ => Session.done environment.cleared)
          after final ↔
        after = [stopNoted failures] ∧ final = environment.cleared := by
    unfold stopNoted
    split <;> exact runs_note_done_iff _ _ _ _ _ _ _
  unfold stop
  rw [if_neg (by rw [unstopped]; exact Bool.false_ne_true), bind_eq, runs_bind_iff]
  constructor
  · rintro ⟨own, ⟨failed, left⟩, after, rfl, first, second⟩
    obtain ⟨rfl, results, ran, rfl⟩ := (Teardown.runs_run_iff _ _ _ _).1 first
    obtain ⟨rfl, rfl⟩ := (closing (Teardown.failures results) _ _).1 second
    exact ⟨rfl, own, results, ran, rfl⟩
  · rintro ⟨rfl, own, results, ran, rfl⟩
    exact ⟨own, (Teardown.failures results, .empty), _, rfl,
      (Teardown.runs_run_iff _ _ _ _).2 ⟨rfl, results, ran, rfl⟩,
      (closing (Teardown.failures results) _ _).2 ⟨rfl, rfl⟩⟩

/-- The first stop of a consistent environment takes everything away. -/
theorem exists_runs_stop_iff (consistent : Consistent settings required environment) :
    ∃ admin, (environment.topics ≠ [] → environment.admin = some admin) ∧
      ∀ exchanges stopped, Runs environment.stop exchanges stopped ↔
        stopped = environment.cleared ∧
          TakenAway required (environment.removals admin) exchanges := by
  obtain ⟨admin, fits, steps⟩ := exists_newestFirst_teardown consistent
  refine ⟨admin, fits, fun exchanges stopped => ?_⟩
  rw [runs_stop_iff consistent.unstopped, steps]
  rfl

/-- A stop of an environment that is stopped does nothing. -/
theorem runs_stop_of_isStopped_iff {stopped : Environment}
    (isStopped : environment.isStopped = true) :
    Runs environment.stop exchanges stopped ↔ exchanges = [] ∧ stopped = environment := by
  unfold stop
  rw [if_pos isStopped, pure_eq, runs_done_iff]

/-! ### Closing the pool -/

/-- Whether an action closes a pool. -/
def closesPool : Action → Bool
  | .closePool _ => true
  | _ => false

theorem OnlyStates.avoids_closesPool {Result : Type} {work : Work Result}
    (onlyStates : OnlyStates work) : Avoids closesPool work := by
  refine onlyStates.mono fun action isStated => ?_
  cases action with
  | closePool pool => cases isStated
  | _ => rfl

section Statements

variable (store : RelationalStore)

theorem onlyStates_clearData : OnlyStates store.clearData := by
  refine (onlyStates_onPool store _).bind fun deleted => ?_
  cases deleted with
  | error error => exact avoids_done _
  | ok count => exact (avoids_ask _ rfl).bind fun _ => avoids_done _

theorem onlyStates_clearIfPresent (transaction : Nat) (table : String) :
    OnlyStates (RelationalStore.clearIfPresent transaction table) := by
  refine (avoids_ask _ rfl).bind fun found => ?_
  rcases found with cause | _ | text
  · exact avoids_done _
  · exact avoids_done _
  · refine (avoids_ask _ rfl).bind fun deleted => ?_
    cases deleted <;> exact avoids_done _

theorem onlyStates_inTransaction {changes : Nat → Work (Except Relational.Failure Unit)}
    (onlyStates : ∀ transaction, OnlyStates (changes transaction)) :
    OnlyStates (store.inTransaction changes) := by
  refine (avoids_ask _ rfl).bind fun begun => ?_
  cases begun with
  | error cause => exact avoids_done _
  | ok transaction =>
    refine (onlyStates transaction).bind fun changed => ?_
    cases changed with
    | error cause => exact (avoids_ask _ rfl).bind fun _ => avoids_done _
    | ok done =>
      refine (avoids_ask _ rfl).bind fun committed => ?_
      cases committed with
      | error cause => exact (avoids_ask _ rfl).bind fun _ => avoids_done _
      | ok done => exact avoids_done _

theorem onlyStates_clearRelations : OnlyStates store.clearRelations := by
  refine (onlyStates_inTransaction store fun transaction => ?_).bind fun cleared => ?_
  · refine (onlyStates_clearIfPresent _ _).bind fun edges => ?_
    cases edges with
    | error cause => exact avoids_done _
    | ok done => exact onlyStates_clearIfPresent _ _
  · cases cleared with
    | error error => exact avoids_done _
    | ok done => exact (avoids_ask _ rfl).bind fun _ => avoids_done _

theorem onlyStates_clearRelational (clearsRelations : Bool) :
    OnlyStates (clearRelational store clearsRelations) := by
  refine (onlyStates_clearData store).bind fun cleared => ?_
  cases cleared with
  | error error => exact avoids_done _
  | ok count =>
    show OnlyStates (if clearsRelations then store.clearRelations else .done (.ok ()))
    split
    · exact onlyStates_clearRelations store
    · exact avoids_done _

end Statements

/-- The relational step ends by closing the pool, whatever became of the statements before, and it
closes no pool before that. -/
theorem closePool_of_runs_step {store : RelationalStore} {result : Except String Unit}
    (run : Runs ((Removal.relational store).step required).run exchanges result) :
    ∃ statements, exchanges = statements ++ [⟨.closePool store.pool, ()⟩] ∧
      ∀ exchange ∈ statements, closesPool exchange.action = false := by
  obtain ⟨statements, cleared, rfl, clears⟩ := exists_runs_clearRelational run
  exact ⟨statements, rfl, (onlyStates_clearRelational store _).avoids_closesPool _ _ clears⟩

/-! ### The first stop and the second -/

/-- The first stop of an environment that was reached takes everything away that is held, each thing
once, and then nothing is held any more and a second stop does nothing. The topics are taken away in
the reverse of the order in which they were made ready, the pool is closed last of all that is done
to the relational store, and the compose project is taken down also if it did not start. Besides log
events, a removal asks for what takes its thing away and for nothing else. -/
theorem stop_account (reached : Reached settings required environment) :
    environment.settings = settings ∧
      (environment.table.isSome = true → environment.relational.isSome = true) ∧
      environment.series.isSome = environment.seriesHandle.isSome ∧
      (∀ name exchanges handle after,
        Runs (environment.ensureTopic name) exchanges (.ok handle, after) →
          after.topicNames = environment.topicNames ++ missing environment.topicNames [name]) ∧
      (∀ store exchanges result,
        Runs ((Removal.relational store).step required).run exchanges result →
          ∃ statements, exchanges = statements ++ [⟨.closePool store.pool, ()⟩] ∧
            ∀ exchange ∈ statements, closesPool exchange.action = false) ∧
      (∀ (removal : Removal) exchanges result, Runs (removal.step required).run exchanges result →
        removal.Asks required (asked exchanges)) ∧
      (∃ admin, (environment.topics ≠ [] → environment.admin = some admin) ∧
        (environment.removals admin).Nodup ∧
        ∀ exchanges stopped, Runs environment.stop exchanges stopped ↔
          stopped = environment.cleared ∧
            TakenAway required (environment.removals admin) exchanges) ∧
      ∀ exchanges stopped, Runs environment.stop exchanges stopped →
        stopped.resourceCount = 0 ∧ stopped.isStopped = true ∧
          ∀ again final, Runs stopped.stop again final ↔ again = [] ∧ final = stopped := by
  have consistent := reached.consistent
  obtain ⟨admin, fits, stops⟩ := exists_runs_stop_iff consistent
  refine ⟨consistent.settings_eq, consistent.relational, consistent.series, ?_,
    fun store exchanges result => closePool_of_runs_step,
    fun removal exchanges result => asks_of_runs_step,
    ⟨admin, fits, nodup_removals admin consistent.distinct, stops⟩, ?_⟩
  · intro name exchanges handle after run
    obtain ⟨topics, ensured⟩ := runs_ensureTopic run
    rw [ensured.adds.topicNames_eq, ensured.complete handle rfl]
  · intro exchanges stopped run
    obtain ⟨rfl, -⟩ := (stops exchanges stopped).1 run
    exact ⟨rfl, rfl, fun again final => runs_stop_of_isStopped_iff rfl⟩

/-- An environment whose provisioning was cut short while the data table was created. -/
theorem stop_account_cutShort :
    ∃ environment,
      Reached { composeFile := some "compose.yml" } { topics := ["orders"], relational := true }
        environment ∧
      environment.table = none ∧
      ∀ exchanges stopped, Runs environment.stop exchanges stopped →
        TakenAway { topics := ["orders"], relational := true }
          [.relational ⟨7, "cdlgrpc"⟩, .topic ⟨1⟩ "orders", .compose ⟨"compose.yml", "cdl-tests"⟩]
          exchanges := by
  have run : ∃ exchanges,
      Runs (make { composeFile := some "compose.yml" }
          { topics := ["orders"], relational := true }).provision exchanges
        (.error (.relational (.database .poolClosed)),
          { begun { composeFile := some "compose.yml" }
              { topics := ["orders"], relational := true } with
            admin := some ⟨1⟩
            topics := [⟨"orders", true⟩]
            relational := some ⟨7, "cdlgrpc"⟩ }) := by
    refine exists_runs_act () (exists_runs_act (.ok (.code 0, [])) ?_)
    refine exists_runs_act .open (exists_runs_act () (exists_runs_act () ?_))
    refine exists_runs_act (.ok 1) ?_
    refine exists_runs_act (.ok [("orders", none)]) ?_
    refine exists_runs_act () (exists_runs_act () (exists_runs_act () ?_))
    refine exists_runs_act (.ok 7) (exists_runs_act () (exists_runs_act () ?_))
    exact exists_runs_act (.error .poolClosed) ⟨[], .done _⟩
  obtain ⟨exchanges, run⟩ := run
  have reached := Reached.provisioned _ _ _ run
  obtain ⟨-, -, -, -, -, -, ⟨admin, fits, -, stops⟩, -⟩ := stop_account reached
  cases fits (by simp)
  exact ⟨_, reached, rfl, fun exchanges stopped run => ((stops _ _).1 run).2⟩
end Testbed.Environment
