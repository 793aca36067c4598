/-
This file proves what holds of every environment on its way to the first stop: whatever it holds, it
also holds the client that takes it away. An environment is reached by a provisioning, complete or
cut short by an error, and by making sure of further resources. Each of these steps keeps what an
environment has to be like, so all environments that are reached are like that.
-/

import Testbed.Proofs.Provisioning

namespace Testbed.Environment

open Session

variable {settings : Settings} {required : RequiredResources} {environment after : Environment}
  {exchanges : List (Exchange Action Reply)}

/-! ### What is held together -/

/-- Everything that an environment holds stands together with the client by which it is taken away
again, and no topic is held twice. -/
structure Coherent (environment : Environment) : Prop where
  distinct : environment.topicNames.Nodup
  admin : environment.topics ≠ [] → environment.admin.isSome = true
  relational : environment.table.isSome = true → environment.relational.isSome = true
  series : environment.series.isSome = environment.seriesHandle.isSome

namespace Coherent

/-- Topics that were missing can be added. -/
theorem addsTopics {topics : List TopicHandle} {names : List String}
    (coherent : environment.Coherent) (adds : AddsTopics environment topics after)
    (added : topics.map TopicHandle.name <+: missing environment.topicNames names) :
    after.Coherent := by
  have distinct : after.topicNames.Nodup := by
    rw [adds.topicNames_eq]
    exact (nodup_append_missing names coherent.distinct).sublist
      ((List.prefix_append_right_inj _).2 added).sublist
  cases adds with
  | unchanged => exact coherent
  | added admin topics fits => exact { coherent with distinct, admin := fun _ => rfl }

/-- A relational store can be connected to, with the data table or without. -/
theorem addsTable {isReady : Bool} (coherent : environment.Coherent)
    (adds : AddsTable environment isReady after) : after.Coherent := by
  cases adds with
  | unchanged => exact coherent
  | connected store => exact { coherent with relational := fun _ => rfl }
  | created store => exact { coherent with relational := fun _ => rfl }

/-- The series store can be found to answer. -/
theorem addsSeries {isReady : Bool} (coherent : environment.Coherent)
    (adds : AddsSeries environment isReady after) : after.Coherent := by
  cases adds with
  | unchanged => exact coherent
  | answered store => exact { coherent with series := rfl }

end Coherent

/-! ### Until the first stop -/

/-- What an environment for settings and required resources is like, once its provisioning has begun
and until it is stopped. -/
structure Consistent (settings : Settings) (required : RequiredResources)
    (environment : Environment) : Prop where
  settings_eq : environment.settings = settings
  required_eq : environment.required = required
  compose_eq : environment.compose = (make settings required).compose
  composeStarted : environment.isComposeStarted = environment.compose.isSome
  unstopped : environment.isStopped = false
  distinct : environment.topicNames.Nodup
  admin : environment.topics ≠ [] → environment.admin.isSome = true
  relational : environment.table.isSome = true → environment.relational.isSome = true
  series : environment.series.isSome = environment.seriesHandle.isSome

namespace Consistent

theorem coherent (consistent : Consistent settings required environment) : environment.Coherent :=
  ⟨consistent.distinct, consistent.admin, consistent.relational, consistent.series⟩

/-- What is held can change, as long as it stands together. -/
theorem change {admin : Option Broker.TopicAdmin} {relational : Option RelationalStore}
    {series : Option SeriesStore} {topics : List TopicHandle} {table : Option TableHandle}
    {seriesHandle : Option SeriesHandle} (consistent : Consistent settings required environment)
    (coherent : ({ environment with admin, relational, series, topics, table, seriesHandle } :
      Environment).Coherent) :
    Consistent settings required
      { environment with admin, relational, series, topics, table, seriesHandle } where
  settings_eq := consistent.settings_eq
  required_eq := consistent.required_eq
  compose_eq := consistent.compose_eq
  composeStarted := consistent.composeStarted
  unstopped := consistent.unstopped
  distinct := coherent.distinct
  admin := coherent.admin
  relational := coherent.relational
  series := coherent.series

/-! ### One step -/

theorem addsTopics {topics : List TopicHandle} {names : List String}
    (consistent : Consistent settings required environment)
    (adds : AddsTopics environment topics after)
    (added : topics.map TopicHandle.name <+: missing environment.topicNames names) :
    Consistent settings required after := by
  have coherent := consistent.coherent.addsTopics adds added
  cases adds with
  | unchanged => exact consistent
  | added admin topics fits => exact consistent.change coherent

theorem addsTable {isReady : Bool} (consistent : Consistent settings required environment)
    (adds : AddsTable environment isReady after) : Consistent settings required after := by
  have coherent := consistent.coherent.addsTable adds
  cases adds with
  | unchanged => exact consistent
  | connected store => exact consistent.change coherent
  | created store => exact consistent.change coherent

theorem addsSeries {isReady : Bool} (consistent : Consistent settings required environment)
    (adds : AddsSeries environment isReady after) : Consistent settings required after := by
  have coherent := consistent.coherent.addsSeries adds
  cases adds with
  | unchanged => exact consistent
  | answered store => exact consistent.change coherent

theorem ensureTopic {name : String} {result : Except ProvisioningError TopicHandle}
    (consistent : Consistent settings required environment)
    (run : Runs (environment.ensureTopic name) exchanges (result, after)) :
    Consistent settings required after := by
  obtain ⟨topics, ensured⟩ := runs_ensureTopic run
  exact consistent.addsTopics ensured.adds ensured.added

theorem ensureTable {result : Except ProvisioningError TableHandle}
    (consistent : Consistent settings required environment)
    (run : Runs environment.ensureTable exchanges (result, after)) :
    Consistent settings required after := by
  obtain ⟨-, ⟨-, -, rfl⟩ | ⟨-, adds⟩⟩ := runs_ensureTable run
  · exact consistent
  · exact consistent.addsTable adds

theorem ensureSeries {result : Except ProvisioningError SeriesHandle}
    (consistent : Consistent settings required environment)
    (run : Runs environment.ensureSeries exchanges (result, after)) :
    Consistent settings required after := by
  obtain ⟨-, ⟨-, -, rfl⟩ | ⟨-, adds⟩⟩ := runs_ensureSeries run
  · exact consistent
  · exact consistent.addsSeries adds

end Consistent

/-! ### Provisioning -/

/-- The environment whose compose project counts as started and which holds nothing else. -/
def begun (settings : Settings) (required : RequiredResources) : Environment :=
  { make settings required with isComposeStarted := (make settings required).compose.isSome }

theorem required_begun (settings : Settings) (required : RequiredResources) :
    (begun settings required).required = required := rfl

theorem consistent_begun (settings : Settings) (required : RequiredResources) :
    Consistent settings required (begun settings required) where
  settings_eq := rfl
  required_eq := rfl
  compose_eq := rfl
  composeStarted := rfl
  unstopped := rfl
  distinct := List.nodup_nil
  admin nonempty := absurd rfl nonempty
  relational isSome := by cases isSome
  series := rfl

theorem accounted_composeRun {compose : ComposeProject} {action : String}
    {arguments : List String} {result : Except ProvisioningError Unit}
    (run : Runs (compose.run action arguments) exchanges result) :
    Accounted settings 0 exchanges result := by
  obtain ⟨answer, rest, rfl, second⟩ := (runs_act_bind_iff _ _ _ _).1 run
  cases answer with
  | error cause =>
    obtain ⟨rfl, rfl⟩ := (runs_done_iff _ _ _).1 second
    exact accounted_quiet rfl (by simp)
  | ok answer =>
    obtain ⟨status, complaint⟩ := answer
    simp only [] at second
    split at second
    · obtain ⟨rfl, rfl⟩ := (runs_done_iff _ _ _).1 second
      exact accounted_quiet rfl (by simp)
    · obtain ⟨rfl, rfl⟩ := (runs_done_iff _ _ _).1 second
      exact accounted_quiet rfl (by simp)

/-- The compose project counts as started, whether or not the compose program succeeds. -/
theorem runs_startCompose {result : Except ProvisioningError Unit}
    (run : Runs (make settings required).startCompose exchanges (result, after)) :
    Accounted settings 0 exchanges result ∧ after = begun settings required := by
  unfold startCompose at run
  split at run
  case h_1 none =>
    obtain ⟨rfl, rfl, rfl⟩ := (runs_done_pair_iff _ _ _ _ _).1 run
    refine ⟨accounted_quiet rfl (by simp), ?_⟩
    unfold begun
    rw [none]
    rfl
  case h_2 compose some =>
    obtain ⟨before, started, rest, rfl, first, second⟩ := (runs_bind_iff _ _ _ _).1 run
    obtain ⟨rfl, rfl, rfl⟩ := (runs_done_pair_iff _ _ _ _ _).1 second
    obtain ⟨_, others, rfl, third⟩ := (runs_act_bind_iff _ _ _ _).1 first
    have isStarted : (make settings required).compose.isSome = true := by
      rw [some]
      rfl
    refine ⟨?_, ?_⟩
    · rw [List.append_nil]
      exact (accounted_composeRun third).cons rfl
    · unfold begun
      rw [isStarted]

/-- What a provisioning leads to: an account of two checks for each distinct topic and of one for
each store, and, if it succeeds, everything that is required. -/
structure Provisioned (settings : Settings) (required : RequiredResources)
    (exchanges : List (Exchange Action Reply)) (result : Except ProvisioningError Unit)
    (environment : Environment) : Prop where
  consistent : Consistent settings required environment
  accounted : Accounted settings (2 * required.topics.eraseDups.length + 2) exchanges result
  complete : result = .ok () → environment.topicNames = required.topics.eraseDups ∧
    environment.table.isSome = required.relational ∧
    environment.seriesHandle.isSome = required.series

theorem AddsTopics.stores_eq {topics : List TopicHandle}
    (adds : AddsTopics environment topics after) :
    after.table = environment.table ∧ after.seriesHandle = environment.seriesHandle := by
  cases adds <;> exact ⟨rfl, rfl⟩

/-- Making sure of all topics that are required, when none is held yet. -/
theorem runs_ensureTopics_begun {result : Except ProvisioningError Unit}
    (run : Runs (ensureTopics required.topics (begun settings required)) exchanges
      (result, after)) :
    Accounted settings (2 * required.topics.eraseDups.length) exchanges result ∧
      Consistent settings required after ∧ after.table = none ∧ after.seriesHandle = none ∧
      (result = .ok () → after.topicNames = required.topics.eraseDups) := by
  have distinct : missing (begun settings required).topicNames required.topics =
      required.topics.eraseDups := missing_nil_held _
  obtain ⟨topics, ensured⟩ := runs_ensureTopics run
  obtain ⟨table, series⟩ := ensured.adds.stores_eq
  have accounted := ensured.accounted
  rw [distinct] at accounted
  refine ⟨accounted, (consistent_begun settings required).addsTopics ensured.adds ensured.added,
    table, series, fun succeeded => ?_⟩
  rw [ensured.adds.topicNames_eq, ensured.complete () succeeded]
  exact distinct

/-- Making sure of the data table, if it is required and not held yet. -/
theorem runs_ensureRequiredTable {result : Except ProvisioningError Unit}
    (consistent : Consistent settings required environment) (absent : environment.table = none)
    (run : Runs environment.ensureRequiredTable exchanges (result, after)) :
    Accounted settings 1 exchanges result ∧ Consistent settings required after ∧
      after.topicNames = environment.topicNames ∧ after.seriesHandle = environment.seriesHandle ∧
      (result = .ok () → after.table.isSome = required.relational) := by
  rcases runs_required_cases run with
    ⟨ensured, isRequired, first, rfl⟩ | ⟨notRequired, rfl, rfl, rfl⟩
  · rw [consistent.required_eq] at isRequired
    have kept := consistent.ensureTable first
    obtain ⟨accounted, ⟨held, -, -⟩ | ⟨-, adds⟩⟩ := runs_ensureTable first
    · rw [absent] at held
      cases held
    · rw [consistent.settings_eq] at accounted
      rw [isRequired]
      cases ensured with
      | error error =>
        refine ⟨accounted.fail, kept, ?_⟩
        cases adds with
        | unchanged => exact ⟨rfl, rfl, fun same => by cases same⟩
        | connected store => exact ⟨rfl, rfl, fun same => by cases same⟩
      | ok handle =>
        refine ⟨accounted.succeed, kept, ?_⟩
        cases adds with
        | created store => exact ⟨rfl, rfl, fun _ => rfl⟩
  · refine ⟨(accounted_quiet rfl (by simp)).mono (Nat.zero_le _), consistent, rfl, rfl, fun _ => ?_⟩
    rw [absent, ← consistent.required_eq, notRequired]
    rfl

/-- Making sure of the series store, if it is required and not held yet. -/
theorem runs_ensureRequiredSeries {result : Except ProvisioningError Unit}
    (consistent : Consistent settings required environment)
    (absent : environment.seriesHandle = none)
    (run : Runs environment.ensureRequiredSeries exchanges (result, after)) :
    Accounted settings 1 exchanges result ∧ Consistent settings required after ∧
      after.topicNames = environment.topicNames ∧ after.table = environment.table ∧
      (result = .ok () → after.seriesHandle.isSome = required.series) := by
  rcases runs_required_cases run with
    ⟨ensured, isRequired, first, rfl⟩ | ⟨notRequired, rfl, rfl, rfl⟩
  · rw [consistent.required_eq] at isRequired
    have kept := consistent.ensureSeries first
    obtain ⟨accounted, ⟨held, -, -⟩ | ⟨-, adds⟩⟩ := runs_ensureSeries first
    · rw [absent] at held
      cases held
    · rw [consistent.settings_eq] at accounted
      rw [isRequired]
      cases ensured with
      | error error =>
        refine ⟨accounted.fail, kept, ?_⟩
        cases adds with
        | unchanged => exact ⟨rfl, rfl, fun same => by cases same⟩
      | ok handle =>
        refine ⟨accounted.succeed, kept, ?_⟩
        cases adds with
        | answered store => exact ⟨rfl, rfl, fun _ => rfl⟩
  · refine ⟨(accounted_quiet rfl (by simp)).mono (Nat.zero_le _), consistent, rfl, rfl, fun _ => ?_⟩
    rw [absent, ← consistent.required_eq, notRequired]
    rfl

/-- A provisioning goes through its stages up to the first that fails. -/
theorem runs_provision {result : Except ProvisioningError Unit}
    (run : Runs (make settings required).provision exchanges (result, environment)) :
    Provisioned settings required exchanges result environment := by
  rcases runs_handing_cases run fun _ _ => rfl with
    ⟨error, first, rfl⟩ | ⟨_, started, before, rest, rfl, first, run⟩
  · obtain ⟨compose, rfl⟩ := runs_startCompose first
    exact ⟨consistent_begun _ _, compose.mono (Nat.zero_le _), fun same => by cases same⟩
  obtain ⟨compose, rfl⟩ := runs_startCompose first
  rcases runs_handing_cases run fun _ _ => rfl with
    ⟨error, second, rfl⟩ | ⟨_, equipped, names, rest, rfl, second, run⟩
  · rw [required_begun] at second
    obtain ⟨topics, consistent, -⟩ := runs_ensureTopics_begun second
    exact ⟨consistent, (compose.append topics).mono (by omega), fun same => by cases same⟩
  rw [required_begun] at second
  obtain ⟨topics, consistent, noTable, noSeries, named⟩ := runs_ensureTopics_begun second
  rcases runs_handing_cases run fun _ _ => rfl with
    ⟨error, third, rfl⟩ | ⟨_, stored, statements, rest, rfl, third, run⟩
  · obtain ⟨table, consistent, -⟩ := runs_ensureRequiredTable consistent noTable third
    exact ⟨consistent, (compose.append (topics.append table)).mono (by omega),
      fun same => by cases same⟩
  obtain ⟨table, consistent, sameNames, sameSeries, created⟩ :=
    runs_ensureRequiredTable consistent noTable third
  obtain ⟨series, consistent, stillNames, sameTable, answered⟩ :=
    runs_ensureRequiredSeries consistent (sameSeries.trans noSeries) run
  refine ⟨consistent, (compose.append (topics.append (table.append series))).mono (by omega),
    fun succeeded => ⟨?_, ?_, answered succeeded⟩⟩
  · rw [stillNames, sameNames, named rfl]
  · rw [sameTable, created rfl]

/-! ### All environments before the first stop -/

/-- The environment was reached by a provisioning, however that ended, and by making sure of further
resources. -/
inductive Reached (settings : Settings) (required : RequiredResources) : Environment → Prop where
  | provisioned (exchanges : List (Exchange Action Reply)) (result : Except ProvisioningError Unit)
      (environment : Environment)
      (run : Runs (make settings required).provision exchanges (result, environment)) :
      Reached settings required environment
  | topic (environment after : Environment) (name : String)
      (exchanges : List (Exchange Action Reply)) (result : Except ProvisioningError TopicHandle)
      (reached : Reached settings required environment)
      (run : Runs (environment.ensureTopic name) exchanges (result, after)) :
      Reached settings required after
  | table (environment after : Environment) (exchanges : List (Exchange Action Reply))
      (result : Except ProvisioningError TableHandle)
      (reached : Reached settings required environment)
      (run : Runs environment.ensureTable exchanges (result, after)) :
      Reached settings required after
  | series (environment after : Environment) (exchanges : List (Exchange Action Reply))
      (result : Except ProvisioningError SeriesHandle)
      (reached : Reached settings required environment)
      (run : Runs environment.ensureSeries exchanges (result, after)) :
      Reached settings required after

/-- Every environment that is reached is consistent. -/
theorem Reached.consistent (reached : Reached settings required environment) :
    Consistent settings required environment := by
  induction reached with
  | provisioned exchanges result environment run => exact (runs_provision run).consistent
  | topic environment after name exchanges result reached run inductionHypothesis =>
    exact inductionHypothesis.ensureTopic run
  | table environment after exchanges result reached run inductionHypothesis =>
    exact inductionHypothesis.ensureTable run
  | series environment after exchanges result reached run inductionHypothesis =>
    exact inductionHypothesis.ensureSeries run

end Testbed.Environment
