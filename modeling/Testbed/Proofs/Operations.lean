/-
This file proves what holds of an environment at every point, whatever is done with it, in whatever
order, and however the world outside answers. What it holds stands together: no topic is held twice,
and every handle is held with the client that takes its resource away. Each operation keeps this,
also where it is cut short by an error, and so does any sequence of operations, by induction on the
sequence. Resources that are held are found without asking for anything, and an error changes none
of the handles.
-/

import Testbed.Proofs.Stopping

namespace Testbed.Environment

open Session

variable {settings : Settings} {required : RequiredResources} {environment after : Environment}
  {exchanges : List (Exchange Action Reply)}

/-! ### Operations -/

/-- What is done with an environment. -/
inductive Operation where
  /-- Make everything ready that is required. -/
  | provision
  /-- Make sure that a topic exists. -/
  | ensureTopic (name : String)
  /-- Make sure that the data table exists. -/
  | ensureTable
  /-- Make sure that the series store answers. -/
  | ensureSeries
  /-- Wait until the broker accepts connections. -/
  | waitForBroker
  /-- Empty every store that is held. -/
  | reset
  | stop

/-- What each operation is answered with. -/
abbrev OperationReply : Operation → Type
  | .provision => Except ProvisioningError Unit
  | .ensureTopic _ => Except ProvisioningError TopicHandle
  | .ensureTable => Except ProvisioningError TableHandle
  | .ensureSeries => Except ProvisioningError SeriesHandle
  | .waitForBroker => Except ProvisioningError Unit
  | .reset => Except ProvisioningError Unit
  | .stop => Unit

/-- Carries out an operation. -/
def perform : (operation : Operation) → Environment → Work (OperationReply operation × Environment)
  | .provision, environment => environment.provision
  | .ensureTopic name, environment => environment.ensureTopic name
  | .ensureTable, environment => environment.ensureTable
  | .ensureSeries, environment => environment.ensureSeries
  | .waitForBroker, environment => do
    let ready ← environment.waitForBroker
    return (ready, environment)
  | .reset, environment => do
    let emptied ← environment.reset
    return (emptied, environment)
  | .stop, environment => do
    let stopped ← environment.stop
    return ((), stopped)

/-! ### One operation -/

theorem coherent_make (settings : Settings) (required : RequiredResources) :
    (make settings required).Coherent where
  distinct := List.nodup_nil
  admin nonempty := absurd rfl nonempty
  relational isSome := by cases isSome
  series := rfl

namespace Coherent

theorem ensureTopic {name : String} {result : Except ProvisioningError TopicHandle}
    (coherent : environment.Coherent)
    (run : Runs (environment.ensureTopic name) exchanges (result, after)) : after.Coherent := by
  obtain ⟨topics, ensured⟩ := runs_ensureTopic run
  exact coherent.addsTopics ensured.adds ensured.added

theorem ensureTable {result : Except ProvisioningError TableHandle}
    (coherent : environment.Coherent)
    (run : Runs environment.ensureTable exchanges (result, after)) : after.Coherent := by
  obtain ⟨-, ⟨-, -, rfl⟩ | ⟨-, adds⟩⟩ := runs_ensureTable run
  · exact coherent
  · exact coherent.addsTable adds

theorem ensureSeries {result : Except ProvisioningError SeriesHandle}
    (coherent : environment.Coherent)
    (run : Runs environment.ensureSeries exchanges (result, after)) : after.Coherent := by
  obtain ⟨-, ⟨-, -, rfl⟩ | ⟨-, adds⟩⟩ := runs_ensureSeries run
  · exact coherent
  · exact coherent.addsSeries adds

theorem startCompose {result : Except ProvisioningError Unit} (coherent : environment.Coherent)
    (run : Runs environment.startCompose exchanges (result, after)) : after.Coherent := by
  unfold Environment.startCompose at run
  split at run
  case h_1 =>
    obtain ⟨-, -, rfl⟩ := (runs_done_pair_iff _ _ _ _ _).1 run
    exact coherent
  case h_2 =>
    obtain ⟨_, -, same⟩ := (runs_bind_done_iff _ _ _ _).1 run
    obtain ⟨-, rfl⟩ := Prod.mk.inj same
    exact { coherent with }

theorem ensureRequiredTable {result : Except ProvisioningError Unit}
    (coherent : environment.Coherent)
    (run : Runs environment.ensureRequiredTable exchanges (result, after)) : after.Coherent := by
  rcases runs_required_cases run with ⟨ensured, -, first, -⟩ | ⟨-, -, -, rfl⟩
  · exact coherent.ensureTable first
  · exact coherent

theorem ensureRequiredSeries {result : Except ProvisioningError Unit}
    (coherent : environment.Coherent)
    (run : Runs environment.ensureRequiredSeries exchanges (result, after)) : after.Coherent := by
  rcases runs_required_cases run with ⟨ensured, -, first, -⟩ | ⟨-, -, -, rfl⟩
  · exact coherent.ensureSeries first
  · exact coherent

/-- A provisioning keeps what is held together, complete or up to the stage that fails. -/
theorem provision {result : Except ProvisioningError Unit} (coherent : environment.Coherent)
    (run : Runs environment.provision exchanges (result, after)) : after.Coherent := by
  rcases runs_handing_cases run fun _ _ => rfl with
    ⟨error, first, rfl⟩ | ⟨_, started, before, rest, rfl, first, run⟩
  · exact coherent.startCompose first
  -- Each stage adds to what the stages before it left.
  have begun := coherent.startCompose first
  rcases runs_handing_cases run fun _ _ => rfl with
    ⟨error, second, rfl⟩ | ⟨_, equipped, names, rest, rfl, second, run⟩
  · obtain ⟨topics, ensured⟩ := runs_ensureTopics second
    exact begun.addsTopics ensured.adds ensured.added
  obtain ⟨topics, ensured⟩ := runs_ensureTopics second
  have named := begun.addsTopics ensured.adds ensured.added
  rcases runs_handing_cases run fun _ _ => rfl with
    ⟨error, third, rfl⟩ | ⟨_, stored, statements, rest, rfl, third, run⟩
  · exact named.ensureRequiredTable third
  · exact (named.ensureRequiredTable third).ensureRequiredSeries run

theorem stop (coherent : environment.Coherent) (run : Runs environment.stop exchanges after) :
    after.Coherent := by
  cases isStopped : environment.isStopped with
  | true =>
    obtain ⟨-, rfl⟩ := (runs_stop_of_isStopped_iff isStopped).1 run
    exact coherent
  | false =>
    obtain ⟨rfl, -⟩ := (runs_stop_iff isStopped).1 run
    exact ⟨List.nodup_nil, fun nonempty => absurd rfl nonempty, nofun, rfl⟩

/-- Every operation keeps together what is held. -/
theorem perform {operation : Operation} {reply : OperationReply operation}
    (coherent : environment.Coherent)
    (run : Runs (Environment.perform operation environment) exchanges (reply, after)) :
    after.Coherent := by
  cases operation with
  | provision => exact coherent.provision run
  | ensureTopic name => exact coherent.ensureTopic run
  | ensureTable => exact coherent.ensureTable run
  | ensureSeries => exact coherent.ensureSeries run
  | waitForBroker =>
    obtain ⟨-, rfl⟩ := (runs_aside_iff _ _ _ _ _).1 run
    exact coherent
  | reset =>
    obtain ⟨-, rfl⟩ := (runs_aside_iff _ _ _ _ _).1 run
    exact coherent
  | stop => exact coherent.stop ((runs_state_iff _ _ _ _).1 run)

theorem threaded {own : List (Exchange Operation OperationReply)}
    (coherent : environment.Coherent)
    (threaded : Threaded Environment.perform environment own exchanges after) :
    after.Coherent := by
  induction threaded with
  | nil environment => exact coherent
  | cons operation reply own before others environment next after first rest inductionHypothesis =>
    exact inductionHypothesis (coherent.perform first)

end Coherent

/-! ### Making sure again -/

/-- The environments hold the same handles. -/
def SameHandles (environment after : Environment) : Prop :=
  after.topics = environment.topics ∧ after.table = environment.table ∧
    after.seriesHandle = environment.seriesHandle

/-- How making sure of a resource goes in an environment. Where its handle is held already, it is
given without asking for anything. A success gives a handle that is held from then on, and a failure
adds no handle and takes none away. -/
structure EnsuresOnce {Handle : Type}
    (ensure : Environment → Work (Except ProvisioningError Handle × Environment))
    (holds : Environment → Handle → Prop) (environment : Environment) : Prop where
  again : ∀ handle, holds environment handle →
    ensure environment = .done (.ok handle, environment)
  succeeded : ∀ exchanges handle after,
    Runs (ensure environment) exchanges (.ok handle, after) → holds after handle
  failed : ∀ exchanges error after,
    Runs (ensure environment) exchanges (.error error, after) → SameHandles environment after

theorem AddsTopics.sameHandles (adds : AddsTopics environment [] after) :
    SameHandles environment after := by
  cases adds with
  | unchanged => exact ⟨rfl, rfl, rfl⟩
  | added admin topics fits => exact ⟨List.append_nil _, rfl, rfl⟩

theorem AddsTable.sameHandles (adds : AddsTable environment false after) :
    SameHandles environment after := by
  cases adds <;> exact ⟨rfl, rfl, rfl⟩

theorem AddsSeries.sameHandles (adds : AddsSeries environment false after) :
    SameHandles environment after := by
  cases adds
  exact ⟨rfl, rfl, rfl⟩

/-- A topic that is held is the only one of its name. -/
theorem Coherent.find?_eq {handle : TopicHandle} (coherent : environment.Coherent)
    (isHeld : handle ∈ environment.topics) :
    environment.topics.find? (fun other => other.name == handle.name) = some handle := by
  have distinct := coherent.distinct
  unfold topicNames at distinct
  generalize environment.topics = topics at isHeld distinct
  induction topics with
  | nil => cases isHeld
  | cons first rest inductionHypothesis =>
    rw [List.map_cons, List.nodup_cons] at distinct
    rcases List.mem_cons.1 isHeld with rfl | later
    · rw [List.find?_cons_of_pos (by simp)]
    · have other : first.name ≠ handle.name := fun same =>
        distinct.1 (same ▸ List.mem_map_of_mem later)
      rw [List.find?_cons_of_neg (by simp [other])]
      exact inductionHypothesis later distinct.2

theorem ensuresOnce_topic (coherent : environment.Coherent) (name : String) :
    EnsuresOnce (fun environment => environment.ensureTopic name)
      (fun environment handle => handle ∈ environment.topics ∧ handle.name = name)
      environment where
  again handle held := by
    obtain ⟨isHeld, rfl⟩ := held
    unfold ensureTopic
    rw [coherent.find?_eq isHeld]
    rfl
  succeeded exchanges handle after run := by
    unfold ensureTopic at run
    split at run
    case h_1 found isFound =>
      obtain ⟨-, same, rfl⟩ := (runs_done_pair_iff _ _ _ _ _).1 run
      cases same
      exact ⟨List.mem_of_find?_eq_some isFound, by simpa using List.find?_some isFound⟩
    case h_2 =>
      obtain ⟨-, ⟨error, same, -⟩ | ⟨created, same, named, adds⟩⟩ := runs_createTopic run
      · cases same
      · cases same
        cases adds with
        | added admin topics fits =>
          exact ⟨List.mem_append_right _ List.mem_cons_self, named⟩
  failed exchanges error after run := by
    unfold ensureTopic at run
    split at run
    case h_1 =>
      obtain ⟨-, same, -⟩ := (runs_done_pair_iff _ _ _ _ _).1 run
      cases same
    case h_2 =>
      obtain ⟨-, ⟨_, -, adds⟩ | ⟨_, same, -⟩⟩ := runs_createTopic run
      · exact adds.sameHandles
      · cases same

/-- The handle of a store is read off the environment, after work that makes the store ready if the
handle is not there before. -/
theorem held_of_runs {Handle : Type} {held : Environment → Except ProvisioningError Handle}
    {isHeld : Bool} {work : Work (Except ProvisioningError Unit × Environment)} {handle : Handle}
    (run : Runs
      (if isHeld then Session.done (held environment, environment)
        else work.bind fun made =>
          match made.1 with
          | .error error => Session.done (.error error, made.2)
          | .ok () => Session.done (held made.2, made.2))
      exchanges (.ok handle, after)) :
    held after = .ok handle := by
  split at run
  case isTrue =>
    obtain ⟨-, same, rfl⟩ := (runs_done_pair_iff _ _ _ _ _).1 run
    exact same.symm
  case isFalse =>
    rcases runs_handing_cases run fun _ _ => rfl with
      ⟨_, -, same⟩ | ⟨_, middle, _, rest, -, -, run⟩
    · cases same
    · obtain ⟨-, same, rfl⟩ := (runs_done_pair_iff _ _ _ _ _).1 run
      exact same.symm

theorem heldTable_eq_ok_iff (handle : TableHandle) :
    environment.heldTable = .ok handle ↔ environment.table = some handle := by
  unfold heldTable
  split <;> simp_all

theorem ensuresOnce_table (environment : Environment) :
    EnsuresOnce ensureTable (fun environment handle => environment.table = some handle)
      environment where
  again handle held := by
    unfold ensureTable
    rw [if_pos (by rw [held]; rfl), (heldTable_eq_ok_iff handle).2 held]
    rfl
  succeeded exchanges handle after run :=
    (heldTable_eq_ok_iff handle).1 (held_of_runs run)
  failed exchanges error after run := by
    obtain ⟨-, ⟨-, isOk, -⟩ | ⟨-, adds⟩⟩ := runs_ensureTable run
    · cases isOk
    · exact adds.sameHandles

theorem heldSeries_eq_ok_iff (handle : SeriesHandle) :
    environment.heldSeries = .ok handle ↔ environment.seriesHandle = some handle := by
  unfold heldSeries
  split <;> simp_all

theorem ensuresOnce_series (environment : Environment) :
    EnsuresOnce ensureSeries (fun environment handle => environment.seriesHandle = some handle)
      environment where
  again handle held := by
    unfold ensureSeries
    rw [if_pos (by rw [held]; rfl), (heldSeries_eq_ok_iff handle).2 held]
    rfl
  succeeded exchanges handle after run :=
    (heldSeries_eq_ok_iff handle).1 (held_of_runs run)
  failed exchanges error after run := by
    obtain ⟨-, ⟨-, isOk, -⟩ | ⟨-, adds⟩⟩ := runs_ensureSeries run
    · cases isOk
    · exact adds.sameHandles

/-! ### All operations -/

/-- At every point of any sequence of operations, what an environment holds stands together. A
resource that is held is not made ready again: its handle is given without asking for anything, and
nothing changes. A failure to make a resource ready adds no handle and takes none away. -/
theorem operations_account {own : List (Exchange Operation OperationReply)}
    (threaded : Threaded perform (make settings required) own exchanges environment) :
    environment.Coherent ∧
      (∀ name, EnsuresOnce (fun environment => environment.ensureTopic name)
        (fun environment handle => handle ∈ environment.topics ∧ handle.name = name)
        environment) ∧
      EnsuresOnce ensureTable (fun environment handle => environment.table = some handle)
        environment ∧
      EnsuresOnce ensureSeries
        (fun environment handle => environment.seriesHandle = some handle) environment := by
  have coherent := (coherent_make settings required).threaded threaded
  exact ⟨coherent, ensuresOnce_topic coherent, ensuresOnce_table _, ensuresOnce_series _⟩

/-- A topic is created, and then found without asking for anything. -/
theorem operations_account_again :
    ∃ exchanges environment,
      Threaded perform (make {} .none) [⟨.ensureTopic "orders", .ok ⟨"orders", true⟩⟩] exchanges
        environment ∧
      environment.Coherent ∧
      environment.ensureTopic "orders" = .done (.ok ⟨"orders", true⟩, environment) := by
  obtain ⟨exchanges, run⟩ : ∃ exchanges,
      Runs ((make {} .none).ensureTopic "orders") exchanges (.ok ⟨"orders", true⟩,
        { make {} .none with admin := some ⟨1⟩, topics := [⟨"orders", true⟩] }) := by
    refine exists_runs_act .open (exists_runs_act () (exists_runs_act () ?_))
    refine exists_runs_act (.ok 1) (exists_runs_act (.ok [("orders", none)]) ?_)
    exact exists_runs_act () (exists_runs_act () (exists_runs_act () ⟨[], .done _⟩))
  have threaded : Threaded perform (make {} .none)
      [⟨.ensureTopic "orders", .ok ⟨"orders", true⟩⟩] (exchanges ++ [])
      { make {} .none with admin := some ⟨1⟩, topics := [⟨"orders", true⟩] } :=
    .cons _ _ _ _ _ _ _ _ run (.nil _)
  obtain ⟨coherent, topics, -, -⟩ := operations_account threaded
  exact ⟨_, _, threaded, coherent, (topics "orders").again _ ⟨List.mem_cons_self, rfl⟩⟩

end Testbed.Environment
