/-
This file proves what a broker is asked to do with topics, from the start of an environment to its
stop. Whatever is asked for before the stop is the creation of a topic, and the stop asks for the
deletion of those that are held. A topic is held once a request for it is answered with success. So
a topic that was asked for is deleted again, unless the work gave up on it: its requests failed, as
far as the replies tell, until the budget was spent. Such a topic is left behind if the broker
created it in spite of its replies.
-/

import Testbed.Proofs.Operations
import Testbed.Proofs.Starting

namespace Testbed.Environment

open Session

variable {Value Next : Type} {settings : Settings} {required : RequiredResources}
  {environment middle after : Environment} {exchanges : List (Exchange Action Reply)}

/-! ### Requests -/

/-- What a broker is asked to do with a topic. -/
inductive TopicRequest where
  | create (name : String)
  | delete (name : String)
  deriving DecidableEq, Repr

/-- What an action asks the broker to do with a topic, if anything. -/
def topicRequest? : Action → Option TopicRequest
  | .createTopic _ name => some (.create name)
  | .deleteTopic _ name => some (.delete name)
  | _ => none

/-- What the broker is asked to do with topics, one request after another, whatever the replies. -/
def topicRequests (exchanges : List (Exchange Action Reply)) : List TopicRequest :=
  exchanges.filterMap fun exchange => topicRequest? exchange.action

@[simp] theorem topicRequests_nil : topicRequests [] = [] := rfl

@[simp] theorem topicRequests_append (first second : List (Exchange Action Reply)) :
    topicRequests (first ++ second) = topicRequests first ++ topicRequests second :=
  List.filterMap_append

theorem topicRequests_cons_of_none {exchange : Exchange Action Reply}
    (other : topicRequest? exchange.action = none) (rest : List (Exchange Action Reply)) :
    topicRequests (exchange :: rest) = topicRequests rest :=
  List.filterMap_cons_none other

/-- What a broker is asked to do with topics is part of what is asked of the world outside. -/
theorem topicRequests_eq_filterMap_asked (exchanges : List (Exchange Action Reply)) :
    topicRequests exchanges = (asked exchanges).filterMap topicRequest? := by
  unfold topicRequests asked
  rw [List.filterMap_filter, List.filterMap_map]
  refine List.filterMap_congr fun exchange _ => ?_
  obtain ⟨action, reply⟩ := exchange
  cases action <;> rfl

/-- A reply that leads to a run leads to one of the whole session, with its request in front. -/
theorem exists_asking {Result : Type} {action : Action} {next : Reply action → Work Result}
    {result : Result} {requests : List TopicRequest} (reply : Reply action)
    (rest : ∃ exchanges, Runs (next reply) exchanges result ∧ topicRequests exchanges = requests) :
    ∃ exchanges, Runs (.act action next) exchanges result ∧
      topicRequests exchanges = (topicRequest? action).toList ++ requests := by
  obtain ⟨exchanges, run, rfl⟩ := rest
  refine ⟨_, .act _ _ reply _ _ run, ?_⟩
  cases asked : topicRequest? action with
  | none => exact topicRequests_cons_of_none asked exchanges
  | some request => exact List.filterMap_cons_some asked

/-- Work that asks the broker to do nothing with topics. -/
abbrev SparesTopics {Result : Type} (work : Work Result) : Prop :=
  Avoids (fun action => (topicRequest? action).isSome) work

section Spares

variable {Result : Type} {work : Work Result} {result : Result}

theorem SparesTopics.topicRequests_eq (spares : SparesTopics work)
    (run : Runs work exchanges result) : topicRequests exchanges = [] :=
  List.filterMap_eq_nil_iff.2 fun exchange member =>
    Option.not_isSome_iff_eq_none.1 (by simp [spares exchanges result run exchange member])

theorem OnlyStates.sparesTopics (onlyStates : OnlyStates work) : SparesTopics work := by
  refine onlyStates.mono fun action isStated => ?_
  cases action with
  | createTopic => cases isStated
  | deleteTopic => cases isStated
  | _ => rfl

theorem sparesTopics_untilReady {Failure : Type} (resource : String) (describe : Failure → String)
    {attempt : Work (Except Failure Value)} (spares : SparesTopics attempt) :
    SparesTopics (environment.untilReady resource describe attempt) := by
  refine (Poll.avoids_retrieve spares (fun _ => rfl) fun _ => rfl).bind fun outcome => ?_
  cases outcome with
  | satisfied value attempts => exact (avoids_ask _ rfl).bind fun _ => avoids_done _
  | exhausted last attempts => exact avoids_done _
  | failed failure last attempts => exact avoids_done _
  | cancelled last attempts => exact avoids_done _

end Spares

/-! ### Everything but topics -/

section Stores

variable (environment : Environment)

theorem sparesTopics_waitForBroker : SparesTopics environment.waitForBroker :=
  sparesTopics_untilReady _ _
    ((avoids_ask _ rfl).bind fun connection => by cases connection <;> exact avoids_done _)

theorem sparesTopics_obtainAdmin : SparesTopics environment.obtainAdmin := by
  unfold obtainAdmin
  split
  · exact avoids_done _
  · refine Avoids.bind ((avoids_ask _ rfl).bind fun opened => ?_) fun made => ?_
    · cases opened <;> exact avoids_done _
    · cases made <;> exact avoids_done _

theorem sparesTopics_createTable : SparesTopics environment.createTable := by
  have connects : SparesTopics (RelationalStore.connect environment.settings.relational) := by
    unfold RelationalStore.connect
    split
    · refine (avoids_ask _ rfl).bind fun opened => ?_
      cases opened <;> exact avoids_done _
    · exact avoids_done _
  refine (sparesTopics_untilReady _ _ connects).bind fun connected => ?_
  cases connected with
  | error error => exact avoids_done _
  | ok store =>
    refine (onlyStates_ensureDataTable store).sparesTopics.bind fun created => ?_
    cases created <;> exact avoids_done _

theorem sparesTopics_ensureTable : SparesTopics environment.ensureTable := by
  unfold ensureTable
  split
  · exact avoids_done _
  · refine (sparesTopics_createTable environment).bind fun ⟨created, handed⟩ => ?_
    cases created <;> exact avoids_done _

theorem sparesTopics_awaitSeries : SparesTopics environment.awaitSeries := by
  refine Avoids.bind ((avoids_ask _ rfl).bind fun opened => ?_) fun made => ?_
  · cases opened <;> exact avoids_done _
  · cases made with
    | error cause => exact avoids_done _
    | ok store =>
      refine Avoids.bind (sparesTopics_untilReady _ _ ?_) fun answered => ?_
      · refine (avoids_seriesSend (fun _ => rfl) _ _ _ _ _).bind fun sent => ?_
        cases sent <;> exact avoids_done _
      · cases answered <;> exact avoids_done _

theorem sparesTopics_ensureSeries : SparesTopics environment.ensureSeries := by
  unfold ensureSeries
  split
  · exact avoids_done _
  · refine (sparesTopics_awaitSeries environment).bind fun ⟨answered, handed⟩ => ?_
    cases answered <;> exact avoids_done _

theorem sparesTopics_startCompose : SparesTopics environment.startCompose := by
  unfold startCompose
  split
  · exact avoids_done _
  · exact ((avoids_ask _ rfl).bind fun _ => avoids_composeRun (fun _ => rfl) _ _ _).bind
      fun _ => avoids_done _

theorem sparesTopics_deleteAll (store : SeriesStore) : SparesTopics store.deleteAll := by
  refine (avoids_seriesSend (fun _ => rfl) _ _ _ _ _).bind fun sent => ?_
  cases sent with
  | error error => exact avoids_done _
  | ok response => exact (avoids_ask _ rfl).bind fun _ => avoids_done _

theorem sparesTopics_reset : SparesTopics environment.reset := by
  refine Avoids.bind ?_ fun emptied => ?_
  · unfold resetSeries
    split
    · exact avoids_done _
    · refine (sparesTopics_deleteAll _).bind fun deleted => ?_
      cases deleted <;> exact avoids_done _
  · cases emptied with
    | error error => exact avoids_done _
    | ok done =>
      show SparesTopics environment.resetRelational
      unfold resetRelational
      split
      · exact avoids_done _
      · refine (onlyStates_clearRelational _ _).sparesTopics.bind fun cleared => ?_
        cases cleared <;> exact avoids_done _

end Stores

/-! ### Topics -/

theorem topicRequests_of_runs_create {admin : Broker.TopicAdmin} {name : String}
    {created : Except Broker.AdminError Bool}
    (run : Runs (admin.createIfAbsent name) exchanges created) :
    topicRequests exchanges = [.create name] := by
  obtain ⟨answer, rest, rfl, second⟩ := (runs_act_bind_iff _ _ _ _).1 run
  show .create name :: topicRequests rest = _
  congr 1
  refine SparesTopics.topicRequests_eq ?_ second
  rcases answer with cause | _ | ⟨⟨topic, _ | code⟩, others⟩
  · exact avoids_done _
  · exact avoids_done _
  · exact (avoids_ask _ rfl).bind fun _ => avoids_done _
  · simp only []
    split
    · exact (avoids_ask _ rfl).bind fun _ => avoids_done _
    · exact avoids_done _

theorem topicRequests_of_runs_delete {admin : Broker.TopicAdmin} {name : String}
    {deleted : Except Broker.AdminError Unit} (run : Runs (admin.delete name) exchanges deleted) :
    topicRequests exchanges = [.delete name] := by
  rw [topicRequests_eq_filterMap_asked, asksExactly_deleteTopic admin name _ _ run]
  rfl

/-- The broker is asked once in each fetch of a retrieval that is to create a topic. -/
theorem topicRequests_of_carried {admin : Broker.TopicAdmin} {name : String}
    {own : List (Exchange (Poll.Action Bool Broker.AdminError) Poll.Reply)}
    (carried : Carried (Poll.uncancelled (admin.createIfAbsent name) fun _ => .done true) own
      exchanges) :
    topicRequests exchanges =
      List.replicate (own.filterMap Poll.fetchedIn?).length (.create name) := by
  induction carried with
  | nil => rfl
  | cons action reply own before others first rest inductionHypothesis =>
    rw [topicRequests_append, inductionHypothesis]
    cases action with
    | fetch =>
      rw [topicRequests_of_runs_create first]
      rfl
    | askCancelled =>
      obtain ⟨rfl, -⟩ := (runs_done_iff _ _ _).1 first
      rfl
    | judge value =>
      obtain ⟨rfl, -⟩ := (runs_done_iff _ _ _).1 first
      rfl
    | pause delay =>
      obtain ⟨_, slept, -⟩ := (runs_bind_done_iff _ _ _ _).1 first
      rw [(runs_ask_iff _ _ _).1 slept]
      rfl
    | note event =>
      rw [(runs_ask_iff _ _ _).1 first]
      rfl

/-- A check of a topic asks for its creation once in each probe. -/
theorem topicRequests_of_probedIn {admin : Broker.TopicAdmin} {name : String}
    {failures : List Broker.AdminError} {last : Except Broker.AdminError Bool}
    (probed : (Check.topic admin name).ProbedIn settings failures last exchanges) :
    topicRequests exchanges = List.replicate (failures.length + 1) (.create name) := by
  rw [topicRequests_of_carried probed, Poll.transcript_fetched]
  simp

/-! ### Giving up -/

/-- The error tells that a topic did not become ready within the budget. -/
def GivesUpOn (name : String) (error : ProvisioningError) : Prop :=
  ∃ attempts words, error = .notReady ("topic " ++ name) attempts words

theorem Check.eq_topic {check : Check} {name : String}
    (same : check.resource = "topic " ++ name) : ∃ admin, check = .topic admin name := by
  cases check with
  | topic admin other =>
    have sameName : other = name := by simpa [resource] using same
    rw [sameName]
    exact ⟨admin, rfl⟩
  | broker => simpa [resource] using congrArg String.toList same
  | relational => simpa [resource] using congrArg String.toList same
  | series store => simpa [resource] using congrArg String.toList same

/-- The creation of a topic that was given up on was asked for. -/
theorem Accounted.create_mem {checks : Nat} {name : String} {error : ProvisioningError}
    (accounted : Accounted settings checks exchanges (.error error : Except _ Value))
    (givesUp : GivesUpOn name error) : .create name ∈ topicRequests exchanges := by
  obtain ⟨attempts, words, rfl⟩ := givesUp
  obtain ⟨-, check, failures, failure, before, probes, rfl, named, -, probed, -⟩ :=
    accounted.spent _ _ _ rfl
  obtain ⟨admin, rfl⟩ := Check.eq_topic named
  rw [topicRequests_append, topicRequests_of_probedIn probed]
  exact List.mem_append_right _ List.mem_cons_self

/-- What work asks of the broker before the stop: nothing but the creation of topics, which are held
afterwards, unless the work ends by giving up on them. -/
structure AsksFor (environment : Environment) (exchanges : List (Exchange Action Reply))
    (result : Except ProvisioningError Value) (after : Environment) : Prop where
  kept : environment.topicNames ⊆ after.topicNames
  creates : ∀ request ∈ topicRequests exchanges, ∃ name, request = .create name ∧
    (name ∈ after.topicNames ∨ ∃ error, result = .error error ∧ GivesUpOn name error)
  lost : ∀ name error, result = .error error → GivesUpOn name error → name ∉ after.topicNames

namespace AsksFor

/-- Work that asks nothing does not give up on a topic either. -/
theorem idle {checks : Nat} {result : Except ProvisioningError Value}
    (accounted : Accounted settings checks exchanges result)
    (nothing : topicRequests exchanges = []) (same : after.topicNames = environment.topicNames) :
    AsksFor environment exchanges result after where
  kept := by
    rw [same]
    exact List.Subset.refl _
  creates request member := by
    rw [nothing] at member
    cases member
  lost name error isError givesUp := by
    subst isError
    have member := accounted.create_mem givesUp
    rw [nothing] at member
    cases member

/-- Only the error of the work matters. -/
theorem congr {result : Except ProvisioningError Value} {other : Except ProvisioningError Next}
    (asks : AsksFor environment exchanges result after)
    (same : ∀ error, result = .error error ↔ other = .error error) :
    AsksFor environment exchanges other after where
  kept := asks.kept
  creates request member := by
    obtain ⟨name, isCreate, held | ⟨error, isError, givesUp⟩⟩ := asks.creates request member
    · exact ⟨name, isCreate, .inl held⟩
    · exact ⟨name, isCreate, .inr ⟨error, (same error).1 isError, givesUp⟩⟩
  lost name error isError := asks.lost name error ((same error).2 isError)

theorem fail {error : ProvisioningError}
    (asks : AsksFor environment exchanges (.error error : Except _ Value) after) :
    AsksFor environment exchanges (.error error : Except _ Next) after :=
  asks.congr fun _ => by simp

theorem forget {result : Except ProvisioningError Value}
    (asks : AsksFor environment exchanges result after) :
    AsksFor environment exchanges (result.map fun _ => ()) after :=
  asks.congr fun _ => by cases result <;> simp [Except.map]

/-- What was asked for by work that succeeded is held, also after what follows. -/
theorem append {value : Value} {result : Except ProvisioningError Next}
    {before : List (Exchange Action Reply)}
    (first : AsksFor environment before (.ok value : Except _ Value) middle)
    (second : AsksFor middle exchanges result after) :
    AsksFor environment (before ++ exchanges) result after where
  kept := List.Subset.trans first.kept second.kept
  creates request member := by
    rw [topicRequests_append] at member
    rcases List.mem_append.1 member with earlier | later
    · obtain ⟨name, isCreate, held | ⟨_, same, -⟩⟩ := first.creates request earlier
      · exact ⟨name, isCreate, .inl (second.kept held)⟩
      · cases same
    · exact second.creates request later
  lost := second.lost

end AsksFor

/-! ### One step -/

/-- A check of a topic asks for nothing but its creation, and an error gives up on the topic. -/
theorem requests_of_runs_await {admin : Broker.TopicAdmin} {name : String}
    {result : Except ProvisioningError Bool}
    (run : Runs ((Check.topic admin name).await environment) exchanges result) :
    (∀ request ∈ topicRequests exchanges, request = .create name) ∧
      ∀ error, result = .error error → GivesUpOn name error := by
  rcases runs_await run with
    ⟨failures, value, probes, -, probed, rfl, rfl⟩ | ⟨failures, failure, -, probed, rfl⟩
  · refine ⟨fun request member => ?_, nofun⟩
    rw [topicRequests_append, topicRequests_of_probedIn probed,
      topicRequests_cons_of_none rfl, topicRequests_nil, List.append_nil] at member
    exact List.eq_of_mem_replicate member
  · refine ⟨fun request member => ?_, fun error same => ?_⟩
    · rw [topicRequests_of_probedIn probed] at member
      exact List.eq_of_mem_replicate member
    · cases same
      exact ⟨_, _, rfl⟩

/-- A topic is asked for under its name. If that ends with an error, it gives up on the topic. -/
theorem requests_of_runs_createTopic {name : String} {result : Except ProvisioningError TopicHandle}
    (run : Runs (environment.createTopic name) exchanges (result, after)) :
    ∀ request ∈ topicRequests exchanges, request = .create name ∧
      ∀ error, result = .error error → GivesUpOn name error := by
  intro request member
  rcases runs_stage_cases run fun _ => rfl with
    ⟨error, first, rfl, rfl⟩ | ⟨_, before, rest, rfl, first, run⟩
  · rw [(sparesTopics_waitForBroker _).topicRequests_eq first] at member
    cases member
  rw [topicRequests_append, (sparesTopics_waitForBroker _).topicRequests_eq first] at member
  rcases runs_handing_cases run fun _ _ => rfl with
    ⟨error, second, rfl⟩ | ⟨admin, equipped, between, rest, rfl, second, run⟩
  · rw [(sparesTopics_obtainAdmin _).topicRequests_eq second] at member
    cases member
  rw [topicRequests_append, (sparesTopics_obtainAdmin _).topicRequests_eq second] at member
  rcases runs_stage_cases run fun _ => rfl with
    ⟨error, third, rfl, rfl⟩ | ⟨isCreated, probes, rest, rfl, third, run⟩
  · obtain ⟨named, givesUp⟩ := requests_of_runs_await third
    refine ⟨named request member, fun other same => ?_⟩
    cases same
    exact givesUp error rfl
  · obtain ⟨rfl, rfl, rfl⟩ := (runs_done_pair_iff _ _ _ _ _).1 run
    rw [topicRequests_append, topicRequests_nil, List.append_nil] at member
    exact ⟨(requests_of_runs_await third).1 request member, nofun⟩

theorem asksFor_ensureTopic {name : String} {result : Except ProvisioningError TopicHandle}
    (run : Runs (environment.ensureTopic name) exchanges (result, after)) :
    AsksFor environment exchanges result after := by
  obtain ⟨topics, ensured⟩ := runs_ensureTopic run
  have names := ensured.adds.topicNames_eq
  have isHeld (handle : TopicHandle) (succeeded : result = .ok handle) :
      name ∈ after.topicNames := by
    rw [names, ensured.complete handle succeeded]
    by_cases held : name ∈ environment.topicNames
    · exact List.mem_append_left _ held
    · rw [missing_cons_of_not_mem [] held]
      exact List.mem_append_right _ List.mem_cons_self
  unfold ensureTopic at run
  split at run
  case h_1 =>
    obtain ⟨rfl, rfl, rfl⟩ := (runs_done_pair_iff _ _ _ _ _).1 run
    exact .idle ensured.accounted rfl rfl
  case h_2 absent =>
    have requests := requests_of_runs_createTopic run
    refine ⟨?_, fun request member => ?_, fun other error isError givesUp => ?_⟩
    · rw [names]
      exact List.subset_append_left _ _
    · obtain ⟨rfl, givesUp⟩ := requests request member
      cases result with
      | error error => exact ⟨name, rfl, .inr ⟨error, rfl, givesUp error rfl⟩⟩
      | ok handle => exact ⟨name, rfl, .inl (isHeld handle rfl)⟩
    · -- What is given up on was asked for, so it is this topic, which was not held before.
      subst isError
      obtain ⟨same, -⟩ := requests _ (ensured.accounted.create_mem givesUp)
      cases same
      obtain ⟨-, ⟨_, -, adds⟩ | ⟨_, same, -⟩⟩ := runs_createTopic run
      · rw [adds.topicNames_eq, List.map_nil, List.append_nil]
        intro isHeld
        obtain ⟨handle, member, named⟩ := List.mem_map.1 isHeld
        exact List.find?_eq_none.1 absent handle member (by simpa using named)
      · cases same

theorem AddsTable.topicNames_eq {isReady : Bool} (adds : AddsTable environment isReady after) :
    after.topicNames = environment.topicNames := by
  cases adds <;> rfl

theorem AddsSeries.topicNames_eq {isReady : Bool} (adds : AddsSeries environment isReady after) :
    after.topicNames = environment.topicNames := by
  cases adds <;> rfl

theorem asksFor_ensureTable {result : Except ProvisioningError TableHandle}
    (run : Runs environment.ensureTable exchanges (result, after)) :
    AsksFor environment exchanges result after := by
  have nothing := (sparesTopics_ensureTable environment).topicRequests_eq run
  obtain ⟨accounted, ⟨-, -, rfl⟩ | ⟨-, adds⟩⟩ := runs_ensureTable run
  · exact .idle accounted nothing rfl
  · exact .idle accounted nothing adds.topicNames_eq

theorem asksFor_ensureSeries {result : Except ProvisioningError SeriesHandle}
    (run : Runs environment.ensureSeries exchanges (result, after)) :
    AsksFor environment exchanges result after := by
  have nothing := (sparesTopics_ensureSeries environment).topicRequests_eq run
  obtain ⟨accounted, ⟨-, -, rfl⟩ | ⟨-, adds⟩⟩ := runs_ensureSeries run
  · exact .idle accounted nothing rfl
  · exact .idle accounted nothing adds.topicNames_eq

/-! ### Provisioning -/

/-- Work that does nothing asks for nothing. -/
theorem AsksFor.done (environment : Environment) :
    AsksFor environment [] (.ok () : Except ProvisioningError Unit) environment where
  kept := List.Subset.refl _
  creates request member := by cases member
  lost name error same := by cases same

theorem asksFor_ensureTopics {names : List String} {result : Except ProvisioningError Unit}
    (run : Runs (ensureTopics names environment) exchanges (result, after)) :
    AsksFor environment exchanges result after := by
  induction names generalizing environment exchanges with
  | nil =>
    obtain ⟨rfl, rfl, rfl⟩ := (runs_done_pair_iff _ _ _ _ _).1 run
    exact .done after
  | cons name rest inductionHypothesis =>
    rcases runs_handing_cases run fun _ _ => rfl with
      ⟨error, first, rfl⟩ | ⟨handle, middle, before, others, rfl, first, run⟩
    · exact (asksFor_ensureTopic first).fail
    · exact (asksFor_ensureTopic first).append (inductionHypothesis run)

theorem asksFor_ensureRequiredTable {result : Except ProvisioningError Unit}
    (run : Runs environment.ensureRequiredTable exchanges (result, after)) :
    AsksFor environment exchanges result after := by
  rcases runs_required_cases run with ⟨ensured, -, first, rfl⟩ | ⟨-, rfl, rfl, rfl⟩
  · exact (asksFor_ensureTable first).forget
  · exact .done after

theorem asksFor_ensureRequiredSeries {result : Except ProvisioningError Unit}
    (run : Runs environment.ensureRequiredSeries exchanges (result, after)) :
    AsksFor environment exchanges result after := by
  rcases runs_required_cases run with ⟨ensured, -, first, rfl⟩ | ⟨-, rfl, rfl, rfl⟩
  · exact (asksFor_ensureSeries first).forget
  · exact .done after

/-- A provisioning asks for the topics that are held in the end, and for the one that it gives up
on, if that is how it ends. -/
theorem asksFor_provision {result : Except ProvisioningError Unit}
    (run : Runs (make settings required).provision exchanges (result, environment)) :
    AsksFor (make settings required) exchanges result environment := by
  have started {own : List (Exchange Action Reply)} {begun : Except ProvisioningError Unit}
      {handed : Environment}
      (first : Runs (make settings required).startCompose own (begun, handed)) :
      AsksFor (make settings required) own begun handed := by
    have nothing := (sparesTopics_startCompose _).topicRequests_eq first
    obtain ⟨accounted, rfl⟩ := runs_startCompose first
    exact .idle accounted nothing rfl
  rcases runs_handing_cases run fun _ _ => rfl with
    ⟨error, first, rfl⟩ | ⟨_, begun, before, rest, rfl, first, run⟩
  · exact started first
  refine (started first).append ?_
  rcases runs_handing_cases run fun _ _ => rfl with
    ⟨error, second, rfl⟩ | ⟨_, equipped, names, rest, rfl, second, run⟩
  · exact asksFor_ensureTopics second
  refine (asksFor_ensureTopics second).append ?_
  rcases runs_handing_cases run fun _ _ => rfl with
    ⟨error, third, rfl⟩ | ⟨_, stored, statements, rest, rfl, third, run⟩
  · exact asksFor_ensureRequiredTable third
  · exact (asksFor_ensureRequiredTable third).append (asksFor_ensureRequiredSeries run)

/-! ### The stop -/

/-- What the broker is asked to do with topics while something is taken away. -/
def Removal.topicRequests : Removal → List TopicRequest
  | topic _ name => [.delete name]
  | _ => []

theorem topicRequests_of_runs_step {removal : Removal} {result : Except String Unit}
    (run : Runs (removal.step required).run exchanges result) :
    topicRequests exchanges = removal.topicRequests := by
  cases removal with
  | series store =>
    exact SparesTopics.topicRequests_eq (avoids_describing _ _ (sparesTopics_deleteAll store)) run
  | relational store =>
    refine SparesTopics.topicRequests_eq (avoids_describing _ _ ?_) run
    exact (onlyStates_clearRelational store _).sparesTopics.bind fun cleared =>
      (avoids_ask _ rfl).bind fun _ => avoids_done _
  | topic admin name =>
    obtain ⟨deleted, run, -⟩ := (Teardown.runs_describing_iff _ _ _ _ _).1 run
    exact topicRequests_of_runs_delete run
  | compose project =>
    refine SparesTopics.topicRequests_eq (avoids_describing _ _ ?_) run
    exact (avoids_ask _ rfl).bind fun _ => avoids_composeRun (fun _ => rfl) _ _ _

theorem topicRequests_of_ranSteps {removals : List Removal} {results : List (Except String Unit)}
    (ran : Teardown.RanSteps (removals.map (Removal.step required)) exchanges results) :
    topicRequests exchanges = removals.flatMap Removal.topicRequests := by
  induction removals generalizing exchanges results with
  | nil =>
    cases ran
    rfl
  | cons removal rest inductionHypothesis =>
    cases ran with
    | cons _ _ own others result results first tail =>
      have noted : topicRequest?
          (Teardown.stepNoted (removal.step required) result).action = none := by
        cases result <;> rfl
      rw [topicRequests_append, topicRequests_of_runs_step first,
        topicRequests_cons_of_none noted, inductionHypothesis tail, List.flatMap_cons]

theorem flatMap_removals (environment : Environment) (admin : Broker.TopicAdmin) :
    (environment.removals admin).flatMap Removal.topicRequests =
      environment.topicNames.reverse.map .delete := by
  have topics (names : List String) :
      (names.map (Removal.topic admin)).flatMap Removal.topicRequests = names.map .delete := by
    rw [List.flatMap_map, List.map_eq_flatMap]
    rfl
  unfold removals
  rw [List.flatMap_append, List.flatMap_append, List.flatMap_append, topics]
  cases environment.series <;> cases environment.relational <;>
    cases environment.settings.composeFile <;> simp [Removal.topicRequests]

/-- A stop asks for the deletion of the topics that are held, the newest first, and for nothing
else. -/
theorem topicRequests_of_runs_stop {stopped : Environment}
    (consistent : Consistent settings required environment)
    (run : Runs environment.stop exchanges stopped) :
    topicRequests exchanges = environment.topicNames.reverse.map .delete := by
  obtain ⟨admin, -, stops⟩ := exists_runs_stop_iff consistent
  obtain ⟨-, own, results, ran, rfl⟩ := (stops _ _).1 run
  have noted : topicRequest? (stopNoted (Teardown.failures results)).action = none := by
    unfold stopNoted
    split <;> rfl
  rw [topicRequests_append, topicRequests_cons_of_none noted, topicRequests_nil, List.append_nil,
    topicRequests_of_ranSteps ran, flatMap_removals]

/-! ### Between the start and the stop -/

/-- The error that an operation ends with. -/
def failure? : Exchange Operation OperationReply → Option ProvisioningError
  | ⟨.provision, .error error⟩ => some error
  | ⟨.ensureTopic _, .error error⟩ => some error
  | ⟨.ensureTable, .error error⟩ => some error
  | ⟨.ensureSeries, .error error⟩ => some error
  | ⟨.waitForBroker, .error error⟩ => some error
  | ⟨.reset, .error error⟩ => some error
  | _ => none

/-- Whether an operation is one between the start and the stop. -/
def isBetween : Operation → Bool
  | .provision => false
  | .stop => false
  | _ => true

/-- What a sequence of operations asks of the broker: nothing but the creation of topics, which are
held afterwards, unless an operation gave up on them. -/
structure OperationsAskFor (environment : Environment)
    (own : List (Exchange Operation OperationReply)) (exchanges : List (Exchange Action Reply))
    (after : Environment) : Prop where
  kept : environment.topicNames ⊆ after.topicNames
  creates : ∀ request ∈ topicRequests exchanges, ∃ name, request = .create name ∧
    (name ∈ after.topicNames ∨
      ∃ exchange ∈ own, ∃ error, failure? exchange = some error ∧ GivesUpOn name error)

theorem OperationsAskFor.idle (own : List (Exchange Operation OperationReply))
    (nothing : topicRequests exchanges = []) :
    OperationsAskFor environment own exchanges environment where
  kept := List.Subset.refl _
  creates request member := by
    rw [nothing] at member
    cases member

theorem OperationsAskFor.append {own others : List (Exchange Operation OperationReply)}
    {before : List (Exchange Action Reply)}
    (first : OperationsAskFor environment own before middle)
    (second : OperationsAskFor middle others exchanges after) :
    OperationsAskFor environment (own ++ others) (before ++ exchanges) after where
  kept := List.Subset.trans first.kept second.kept
  creates request member := by
    rw [topicRequests_append] at member
    rcases List.mem_append.1 member with earlier | later
    · obtain ⟨name, isCreate, held | ⟨exchange, isOwn, givenUp⟩⟩ := first.creates request earlier
      · exact ⟨name, isCreate, .inl (second.kept held)⟩
      · exact ⟨name, isCreate, .inr ⟨exchange, List.mem_append_left _ isOwn, givenUp⟩⟩
    · obtain ⟨name, isCreate, held | ⟨exchange, isOwn, givenUp⟩⟩ := second.creates request later
      · exact ⟨name, isCreate, .inl held⟩
      · exact ⟨name, isCreate, .inr ⟨exchange, List.mem_append_right _ isOwn, givenUp⟩⟩

theorem AsksFor.single {operation : Operation} {reply : OperationReply operation}
    {result : Except ProvisioningError Value} (asks : AsksFor environment exchanges result after)
    (fails : ∀ error, result = .error error → failure? ⟨operation, reply⟩ = some error) :
    OperationsAskFor environment [⟨operation, reply⟩] exchanges after where
  kept := asks.kept
  creates request member := by
    obtain ⟨name, isCreate, held | ⟨error, isError, givesUp⟩⟩ := asks.creates request member
    · exact ⟨name, isCreate, .inl held⟩
    · exact ⟨name, isCreate, .inr ⟨_, List.mem_cons_self, error, fails error isError, givesUp⟩⟩

theorem operationsAskFor_perform {operation : Operation} {reply : OperationReply operation}
    (between : isBetween operation = true)
    (run : Runs (perform operation environment) exchanges (reply, after)) :
    OperationsAskFor environment [⟨operation, reply⟩] exchanges after := by
  cases operation with
  | provision => cases between
  | stop => cases between
  | ensureTopic name =>
    exact (asksFor_ensureTopic run).single fun error same => by rw [same]; rfl
  | ensureTable => exact (asksFor_ensureTable run).single fun error same => by rw [same]; rfl
  | ensureSeries => exact (asksFor_ensureSeries run).single fun error same => by rw [same]; rfl
  | waitForBroker =>
    obtain ⟨ready, rfl⟩ := (runs_aside_iff _ _ _ _ _).1 run
    exact .idle _ ((sparesTopics_waitForBroker _).topicRequests_eq ready)
  | reset =>
    obtain ⟨emptied, rfl⟩ := (runs_aside_iff _ _ _ _ _).1 run
    exact .idle _ ((sparesTopics_reset _).topicRequests_eq emptied)

theorem Consistent.perform {operation : Operation} {reply : OperationReply operation}
    (consistent : Consistent settings required environment)
    (between : isBetween operation = true)
    (run : Runs (Environment.perform operation environment) exchanges (reply, after)) :
    Consistent settings required after := by
  cases operation with
  | provision => cases between
  | stop => cases between
  | ensureTopic name => exact consistent.ensureTopic run
  | ensureTable => exact consistent.ensureTable run
  | ensureSeries => exact consistent.ensureSeries run
  | waitForBroker =>
    obtain ⟨-, rfl⟩ := (runs_aside_iff _ _ _ _ _).1 run
    exact consistent
  | reset =>
    obtain ⟨-, rfl⟩ := (runs_aside_iff _ _ _ _ _).1 run
    exact consistent

theorem operationsAskFor_of_threaded {own : List (Exchange Operation OperationReply)}
    (consistent : Consistent settings required environment)
    (between : ∀ exchange ∈ own, isBetween exchange.action = true)
    (threaded : Threaded perform environment own exchanges after) :
    Consistent settings required after ∧ OperationsAskFor environment own exchanges after := by
  induction threaded with
  | nil environment => exact ⟨consistent, .idle [] rfl⟩
  | cons operation reply own before others environment next after first rest inductionHypothesis =>
    have isFirst := between _ List.mem_cons_self
    obtain ⟨stays, later⟩ := inductionHypothesis (consistent.perform isFirst first)
      fun exchange member => between exchange (List.mem_cons_of_mem _ member)
    exact ⟨stays, (operationsAskFor_perform isFirst first).append later⟩

/-! ### All topics -/

/-- What a failed start asks of the broker: topics to be created, and those that were ready to be
deleted again. -/
theorem requests_of_failed {provisioning teardown : List (Exchange Action Reply)}
    {error : ProvisioningError} {stopped : Environment}
    (run : Runs (make settings required).provision provisioning (.error error, environment))
    (stopping : Runs environment.stop teardown stopped) (name : String) :
    (.create name ∈ topicRequests (provisioning ++ failureNoted error :: teardown) ∧
      .delete name ∉ topicRequests (provisioning ++ failureNoted error :: teardown)) ↔
      GivesUpOn name error := by
  have provisioned := runs_provision run
  have asks := asksFor_provision run
  have deleted : TopicRequest.delete name ∉ topicRequests provisioning := by
    intro member
    obtain ⟨_, same, -⟩ := asks.creates _ member
    cases same
  rw [topicRequests_append, topicRequests_cons_of_none rfl,
    topicRequests_of_runs_stop provisioned.consistent stopping]
  constructor
  · rintro ⟨created, kept⟩
    have asked : .create name ∈ topicRequests provisioning := by simpa using created
    obtain ⟨_, same, held | ⟨_, isError, givesUp⟩⟩ := asks.creates _ asked
    · cases same
      exact absurd (by simpa using .inr held) kept
    · cases same
      cases isError
      exact givesUp
  · intro givesUp
    have lost := asks.lost name error rfl givesUp
    exact ⟨List.mem_append_left _ (provisioned.accounted.create_mem givesUp),
      by simp [deleted, lost]⟩

/-- The topics whose creation is asked for and whose deletion is not. A start that fails leaves just
the topic that it gives up on, if that is why it fails. An environment that is started and then
stopped leaves no topic either but those that some operation in between gave up on: the stop asks
for the deletion of every topic that is held by then. -/
theorem undeleted_account (settings : Settings) (required : RequiredResources) :
    (∀ exchanges error, Runs (start settings required) exchanges (.error error) →
      ∀ name, (.create name ∈ topicRequests exchanges ∧
        .delete name ∉ topicRequests exchanges) ↔ GivesUpOn name error) ∧
    ∀ starting environment own performed left stopping stopped,
      Runs (start settings required) starting (.ok environment) →
      (∀ exchange ∈ own, isBetween exchange.action = true) →
      Threaded perform environment own performed left →
      Runs left.stop stopping stopped →
        topicRequests stopping = left.topicNames.reverse.map .delete ∧
        ∀ request ∈ topicRequests (starting ++ performed), ∃ name, request = .create name ∧
          (.delete name ∈ topicRequests stopping ∨
            ∃ exchange ∈ own, ∃ error, failure? exchange = some error ∧ GivesUpOn name error) := by
  constructor
  · intro exchanges error run
    cases (runs_start_iff _).1 run with
    | failed provisioning teardown _ environment stopped provisioned stopping =>
      exact requests_of_failed provisioned stopping
  · intro starting environment own performed left stopping stopped started between threaded stop
    cases (runs_start_iff _).1 started with
    | ready provisioning _ run =>
      have asks := asksFor_provision run
      obtain ⟨consistent, asked⟩ :=
        operationsAskFor_of_threaded (runs_provision run).consistent between threaded
      -- What the start made ready is still held at the stop, and what is held there is deleted.
      have deletions := topicRequests_of_runs_stop consistent stop
      have deleted {name : String} (held : name ∈ left.topicNames) :
          .delete name ∈ topicRequests stopping := by
        rw [deletions]
        exact List.mem_map_of_mem (List.mem_reverse.2 held)
      refine ⟨deletions, fun request member => ?_⟩
      rw [topicRequests_append, topicRequests_append, topicRequests_cons_of_none rfl,
        topicRequests_nil, List.append_nil] at member
      rcases List.mem_append.1 member with early | late
      · obtain ⟨name, isCreate, held | ⟨_, same, -⟩⟩ := asks.creates request early
        · exact ⟨name, isCreate, .inl (deleted (asked.kept held))⟩
        · cases same
      · obtain ⟨name, isCreate, held | givenUp⟩ := asked.creates request late
        · exact ⟨name, isCreate, .inl (deleted held)⟩
        · exact ⟨name, isCreate, .inr givenUp⟩

/-- A topic that is there after a start is deleted again, and one whose request is answered too late
is not. -/
theorem undeleted_account_ready :
    (∃ starting environment stopping stopped,
      Runs (start {} { topics := ["orders"] }) starting (.ok environment) ∧
      Runs environment.stop stopping stopped ∧
      topicRequests starting = [.create "orders"] ∧
      topicRequests stopping = [.delete "orders"]) ∧
    ∃ exchanges error,
      Runs (start { readiness := .fixed 1 (.ofMilliseconds 1) } { topics := ["orders"] }) exchanges
        (.error error) ∧
      .create "orders" ∈ topicRequests exchanges ∧ .delete "orders" ∉ topicRequests exchanges := by
  constructor
  · let ready : Environment :=
      { make {} { topics := ["orders"] } with admin := some ⟨1⟩, topics := [⟨"orders", true⟩] }
    obtain ⟨starting, started, asked⟩ : ∃ starting,
        Runs (start {} { topics := ["orders"] }) starting (.ok ready) ∧
          topicRequests starting = [.create "orders"] := by
      refine exists_asking .open (exists_asking () (exists_asking () (exists_asking (.ok 1) ?_)))
      refine exists_asking (.ok [("orders", none)]) (exists_asking () (exists_asking () ?_))
      exact exists_asking () (exists_asking () ⟨[], .done _, rfl⟩)
    obtain ⟨stopping, stopped⟩ : ∃ stopping, Runs ready.stop stopping ready.cleared :=
      exists_runs_act (.ok [("orders", none)])
        (exists_runs_act () (exists_runs_act () (exists_runs_act () ⟨[], .done _⟩)))
    obtain ⟨deletions, -⟩ := (undeleted_account _ _).2 _ ready [] [] ready _ _ started
      (fun _ member => absurd member List.not_mem_nil) (.nil _) stopped
    exact ⟨_, _, _, _, started, stopped, asked, deletions⟩
  · let late : ProvisioningError := .notReady "topic orders" 1
      "Topic operation on 'orders' failed: RequestTimedOut (Broker: Request timed out)"
    obtain ⟨exchanges, started⟩ : ∃ exchanges,
        Runs (start { readiness := .fixed 1 (.ofMilliseconds 1) } { topics := ["orders"] })
          exchanges (.error late) := by
      refine exists_runs_act .open (exists_runs_act () (exists_runs_act () ?_))
      refine exists_runs_act (.ok 1) (exists_runs_act (.ok [("orders", some ⟨7⟩)]) ?_)
      refine exists_runs_act () (exists_runs_act () (exists_runs_act () ?_))
      exact exists_runs_act () ⟨[], .done _⟩
    have givenUp := ((undeleted_account _ _).1 _ _ started "orders").2 ⟨1, _, rfl⟩
    exact ⟨_, _, started, givenUp⟩

/-- The broker answers the requests for a topic too late, as often as they are made. The topic is
not deleted. -/
theorem start_leaves_topic :
    ∃ exchanges,
      Runs (start { readiness := .fixed 2 (.ofMilliseconds 1) } { topics := ["orders"] }) exchanges
        (.error (.notReady "topic orders" 2
          "Topic operation on 'orders' failed: RequestTimedOut (Broker: Request timed out)")) ∧
      topicRequests exchanges = [.create "orders", .create "orders"] := by
  refine exists_asking .open (exists_asking () (exists_asking () (exists_asking (.ok 1) ?_)))
  refine exists_asking (.ok [("orders", some ⟨7⟩)]) (exists_asking () (exists_asking () ?_))
  refine exists_asking (.ok [("orders", some ⟨7⟩)]) (exists_asking () (exists_asking () ?_))
  exact exists_asking () (exists_asking () ⟨[], .done _, rfl⟩)

end Testbed.Environment
