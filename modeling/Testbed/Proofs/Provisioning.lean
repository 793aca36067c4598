/-
This file proves what each step of provisioning does: which checks it makes, how it ends, and what
it leaves in the environment, whether or not it succeeds. Every step is accounted for in the same
way, by a number of checks that bounds its probes and by the check that spent its budget when the
step ends because a resource is not ready. An account of two steps in sequence is the sum of their
accounts, up to the step that fails.
-/

import Mathlib.Data.List.Nodup
import Testbed.Proofs.Readiness

namespace Testbed.Environment

open Session

variable {Value Next : Type} {settings : Settings} {environment after : Environment}
  {exchanges : List (Exchange Action Reply)}

/-! ### Stages -/

/-- A stage that can fail, in which case the environment stays as it was, and what follows it. -/
theorem runs_stage_cases {Failure : Type} {work : Work (Except Failure Value)}
    {fail : Failure → ProvisioningError}
    {next : Except Failure Value → Work (Except ProvisioningError Next × Environment)}
    {result : Except ProvisioningError Next}
    (run : Runs (work.bind next) exchanges (result, after))
    (stops : ∀ failure, next (.error failure) = .done (.error (fail failure), environment)) :
    (∃ failure, Runs work exchanges (.error failure) ∧ result = .error (fail failure) ∧
        after = environment) ∨
      ∃ value before rest, exchanges = before ++ rest ∧ Runs work before (.ok value) ∧
        Runs (next (.ok value)) rest (result, after) := by
  obtain ⟨before, staged, rest, rfl, first, second⟩ := (runs_bind_iff _ _ _ _).1 run
  cases staged with
  | error failure =>
    rw [stops failure, runs_done_pair_iff] at second
    obtain ⟨rfl, rfl, rfl⟩ := second
    rw [List.append_nil]
    exact .inl ⟨failure, first, rfl, rfl⟩
  | ok value => exact .inr ⟨value, before, rest, rfl, first, second⟩

/-- A stage that can fail and hands an environment on in any case, and what follows it. -/
theorem runs_handing_cases {work : Work (Except ProvisioningError Value × Environment)}
    {next : Except ProvisioningError Value × Environment →
      Work (Except ProvisioningError Next × Environment)}
    {result : Except ProvisioningError Next}
    (run : Runs (work.bind next) exchanges (result, after))
    (stops : ∀ error handed, next (.error error, handed) = .done (.error error, handed)) :
    (∃ error, Runs work exchanges (.error error, after) ∧ result = .error error) ∨
      ∃ value handed before rest, exchanges = before ++ rest ∧
        Runs work before (.ok value, handed) ∧
        Runs (next (.ok value, handed)) rest (result, after) := by
  obtain ⟨before, ⟨staged, handed⟩, rest, rfl, first, second⟩ := (runs_bind_iff _ _ _ _).1 run
  cases staged with
  | error error =>
    rw [stops error, runs_done_pair_iff] at second
    obtain ⟨rfl, rfl, rfl⟩ := second
    rw [List.append_nil]
    exact .inl ⟨error, first, rfl⟩
  | ok value => exact .inr ⟨value, handed, before, rest, rfl, first, second⟩

/-- A stage that is left out unless its resource is required, and that tells nothing of the
resource. -/
theorem runs_required_cases {isRequired : Bool}
    {ensure : Work (Except ProvisioningError Value × Environment)}
    {result : Except ProvisioningError Unit}
    (run : Runs
      (if isRequired then
        ensure.bind fun made => Session.done (made.1.map fun _ => (), made.2)
      else Session.done (.ok (), environment))
      exchanges (result, after)) :
    (∃ ensured, isRequired = true ∧ Runs ensure exchanges (ensured, after) ∧
        result = ensured.map fun _ => ()) ∨
      isRequired = false ∧ exchanges = [] ∧ result = .ok () ∧ after = environment := by
  cases isRequired with
  | true =>
    obtain ⟨⟨ensured, handed⟩, first, same⟩ := (runs_bind_done_iff _ _ _ _).1 run
    obtain ⟨rfl, rfl⟩ := Prod.mk.inj same
    exact .inl ⟨ensured, rfl, first, rfl⟩
  | false => exact .inr ⟨rfl, (runs_done_pair_iff _ _ _ _ _).1 run⟩

/-! ### Accounts -/

/-- The exchanges end with a check of the resource whose probes all failed, the last one with these
words, until the budget was spent. -/
def EndSpent (settings : Settings) (resource words : String)
    (exchanges : List (Exchange Action Reply)) : Prop :=
  ∃ (check : Check) (failures : List check.Failure) (failure : check.Failure)
    (before probes : List (Exchange Action Reply)),
    exchanges = before ++ probes ∧ check.resource = resource ∧
      failures.length + 1 = settings.readiness.attempts ∧
      check.ProbedIn settings failures (.error failure) probes ∧ check.describe failure = words

/-- What can be said of exchanges in which so many checks were made at most. -/
structure Accounted (settings : Settings) (checks : Nat) (exchanges : List (Exchange Action Reply))
    (result : Except ProvisioningError Value) : Prop where
  probes : probesIn exchanges ≤ checks * settings.readiness.attempts
  spent : ∀ resource attempts words, result = .error (.notReady resource attempts words) →
    attempts.toNat = settings.readiness.attempts ∧ EndSpent settings resource words exchanges

/-- Nothing needs to be said of exchanges without probes that do not end for want of a resource. -/
theorem accounted_quiet {result : Except ProvisioningError Value} (quiet : probesIn exchanges = 0)
    (other : ∀ resource attempts words, result ≠ .error (.notReady resource attempts words)) :
    Accounted settings 0 exchanges result where
  probes := by rw [quiet, Nat.zero_mul]
  spent resource attempts words same := absurd same (other resource attempts words)

namespace Accounted

variable {checks more : Nat} {before : List (Exchange Action Reply)}

theorem mono {result : Except ProvisioningError Value}
    (accounted : Accounted settings checks exchanges result) (within : checks ≤ more) :
    Accounted settings more exchanges result where
  probes := accounted.probes.trans (Nat.mul_le_mul_right _ within)
  spent := accounted.spent

/-- An account of a failure holds whatever the value would have been. -/
theorem fail {error : ProvisioningError}
    (accounted : Accounted settings checks exchanges (.error error : Except _ Value)) :
    Accounted settings checks exchanges (.error error : Except _ Next) where
  probes := accounted.probes
  spent resource attempts words same := by
    cases same
    exact accounted.spent resource attempts words rfl

/-- The value of a success does not matter for an account. -/
theorem succeed {value : Value} {next : Next}
    (accounted : Accounted settings checks exchanges (.ok value : Except ProvisioningError Value)) :
    Accounted settings checks exchanges (.ok next : Except ProvisioningError Next) where
  probes := accounted.probes
  spent resource attempts words same := by cases same

/-- The account of a success and of what followed it. -/
theorem append {value : Value} {result : Except ProvisioningError Next}
    (first : Accounted settings checks before (.ok value : Except ProvisioningError Value))
    (second : Accounted settings more exchanges result) :
    Accounted settings (checks + more) (before ++ exchanges) result where
  probes := by
    rw [probesIn_append, Nat.add_mul]
    exact Nat.add_le_add first.probes second.probes
  spent resource attempts words same := by
    obtain ⟨all, check, failures, failure, start, probes, rfl, named, length, probed, told⟩ :=
      second.spent resource attempts words same
    exact ⟨all, check, failures, failure, before ++ start, probes,
      (List.append_assoc _ _ _).symm, named, length, probed, told⟩

/-- An exchange that is no note of a probe does not matter for an account. -/
theorem cons {exchange : Exchange Action Reply} {result : Except ProvisioningError Value}
    (accounted : Accounted settings checks exchanges result)
    (other : notesAttempt exchange.action = false) :
    Accounted settings checks (exchange :: exchanges) result := by
  have quiet : probesIn [exchange] = 0 := by
    rw [probesIn_cons, other]
    rfl
  have alone : Accounted settings 0 [exchange] (.ok () : Except ProvisioningError Unit) :=
    accounted_quiet quiet (by simp)
  have whole := alone.append accounted
  rw [Nat.zero_add] at whole
  exact whole

end Accounted

/-- Waiting for a resource is accounted for by one check. -/
theorem accounted_await (check : Check) {result : Except ProvisioningError check.Value}
    (run : Runs (check.await environment) exchanges result) :
    Accounted environment.settings 1 exchanges result := by
  rcases runs_await run with
    ⟨failures, value, probes, within, probed, rfl, rfl⟩ | ⟨failures, failure, spent, probed, rfl⟩
  · refine ⟨?_, fun resource attempts words same => by cases same⟩
    rw [probesIn_append, probed.probesIn_eq (check.quiet_probe _), Nat.one_mul]
    exact within
  · refine ⟨?_, fun resource attempts words same => ?_⟩
    · rw [probed.probesIn_eq (check.quiet_probe _), spent, Nat.one_mul]
    · cases same
      exact ⟨UInt32.toNat_ofNat_of_lt' environment.settings.readiness.attempts_lt,
        check, failures, failure, [], exchanges, rfl, rfl, spent, probed, rfl⟩

/-! ### Topics -/

/-- The names of the topics that are held. -/
def topicNames (environment : Environment) : List String :=
  environment.topics.map TopicHandle.name

/-- From one environment to another, nothing was made ready but these topics and, if it was needed,
the administrator of topics. -/
inductive AddsTopics (environment : Environment) : List TopicHandle → Environment → Prop where
  | unchanged : AddsTopics environment [] environment
  | added (admin : Broker.TopicAdmin) (topics : List TopicHandle)
      (fits : environment.admin = none ∨ environment.admin = some admin) :
      AddsTopics environment topics
        { environment with admin := some admin, topics := environment.topics ++ topics }

theorem AddsTopics.trans {middle : Environment} {first second : List TopicHandle}
    (start : AddsTopics environment first middle) (rest : AddsTopics middle second after) :
    AddsTopics environment (first ++ second) after := by
  cases start with
  | unchanged => exact rest
  | added admin topics fits =>
    cases rest with
    | unchanged =>
      rw [List.append_nil]
      exact .added admin first fits
    | added other topics fitting =>
      rcases fitting with none | same
      · cases none
      · cases same
        simp only [List.append_assoc]
        exact .added admin (first ++ second) fits

/-- The administrator is obtained without a check. -/
theorem runs_obtainAdmin {result : Except ProvisioningError Broker.TopicAdmin}
    (run : Runs environment.obtainAdmin exchanges (result, after)) :
    Accounted environment.settings 0 exchanges result ∧
      (∀ error, result = .error error → after = environment) ∧
      ∀ admin, result = .ok admin →
        (environment.admin = none ∨ environment.admin = some admin) ∧
          after = { environment with admin := some admin } := by
  unfold obtainAdmin at run
  split at run
  case h_1 admin held =>
    obtain ⟨rfl, rfl, rfl⟩ := (runs_done_pair_iff _ _ _ _ _).1 run
    refine ⟨accounted_quiet rfl (by simp), fun _ same => (by cases same), fun _ same => ?_⟩
    cases same
    refine ⟨.inr held, ?_⟩
    rw [← held]
  case h_2 missing =>
    have quiet : Quiet (Broker.TopicAdmin.forBrokers environment.settings.brokers) := by
      refine (avoids_ask _ rfl).bind fun opened => ?_
      cases opened <;> exact avoids_done _
    rcases runs_stage_cases run fun _ => rfl with
      ⟨cause, first, rfl, rfl⟩ | ⟨admin, before, rest, rfl, first, run⟩
    · exact ⟨accounted_quiet (quiet.probesIn_eq_zero first) (by simp), fun _ _ => rfl,
        fun _ same => by cases same⟩
    · obtain ⟨rfl, rfl, rfl⟩ := (runs_done_pair_iff _ _ _ _ _).1 run
      rw [List.append_nil]
      refine ⟨accounted_quiet (quiet.probesIn_eq_zero first) (by simp),
        fun _ same => (by cases same), fun _ same => ?_⟩
      cases same
      exact ⟨.inl missing, rfl⟩

/-- Creating a topic takes two checks, of the broker and of the topic, and adds the topic if it
succeeds. -/
theorem runs_createTopic {name : String} {result : Except ProvisioningError TopicHandle}
    (run : Runs (environment.createTopic name) exchanges (result, after)) :
    Accounted environment.settings 2 exchanges result ∧
      ((∃ error, result = .error error ∧ AddsTopics environment [] after) ∨
        ∃ handle, result = .ok handle ∧ handle.name = name ∧
          AddsTopics environment [handle] after) := by
  rcases runs_stage_cases run fun _ => rfl with
    ⟨error, first, rfl, rfl⟩ | ⟨_, before, rest, rfl, first, run⟩
  · exact ⟨((accounted_await .broker first).mono (by decide)).fail, .inl ⟨error, rfl, .unchanged⟩⟩
  · have broker := accounted_await .broker first
    rcases runs_handing_cases run fun _ _ => rfl with
      ⟨error, second, rfl⟩ | ⟨admin, equipped, between, rest, rfl, second, run⟩
    · obtain ⟨accounted, stays, -⟩ := runs_obtainAdmin second
      obtain rfl := stays error rfl
      exact ⟨((broker.append accounted).mono (by decide)).fail, .inl ⟨error, rfl, .unchanged⟩⟩
    · obtain ⟨accounted, -, obtains⟩ := runs_obtainAdmin second
      obtain ⟨fits, rfl⟩ := obtains admin rfl
      rcases runs_stage_cases run fun _ => rfl with
        ⟨error, third, rfl, rfl⟩ | ⟨isCreated, probes, rest, rfl, third, run⟩
      · have whole := broker.append (accounted.append (accounted_await (.topic admin name) third))
        have equipped := AddsTopics.added admin [] fits
        rw [List.append_nil] at equipped
        exact ⟨whole.fail, .inl ⟨error, rfl, equipped⟩⟩
      · have whole := broker.append (accounted.append (accounted_await (.topic admin name) third))
        obtain ⟨rfl, rfl, rfl⟩ := (runs_done_pair_iff _ _ _ _ _).1 run
        rw [List.append_nil]
        exact ⟨whole.succeed, .inr ⟨⟨name, isCreated⟩, rfl, rfl, .added admin _ fits⟩⟩

/-- The names that are missing among those held, each once, in the order in which they first
occur. -/
def missing (held names : List String) : List String :=
  (names.removeAll held).eraseDups

@[simp] theorem missing_nil (held : List String) : missing held [] = [] := rfl

theorem missing_nil_held (names : List String) : missing [] names = names.eraseDups := by
  unfold missing
  rw [List.removeAll_nil]

theorem missing_cons_of_mem {held : List String} {name : String} (rest : List String)
    (isHeld : name ∈ held) : missing held (name :: rest) = missing held rest := by
  unfold missing
  rw [List.cons_removeAll, if_neg (by simp [isHeld])]

theorem missing_cons_of_not_mem {held : List String} {name : String} (rest : List String)
    (isMissing : name ∉ held) :
    missing held (name :: rest) = name :: missing (held ++ [name]) rest := by
  unfold missing
  rw [List.cons_removeAll, if_pos (by simp [isMissing]), List.eraseDups_cons]
  congr 2
  unfold List.removeAll
  rw [List.filter_filter]
  refine List.filter_congr fun other _ => ?_
  by_cases same : other = name <;> simp [same]

/-- The names that are missing are those missing of the first, and then those still missing of the
rest. -/
theorem missing_cons (held : List String) (name : String) (rest : List String) :
    missing held (name :: rest) =
      missing held [name] ++ missing (held ++ missing held [name]) rest := by
  by_cases isHeld : name ∈ held
  · rw [missing_cons_of_mem rest isHeld, missing_cons_of_mem [] isHeld, missing_nil,
      List.nil_append, List.append_nil]
  · rw [missing_cons_of_not_mem rest isHeld, missing_cons_of_not_mem [] isHeld, missing_nil,
      List.singleton_append]

/-- Names that are held once each are still so when those that were missing are added. -/
theorem nodup_append_missing {held : List String} (names : List String) (distinct : held.Nodup) :
    (held ++ missing held names).Nodup := by
  induction names generalizing held with
  | nil =>
    rw [missing_nil, List.append_nil]
    exact distinct
  | cons name rest inductionHypothesis =>
    by_cases isHeld : name ∈ held
    · rw [missing_cons_of_mem rest isHeld]
      exact inductionHypothesis distinct
    · rw [missing_cons_of_not_mem rest isHeld, List.append_cons]
      exact inductionHypothesis (List.nodup_append_comm.1 (List.nodup_cons.2 ⟨isHeld, distinct⟩))

theorem AddsTopics.topicNames_eq {topics : List TopicHandle}
    (adds : AddsTopics environment topics after) :
    after.topicNames = environment.topicNames ++ topics.map TopicHandle.name := by
  cases adds with
  | unchanged => exact (List.append_nil _).symm
  | added admin _ fits => exact List.map_append

/-- What making sure of topics leads to: two checks at most for each topic that is missing, and the
topics that were missing, up to the first that could not be made ready. -/
structure TopicsEnsured (environment : Environment) (names : List String)
    (exchanges : List (Exchange Action Reply)) (result : Except ProvisioningError Value)
    (after : Environment) (topics : List TopicHandle) : Prop where
  accounted : Accounted environment.settings
    (2 * (missing environment.topicNames names).length) exchanges result
  adds : AddsTopics environment topics after
  added : topics.map TopicHandle.name <+: missing environment.topicNames names
  complete : ∀ value, result = .ok value →
    topics.map TopicHandle.name = missing environment.topicNames names

theorem runs_ensureTopic {name : String} {result : Except ProvisioningError TopicHandle}
    (run : Runs (environment.ensureTopic name) exchanges (result, after)) :
    ∃ topics, TopicsEnsured environment [name] exchanges result after topics := by
  unfold ensureTopic at run
  split at run
  case h_1 handle found =>
    obtain ⟨rfl, rfl, rfl⟩ := (runs_done_pair_iff _ _ _ _ _).1 run
    have named : handle.name = name := by simpa using List.find?_some found
    have isHeld : name ∈ after.topicNames := by
      rw [← named]
      exact List.mem_map_of_mem (List.mem_of_find?_eq_some found)
    refine ⟨[], (accounted_quiet rfl (by simp)).mono (Nat.zero_le _), .unchanged, List.nil_prefix,
      fun _ _ => ?_⟩
    rw [missing_cons_of_mem [] isHeld]
    rfl
  case h_2 absent =>
    have isMissing : name ∉ environment.topicNames := by
      intro isHeld
      obtain ⟨handle, member, named⟩ := List.mem_map.1 isHeld
      have other := List.find?_eq_none.1 absent handle member
      exact other (by simpa using named)
    have single : missing environment.topicNames [name] = [name] := by
      rw [missing_cons_of_not_mem [] isMissing, missing_nil]
    obtain ⟨accounted, ⟨error, rfl, adds⟩ | ⟨handle, rfl, rfl, adds⟩⟩ := runs_createTopic run
    · refine ⟨[], ?_, adds, List.nil_prefix, fun value same => by cases same⟩
      rw [single]
      exact accounted
    · refine ⟨[handle], ?_, adds, ?_, fun _ _ => single.symm⟩
      · rw [single]
        exact accounted
      · rw [single]
        exact List.prefix_rfl

theorem AddsTopics.settings_eq {topics : List TopicHandle}
    (adds : AddsTopics environment topics after) : after.settings = environment.settings := by
  cases adds <;> rfl

/-- Making sure of topics goes on as long as it succeeds. -/
theorem runs_ensureTopics {names : List String} {result : Except ProvisioningError Unit}
    (run : Runs (ensureTopics names environment) exchanges (result, after)) :
    ∃ topics, TopicsEnsured environment names exchanges result after topics := by
  induction names generalizing environment exchanges with
  | nil =>
    obtain ⟨rfl, rfl, rfl⟩ := (runs_done_pair_iff _ _ _ _ _).1 run
    exact ⟨[], accounted_quiet rfl (by simp), .unchanged, List.nil_prefix, fun _ _ => rfl⟩
  | cons name rest inductionHypothesis =>
    -- The names still missing for the rest are counted after the first was added.
    have more := missing_cons environment.topicNames name rest
    rcases runs_handing_cases run fun _ _ => rfl with
      ⟨error, first, rfl⟩ | ⟨handle, middle, before, others, rfl, first, run⟩
    · obtain ⟨topics, start⟩ := runs_ensureTopic first
      refine ⟨topics, (start.accounted.mono ?_).fail, start.adds, ?_,
        fun value same => by cases same⟩
      · rw [more, List.length_append]
        omega
      · rw [more]
        exact start.added.trans (List.prefix_append _ _)
    · obtain ⟨topics, start⟩ := runs_ensureTopic first
      obtain ⟨further, continued⟩ := inductionHypothesis run
      have names := start.adds.topicNames_eq
      rw [start.complete handle rfl] at names
      have accounted := continued.accounted
      have added := continued.added
      have complete := continued.complete
      rw [names] at accounted added complete
      rw [start.adds.settings_eq] at accounted
      refine ⟨topics ++ further, ?_, start.adds.trans continued.adds, ?_, fun value same => ?_⟩
      · rw [more, List.length_append, Nat.mul_add]
        exact start.accounted.append accounted
      · rw [more, List.map_append, start.complete handle rfl]
        exact (List.prefix_append_right_inj _).2 added
      · rw [more, List.map_append, start.complete handle rfl, complete value same]

/-! ### Stores -/

/-- From one environment to another, nothing was made ready but the data table and the relational
store that holds it; the Boolean tells whether the table is there. -/
inductive AddsTable (environment : Environment) : Bool → Environment → Prop where
  | unchanged : AddsTable environment false environment
  | connected (store : RelationalStore) :
      AddsTable environment false { environment with relational := some store }
  | created (store : RelationalStore) :
      AddsTable environment true
        { environment with relational := some store, table := some { schema := store.schema } }

/-- From one environment to another, nothing was made ready but the series store; the Boolean tells
whether it is there. -/
inductive AddsSeries (environment : Environment) : Bool → Environment → Prop where
  | unchanged : AddsSeries environment false environment
  | answered (store : SeriesStore) :
      AddsSeries environment true
        { environment with seriesHandle := some { url := store.baseUrl }, series := some store }

/-- Whether an action is one of those by which statements are performed, with their notes. -/
def isStatement : Action → Bool
  | .perform _ _ _ => true
  | .begin _ => true
  | .commit _ => true
  | .abandon _ => true
  | .note event => event.target == "lake.env"
  | _ => false

/-- Work that does nothing but perform statements. -/
abbrev OnlyStates {Result : Type} (work : Work Result) : Prop :=
  Avoids (fun action => !isStatement action) work

theorem OnlyStates.quiet {Result : Type} {work : Work Result} (onlyStates : OnlyStates work) :
    Quiet work := by
  refine onlyStates.mono fun action isStated => ?_
  cases action with
  | note event =>
    have target : event.target = "lake.env" := by simpa [isStatement] using isStated
    show (event.target == "lake.poll" && _) = false
    rw [target]
    rfl
  | _ => rfl

theorem onlyStates_onPool {expects : Relational.Expects} (store : RelationalStore)
    (statement : Relational.Statement expects) : OnlyStates (store.onPool statement) := by
  refine (avoids_ask _ rfl).bind fun answer => ?_
  cases answer <;> exact avoids_done _

theorem onlyStates_ensureDataTable (store : RelationalStore) :
    OnlyStates store.ensureDataTable := by
  refine (onlyStates_onPool _ _).bind fun schema => ?_
  cases schema with
  | error error => exact avoids_done _
  | ok count =>
    refine (onlyStates_onPool _ _).bind fun table => ?_
    cases table with
    | error error => exact avoids_done _
    | ok count => exact (avoids_ask _ rfl).bind fun _ => avoids_done _

/-- Creating the data table takes one check, and leaves the store behind that it connected to. -/
theorem runs_createTable {result : Except ProvisioningError Unit}
    (run : Runs environment.createTable exchanges (result, after)) :
    Accounted environment.settings 1 exchanges result ∧
      AddsTable environment result.isOk after := by
  rcases runs_stage_cases run fun _ => rfl with
    ⟨error, first, rfl, rfl⟩ | ⟨store, probes, rest, rfl, first, run⟩
  · exact ⟨(accounted_await .relational first).fail, .unchanged⟩
  · have check := accounted_await .relational first
    have quiet := (onlyStates_ensureDataTable store).quiet
    rcases runs_stage_cases run fun _ => rfl with
      ⟨cause, second, rfl, rfl⟩ | ⟨_, statements, rest, rfl, second, run⟩
    · have noProbes := quiet.probesIn_eq_zero second
      exact ⟨check.append (accounted_quiet noProbes (by simp)), .connected store⟩
    · have noProbes := quiet.probesIn_eq_zero second
      obtain ⟨rfl, rfl, rfl⟩ := (runs_done_pair_iff _ _ _ _ _).1 run
      rw [List.append_nil]
      exact ⟨check.append (accounted_quiet noProbes (by simp)), .created store⟩

/-- Making sure of the data table takes one check at most. The handle is there in the end if this
succeeds, so that the error for a missing handle does not occur. -/
theorem runs_ensureTable {result : Except ProvisioningError TableHandle}
    (run : Runs environment.ensureTable exchanges (result, after)) :
    Accounted environment.settings 1 exchanges result ∧
      ((environment.table.isSome = true ∧ result.isOk = true ∧ after = environment) ∨
        environment.table = none ∧ AddsTable environment result.isOk after) := by
  unfold ensureTable at run
  split at run
  case isTrue held =>
    obtain ⟨rfl, rfl, rfl⟩ := (runs_done_pair_iff _ _ _ _ _).1 run
    obtain ⟨handle, same⟩ := Option.isSome_iff_exists.1 held
    unfold heldTable
    rw [same]
    exact ⟨(accounted_quiet rfl (by simp)).mono (Nat.zero_le _), .inl ⟨rfl, rfl, rfl⟩⟩
  case isFalse absent =>
    rw [Bool.not_eq_true, Option.isSome_eq_false_iff, Option.isNone_iff_eq_none] at absent
    rcases runs_handing_cases run fun _ _ => rfl with
      ⟨error, first, rfl⟩ | ⟨_, middle, before, rest, rfl, first, run⟩
    · obtain ⟨accounted, adds⟩ := runs_createTable first
      exact ⟨accounted.fail, .inr ⟨absent, adds⟩⟩
    · obtain ⟨accounted, adds⟩ := runs_createTable first
      obtain ⟨rfl, rfl, rfl⟩ := (runs_done_pair_iff _ _ _ _ _).1 run
      rw [List.append_nil]
      cases adds with
      | created store => exact ⟨accounted.succeed, .inr ⟨absent, .created store⟩⟩

/-- Waiting for the series store takes one check, once there is a client for its requests. -/
theorem runs_awaitSeries {result : Except ProvisioningError Unit}
    (run : Runs environment.awaitSeries exchanges (result, after)) :
    Accounted environment.settings 1 exchanges result ∧
      AddsSeries environment result.isOk after := by
  have quiet : Quiet (SeriesStore.openAt environment.settings.seriesUrl) := by
    refine (avoids_ask _ rfl).bind fun client => ?_
    cases client <;> exact avoids_done _
  rcases runs_stage_cases run fun _ => rfl with
    ⟨cause, first, rfl, rfl⟩ | ⟨store, before, rest, rfl, first, run⟩
  · have noProbes := quiet.probesIn_eq_zero first
    exact ⟨(accounted_quiet noProbes (by simp)).mono (Nat.zero_le _), .unchanged⟩
  · have opened : Accounted environment.settings 0 before (.ok store) :=
      accounted_quiet (quiet.probesIn_eq_zero first) (by simp)
    rcases runs_stage_cases run fun _ => rfl with
      ⟨error, second, rfl, rfl⟩ | ⟨_, probes, rest, rfl, second, run⟩
    · exact ⟨(opened.append (accounted_await (.series store) second)).fail, .unchanged⟩
    · obtain ⟨rfl, rfl, rfl⟩ := (runs_done_pair_iff _ _ _ _ _).1 run
      rw [List.append_nil]
      exact ⟨(opened.append (accounted_await (.series store) second)).succeed, .answered store⟩

/-- Making sure of the series store takes one check at most. The handle is there in the end if this
succeeds, so that the error for a missing handle does not occur. -/
theorem runs_ensureSeries {result : Except ProvisioningError SeriesHandle}
    (run : Runs environment.ensureSeries exchanges (result, after)) :
    Accounted environment.settings 1 exchanges result ∧
      ((environment.seriesHandle.isSome = true ∧ result.isOk = true ∧ after = environment) ∨
        environment.seriesHandle = none ∧ AddsSeries environment result.isOk after) := by
  unfold ensureSeries at run
  split at run
  case isTrue held =>
    obtain ⟨rfl, rfl, rfl⟩ := (runs_done_pair_iff _ _ _ _ _).1 run
    obtain ⟨handle, same⟩ := Option.isSome_iff_exists.1 held
    unfold heldSeries
    rw [same]
    exact ⟨(accounted_quiet rfl (by simp)).mono (Nat.zero_le _), .inl ⟨rfl, rfl, rfl⟩⟩
  case isFalse absent =>
    rw [Bool.not_eq_true, Option.isSome_eq_false_iff, Option.isNone_iff_eq_none] at absent
    rcases runs_handing_cases run fun _ _ => rfl with
      ⟨error, first, rfl⟩ | ⟨_, middle, before, rest, rfl, first, run⟩
    · obtain ⟨accounted, adds⟩ := runs_awaitSeries first
      exact ⟨accounted.fail, .inr ⟨absent, adds⟩⟩
    · obtain ⟨accounted, adds⟩ := runs_awaitSeries first
      obtain ⟨rfl, rfl, rfl⟩ := (runs_done_pair_iff _ _ _ _ _).1 run
      rw [List.append_nil]
      cases adds with
      | answered store => exact ⟨accounted.succeed, .inr ⟨absent, .answered store⟩⟩

end Testbed.Environment
