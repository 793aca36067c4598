/-
This file proves which settings depend on which variables. Each part of the settings is decided by
one variable, so two readings of variables that differ in a single one differ in the parts that this
one decides and in nothing else. The parts make up the settings as a whole. Variables that are not
documented decide nothing, not even whether the settings are refused.
-/

import Testbed.Proofs.ChildVariables
import Testbed.Proofs.NumberVariables

namespace Testbed.Settings

/-! ### The parts of the settings -/

/-- A part of the settings that one variable decides. -/
inductive Part where
  | brokers
  | relationalHost
  | relationalPort
  | relationalUsername
  | relationalPassword
  | relationalDatabase
  | relationalSchema
  | seriesUrl
  | executable (role : Role)
  | composeFile
  | composeProject
  | fixturesDirectory
  | readinessAttempts
  | readinessDelay
  | publishTimeout
  | logFilter
  /-- The entry of a variable that is handed to every service. -/
  | passedThrough (name : String) (isPassed : name ∈ passedThroughNames)

namespace Part

/-- The variable that decides a part. -/
def variableName : Part → String
  | brokers => "KAFKA_BROKERS"
  | relationalHost => "POSTGRES_HOST"
  | relationalPort => "POSTGRES_PORT"
  | relationalUsername => "POSTGRES_USERNAME"
  | relationalPassword => "POSTGRES_PASSWORD"
  | relationalDatabase => "POSTGRES_DBNAME"
  | relationalSchema => "POSTGRES_SCHEMA"
  | seriesUrl => "VICTORIA_METRICS_URL"
  | executable .commandService => "COMMAND_SERVICE_EXE"
  | executable .queryRouter => "QUERY_ROUTER_EXE"
  | executable .edgeRegistry => "EDGE_REGISTRY_EXE"
  | executable .schemaRegistry => "SCHEMA_REGISTRY_EXE"
  | executable .objectBuilder => "OBJECT_BUILDER_EXE"
  | composeFile => "HARNESS_COMPOSE_FILE"
  | composeProject => "HARNESS_COMPOSE_PROJECT"
  | fixturesDirectory => "HARNESS_FIXTURES_DIR"
  | readinessAttempts => "HARNESS_READINESS_ATTEMPTS"
  | readinessDelay => "HARNESS_READINESS_DELAY_MS"
  | publishTimeout => "HARNESS_PUBLISH_TIMEOUT_MS"
  | logFilter => "RUST_LOG"
  | passedThrough name _ => name

/-- What a part of the settings is. -/
abbrev Value : Part → Type
  | brokers | relationalHost | relationalUsername | relationalDatabase | relationalSchema
  | seriesUrl | composeProject => String
  | relationalPassword => Secret
  | relationalPort => UInt16
  | executable _ | composeFile | fixturesDirectory | logFilter | passedThrough _ _ => Option String
  | readinessAttempts => UInt32
  | readinessDelay => Backoff
  | publishTimeout => Duration

/-- The part as the settings have it. -/
def of (settings : Settings) : (part : Part) → part.Value
  | brokers => settings.brokers
  | relationalHost => settings.relational.host
  | relationalPort => settings.relational.port
  | relationalUsername => settings.relational.username
  | relationalPassword => settings.relational.password
  | relationalDatabase => settings.relational.database
  | relationalSchema => settings.relational.schema
  | seriesUrl => settings.seriesUrl
  | executable role => settings.executables role
  | composeFile => settings.composeFile
  | composeProject => settings.composeProject
  | fixturesDirectory => settings.fixturesDirectory
  | readinessAttempts => settings.readiness.maxAttempts
  | readinessDelay => settings.readiness.backoff
  | publishTimeout => settings.publishTimeout
  | logFilter => settings.logFilter
  | passedThrough name _ => settings.passedThrough.lookup name

end Part

/-- The settings that are put together from parts. -/
def ofParts (values : (part : Part) → part.Value) : Settings where
  brokers := values .brokers
  relational :=
    { host := values .relationalHost
      port := values .relationalPort
      username := values .relationalUsername
      password := values .relationalPassword
      database := values .relationalDatabase
      schema := values .relationalSchema }
  seriesUrl := values .seriesUrl
  executables role := values (.executable role)
  composeFile := values .composeFile
  composeProject := values .composeProject
  fixturesDirectory := values .fixturesDirectory
  readiness := { maxAttempts := values .readinessAttempts, backoff := values .readinessDelay }
  publishTimeout := values .publishTimeout
  logFilter := values .logFilter
  passedThrough := passedThroughNames.attach.filterMap fun passed =>
    (values (.passedThrough passed.1 passed.2)).map fun value => (passed.1, value)

variable {bindings other : Variables} {settings changed : Settings}

/-! ### What decides a part -/

theorem lookup_filterMap_held (names : List String) (held : String → Option String)
    (name : String) :
    (names.filterMap fun name => (held name).map fun value => (name, value)).lookup name =
      if name ∈ names then held name else none := by
  induction names with
  | nil => rfl
  | cons first rest inductionHypothesis =>
    rw [List.filterMap_cons]
    by_cases here : name = first
    · subst here
      cases isHeld : held name with
      | none => simp [inductionHypothesis, isHeld]
      | some value => simp
    · cases held first with
      | none => simp [inductionHypothesis, here]
      | some value => simp [inductionHypothesis, here, List.lookup_cons, beq_eq_false_iff_ne.2 here]

/-- What is handed on under a name is what the variables hold under it. -/
theorem lookup_passedThrough (accepted : ofVariables bindings = .ok settings) {name : String}
    (isPassed : name ∈ passedThroughNames) :
    settings.passedThrough.lookup name = bindings.get? name := by
  rw [passedThrough_of_ofVariables accepted]
  exact (lookup_filterMap_held _ _ _).trans (if_pos isPassed)

/-- The number that a variable holds, or the given one if it is missing. -/
def NumberVariable.valueIn (expected : NumberVariable) (bindings : Variables) (otherwise : Nat) :
    Nat :=
  (expected.readFrom bindings otherwise).toOption.getD 0

theorem NumberVariable.readFrom_congr {expected : NumberVariable}
    (same : bindings.get? expected.name = other.get? expected.name) (otherwise : Nat) :
    expected.readFrom bindings otherwise = expected.readFrom other otherwise := by
  unfold readFrom number
  rw [same]

theorem NumberVariable.valueIn_congr (expected : NumberVariable)
    (same : bindings.get? expected.name = other.get? expected.name) (otherwise : Nat) :
    expected.valueIn bindings otherwise = expected.valueIn other otherwise := by
  unfold valueIn
  rw [readFrom_congr same]

theorem exists_of_bind_eq_ok {Fault First Second : Type} {first : Except Fault First}
    {continuation : First → Except Fault Second} {second : Second}
    (isOk : first.bind continuation = .ok second) :
    ∃ value, first = .ok value ∧ continuation value = .ok second := by
  cases first with
  | error => cases isOk
  | ok value => exact ⟨value, rfl, isOk⟩

theorem eq_of_numbers {read : Numbers} (isRead : numbers bindings = .ok read) :
    read =
      { relationalPort := UInt16.ofNat (NumberVariable.relationalPort.valueIn bindings 5432)
        readinessAttempts :=
          UInt32.ofNat (NumberVariable.readinessAttempts.valueIn bindings 30)
        readinessDelay := UInt64.ofNat (NumberVariable.readinessDelay.valueIn bindings 1000)
        publishTimeout := UInt64.ofNat (NumberVariable.publishTimeout.valueIn bindings 3000) } := by
  rw [numbers_eq] at isRead
  obtain ⟨port, readPort, isRead⟩ := exists_of_bind_eq_ok isRead
  obtain ⟨attempts, readAttempts, isRead⟩ := exists_of_bind_eq_ok isRead
  split at isRead
  · cases isRead
  · obtain ⟨delay, readDelay, isRead⟩ := exists_of_bind_eq_ok isRead
    obtain ⟨timeout, readTimeout, isRead⟩ := exists_of_bind_eq_ok isRead
    cases isRead
    simp only [NumberVariable.valueIn, readPort, readAttempts, readDelay, readTimeout]
    rfl

theorem exists_of_ofVariables (accepted : ofVariables bindings = .ok settings) :
    ∃ read, numbers bindings = .ok read ∧ settings = ofNumbers bindings read := by
  rw [ofVariables_eq] at accepted
  cases isRead : numbers bindings with
  | error cause =>
    rw [isRead] at accepted
    cases accepted
  | ok read =>
    rw [isRead] at accepted
    cases accepted
    exact ⟨read, rfl, rfl⟩

/-- A part is the same in two readings if its variable is. -/
theorem Part.of_eq (part : Part) (accepted : ofVariables bindings = .ok settings)
    (acceptedToo : ofVariables other = .ok changed)
    (same : bindings.get? part.variableName = other.get? part.variableName) :
    part.of settings = part.of changed := by
  obtain ⟨_, isRead, rfl⟩ := exists_of_ofVariables accepted
  obtain ⟨_, isReadToo, rfl⟩ := exists_of_ofVariables acceptedToo
  cases eq_of_numbers isRead
  cases eq_of_numbers isReadToo
  cases part with
  | relationalPort =>
    exact congrArg UInt16.ofNat (NumberVariable.relationalPort.valueIn_congr same 5432)
  | readinessAttempts =>
    have sameNumber := NumberVariable.readinessAttempts.valueIn_congr same 30
    simp only [of, ofNumbers, Policy.ofAttempts, sameNumber]
  | readinessDelay =>
    have sameNumber := NumberVariable.readinessDelay.valueIn_congr same 1000
    simp only [of, ofNumbers, Policy.ofAttempts, sameNumber]
  | publishTimeout =>
    have sameNumber := NumberVariable.publishTimeout.valueIn_congr same 3000
    simp only [of, ofNumbers, sameNumber]
  | executable role => cases role <;> exact same
  | passedThrough name isPassed =>
    exact (lookup_passedThrough accepted isPassed).trans
      (same.trans (lookup_passedThrough acceptedToo isPassed).symm)
  | _ =>
    simp only [variableName] at same
    simp only [of, ofNumbers, same]

/-! ### The settings as a whole -/

/-- Settings that were read are put together from their parts. -/
theorem ofParts_of (accepted : ofVariables bindings = .ok settings) :
    ofParts (fun part => part.of settings) = settings := by
  have passed := calc
    (passedThroughNames.attach.filterMap fun passed =>
        (settings.passedThrough.lookup passed.1).map fun value => (passed.1, value))
      = passedThroughNames.attach.filterMap fun passed =>
          (bindings.get? passed.1).map fun value => (passed.1, value) :=
        List.filterMap_congr fun passed _ => by rw [lookup_passedThrough accepted passed.2]
    _ = passedThroughNames.filterMap fun name =>
          (bindings.get? name).map fun value => (name, value) := rfl
    _ = settings.passedThrough := (passedThrough_of_ofVariables accepted).symm
  exact congrArg (fun passedThrough => { settings with passedThrough }) passed

theorem eq_of_parts (accepted : ofVariables bindings = .ok settings)
    (acceptedToo : ofVariables other = .ok changed)
    (same : ∀ part : Part, part.of settings = part.of changed) : settings = changed := by
  rw [← ofParts_of accepted, ← ofParts_of acceptedToo, funext same]

/-- The documented variables: those of the settings, those that choose executables, and those that
are handed to every service. -/
def documentedNames : List String :=
  ["KAFKA_BROKERS", "POSTGRES_HOST", "POSTGRES_PORT", "POSTGRES_USERNAME", "POSTGRES_PASSWORD",
    "POSTGRES_DBNAME", "POSTGRES_SCHEMA", "VICTORIA_METRICS_URL", "HARNESS_COMPOSE_FILE",
    "HARNESS_COMPOSE_PROJECT", "HARNESS_FIXTURES_DIR", "HARNESS_READINESS_ATTEMPTS",
    "HARNESS_READINESS_DELAY_MS", "HARNESS_PUBLISH_TIMEOUT_MS"]
    ++ Role.all.map executableVariable ++ passedThroughNames

theorem Part.variableName_mem (part : Part) : part.variableName ∈ documentedNames := by
  cases part with
  | executable role => cases role <;> decide
  | passedThrough name isPassed => exact List.mem_append_right _ isPassed
  | _ => decide

/-- Only what the documented variables hold counts, also for whether they are refused. -/
theorem ofVariables_congr
    (same : ∀ name ∈ documentedNames, bindings.get? name = other.get? name) :
    ofVariables bindings = ofVariables other := by
  have sameNumbers : numbers bindings = numbers other := by
    rw [numbers_eq, numbers_eq, NumberVariable.readFrom_congr (same _ (by decide)),
      NumberVariable.readFrom_congr (same _ (by decide)),
      NumberVariable.readFrom_congr (same _ (by decide)),
      NumberVariable.readFrom_congr (same _ (by decide))]
  cases isRead : numbers bindings with
  | error cause => rw [ofVariables_eq, ofVariables_eq, ← sameNumbers, isRead]; rfl
  | ok read =>
    have accepted : ofVariables bindings = .ok (ofNumbers bindings read) := by
      rw [ofVariables_eq, isRead]
      rfl
    have acceptedToo : ofVariables other = .ok (ofNumbers other read) := by
      rw [ofVariables_eq, ← sameNumbers, isRead]
      rfl
    rw [accepted, acceptedToo, eq_of_parts accepted acceptedToo fun part =>
      part.of_eq accepted acceptedToo (same _ part.variableName_mem)]

/-! ### Changing one variable -/

/-- The variables hold the same under every name but one, under which one may hold nothing. -/
def DifferOnlyAt (name : String) (bindings other : Variables) : Prop :=
  ∀ kept, kept ≠ name → bindings.get? kept = other.get? kept

/-- The entry in which the log filter is handed to every service. -/
def Part.passedFilter : Part :=
  passedThrough "RUST_LOG" (by decide)

/-- The executable of a role is all that its variable decides. -/
theorem Part.variableName_eq_executableVariable_iff (part : Part) (role : Role) :
    part.variableName = executableVariable role ↔ part = executable role := by
  constructor
  · intro same
    cases part with
    | executable other =>
      cases other <;> cases role <;> first | rfl | exact absurd same (by decide)
    | passedThrough name isPassed =>
      have begins : (role.stem ++ "_").toList <+: (executableVariable role).toList := by
        cases role <;> decide
      exact absurd isPassed (not_mem_passedThroughNames (same ▸ begins))
    | _ => cases role <;> exact absurd same (by decide)
  · rintro rfl
    cases role <;> rfl

/-- The variable of the log filter decides the filter and the entry that is handed on. -/
theorem Part.variableName_eq_logVariable_iff (part : Part) :
    part.variableName = "RUST_LOG" ↔ part = logFilter ∨ part = passedFilter := by
  constructor
  · intro same
    cases part with
    | logFilter => exact .inl rfl
    | passedThrough name isPassed =>
      cases same
      exact .inr rfl
    | executable role => cases role <;> exact absurd same (by decide)
    | _ => exact absurd same (by decide)
  · rintro (rfl | rfl) <;> rfl

/-- Settings that differ at most in what one variable decides. -/
structure SameBut (name : String) (settings changed : Settings) : Prop where
  parts (part : Part) (isOther : part.variableName ≠ name) : part.of settings = part.of changed
  /-- The parts are all there is. -/
  whole (same : ∀ part : Part, part.of settings = part.of changed) : settings = changed
  executable (role : Role) (isOther : executableVariable role ≠ name) :
    settings.executable role = changed.executable role
  ofExecutable (role : Role) (isIts : name = executableVariable role) (part : Part)
    (isOther : part ≠ .executable role) : part.of settings = part.of changed
  ofLogFilter (isIts : name = "RUST_LOG") (part : Part) (noFilter : part ≠ .logFilter)
    (notPassed : part ≠ .passedFilter) : part.of settings = part.of changed

theorem sameBut_of_differOnlyAt {name : String} (differ : DifferOnlyAt name bindings other)
    (accepted : ofVariables bindings = .ok settings)
    (acceptedToo : ofVariables other = .ok changed) : SameBut name settings changed := by
  have parts (part : Part) (isOther : part.variableName ≠ name) :
      part.of settings = part.of changed :=
    part.of_eq accepted acceptedToo (differ _ isOther)
  refine ⟨parts, eq_of_parts accepted acceptedToo, fun role isOther => ?_,
    fun role isIts part isOther => ?_, fun isIts part noFilter notPassed => ?_⟩
  · have isOther : (Part.executable role).variableName ≠ name := by
      rw [((Part.executable role).variableName_eq_executableVariable_iff role).2 rfl]
      exact isOther
    exact congrArg (Option.getD · role.executableName) (parts (.executable role) isOther)
  · subst isIts
    exact parts part (mt (part.variableName_eq_executableVariable_iff role).1 isOther)
  · subst isIts
    exact parts part fun same =>
      ((part.variableName_eq_logVariable_iff).1 same).elim noFilter notPassed

/-- Settings are read if and only if every variable that is to hold a number is missing or holds a
numeral of its range, and otherwise the first that does not is named. Between two readings that
differ in one variable, only the parts of the settings that this variable decides differ: for the
variable of an executable this executable, and for the variable of the log filter the filter and the
entry that is handed on. Variables that are not documented make no difference at all. -/
theorem independence_account (bindings : Variables) :
    ((∃ settings, ofVariables bindings = .ok settings) ↔
      ∀ expected ∈ NumberVariable.inOrder, expected.IsSound bindings) ∧
    (∀ error, ofVariables bindings = .error error →
      ∃ before refused after, NumberVariable.inOrder = before ++ refused :: after ∧
        (∀ earlier ∈ before, earlier.IsSound bindings) ∧ ¬ refused.IsSound bindings ∧
        error.variableName = refused.name) ∧
    (∀ name other settings changed, DifferOnlyAt name bindings other →
      ofVariables bindings = .ok settings → ofVariables other = .ok changed →
      SameBut name settings changed) ∧
    ∀ other, (∀ name ∈ documentedNames, bindings.get? name = other.get? name) →
      ofVariables bindings = ofVariables other := by
  have checked := checked_ofVariables bindings
  refine ⟨⟨fun ⟨settings, accepted⟩ => ?_, fun areSound => ?_⟩, fun error refused => ?_,
    fun _ _ _ _ => sameBut_of_differOnlyAt, fun _ => ofVariables_congr⟩
  · rw [accepted] at checked
    exact checked.isSound_of_ok
  · cases read : ofVariables bindings with
    | ok settings => exact ⟨settings, rfl⟩
    | error error =>
      rw [read] at checked
      obtain ⟨before, refused, after, isPart, -, refuses⟩ := checked.exists_of_error
      have member : refused ∈ NumberVariable.inOrder :=
        isPart ▸ List.mem_append_right _ List.mem_cons_self
      exact absurd (areSound refused member) refuses.not_isSound
  · rw [refused] at checked
    obtain ⟨before, refused, after, isPart, areSound, refuses⟩ := checked.exists_of_error
    exact ⟨before, refused, after, isPart, areSound, refuses.not_isSound, refuses.variableName_eq⟩

/-- Variables with a log filter and a port. -/
def withFilter : Variables where
  entries := [("POSTGRES_PORT", "+05433"), ("RUST_LOG", "info")]
  ascending := List.pairwise_pair.2 (show "POSTGRES_PORT" < "RUST_LOG" by decide)

/-- The same variables without the log filter. -/
def withoutFilter : Variables where
  entries := [("POSTGRES_PORT", "+05433")]
  ascending := List.pairwise_singleton _ _

/-- Without the variable of the log filter the port stays as it is, but no filter is left and none
is handed on. -/
theorem independence_account_filter :
    ∃ settings changed, ofVariables withFilter = .ok settings ∧
      ofVariables withoutFilter = .ok changed ∧ settings.relational.port = 5433 ∧
      changed.relational.port = 5433 ∧ settings.passedThrough = [("RUST_LOG", "info")] ∧
      changed.passedThrough = [] := by
  have differ : DifferOnlyAt "RUST_LOG" withFilter withoutFilter := by
    intro kept isOther
    have unequal : (kept == "RUST_LOG") = false := beq_eq_false_iff_ne.2 isOther
    simp [Variables.get?, withFilter, withoutFilter, List.lookup_cons, unequal]
  obtain ⟨settings, accepted, port, passed⟩ : ∃ settings, ofVariables withFilter = .ok settings ∧
      settings.relational.port = 5433 ∧ settings.passedThrough = [("RUST_LOG", "info")] :=
    ⟨_, rfl, rfl, rfl⟩
  obtain ⟨changed, acceptedToo, passedToo⟩ : ∃ changed, ofVariables withoutFilter = .ok changed ∧
      changed.passedThrough = [] := ⟨_, rfl, rfl⟩
  obtain ⟨-, -, frame, -⟩ := independence_account withFilter
  have alike := frame "RUST_LOG" _ _ _ differ accepted acceptedToo
  have same := alike.parts .relationalPort (by decide)
  exact ⟨settings, changed, accepted, acceptedToo, port, same.symm.trans port, passed, passedToo⟩

end Testbed.Settings
