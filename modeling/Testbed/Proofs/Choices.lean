/-
This file proves that what the catalogue says of a service in several places agrees, whatever was
chosen for the service and in whatever order. Choices of different kinds do not get in each other's
way and the last of a kind counts, so what a launch says of a port or of a topic is read off the
choices. The fragments of each service have sections of their own, so the launch is refused for its
store only.
-/

import Testbed.Proofs.Naming
import Testbed.Service.Catalogue

namespace Testbed

/-! ### Sequences of choices -/

section Sequences

variable {Service Choice Kind Value : Type} (choose : Service → Choice → Service)

/-- Choices of different kinds can be made in either order, and the last of a kind counts, whatever
is chosen between. -/
structure LastCounts (choose : Service → Choice → Service) (kind : Choice → Kind) : Prop where
  either (service : Service) (first second : Choice) (apart : kind first ≠ kind second) :
    choose (choose service first) second = choose (choose service second) first
  last (service : Service) (first : Choice) (between : List Choice) (last : Choice)
      (same : kind first = kind last) :
    (first :: (between ++ [last])).foldl choose service = (between ++ [last]).foldl choose service

/-- The last choice of a kind counts if it does so right behind another. -/
theorem lastCounts_of_replaced {choose : Service → Choice → Service} {kind : Choice → Kind}
    (either : ∀ service first second, kind first ≠ kind second →
      choose (choose service first) second = choose (choose service second) first)
    (replaced : ∀ service first second, kind first = kind second →
      choose (choose service first) second = choose service second) :
    LastCounts choose kind where
  either := either
  last service first between last same := by
    induction between generalizing service with
    | nil => exact replaced service first last same
    | cons next rest inductionHypothesis =>
      show (rest ++ [last]).foldl choose (choose (choose service first) next) =
        (rest ++ [last]).foldl choose (choose service next)
      by_cases alike : kind first = kind next
      · rw [replaced service first next alike]
      · -- The first choice is made behind the next one, and is replaced there.
        rw [either service first next alike]
        exact inductionHypothesis (choose service next)

/-- What no choice changes is as it was. -/
theorem foldl_kept (read : Service → Value)
    (keeps : ∀ service choice, read (choose service choice) = read service)
    (choices : List Choice) (service : Service) :
    read (choices.foldl choose service) = read service := by
  induction choices generalizing service with
  | nil => rfl
  | cons choice rest inductionHypothesis =>
    rw [List.foldl_cons, inductionHypothesis, keeps]

/-- What the last of some choices sets, or else what there is otherwise. -/
def lastSet (set? : Choice → Option Value) (choices : List Choice) (otherwise : Value) : Value :=
  (choices.filterMap set?).getLast?.getD otherwise

theorem lastSet_cons (set? : Choice → Option Value) (choice : Choice) (rest : List Choice)
    (otherwise : Value) :
    lastSet set? (choice :: rest) otherwise = lastSet set? rest ((set? choice).getD otherwise) := by
  unfold lastSet
  rw [List.filterMap_cons]
  cases set? choice with
  | none => rfl
  | some value =>
    rw [List.getLast?_cons]
    rfl

/-- If each choice replaces the one before it, only the last one counts. -/
theorem foldl_replaced
    (replaced : ∀ service first second,
      choose (choose service first) second = choose service second)
    (choices : List Choice) (service : Service) :
    choices.foldl choose service = (choices.getLast?.map (choose service)).getD service := by
  induction choices generalizing service with
  | nil => rfl
  | cons choice rest inductionHypothesis =>
    rw [List.foldl_cons, inductionHypothesis, List.getLast?_cons]
    cases rest.getLast? with
    | none => rfl
    | some last => exact replaced service choice last

end Sequences

/-! ### The fragments of the catalogue -/

/-- The section for the stores of a kind. -/
def Backend.sectionName : Backend → String
  | relational => "POSTGRES"
  | series => "VICTORIA_METRICS"
  | column => "DRUID"

theorem Backend.sectionName_inj {first second : Backend} :
    first.sectionName = second.sectionName ↔ first = second := by
  cases first <;> cases second <;> decide

theorem Backend.pluginName_inj {first second : Backend} :
    first.pluginName = second.pluginName ↔ first = second := by
  cases first <;> cases second <;> decide

theorem Backend.repositoryKind_inj {first second : Backend} :
    first.repositoryKind = second.repositoryKind ↔ first = second := by
  cases first <;> cases second <;> decide

theorem Storage.sectionName_fragment (storage : Storage) :
    storage.fragment.sectionName = storage.backend.sectionName := by
  cases storage <;> rfl

/-- A fragment without a rendering of its own is known by its section and its keys. -/
theorem Fragment.isProper_of_keys {fragment : Fragment} (sectionName : String) (keys : List String)
    (isPlain : fragment.IsPlain) (hasSection : fragment.sectionName = sectionName)
    (hasKeys : fragment.entries.map (·.1) = keys) (valid : isSectionName sectionName = true)
    (distinct : keys.Nodup) : fragment.IsProper :=
  ⟨isPlain, hasSection ▸ valid, hasKeys ▸ distinct⟩

@[simp] theorem EventInput.isProper_fragment (input : EventInput) : input.fragment.IsProper :=
  Fragment.isProper_of_keys "KAFKA" ["BROKERS", "GROUP_ID", "INGEST_TOPIC"] rfl rfl rfl
    (by decide) (by decide)

@[simp] theorem ReportTarget.isProper_fragment (report : ReportTarget) : report.fragment.IsProper :=
  Fragment.isProper_of_keys "NOTIFICATIONS" ["DESTINATION", "ENABLED"] rfl rfl rfl
    (by decide) (by decide)

@[simp] theorem Monitoring.isProper_fragment (monitoring : Monitoring) :
    monitoring.fragment.IsProper :=
  Fragment.isProper_of_keys "MONITORING" ["OTEL_SERVICE_NAME", "METRICS_PORT", "STATUS_PORT"]
    rfl rfl rfl (by decide) (by decide)

@[simp] theorem Listener.isProper_fragment (listener : Listener) : listener.fragment.IsProper := by
  refine Fragment.isProper_of_keys "LISTENER" ["ORDERED_SOURCES", "UNORDERED_SOURCES"] rfl rfl ?_
    (by decide) (by decide)
  unfold fragment
  dsimp only
  split <;> rfl

@[simp] theorem ObjectBuilder.isProper_services (service : ObjectBuilder) :
    service.services.IsProper :=
  Fragment.isProper_of_keys "SERVICES" ["SCHEMA_REGISTRY_URL"] rfl rfl rfl (by decide) (by decide)

@[simp] theorem Storage.isProper_fragment (storage : Storage) : storage.fragment.IsProper := by
  cases storage with
  | relational access =>
    exact Fragment.isProper_of_keys "POSTGRES"
      ["HOST", "PORT", "USERNAME", "PASSWORD", "DBNAME", "SCHEMA"] rfl rfl rfl
      (by decide) (by decide)
  | series access =>
    exact Fragment.isProper_of_keys "VICTORIA_METRICS" ["URL"] rfl rfl rfl (by decide) (by decide)
  | column access =>
    exact Fragment.isProper_of_keys "DRUID" ["TOPIC"] rfl rfl rfl (by decide) (by decide)

/-- A launch is known by the sections of its fragments and the keys of its settings. -/
theorem Launch.isProper_of_names {launch : Launch} (sections keys : List String)
    (fragments : ∀ fragment ∈ launch.allFragments, fragment.IsProper)
    (hasSections : launch.allFragments.map (·.sectionName) = sections)
    (hasKeys : launch.settings.map (·.1) = keys) (distinctSections : sections.Nodup)
    (distinctKeys : keys.Nodup) (plain : ∀ key ∈ keys, hasSeparator key.toList = false) :
    launch.IsProper :=
  ⟨fragments, hasSections ▸ distinctSections, hasKeys ▸ distinctKeys, hasKeys ▸ plain⟩

/-- A text is the text of one port only. -/
theorem portText_inj {first second : UInt16} :
    portText first = portText second ↔ first = second := by
  constructor
  · intro same
    have digits : Nat.toDigits 10 first.toNat = Nat.toDigits 10 second.toNat := by
      simpa [portText, Nat.toString_eq_repr, Nat.toList_repr] using congrArg String.toList same
    have numbers := congrArg (Nat.ofDigitChars 10 · 0) digits
    simp only [Nat.ofDigitChars_ten_toDigits] at numbers
    exact UInt16.toNat_inj.1 numbers
  · rintro rfl
    rfl

/-! ### Launches of services -/

namespace CommandService

/-- A choice for a command service. -/
inductive Choice where
  | report (report : ReportTarget)
  | monitoring (monitoring : Monitoring)
  | taskLimit (taskLimit : UInt64)
  | unordered

namespace Choice

/-- The target of reports that is chosen. -/
def report? : Choice → Option ReportTarget
  | .report target => some target
  | _ => none

/-- The monitoring that is chosen. -/
def monitoring? : Choice → Option Monitoring
  | .monitoring ports => some ports
  | _ => none

/-- The number of tasks that is chosen. -/
def taskLimit? : Choice → Option UInt64
  | .taskLimit tasks => some tasks
  | _ => none

/-- Whether the input is chosen to be ordered. -/
def isOrdered? : Choice → Option Bool
  | .unordered => some false
  | _ => none

end Choice

def choose (service : CommandService) : Choice → CommandService
  | .report report => service.withReport report
  | .monitoring monitoring => service.withMonitoring monitoring
  | .taskLimit taskLimit => service.withTaskLimit taskLimit
  | .unordered => service.unordered

/-- The service after choices, one after another. -/
def chosen (input : EventInput) (storage : Storage) (choices : List Choice) : CommandService :=
  choices.foldl choose (make input storage)

theorem lastCounts : LastCounts choose Choice.ctorIdx := by
  refine lastCounts_of_replaced (fun service first second apart => ?_)
    fun service first second same => ?_
  · cases first <;> cases second <;> first | rfl | exact absurd rfl apart
  · cases first <;> cases second <;> first | rfl | cases same

theorem isProper_launch (service : CommandService) : service.launch.IsProper := by
  refine Launch.isProper_of_names
    ["KAFKA", "LISTENER", "NOTIFICATIONS", "MONITORING", service.storage.backend.sectionName]
    ["COMMUNICATION_METHOD", "REPOSITORY_KIND", "ASYNC_TASK_LIMIT"] ?_ ?_ rfl ?_
    (by decide) (by decide)
  · show ∀ fragment ∈ [service.input.fragment, service.listener.fragment, service.report.fragment,
      service.monitoring.fragment, service.storage.fragment], fragment.IsProper
    simp
  · rw [← Storage.sectionName_fragment]
    rfl
  · cases service.storage.backend <;> decide

/-- A service after choices has of each kind what the last choice of that kind sets. -/
theorem foldl_choose (choices : List Choice) (service : CommandService) :
    choices.foldl choose service =
      { input := service.input
        storage := service.storage
        listener :=
          { topic := service.listener.topic
            isOrdered := lastSet Choice.isOrdered? choices service.listener.isOrdered }
        report := lastSet Choice.report? choices service.report
        monitoring := lastSet Choice.monitoring? choices service.monitoring
        taskLimit := lastSet Choice.taskLimit? choices service.taskLimit } := by
  induction choices generalizing service with
  | nil => rfl
  | cons choice rest inductionHypothesis =>
    rw [List.foldl_cons, inductionHypothesis]
    simp only [lastSet_cons]
    cases choice <;> rfl

variable (input : EventInput) (storage : Storage) (choices : List Choice)

/-- The listener has the topic of the input. -/
theorem chosen_eq :
    chosen input storage choices =
      { input
        storage
        listener :=
          { topic := input.topic, isOrdered := lastSet Choice.isOrdered? choices true }
        report := lastSet Choice.report? choices .disabled
        monitoring := lastSet Choice.monitoring? choices Role.commandService.monitoring
        taskLimit := lastSet Choice.taskLimit? choices 32 } :=
  foldl_choose choices (make input storage)

theorem input_chosen : (chosen input storage choices).input = input := by
  rw [chosen_eq]

theorem storage_chosen : (chosen input storage choices).storage = storage := by
  rw [chosen_eq]

/-- The input is ordered unless that was chosen otherwise. -/
theorem lastSet_isOrdered? (isOrdered : Bool) :
    lastSet Choice.isOrdered? choices isOrdered = true ↔
      isOrdered = true ∧ .unordered ∉ choices := by
  induction choices generalizing isOrdered with
  | nil => simp [lastSet]
  | cons choice rest inductionHypothesis =>
    rw [lastSet_cons, inductionHypothesis]
    cases choice <;> simp [Choice.isOrdered?]

theorem isOrdered_chosen :
    (chosen input storage choices).listener.isOrdered = true ↔ .unordered ∉ choices := by
  rw [chosen_eq, lastSet_isOrdered?]
  exact and_iff_right rfl

theorem topic_chosen : (chosen input storage choices).listener.topic = input.topic := by
  rw [chosen_eq]

end CommandService

namespace EdgeRegistry

/-- A choice for an edge registry. -/
inductive Choice where
  | input (input : EventInput)
  | report (report : ReportTarget)
  | port (port : UInt16)

def choose (service : EdgeRegistry) : Choice → EdgeRegistry
  | .input input => service.withInput input
  | .report report => service.withReport report
  | .port port => service.withPort port

namespace Choice

/-- The input that is chosen, where there is none otherwise. -/
def input? : Choice → Option (Option EventInput)
  | .input source => some (some source)
  | _ => none

/-- The target of reports that is chosen. -/
def report? : Choice → Option ReportTarget
  | .report target => some target
  | _ => none

/-- The port that is chosen. -/
def port? : Choice → Option UInt16
  | .port number => some number
  | _ => none

end Choice

/-- The service after choices, one after another. -/
def chosen (storage : Storage) (choices : List Choice) : EdgeRegistry :=
  choices.foldl choose { storage }

theorem lastCounts : LastCounts choose Choice.ctorIdx := by
  refine lastCounts_of_replaced (fun service first second apart => ?_)
    fun service first second same => ?_
  · cases first <;> cases second <;> first | rfl | exact absurd rfl apart
  · cases first <;> cases second <;> first | rfl | cases same

theorem isProper_launch (service : EdgeRegistry) : service.launch.IsProper := by
  refine Launch.isProper_of_names
    (["NOTIFICATIONS", "MONITORING"] ++ (if service.input.isSome then ["KAFKA"] else []) ++
      [service.storage.backend.sectionName]) ["COMMUNICATION_METHOD", "INPUT_PORT"] ?_ ?_ rfl ?_
    (by decide) (by decide)
  · show ∀ fragment ∈ [service.report.fragment, Role.edgeRegistry.monitoring.fragment] ++
      (service.input.map EventInput.fragment).toList ++ [service.storage.fragment],
      fragment.IsProper
    cases service.input <;> simp
  · rw [← Storage.sectionName_fragment]
    show ([_, _] ++ (service.input.map EventInput.fragment).toList ++ [_]).map _ = _
    cases service.input <;> rfl
  · cases service.storage.backend <;> cases service.input.isSome <;> decide

/-- A service after choices has of each kind what the last choice of that kind sets. -/
theorem foldl_choose (choices : List Choice) (service : EdgeRegistry) :
    choices.foldl choose service =
      { storage := service.storage
        input := lastSet Choice.input? choices service.input
        report := lastSet Choice.report? choices service.report
        port := lastSet Choice.port? choices service.port } := by
  induction choices generalizing service with
  | nil => rfl
  | cons choice rest inductionHypothesis =>
    rw [List.foldl_cons, inductionHypothesis]
    simp only [lastSet_cons]
    cases choice <;> rfl

theorem chosen_eq (storage : Storage) (choices : List Choice) :
    chosen storage choices =
      { storage
        input := lastSet Choice.input? choices none
        report := lastSet Choice.report? choices .disabled
        port := lastSet Choice.port? choices 50110 } :=
  foldl_choose choices { storage }

end EdgeRegistry

/-- Of the ports that are chosen for a service, the last one counts. -/
theorem lastCounts_port {Service : Type} {withPort : Service → UInt16 → Service}
    (replaced : ∀ service first second,
      withPort (withPort service first) second = withPort service second) :
    LastCounts withPort fun _ => () :=
  lastCounts_of_replaced (fun _ _ _ apart => absurd rfl apart)
    fun service first second _ => replaced service first second

namespace SchemaRegistry

/-- The service after choices of its port, one after another. -/
def chosen (storage : Storage) (replication : EventInput) (ports : List UInt16) : SchemaRegistry :=
  ports.foldl withPort { storage, replication }

theorem isProper_launch (service : SchemaRegistry) : service.launch.IsProper := by
  refine Launch.isProper_of_names ["KAFKA", "MONITORING", service.storage.backend.sectionName]
    ["COMMUNICATION_METHOD", "REPLICATION_ROLE", "INPUT_PORT"] ?_ ?_ rfl ?_
    (by decide) (by decide)
  · show ∀ fragment ∈ [service.replication.fragment, Role.schemaRegistry.monitoring.fragment,
      service.storage.fragment], fragment.IsProper
    simp
  · rw [← Storage.sectionName_fragment]
    rfl
  · cases service.storage.backend <;> decide

theorem chosen_eq (storage : Storage) (replication : EventInput) (ports : List UInt16) :
    chosen storage replication ports =
      { storage, replication, port := ports.getLast?.getD 50101 } := by
  rw [chosen, foldl_replaced withPort fun _ _ _ => rfl]
  cases ports.getLast? <;> rfl

end SchemaRegistry

namespace QueryRouter

/-- The service after choices of its port, one after another. -/
def chosen (registryAddress : String) (ports : List UInt16) : QueryRouter :=
  ports.foldl withPort { registryAddress }

theorem isProper_launch (service : QueryRouter) : service.launch.IsProper := by
  refine Launch.isProper_of_names ["MONITORING"] ["SCHEMA_REGISTRY_ADDR", "INPUT_PORT"] ?_ rfl rfl
    (by decide) (by decide) (by decide)
  show ∀ fragment ∈ [Role.queryRouter.monitoring.fragment], fragment.IsProper
  simp

theorem chosen_eq (registryAddress : String) (ports : List UInt16) :
    chosen registryAddress ports = { registryAddress, port := ports.getLast?.getD 50103 } := by
  rw [chosen, foldl_replaced withPort fun _ _ _ => rfl]
  cases ports.getLast? <;> rfl

end QueryRouter

namespace ObjectBuilder

/-- The service after choices of its port, one after another. -/
def chosen (input : EventInput) (registryUrl : String) (ports : List UInt16) : ObjectBuilder :=
  ports.foldl withPort { input, registryUrl }

theorem isProper_launch (service : ObjectBuilder) : service.launch.IsProper := by
  refine Launch.isProper_of_names ["KAFKA", "SERVICES", "MONITORING"]
    ["COMMUNICATION_METHOD", "INPUT_PORT"] ?_ rfl rfl (by decide) (by decide) (by decide)
  show ∀ fragment ∈ [service.input.fragment, service.services,
    Role.objectBuilder.monitoring.fragment], fragment.IsProper
  simp

theorem chosen_eq (input : EventInput) (registryUrl : String) (ports : List UInt16) :
    chosen input registryUrl ports =
      { input, registryUrl, port := ports.getLast?.getD 50107 } := by
  rw [chosen, foldl_replaced withPort fun _ _ _ => rfl]
  cases ports.getLast? <;> rfl

end ObjectBuilder

/-! ### Descriptions of services -/

/-- A service as a test describes it: what it is made of, and what was chosen for it, in order. -/
inductive Description where
  | commandService (input : EventInput) (storage : Storage) (choices : List CommandService.Choice)
  | edgeRegistry (storage : Storage) (choices : List EdgeRegistry.Choice)
  | schemaRegistry (storage : Storage) (replication : EventInput) (ports : List UInt16)
  | queryRouter (registryAddress : String) (ports : List UInt16)
  | objectBuilder (input : EventInput) (registryUrl : String) (ports : List UInt16)

namespace Description

def launch : Description → Launch
  | commandService input storage choices => (CommandService.chosen input storage choices).launch
  | edgeRegistry storage choices => (EdgeRegistry.chosen storage choices).launch
  | schemaRegistry storage replication ports =>
    (SchemaRegistry.chosen storage replication ports).launch
  | queryRouter registryAddress ports => (QueryRouter.chosen registryAddress ports).launch
  | objectBuilder input registryUrl ports => (ObjectBuilder.chosen input registryUrl ports).launch

/-- The port of a service that has one: the last that was chosen, or else its own. -/
def port : Description → Option UInt16
  | commandService _ _ _ => none
  | edgeRegistry _ choices => some (lastSet EdgeRegistry.Choice.port? choices 50110)
  | schemaRegistry _ _ ports => some (ports.getLast?.getD 50101)
  | queryRouter _ ports => some (ports.getLast?.getD 50103)
  | objectBuilder _ _ ports => some (ports.getLast?.getD 50107)

theorem isProper_launch (description : Description) : description.launch.IsProper := by
  cases description with
  | commandService input storage choices => exact CommandService.isProper_launch _
  | edgeRegistry storage choices => exact EdgeRegistry.isProper_launch _
  | schemaRegistry storage replication ports => exact SchemaRegistry.isProper_launch _
  | queryRouter registryAddress ports => exact QueryRouter.isProper_launch _
  | objectBuilder input registryUrl ports => exact ObjectBuilder.isProper_launch _

theorem port_launch (description : Description) : description.launch.port = description.port := by
  cases description with
  | commandService input storage choices => rfl
  | edgeRegistry storage choices =>
    exact congrArg (fun service => some service.port) (EdgeRegistry.chosen_eq storage choices)
  | schemaRegistry storage replication ports =>
    exact congrArg (fun service => some service.port)
      (SchemaRegistry.chosen_eq storage replication ports)
  | queryRouter registryAddress ports =>
    exact congrArg (fun service => some service.port) (QueryRouter.chosen_eq registryAddress ports)
  | objectBuilder input registryUrl ports =>
    exact congrArg (fun service => some service.port)
      (ObjectBuilder.chosen_eq input registryUrl ports)

/-- The setting for the port is the port of the launch. -/
theorem mem_settings_iff (description : Description) (value : String) :
    ("INPUT_PORT", value) ∈ description.launch.settings ↔
      description.launch.port.map portText = some value := by
  cases description <;>
    simp [launch, CommandService.launch, EdgeRegistry.launch, SchemaRegistry.launch,
      QueryRouter.launch, ObjectBuilder.launch, overEventLog, portSetting, eq_comm]

variable {description : Description} {plan : Plan}

theorem exists_plan_iff (description : Description) :
    (∃ plan, description.launch.render = .ok plan) ↔ description.launch.IsSupported := by
  have isProper := description.isProper_launch
  constructor
  · rintro ⟨plan, isPlan⟩
    exact (Launch.planned_of_render isProper.arePlain isPlan).supported
  · intro supported
    exact (Launch.rendered_render isProper.arePlain supported).exists_plan_iff.2
      isProper.nodup_given

/-- The launch of a service is refused for its store only. -/
theorem error_eq {error : LaunchError} (isError : description.launch.render = .error error) :
    ∃ storage, description.launch.storage = some storage ∧
      error = .unsupportedBackend description.launch.role storage.backend := by
  by_cases supported : description.launch.IsSupported
  · obtain ⟨plan, isPlan⟩ := description.exists_plan_iff.2 supported
    rw [isError] at isPlan
    cases isPlan
  · obtain ⟨storage, isGiven, notThere⟩ := Launch.exists_not_mem supported
    rw [Launch.render_of_not_mem isGiven notThere] at isError
    cases isError
    exact ⟨storage, isGiven, rfl⟩

theorem planned (isPlan : description.launch.render = .ok plan) :
    Launch.Planned description.launch plan :=
  Launch.planned_of_render description.isProper_launch.arePlain isPlan

/-- The variable for the port has the text of the port of the plan. -/
theorem get?_port (isPlan : description.launch.render = .ok plan) (value : String) :
    plan.bindings.get? (settingName description.launch.role.stem "INPUT_PORT") = some value ↔
      plan.port.map portText = some value := by
  rw [(planned isPlan).get?_eq_some_iff, Launch.mem_given_settingName_iff (by decide),
    mem_settings_iff, (planned isPlan).port]

/-- The variable for an entry is that of the fragment with its section. -/
theorem get?_entry (isPlan : description.launch.render = .ok plan) {sectionName : String}
    (valid : isSectionName sectionName = true) (key value : String) :
    plan.bindings.get? (entryName description.launch.role.stem sectionName key) = some value ↔
      ∃ fragment ∈ description.launch.allFragments, fragment.sectionName = sectionName ∧
        (key, value) ∈ fragment.entries := by
  rw [(planned isPlan).get?_eq_some_iff, description.isProper_launch.mem_given_iff valid]

end Description

theorem Backend.isSectionName_sectionName (backend : Backend) :
    isSectionName backend.sectionName = true := by
  cases backend <;> decide

namespace CommandService

variable {input : EventInput} {storage : Storage} {choices : List Choice} {plan : Plan}

/-- The name of the variable for an entry. -/
def variableName (sectionName key : String) : String :=
  entryName Role.commandService.stem sectionName key

/-- The only store with a section of its own is that of the service. -/
theorem get?_store (isPlan : (Description.commandService input storage choices).launch.render =
    .ok plan) (backend : Backend) (key value : String) :
    plan.bindings.get? (variableName backend.sectionName key) = some value ↔
      backend = storage.backend ∧ (key, value) ∈ storage.fragment.entries := by
  refine (Description.get?_entry isPlan backend.isSectionName_sectionName key value).trans ?_
  have fragments : (Description.commandService input storage choices).launch.allFragments =
      (chosen input storage choices).launch.fragments ++ [storage.fragment] := by
    show (chosen input storage choices).launch.fragments ++
      [(chosen input storage choices).storage.fragment] = _
    rw [storage_chosen]
  rw [fragments]
  constructor
  · rintro ⟨fragment, member, hasSection, isEntry⟩
    rcases List.mem_append.1 member with own | ofStore
    · have others : fragment.sectionName ∈ ["KAFKA", "LISTENER", "NOTIFICATIONS", "MONITORING"] :=
        List.mem_map_of_mem own
      rw [hasSection] at others
      cases backend <;> exact absurd others (by decide)
    · obtain rfl := List.mem_singleton.1 ofStore
      rw [Storage.sectionName_fragment] at hasSection
      exact ⟨(Backend.sectionName_inj.1 hasSection).symm, isEntry⟩
  · rintro ⟨rfl, isEntry⟩
    exact ⟨storage.fragment, List.mem_append_right _ List.mem_cons_self,
      storage.sectionName_fragment, isEntry⟩

/-- The section of the store is there for the kind of store that the service has. -/
theorem exists_get?_store_iff (isPlan :
    (Description.commandService input storage choices).launch.render = .ok plan)
    (backend : Backend) :
    (∃ key value, plan.bindings.get? (variableName backend.sectionName key) = some value) ↔
      backend = storage.backend := by
  simp only [get?_store isPlan]
  constructor
  · rintro ⟨key, value, rfl, -⟩
    rfl
  · rintro rfl
    obtain ⟨entry, rest, isEntry⟩ : ∃ entry rest, storage.fragment.entries = entry :: rest := by
      cases storage <;> exact ⟨_, _, rfl⟩
    exact ⟨entry.1, entry.2, rfl, isEntry ▸ List.mem_cons_self⟩

theorem arguments_eq_iff (isPlan :
    (Description.commandService input storage choices).launch.render = .ok plan)
    (backend : Backend) : plan.arguments = [backend.pluginName] ↔ backend = storage.backend := by
  rw [(Description.planned isPlan).arguments]
  show [(chosen input storage choices).storage.backend.pluginName] = _ ↔ _
  rw [storage_chosen, List.singleton_inj, Backend.pluginName_inj, eq_comm]

theorem get?_repositoryKind_eq_iff (isPlan :
    (Description.commandService input storage choices).launch.render = .ok plan)
    (backend : Backend) :
    plan.bindings.get? (settingName Role.commandService.stem "REPOSITORY_KIND") =
      some backend.repositoryKind ↔ backend = storage.backend := by
  have isKind : plan.bindings.get? (settingName Role.commandService.stem "REPOSITORY_KIND") =
      some storage.backend.repositoryKind := by
    refine ((Description.planned isPlan).get?_eq_some_iff _ _).2
      ((Launch.mem_given_settingName_iff (by decide) _).2 ?_)
    show ("REPOSITORY_KIND", _) ∈ [overEventLog,
      ("REPOSITORY_KIND", (chosen input storage choices).storage.backend.repositoryKind), _]
    rw [storage_chosen]
    exact List.mem_cons_of_mem _ List.mem_cons_self
  rw [isKind, Option.some_inj, Backend.repositoryKind_inj, eq_comm]

theorem get?_topic (isPlan :
    (Description.commandService input storage choices).launch.render = .ok plan) :
    plan.bindings.get? (variableName "KAFKA" "INGEST_TOPIC") = some input.topic := by
  refine (Description.get?_entry isPlan (by decide) _ _).2 ⟨input.fragment, ?_, rfl, ?_⟩
  · show _ ∈ (chosen input storage choices).input.fragment :: _
    rw [input_chosen]
    exact List.mem_cons_self
  · exact List.mem_cons_of_mem _ (List.mem_cons_of_mem _ List.mem_cons_self)

/-- The variables for the two lists of the listener. -/
theorem get?_listener (isPlan :
    (Description.commandService input storage choices).launch.render = .ok plan)
    {key value : String}
    (isEntry : (key, value) ∈ (chosen input storage choices).listener.fragment.entries) :
    plan.bindings.get? (variableName "LISTENER" key) = some value :=
  (Description.get?_entry isPlan (by decide) _ _).2
    ⟨_, List.mem_cons_of_mem _ List.mem_cons_self, rfl, isEntry⟩

theorem get?_listener_ordered (isPlan :
    (Description.commandService input storage choices).launch.render = .ok plan)
    (never : .unordered ∉ choices) :
    plan.bindings.get? (variableName "LISTENER" "ORDERED_SOURCES") = some input.topic ∧
      plan.bindings.get? (variableName "LISTENER" "UNORDERED_SOURCES") = some "" := by
  have entries : (chosen input storage choices).listener.fragment.entries =
      [("ORDERED_SOURCES", input.topic), ("UNORDERED_SOURCES", "")] := by
    unfold Listener.fragment
    rw [if_pos ((isOrdered_chosen _ _ _).2 never), topic_chosen]
  constructor <;> exact get?_listener isPlan (by simp [entries])

theorem get?_listener_unordered (isPlan :
    (Description.commandService input storage choices).launch.render = .ok plan)
    (once : .unordered ∈ choices) :
    plan.bindings.get? (variableName "LISTENER" "ORDERED_SOURCES") = some "" ∧
      plan.bindings.get? (variableName "LISTENER" "UNORDERED_SOURCES") = some input.topic := by
  have entries : (chosen input storage choices).listener.fragment.entries =
      [("ORDERED_SOURCES", ""), ("UNORDERED_SOURCES", input.topic)] := by
    unfold Listener.fragment
    rw [if_neg fun isOrdered => (isOrdered_chosen _ _ _).1 isOrdered once, topic_chosen]
  constructor <;> exact get?_listener isPlan (by simp [entries])

end CommandService

/-! ### The outputs of the catalogue -/

theorem QueryRouter.baseUrl_chosen_iff (registryAddress : String) (ports : List UInt16)
    (port : UInt16) :
    (chosen registryAddress ports).baseUrl = "http://127.0.0.1:" ++ portText port ↔
      (Description.queryRouter registryAddress ports).port = some port := by
  rw [← Description.port_launch]
  show "http://127.0.0.1:" ++ portText (chosen registryAddress ports).port = _ ↔
    some (chosen registryAddress ports).port = some port
  rw [String.append_right_inj, portText_inj, Option.some_inj]

/-- However a service is described, it is launched if and only if its role can persist into its
store, and is refused for nothing else. Its plan has the port that was chosen last, or else its own,
and so has the variable for the port, which is missing if there is none. The URL of a query router
is on the same port. The argument of a command service, its kind of repository and its only section
for a store tell the store that it persists into. Its input topic is on the list of ordered sources
and the other list is empty, unless it was chosen to be unordered, and then the other way round.
Choices of different kinds can be made in either order, and of each kind the last counts: the
service has what it sets. -/
theorem Description.plan_account :
    (∀ description : Description,
      ((∃ plan, description.launch.render = .ok plan) ↔ description.launch.IsSupported) ∧
      (∀ error, description.launch.render = .error error →
        ∃ storage, description.launch.storage = some storage ∧
          error = .unsupportedBackend description.launch.role storage.backend) ∧
      ∀ plan, description.launch.render = .ok plan →
        plan.port = description.port ∧
        plan.bindings.get? (settingName description.launch.role.stem "INPUT_PORT") =
          plan.port.map portText ∧
        ∀ port, plan.port = some port ↔
          plan.bindings.get? (settingName description.launch.role.stem "INPUT_PORT") =
            some (portText port)) ∧
    (∀ registryAddress ports plan,
      (queryRouter registryAddress ports).launch.render = .ok plan →
      ∀ port, (QueryRouter.chosen registryAddress ports).baseUrl =
        "http://127.0.0.1:" ++ portText port ↔ plan.port = some port) ∧
    (∀ input storage choices plan,
      (commandService input storage choices).launch.render = .ok plan →
      (∀ backend : Backend,
        (plan.arguments = [backend.pluginName] ↔ backend = storage.backend) ∧
        (plan.bindings.get? (settingName Role.commandService.stem "REPOSITORY_KIND") =
          some backend.repositoryKind ↔ backend = storage.backend) ∧
        ((∃ key value, plan.bindings.get? (CommandService.variableName backend.sectionName key) =
          some value) ↔ backend = storage.backend)) ∧
      (∀ key value, plan.bindings.get?
          (CommandService.variableName storage.backend.sectionName key) = some value ↔
        (key, value) ∈ storage.fragment.entries) ∧
      plan.bindings.get? (CommandService.variableName "KAFKA" "INGEST_TOPIC") =
        some input.topic ∧
      (.unordered ∉ choices →
        plan.bindings.get? (CommandService.variableName "LISTENER" "ORDERED_SOURCES") =
          some input.topic ∧
        plan.bindings.get? (CommandService.variableName "LISTENER" "UNORDERED_SOURCES") =
          some "") ∧
      (.unordered ∈ choices →
        plan.bindings.get? (CommandService.variableName "LISTENER" "ORDERED_SOURCES") = some "" ∧
        plan.bindings.get? (CommandService.variableName "LISTENER" "UNORDERED_SOURCES") =
          some input.topic)) ∧
    (LastCounts CommandService.choose CommandService.Choice.ctorIdx ∧
      ∀ input storage choices, CommandService.chosen input storage choices =
        { input
          storage
          listener :=
            { topic := input.topic
              isOrdered := lastSet CommandService.Choice.isOrdered? choices true }
          report := lastSet CommandService.Choice.report? choices .disabled
          monitoring :=
            lastSet CommandService.Choice.monitoring? choices Role.commandService.monitoring
          taskLimit := lastSet CommandService.Choice.taskLimit? choices 32 }) ∧
    (LastCounts EdgeRegistry.choose EdgeRegistry.Choice.ctorIdx ∧
      ∀ storage choices, EdgeRegistry.chosen storage choices =
        { storage
          input := lastSet EdgeRegistry.Choice.input? choices none
          report := lastSet EdgeRegistry.Choice.report? choices .disabled
          port := lastSet EdgeRegistry.Choice.port? choices 50110 }) ∧
    (LastCounts SchemaRegistry.withPort (fun _ => ()) ∧
      ∀ storage replication ports, SchemaRegistry.chosen storage replication ports =
        { storage, replication, port := ports.getLast?.getD 50101 }) ∧
    (LastCounts QueryRouter.withPort (fun _ => ()) ∧
      ∀ registryAddress ports, QueryRouter.chosen registryAddress ports =
        { registryAddress, port := ports.getLast?.getD 50103 }) ∧
    LastCounts ObjectBuilder.withPort (fun _ => ()) ∧
      ∀ input registryUrl ports, ObjectBuilder.chosen input registryUrl ports =
        { input, registryUrl, port := ports.getLast?.getD 50107 } := by
  refine ⟨fun description => ⟨description.exists_plan_iff, fun error => error_eq,
      fun plan isPlan => ?_⟩, fun registryAddress ports plan isPlan port => ?_,
    fun input storage choices plan isPlan => ?_,
    ⟨CommandService.lastCounts, CommandService.chosen_eq⟩,
    ⟨EdgeRegistry.lastCounts, EdgeRegistry.chosen_eq⟩,
    ⟨lastCounts_port fun _ _ _ => rfl, SchemaRegistry.chosen_eq⟩,
    ⟨lastCounts_port fun _ _ _ => rfl, QueryRouter.chosen_eq⟩,
    lastCounts_port fun _ _ _ => rfl, ObjectBuilder.chosen_eq⟩
  · have samePort := (planned isPlan).port.trans description.port_launch
    refine ⟨samePort, Option.ext (get?_port isPlan), fun port => ?_⟩
    rw [get?_port isPlan]
    cases plan.port with
    | none => simp
    | some own => simp [portText_inj]
  · rw [QueryRouter.baseUrl_chosen_iff, (planned isPlan).port, port_launch]
  · refine ⟨fun backend => ⟨CommandService.arguments_eq_iff isPlan backend,
        CommandService.get?_repositoryKind_eq_iff isPlan backend,
        CommandService.exists_get?_store_iff isPlan backend⟩, fun key value => ?_,
      CommandService.get?_topic isPlan, CommandService.get?_listener_ordered isPlan,
      CommandService.get?_listener_unordered isPlan⟩
    exact (CommandService.get?_store isPlan storage.backend key value).trans (and_iff_right rfl)

/-- An edge registry has the port that was chosen last, and can not persist into the series store. A
command service that can has its input topic among the unordered sources. -/
theorem Description.plan_account_chosenTwice :
    (∃ plan, (edgeRegistry (.relational {}) [.port 1, .report .disabled, .port 2]).launch.render =
      .ok plan ∧ plan.port = some 2 ∧
      plan.bindings.get? "EDGE_REGISTRY_INPUT_PORT" = some "2") ∧
    (¬ ∃ plan, (edgeRegistry (.series { url := "http://lake" }) []).launch.render = .ok plan) ∧
    ∃ plan, (commandService { brokers := "lake:9092", topic := "cdl.input" }
        (.series { url := "http://lake" }) [.unordered, .taskLimit 1]).launch.render = .ok plan ∧
      plan.arguments = ["victoria-metrics"] ∧
      plan.bindings.get? "COMMAND_SERVICE_LISTENER__UNORDERED_SOURCES" = some "cdl.input" := by
  obtain ⟨services, -, commandServices, -⟩ := plan_account
  refine ⟨?_, fun launched => ?_, ?_⟩
  · obtain ⟨launched, -, plans⟩ :=
      services (edgeRegistry (.relational {}) [.port 1, .report .disabled, .port 2])
    obtain ⟨plan, isPlan⟩ := launched.2 (by rintro _ ⟨⟩; decide)
    obtain ⟨port, value, -⟩ := plans plan isPlan
    exact ⟨plan, isPlan, port, by rw [port] at value; exact value⟩
  · have supported := (services (edgeRegistry (.series { url := "http://lake" }) [])).1.1 launched
    exact absurd (supported _ rfl) (by decide)
  · obtain ⟨launched, -, -⟩ := services (commandService
      { brokers := "lake:9092", topic := "cdl.input" } (.series { url := "http://lake" })
      [.unordered, .taskLimit 1])
    obtain ⟨plan, isPlan⟩ := launched.2 (by rintro _ ⟨⟩; decide)
    obtain ⟨stores, -, -, -, unordered⟩ := commandServices _ _ _ plan isPlan
    exact ⟨plan, isPlan, (stores .series).1.2 rfl, (unordered List.mem_cons_self).2⟩

end Testbed
