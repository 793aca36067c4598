/-
This file proves which variables a child gets: those that are passed through, as they stand in the
variables of the run, and those of its plan, and no others. The names of a plan begin with the stem
of its role, so none of them is passed through, and two roles have no name in common.
-/

import Testbed.Proofs.Choices
import Testbed.Proofs.Commands

namespace Testbed

open Session Outside

/-! ### Variables that are passed through -/

namespace Settings

variable {bindings : Variables} {settings : Settings}

/-- The settings pass on what the variables of the run hold under the names for it. -/
theorem passedThrough_of_ofVariables (accepted : ofVariables bindings = .ok settings) :
    settings.passedThrough = passedThroughNames.filterMap fun name =>
      (bindings.get? name).map fun value => (name, value) := by
  unfold ofVariables at accepted
  split at accepted
  · cases accepted
  · cases accepted
    rfl

theorem mem_passedThrough_iff (accepted : ofVariables bindings = .ok settings)
    (name value : String) :
    (name, value) ∈ settings.passedThrough ↔
      name ∈ passedThroughNames ∧ bindings.get? name = some value := by
  rw [passedThrough_of_ofVariables accepted, List.mem_filterMap]
  constructor
  · rintro ⟨other, isName, found⟩
    obtain ⟨held, isHeld, same⟩ := Option.map_eq_some_iff.1 found
    obtain ⟨rfl, rfl⟩ := Prod.mk.inj same
    exact ⟨isName, isHeld⟩
  · rintro ⟨isName, isHeld⟩
    exact ⟨name, isName, Option.map_eq_some_iff.2 ⟨value, isHeld, rfl⟩⟩

theorem nodup_passedThrough (accepted : ofVariables bindings = .ok settings) :
    (settings.passedThrough.map (·.1)).Nodup := by
  rw [passedThrough_of_ofVariables accepted, List.map_filterMap]
  have nameOf {name other : String}
      (named : other ∈ ((bindings.get? name).map fun value => (name, value)).map (·.1)) :
      other = name := by
    rw [Option.map_map] at named
    obtain ⟨value, -, rfl⟩ := Option.map_eq_some_iff.1 named
    rfl
  refine List.Nodup.filterMap (fun first second name named namedToo => ?_) (by decide)
  exact (nameOf named).symm.trans (nameOf namedToo)

/-- No name of a role is passed through. -/
theorem not_mem_passedThroughNames {role : Role} {name : String}
    (begins : (role.stem ++ "_").toList <+: name.toList) : name ∉ passedThroughNames := by
  intro isPassed
  have apart : ∀ name ∈ passedThroughNames, ¬ (role.stem ++ "_").toList <+: name.toList := by
    cases role <;> decide
  exact apart name isPassed begins

end Settings

/-! ### The variables of a child -/

/-- The variables are those that are passed through and those of the plan, each once. -/
structure AreOfChild (bindings : Variables) (plan : Plan) (given : List (String × String)) :
    Prop where
  nodup : (given.map (·.1)).Nodup
  mem_iff (name value : String) : (name, value) ∈ given ↔
    (name ∈ Settings.passedThroughNames ∧ bindings.get? name = some value) ∨
      plan.bindings.get? name = some value

/-- The names of a plan begin with the stem of the role, and none of them is passed through. -/
theorem Launch.Planned.isPrefix_of_mem_keys {launch : Launch} {plan : Plan}
    (planned : Launch.Planned launch plan) {name : String} (member : name ∈ plan.bindings.keys) :
    (launch.role.stem ++ "_").toList <+: name.toList :=
  Launch.isPrefix_of_mem_given (planned.keys_perm.mem_iff.1 member)

namespace Manager

variable {bindings : Variables} {settings : Settings} {executables : List (Role × String)}
  {launch : Launch} {plan : Plan} {exchanges : List (Exchange Action Reply)}

/-- The manager for settings, with executables chosen for roles, one after another. -/
def choosing (settings : Settings) (executables : List (Role × String)) : Manager :=
  executables.foldl (fun manager chosen => manager.withExecutable chosen.1 chosen.2) { settings }

theorem passedThrough_choosing :
    (choosing settings executables).settings.passedThrough = settings.passedThrough :=
  foldl_kept
    (fun (manager : Manager) (chosen : Role × String) => manager.withExecutable chosen.1 chosen.2)
    (fun manager => manager.settings.passedThrough) (fun _ _ => rfl) executables { settings }

theorem areOfChild_childVariables {manager : Manager}
    (accepted : Settings.ofVariables bindings = .ok settings)
    (passesOn : manager.settings.passedThrough = settings.passedThrough)
    (planned : Launch.Planned launch plan) :
    AreOfChild bindings plan (manager.childVariables plan) := by
  have passed := Settings.nodup_passedThrough accepted
  rw [← passesOn] at passed
  -- The variables that are passed through are put into an empty environment first.
  have ofPassed : (Sorted.putAll manager.settings.passedThrough []).Perm
      manager.settings.passedThrough := Sorted.perm_putAll passed
  have apart : ((Sorted.putAll manager.settings.passedThrough []).map (·.1) ++
      plan.bindings.keys).Nodup := by
    refine List.nodup_append.2 ⟨((ofPassed.map _).nodup_iff).2 passed,
      plan.bindings.ascending.nodup_keys, ?_⟩
    rintro name isPassed _ isPlanned rfl
    obtain ⟨⟨_, value⟩, isEntry, rfl⟩ := List.mem_map.1 ((ofPassed.map _).mem_iff.1 isPassed)
    exact Settings.not_mem_passedThroughNames (planned.isPrefix_of_mem_keys isPlanned)
      ((Settings.mem_passedThrough_iff accepted _ _).1 (passesOn ▸ isEntry)).1
  have together : (manager.childVariables plan).Perm
      (Sorted.putAll manager.settings.passedThrough [] ++ plan.bindings.entries) :=
    Sorted.perm_putAll apart
  constructor
  · rw [(together.map _).nodup_iff, List.map_append]
    exact apart
  · intro name value
    rw [together.mem_iff, List.mem_append, ofPassed.mem_iff, passesOn,
      Settings.mem_passedThrough_iff accepted, ← plan.bindings.ascending.lookup_eq_some_iff]
    rfl

/-- A child that is spawned by the command of a plan gets the variables of the plan. -/
theorem areOfChild_of_spawnsOnly (accepted : Settings.ofVariables bindings = .ok settings)
    (planned : Launch.Planned launch plan)
    (spawns : SpawnsOnly ((choosing settings executables).process plan).stage.command exchanges)
    {command : Command} {reply : Except String Nat}
    (spawned : (⟨.spawn command, reply⟩ : Exchange Action Reply) ∈ exchanges) :
    AreOfChild bindings plan command.bindings := by
  cases spawns _ spawned command rfl
  exact areOfChild_childVariables accepted passedThrough_choosing planned

/-- Whatever is done with a process that was prepared, with whatever executables, its child gets the
variables that are passed through, as they stand in the variables of the run, and those of its plan,
each once, and no others. So does the child of a launch that is started. The names of a plan begin
with the stem of the role and none of them is passed through, and launches of two roles have no name
in common. -/
theorem childVariables_account (accepted : Settings.ofVariables bindings = .ok settings)
    (executables : List (Role × String))
    (arePlain : ∀ fragment ∈ launch.fragments, fragment.IsPlain) :
    (∀ preparing process,
      Runs ((choosing settings executables).prepare launch) preparing (.ok process) →
      ∃ plan, launch.render = .ok plan ∧ process.bindings = plan.bindings ∧
        ∀ own during after, Process.Lived process own during after →
          ∀ command reply, (⟨.spawn command, reply⟩ : Exchange Action Reply) ∈ during →
            AreOfChild bindings plan command.bindings) ∧
    (∀ starting result, Runs ((choosing settings executables).start launch) starting result →
      ∀ command reply, (⟨.spawn command, reply⟩ : Exchange Action Reply) ∈ starting →
        ∃ plan, launch.render = .ok plan ∧ AreOfChild bindings plan command.bindings) ∧
    ∀ plan, launch.render = .ok plan →
      (∀ name ∈ plan.bindings.keys, (launch.role.stem ++ "_").toList <+: name.toList ∧
        name ∉ Settings.passedThroughNames) ∧
      ∀ (other : Launch) (otherPlan : Plan), (∀ fragment ∈ other.fragments, fragment.IsPlain) →
        other.render = .ok otherPlan → other.role ≠ launch.role →
        plan.bindings.keys.Disjoint otherPlan.bindings.keys := by
  refine ⟨fun preparing process prepared => ?_, fun starting result started command reply spawned =>
    ?_, fun plan isPlan => ⟨fun name isName => ?_, fun other otherPlan otherPlain isOtherPlan
      apart name isName isNameToo => ?_⟩⟩
  · rcases runs_prepare_cases prepared with ⟨_, isError, -⟩ | ⟨plan, isPlan, isProcess, -⟩
    · cases isError
    · cases isProcess
      refine ⟨plan, isPlan, rfl, fun own during after lived command reply spawned => ?_⟩
      exact areOfChild_of_spawnsOnly accepted (Launch.planned_of_render arePlain isPlan)
        (Process.keeps_of_lived lived).spawns spawned
  · rcases spawnsOnly_of_runs_start started with nothing | ⟨plan, isPlan, spawns⟩
    · cases nothing _ spawned command rfl
    · exact ⟨plan, isPlan, areOfChild_of_spawnsOnly accepted
        (Launch.planned_of_render arePlain isPlan) spawns spawned⟩
  · have begins := (Launch.planned_of_render arePlain isPlan).isPrefix_of_mem_keys isName
    exact ⟨begins, Settings.not_mem_passedThroughNames begins⟩
  · have begins := (Launch.planned_of_render arePlain isPlan).isPrefix_of_mem_keys isName
    have beginsToo :=
      (Launch.planned_of_render otherPlain isOtherPlan).isPrefix_of_mem_keys isNameToo
    exact apart (Role.eq_of_isPrefix beginsToo begins)

/-- The variables of a run with a path and a password. -/
def ofRun : Variables where
  entries := [("PATH", "/bin"), ("POSTGRES_PASSWORD", "secret")]
  ascending := List.pairwise_pair.2 (show "PATH" < "POSTGRES_PASSWORD" by decide)

/-- A launch with a setting. -/
def logging : Launch where
  role := .edgeRegistry
  fragments := []
  settings := [("LOG", "debug")]

/-- The child of a service with a setting gets the setting and the path of the run, but not the
password. -/
theorem childVariables_account_spawned :
    ∃ settings starting process command, Settings.ofVariables ofRun = .ok settings ∧
      Runs ((choosing settings [(.edgeRegistry, "/lake/registry")]).start logging) starting
        (.ok process) ∧
      (⟨.spawn command, .ok 7⟩ : Exchange Action Reply) ∈ starting ∧
      ("PATH", "/bin") ∈ command.bindings ∧ ("EDGE_REGISTRY_LOG", "debug") ∈ command.bindings ∧
      ∀ value, ("POSTGRES_PASSWORD", value) ∉ command.bindings := by
  obtain ⟨settings, accepted⟩ : ∃ settings, Settings.ofVariables ofRun = .ok settings := ⟨_, rfl⟩
  have noFragments : ∀ fragment ∈ logging.fragments, fragment.IsPlain := nofun
  have logs : logging.render.toOption.bind (·.bindings.get? "EDGE_REGISTRY_LOG") =
      some "debug" := by decide +kernel
  obtain ⟨plan, isPlan⟩ : ∃ plan, logging.render = .ok plan := by
    cases isRendered : logging.render with
    | ok plan => exact ⟨plan, rfl⟩
    | error error =>
      rw [isRendered] at logs
      cases logs
  rw [isPlan] at logs
  let manager := choosing settings [(.edgeRegistry, "/lake/registry")]
  obtain ⟨preparing, prepared⟩ : ∃ preparing,
      Runs (manager.prepare logging) preparing (.ok (manager.process plan)) := by
    unfold prepare
    rw [isPlan]
    exact exists_runs_act () ⟨[], .done _⟩
  have spawned : Runs (manager.process plan).spawnCreated _ (.ok (), _) :=
    (runs_act_bind_iff _ _ _ _).2 ⟨.ok 7, _, rfl, (runs_act_bind_iff _ _ _ _).2
      ⟨(), _, rfl, .done _⟩⟩
  obtain ⟨starting, process, command, started, isSpawned⟩ : ∃ starting process command,
      Runs (manager.start logging) starting (.ok process) ∧
        (⟨.spawn command, .ok 7⟩ : Exchange Action Reply) ∈ starting :=
    ⟨_, _, _, prepared.bind (spawned.bind (.done _)),
      List.mem_append_right _ (List.mem_append_left _ List.mem_cons_self)⟩
  obtain ⟨-, starts, names⟩ := childVariables_account accepted _ noFragments
  obtain ⟨other, isOther, given⟩ := starts _ _ started _ _ isSpawned
  cases isPlan.symm.trans isOther
  refine ⟨settings, _, _, _, accepted, started, isSpawned, (given.mem_iff _ _).2 ?_,
    (given.mem_iff _ _).2 (.inr logs), fun value member => ?_⟩
  · exact .inl ⟨by decide, rfl⟩
  · rcases (given.mem_iff _ _).1 member with ⟨isPassed, -⟩ | isPlanned
    · exact absurd isPassed (by decide)
    · have isName : "POSTGRES_PASSWORD" ∈ plan.bindings.keys :=
        List.mem_map_of_mem ((plan.bindings.ascending.lookup_eq_some_iff _ _).1 isPlanned)
      exact absurd ((names plan isPlan).1 _ isName).1 (by decide)

end Manager

end Testbed
