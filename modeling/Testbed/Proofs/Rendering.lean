/-
This file proves when a launch can be rendered, and what comes of it. The names of all variables
that its fragments, its store and its settings give decide: if no name comes twice, each variable
has the value that was given for it and there are no others; if one does, some such name is
reported. A repeated name shows in three ways, within a fragment, between fragments and with a
setting, so the steps that gather variables are each shown to gather what was given so far, and the
induction is on the fragments.
-/

import Mathlib.Data.List.Nodup
import Testbed.Service.Launch

namespace Testbed

/-! ### Gathering variables -/

/-- What becomes of gathering given entries: variables that are those entries, or the refusal of a
name that was given twice. -/
inductive Gathers (given : List (String × String)) : Except VariableError Variables → Prop where
  | gathered (bindings : Variables) (same : bindings.entries.Perm given) :
      Gathers given (.ok bindings)
  | repeated (key : String) (twice : 2 ≤ (given.map (·.1)).count key) :
      Gathers given (.error (.duplicate key))

namespace Gathers

variable {given other : List (String × String)} {bindings added : Variables}

/-- A name that was given twice among some entries was given twice among more of them. -/
theorem mono {key : String} (gathers : Gathers given (.error (.duplicate key)))
    (within : given.Sublist other) : Gathers other (.error (.duplicate key)) := by
  cases gathers with
  | repeated _ twice => exact .repeated key (Nat.le_trans twice ((within.map _).count_le key))

theorem perm (gathers : Gathers given (.ok bindings)) : bindings.entries.Perm given := by
  cases gathers with
  | gathered _ same => exact same

/-- Variables are gathered only if no name was given twice. -/
theorem nodup (gathers : Gathers given (.ok bindings)) : (given.map (·.1)).Nodup :=
  (gathers.perm.map _).nodup_iff.1 bindings.ascending.nodup_keys

/-- Gathering is refused if and only if a name was given twice. -/
theorem isError_iff {result : Except VariableError Variables} (gathers : Gathers given result) :
    (∃ error, result = .error error) ↔ ¬ (given.map (·.1)).Nodup := by
  cases gathers with
  | gathered bindings same =>
    refine iff_of_false (by rintro ⟨_, isError⟩; cases isError) (not_not_intro ?_)
    exact (Gathers.gathered bindings same).nodup
  | repeated key twice =>
    refine iff_of_true ⟨_, rfl⟩ fun distinct => ?_
    exact absurd (List.nodup_iff_count_le_one.1 distinct key) (Nat.not_le.2 twice)

theorem empty : Gathers [] (.ok .empty) :=
  .gathered _ (.refl _)

/-- What is set already was given. -/
theorem self (bindings : Variables) : Gathers bindings.entries (.ok bindings) :=
  .gathered _ (.refl _)

/-- A name that is set was given. -/
theorem contains_iff (gathers : Gathers given (.ok bindings)) (key : String) :
    bindings.contains key = true ↔ key ∈ given.map (·.1) := by
  rw [← (gathers.perm.map _).mem_iff]
  show (bindings.entries.lookup key).isSome = true ↔ _
  rw [Option.isSome_iff_exists, List.mem_map]
  simp only [bindings.ascending.lookup_eq_some_iff]
  constructor
  · rintro ⟨value, member⟩
    exact ⟨(key, value), member, rfl⟩
  · rintro ⟨entry, member, rfl⟩
    exact ⟨entry.2, member⟩

/-- A name that was given both before and now was given twice. -/
theorem repeated_append {key : String} (before : key ∈ given.map (·.1))
    (now : key ∈ other.map (·.1)) : Gathers (given ++ other) (.error (.duplicate key)) := by
  refine .repeated key ?_
  rw [List.map_append, List.count_append]
  exact Nat.add_le_add (List.count_pos_iff.2 before) (List.count_pos_iff.2 now)

theorem insert (gathers : Gathers given (.ok bindings)) (key value : String) :
    Gathers (given ++ [(key, value)]) (bindings.insert key value) := by
  unfold Variables.insert
  split
  next isSet =>
    exact repeated_append ((gathers.contains_iff key).1 isSet) List.mem_cons_self
  next isNew =>
    have absent : key ∉ bindings.entries.map (·.1) := fun member =>
      isNew ((gathers.contains_iff key).2 ((gathers.perm.map _).mem_iff.1 member))
    refine .gathered _ ((Sorted.perm_put value absent).trans ?_)
    exact ((gathers.perm.cons _).trans (List.perm_append_singleton _ _).symm)

theorem insertAll (gathers : Gathers given (.ok bindings)) (entries : List (String × String)) :
    Gathers (given ++ entries) (Variables.insertAll entries bindings) := by
  induction entries generalizing given bindings with
  | nil =>
    rw [List.append_nil]
    exact gathers
  | cons entry rest inductionHypothesis =>
    obtain ⟨key, value⟩ := entry
    have inserted := gathers.insert key value
    unfold Variables.insertAll
    rw [List.append_cons]
    generalize bindings.insert key value = result at inserted
    cases inserted with
    | gathered bindings same => exact inductionHypothesis (.gathered bindings same)
    | repeated key twice =>
      exact (Gathers.repeated key twice).mono (List.sublist_append_left _ _)

theorem merge (gathers : Gathers given (.ok bindings)) (others : Gathers other (.ok added)) :
    Gathers (given ++ other) (bindings.merge added) := by
  unfold Variables.merge
  split
  next key found =>
    have clashing := List.find?_some found
    have now := (others.perm.map _).mem_iff.1 (List.mem_of_find?_eq_some found)
    exact repeated_append ((gathers.contains_iff key).1 clashing) now
  next absent =>
    have apart : (bindings.entries.map (·.1) ++ added.entries.map (·.1)).Nodup := by
      refine List.nodup_append.2 ⟨bindings.ascending.nodup_keys, added.ascending.nodup_keys, ?_⟩
      rintro key before _ now rfl
      refine List.find?_eq_none.1 absent key now ((gathers.contains_iff key).2 ?_)
      exact (gathers.perm.map _).mem_iff.1 before
    exact .gathered _ ((Sorted.perm_putAll apart).trans (gathers.perm.append others.perm))

end Gathers

/-! ### Fragments -/

/-- The variables that a fragment gives under a stem. -/
def Fragment.given (fragment : Fragment) (stem : String) : List (String × String) :=
  fragment.entries.map fun entry => (entryName stem fragment.sectionName entry.1, entry.2)

/-- Whether a fragment has no rendering of its own. -/
def Fragment.IsPlain (fragment : Fragment) : Prop :=
  fragment.render = renderSection fragment.sectionName fragment.entries

theorem Role.isStem_stem (role : Role) : isStem role.stem = true := by
  cases role <;> decide

theorem Storage.isPlain_fragment (storage : Storage) : storage.fragment.IsPlain := by
  cases storage <;> rfl

theorem Fragment.IsPlain.gathers {fragment : Fragment} (isPlain : fragment.IsPlain) {stem : String}
    (valid : isStem stem = true) : Gathers (fragment.given stem) (fragment.render stem) := by
  unfold Fragment.IsPlain at isPlain
  rw [isPlain]
  unfold renderSection checkStem
  rw [if_pos valid]
  exact Gathers.empty.insertAll _

theorem Fragment.IsPlain.render_of_not_isStem {fragment : Fragment} (isPlain : fragment.IsPlain)
    {stem : String} (invalid : isStem stem = false) :
    fragment.render stem = .error (.invalidStem stem) := by
  unfold Fragment.IsPlain at isPlain
  rw [isPlain]
  unfold renderSection checkStem
  rw [if_neg (Bool.eq_false_iff.1 invalid)]

namespace Launch

theorem gathers_mergeFragments {stem : String} (valid : isStem stem = true)
    {fragments : List Fragment} (arePlain : ∀ fragment ∈ fragments, fragment.IsPlain)
    {given : List (String × String)} {bindings : Variables}
    (gathers : Gathers given (.ok bindings)) :
    Gathers (given ++ fragments.flatMap (Fragment.given · stem))
      (mergeFragments stem fragments bindings) := by
  induction fragments generalizing given bindings with
  | nil =>
    rw [List.flatMap_nil, List.append_nil]
    exact gathers
  | cons fragment rest inductionHypothesis =>
    have rendered := (arePlain fragment List.mem_cons_self).gathers valid
    have arePlainToo := fun other member => arePlain other (List.mem_cons_of_mem _ member)
    unfold mergeFragments
    rw [List.flatMap_cons, ← List.append_assoc]
    generalize fragment.render stem = result at rendered
    cases rendered with
    | repeated key twice =>
      exact (Gathers.repeated key twice).mono
        ((List.sublist_append_right _ _).trans (List.sublist_append_left _ _))
    | gathered added same =>
      have merged := gathers.merge (.gathered added same)
      simp only []
      generalize bindings.merge added = result at merged
      cases merged with
      | repeated key twice =>
        exact (Gathers.repeated key twice).mono (List.sublist_append_left _ _)
      | gathered bindings same =>
        exact inductionHypothesis arePlainToo (.gathered bindings same)

/-! ### Launches -/

/-- All variables that a launch gives: those of its fragments, of its store and of its settings. -/
def given (launch : Launch) : List (String × String) :=
  launch.allFragments.flatMap (Fragment.given · launch.role.stem) ++
    launch.settings.map fun setting => (settingName launch.role.stem setting.1, setting.2)

/-- Whether the role of a launch can persist into its store. -/
def IsSupported (launch : Launch) : Prop :=
  ∀ storage, launch.storage = some storage → storage.backend ∈ launch.role.backends

variable {launch : Launch}

theorem gathers_bindings (arePlain : ∀ fragment ∈ launch.fragments, fragment.IsPlain) :
    Gathers launch.given launch.bindings := by
  have allPlain : ∀ fragment ∈ launch.allFragments, fragment.IsPlain := by
    intro fragment member
    rcases List.mem_append.1 member with own | ofStore
    · exact arePlain fragment own
    · obtain ⟨storage, -, rfl⟩ := Option.map_eq_some_iff.1 (Option.mem_toList.1 ofStore)
      exact storage.isPlain_fragment
  have merged := gathers_mergeFragments launch.role.isStem_stem allPlain Gathers.empty
  rw [List.nil_append] at merged
  unfold bindings given
  generalize mergeFragments launch.role.stem launch.allFragments .empty = result at merged
  cases merged with
  | gathered bindings same => exact (Gathers.gathered bindings same).insertAll _
  | repeated key twice =>
    exact (Gathers.repeated key twice).mono (List.sublist_append_left _ _)

theorem render_of_isSupported (supported : launch.IsSupported) :
    launch.render = launch.renderSupported := by
  unfold render
  split
  next => rfl
  next storage isGiven => exact if_pos (supported storage isGiven)

/-- What a launch is rendered to, once its store is supported. -/
inductive Rendered (launch : Launch) : Except LaunchError Plan → Prop where
  | plan (bindings : Variables) (same : bindings.entries.Perm launch.given) :
      Rendered launch (.ok
        { role := launch.role, bindings, arguments := launch.arguments, port := launch.port })
  | repeated (key : String) (twice : 2 ≤ (launch.given.map (·.1)).count key) :
      Rendered launch (.error (.duplicateKey launch.role key))

theorem rendered_render (arePlain : ∀ fragment ∈ launch.fragments, fragment.IsPlain)
    (supported : launch.IsSupported) : Rendered launch launch.render := by
  have gathers := gathers_bindings arePlain
  rw [render_of_isSupported supported]
  unfold renderSupported
  generalize launch.bindings = result at gathers
  cases gathers with
  | gathered bindings same => exact .plan bindings same
  | repeated key twice => exact .repeated key twice

/-- A launch has a plan if and only if no name is given twice. -/
theorem Rendered.exists_plan_iff {result : Except LaunchError Plan}
    (rendered : Rendered launch result) :
    (∃ plan, result = .ok plan) ↔ (launch.given.map (·.1)).Nodup := by
  cases rendered with
  | plan bindings same => exact iff_of_true ⟨_, rfl⟩ (Gathers.gathered bindings same).nodup
  | repeated key twice =>
    refine iff_of_false (by rintro ⟨_, same⟩; cases same) fun distinct => ?_
    exact absurd (List.nodup_iff_count_le_one.1 distinct key) (Nat.not_le.2 twice)

/-- Launches that give the same variables, in whatever order, have the same plan or none. -/
theorem Rendered.toOption_eq {other : Launch} {first second : Except LaunchError Plan}
    (rendered : Rendered launch first) (otherRendered : Rendered other second)
    (same : launch.given.Perm other.given) (sameRole : launch.role = other.role)
    (sameArguments : launch.arguments = other.arguments) (samePort : launch.port = other.port) :
    first.toOption = second.toOption := by
  have together : (∃ plan, first = .ok plan) ↔ ∃ plan, second = .ok plan := by
    rw [rendered.exists_plan_iff, otherRendered.exists_plan_iff]
    exact (same.map _).nodup_iff
  cases rendered with
  | plan bindings own =>
    cases otherRendered with
    | plan others theirs =>
      have entries : bindings.entries = others.entries :=
        bindings.ascending.eq_of_perm others.ascending ((own.trans same).trans theirs.symm)
      obtain ⟨_, _⟩ := bindings
      cases entries
      rw [sameRole, sameArguments, samePort]
    | repeated key twice =>
      obtain ⟨plan, planned⟩ := together.1 ⟨_, rfl⟩
      cases planned
  | repeated key twice =>
    cases otherRendered with
    | plan others theirs =>
      obtain ⟨plan, planned⟩ := together.2 ⟨_, rfl⟩
      cases planned
    | repeated key twice => rfl

theorem render_of_not_mem {storage : Storage} (isGiven : launch.storage = some storage)
    (unsupported : storage.backend ∉ launch.role.backends) :
    launch.render = .error (.unsupportedBackend launch.role storage.backend) := by
  unfold render
  rw [isGiven]
  exact if_neg unsupported

theorem exists_not_mem (unsupported : ¬ launch.IsSupported) :
    ∃ storage, launch.storage = some storage ∧ storage.backend ∉ launch.role.backends := by
  simpa [IsSupported] using unsupported

/-- What the plan of a launch takes over from it. -/
structure Planned (launch : Launch) (plan : Plan) : Prop where
  supported : launch.IsSupported
  role : plan.role = launch.role
  arguments : plan.arguments = launch.arguments
  port : plan.port = launch.port
  bindings : plan.bindings.entries.Perm launch.given

theorem planned_of_render {plan : Plan}
    (arePlain : ∀ fragment ∈ launch.fragments, fragment.IsPlain)
    (isPlan : launch.render = .ok plan) : Planned launch plan := by
  by_cases supported : launch.IsSupported
  · have rendered := rendered_render arePlain supported
    rw [isPlan] at rendered
    cases rendered with
    | plan bindings same => exact ⟨supported, rfl, rfl, rfl, same⟩
  · obtain ⟨storage, isGiven, notThere⟩ := exists_not_mem supported
    rw [render_of_not_mem isGiven notThere] at isPlan
    cases isPlan

namespace Planned

variable {plan : Plan}

theorem get?_eq_some_iff (planned : Planned launch plan) (key value : String) :
    plan.bindings.get? key = some value ↔ (key, value) ∈ launch.given :=
  (plan.bindings.ascending.lookup_eq_some_iff key value).trans planned.bindings.mem_iff

theorem keys_perm (planned : Planned launch plan) :
    plan.bindings.keys.Perm (launch.given.map (·.1)) :=
  planned.bindings.map _

end Planned

/-- The order of the fragments does not matter for the plan of a launch. -/
theorem toOption_render_of_perm {fragments : List Fragment}
    (arePlain : ∀ fragment ∈ launch.fragments, fragment.IsPlain)
    (reordered : launch.fragments.Perm fragments) :
    ({ launch with fragments } : Launch).render.toOption = launch.render.toOption := by
  by_cases supported : launch.IsSupported
  · have arePlainToo : ∀ fragment ∈ fragments, fragment.IsPlain := fun fragment member =>
      arePlain fragment (reordered.mem_iff.2 member)
    have given : launch.given.Perm ({ launch with fragments } : Launch).given :=
      ((reordered.append_right _).flatMap_right _).append_right _
    have rendered :
        Rendered { launch with fragments } ({ launch with fragments } : Launch).render :=
      rendered_render arePlainToo supported
    exact ((rendered_render arePlain supported).toOption_eq rendered given rfl rfl rfl).symm
  · obtain ⟨storage, isGiven, notThere⟩ := exists_not_mem supported
    have refused : ({ launch with fragments } : Launch).render =
        .error (.unsupportedBackend launch.role storage.backend) :=
      render_of_not_mem isGiven notThere
    rw [render_of_not_mem isGiven notThere, refused]

/-- A launch whose role can not persist into its store is refused for that, whatever else is wrong
with it. Otherwise it is rendered if and only if no name is given twice among its fragments, its
store and its settings. Each variable then has the value that was given for it, there are no others,
and the argument, if there is one, is the plugin of the store. If a name is given twice, the launch
is refused for such a name and for nothing else. The order of the fragments does not matter. -/
theorem render_account (launch : Launch)
    (arePlain : ∀ fragment ∈ launch.fragments, fragment.IsPlain) :
    (∀ storage, launch.storage = some storage → storage.backend ∉ launch.role.backends →
      launch.render = .error (.unsupportedBackend launch.role storage.backend)) ∧
    (launch.IsSupported →
      ((∃ plan, launch.render = .ok plan) ↔ (launch.given.map (·.1)).Nodup) ∧
      (∀ plan, launch.render = .ok plan →
        (∀ key value, plan.bindings.get? key = some value ↔ (key, value) ∈ launch.given) ∧
        plan.bindings.size = launch.given.length ∧
        plan.arguments =
          if launch.plugsIn then launch.storage.toList.map (·.backend.pluginName) else []) ∧
      ∀ error, launch.render = .error error →
        ∃ key, error = .duplicateKey launch.role key ∧
          2 ≤ (launch.given.map (·.1)).count key) ∧
    ∀ fragments, launch.fragments.Perm fragments →
      ({ launch with fragments } : Launch).render.toOption = launch.render.toOption := by
  refine ⟨fun storage => render_of_not_mem, fun supported => ?_,
    fun fragments => toOption_render_of_perm arePlain⟩
  have rendered := rendered_render arePlain supported
  refine ⟨rendered.exists_plan_iff, fun plan isPlan => ?_, fun error isError => ?_⟩
  · rw [isPlan] at rendered
    cases rendered with
    | plan bindings same =>
      refine ⟨fun key value => ?_, same.length_eq, ?_⟩
      · exact (bindings.ascending.lookup_eq_some_iff key value).trans same.mem_iff
      · show launch.arguments = _
        unfold arguments
        cases launch.storage <;> cases launch.plugsIn <;> rfl
  · rw [isError] at rendered
    cases rendered with
    | repeated key twice => exact ⟨key, rfl, twice⟩

/-- A launch with a setting that has the name of an entry of its store. -/
def clashing : Launch where
  role := .edgeRegistry
  storage := some (.relational {})
  fragments := []
  settings := [("POSTGRES__HOST", "elsewhere")]

/-- The setting is refused, and the launch without it is rendered. -/
theorem render_account_clashing :
    (∃ key, clashing.render = .error (.duplicateKey .edgeRegistry key)) ∧
      ∃ plan, ({ clashing with settings := [] } : Launch).render = .ok plan ∧
        plan.bindings.get? "EDGE_REGISTRY_POSTGRES__HOST" = some "localhost" := by
  have supported : clashing.IsSupported := by
    intro storage isGiven
    cases isGiven
    decide
  have noFragments : ∀ fragment ∈ clashing.fragments, fragment.IsPlain := by
    intro fragment member
    cases member
  obtain ⟨-, clash, -⟩ := render_account clashing noFragments
  obtain ⟨-, whole, -⟩ := render_account { clashing with settings := [] } noFragments
  obtain ⟨succeeds, -, fails⟩ := clash supported
  obtain ⟨succeedsToo, holds, -⟩ := whole supported
  constructor
  · cases rendered : clashing.render with
    | ok plan => exact absurd (succeeds.1 ⟨plan, rendered⟩) (by decide +kernel)
    | error error =>
      obtain ⟨key, rfl, -⟩ := fails error rendered
      exact ⟨key, rfl⟩
  · obtain ⟨plan, rendered⟩ := succeedsToo.2 (by decide +kernel)
    exact ⟨plan, rendered, ((holds plan rendered).1 _ _).2 (by decide +kernel)⟩

end Launch

end Testbed
