/-
This file proves that a password is not told. Variables are shown alike if they differ only in
values that are not shown. Two launches that differ only in the password of their relational store
are told apart by one value and by nothing else: everything that gathers variables looks at their
names and moves their values along, so it commutes with leaving out the value of one name. What is
left of the variables is then the same for both passwords, and so is every error, every log event
and every text in which a process is shown.
-/

import Mathlib.Data.Option.Basic
import Testbed.Proofs.Runs
import Testbed.Service.Manager

namespace Testbed

open Text

/-! ### Entries with other values -/

namespace Sorted

variable {Value Other : Type} (turn : String → Value → Other)

/-- The entries with each value turned into another one. -/
def mapValues (entries : List (String × Value)) : List (String × Other) :=
  entries.map fun entry => (entry.1, turn entry.1 entry.2)

theorem keys_mapValues (entries : List (String × Value)) :
    (mapValues turn entries).map (·.1) = entries.map (·.1) := by
  unfold mapValues
  rw [List.map_map]
  rfl

theorem lookup_mapValues (key : String) (entries : List (String × Value)) :
    (mapValues turn entries).lookup key = (entries.lookup key).map (turn key) := by
  induction entries with
  | nil => rfl
  | cons first rest inductionHypothesis =>
    obtain ⟨other, value⟩ := first
    show ((other, turn other value) :: mapValues turn rest).lookup key = _
    rw [List.lookup_cons, List.lookup_cons, inductionHypothesis]
    by_cases same : key = other
    · subst same
      simp
    · simp [beq_eq_false_iff_ne.2 same]

/-- Putting an entry in looks at its key only. -/
theorem mapValues_put (key : String) (value : Value) (entries : List (String × Value)) :
    mapValues turn (put key value entries) = put key (turn key value) (mapValues turn entries) := by
  induction entries with
  | nil => rfl
  | cons first rest inductionHypothesis =>
    obtain ⟨other, held⟩ := first
    show _ = put key (turn key value) ((other, turn other held) :: mapValues turn rest)
    unfold put
    split
    · rfl
    · split
      · rfl
      · rw [← inductionHypothesis]
        rfl

theorem mapValues_putAll (added entries : List (String × Value)) :
    mapValues turn (putAll added entries) =
      putAll (mapValues turn added) (mapValues turn entries) := by
  induction added generalizing entries with
  | nil => rfl
  | cons first rest inductionHypothesis =>
    show mapValues turn (putAll rest (put first.1 first.2 entries)) = _
    rw [inductionHypothesis, mapValues_put]
    rfl

end Sorted

/-! ### What is not shown -/

namespace Variables

variable {first second : Variables}

/-- The value of a variable is not shown if its name speaks of a password or of a secret. -/
theorem isSensitive_iff (key : String) :
    isSensitive key = true ↔
      "PASSWORD".toList <:+: key.toList ∨ "SECRET".toList <:+: key.toList := by
  unfold isSensitive sensitiveWords
  rw [List.any_cons, List.any_cons, List.any_nil, Bool.or_false, Bool.or_eq_true, occursIn_iff,
    occursIn_iff]

/-- What is shown depends on the names and on the values that are shown. -/
theorem map_inspectEntry (bindings : Variables) :
    bindings.entries.map inspectEntry = bindings.keys.map fun key =>
      (quoted key,
        quoted (if isSensitive key then redacted else (bindings.get? key).getD "")) := by
  unfold keys
  rw [List.map_map]
  refine List.map_congr_left fun entry member => ?_
  have held : bindings.get? entry.1 = some entry.2 :=
    (bindings.ascending.lookup_eq_some_iff _ _).2 member
  show inspectEntry entry = (quoted entry.1, quoted (if isSensitive entry.1 then redacted else
    (bindings.get? entry.1).getD ""))
  rw [held]
  rfl

/-- Variables are shown alike if they have the same names and the same values that are shown. -/
theorem inspect_congr (keys : first.keys = second.keys)
    (shown : ∀ key, isSensitive key = false → first.get? key = second.get? key) :
    first.inspect = second.inspect ∧ first.inspectOnLines = second.inspectOnLines := by
  have same : first.entries.map inspectEntry = second.entries.map inspectEntry := by
    rw [map_inspectEntry, map_inspectEntry, keys]
    refine List.map_congr_left fun key _ => ?_
    cases sensitive : isSensitive key with
    | true => rfl
    | false => rw [shown key sensitive]
  unfold inspect inspectOnLines
  rw [same]
  exact ⟨rfl, rfl⟩

end Variables

/-! ### Two results of one kind -/

/-- Both results are the same refusal, or both are successes with related values. -/
inductive SameOutcome {Value Failure : Type} (related : Value → Value → Prop) :
    Except Failure Value → Except Failure Value → Prop where
  | refused (failure : Failure) : SameOutcome related (.error failure) (.error failure)
  | succeeded (first second : Value) (same : related first second) :
      SameOutcome related (.ok first) (.ok second)

namespace SameOutcome

variable {Value Next Failure : Type} {related weaker : Value → Value → Prop}
  {relatedNext : Next → Next → Prop} {one two : Except Failure Value}

theorem bind {first second : Value → Except Failure Next} (same : SameOutcome related one two)
    (follow : ∀ value other, related value other →
      SameOutcome relatedNext (first value) (second other)) :
    SameOutcome relatedNext (one.bind first) (two.bind second) := by
  cases same with
  | refused failure => exact .refused failure
  | succeeded value other same => exact follow value other same

theorem imp (same : SameOutcome related one two)
    (weaken : ∀ value other, related value other → weaker value other) :
    SameOutcome weaker one two := by
  cases same with
  | refused failure => exact .refused failure
  | succeeded value other same => exact .succeeded value other (weaken value other same)

end SameOutcome

/-! ### All values but one -/

section Masked

variable (hidden : String)

/-- A value, unless it is that of the hidden name. -/
def unlessHidden (key value : String) : Option String :=
  if key = hidden then none else some value

/-- The entries without the value of the hidden name. -/
def masked (entries : List (String × String)) : List (String × Option String) :=
  Sorted.mapValues (unlessHidden hidden) entries

/-- The variables are the same but for the value of the hidden name. -/
def Variables.SameBut (first second : Variables) : Prop :=
  masked hidden first.entries = masked hidden second.entries

end Masked

variable {hidden : String}

theorem keys_eq_of_masked {first second : List (String × String)}
    (same : masked hidden first = masked hidden second) :
    first.map (·.1) = second.map (·.1) := by
  rw [← Sorted.keys_mapValues (unlessHidden hidden), ← Sorted.keys_mapValues (unlessHidden hidden)]
  exact congrArg _ same

theorem lookup_eq_of_masked {first second : List (String × String)}
    (same : masked hidden first = masked hidden second) {key : String} (other : key ≠ hidden) :
    first.lookup key = second.lookup key := by
  have looked := congrArg (List.lookup key) same
  unfold masked at looked
  rw [Sorted.lookup_mapValues, Sorted.lookup_mapValues] at looked
  have kept : unlessHidden hidden key = some := by
    funext value
    exact if_neg other
  rw [kept] at looked
  exact Option.map_injective (Option.some_injective _) looked

theorem Variables.insertAll_cons (key value : String) (rest : List (String × String))
    (bindings : Variables) :
    insertAll ((key, value) :: rest) bindings =
      (bindings.insert key value).bind (insertAll rest) := by
  rw [insertAll]
  cases bindings.insert key value <;> rfl

namespace Variables.SameBut

variable {first second firstAdded secondAdded : Variables}

theorem keys_eq (same : first.SameBut hidden second) : first.keys = second.keys :=
  keys_eq_of_masked same

theorem get?_eq (same : first.SameBut hidden second) {key : String} (other : key ≠ hidden) :
    first.get? key = second.get? key :=
  lookup_eq_of_masked same other

theorem contains_eq (same : first.SameBut hidden second) (key : String) :
    first.contains key = second.contains key := by
  have looked := congrArg (fun entries => (entries.lookup key).isSome) same
  unfold masked at looked
  simp only [Sorted.lookup_mapValues, Option.isSome_map] at looked
  exact looked

/-- A value that differs can be set if its name is the hidden one. -/
theorem insert {key : String} {value other : String} (same : first.SameBut hidden second)
    (values : unlessHidden hidden key value = unlessHidden hidden key other) :
    SameOutcome (Variables.SameBut hidden) (first.insert key value) (second.insert key other) := by
  unfold Variables.insert
  rw [same.contains_eq key]
  split
  · exact .refused _
  · refine .succeeded _ _ ?_
    show masked hidden (Sorted.put _ _ _) = masked hidden (Sorted.put _ _ _)
    unfold masked
    rw [Sorted.mapValues_put, Sorted.mapValues_put, values]
    exact congrArg _ same

theorem insertAll {entries others : List (String × String)} (same : first.SameBut hidden second)
    (values : masked hidden entries = masked hidden others) :
    SameOutcome (Variables.SameBut hidden) (Variables.insertAll entries first)
      (Variables.insertAll others second) := by
  induction entries generalizing others first second with
  | nil =>
    cases others with
    | nil => exact .succeeded _ _ same
    | cons other rest => cases values
  | cons entry rest inductionHypothesis =>
    cases others with
    | nil => cases values
    | cons other others =>
      obtain ⟨key, value⟩ := entry
      obtain ⟨name, given⟩ := other
      obtain ⟨sameEntry, sameRest⟩ := List.cons.inj values
      obtain ⟨rfl, sameValue⟩ := Prod.mk.inj sameEntry
      rw [insertAll_cons, insertAll_cons]
      exact (same.insert sameValue).bind fun _ _ same => inductionHypothesis same sameRest

theorem merge (same : first.SameBut hidden second)
    (sameAdded : firstAdded.SameBut hidden secondAdded) :
    SameOutcome (Variables.SameBut hidden) (first.merge firstAdded) (second.merge secondAdded) := by
  unfold Variables.merge
  have contains : first.contains = second.contains := funext same.contains_eq
  rw [sameAdded.keys_eq, contains]
  split
  · exact .refused _
  · refine .succeeded _ _ ?_
    show masked hidden (Sorted.putAll _ _) = masked hidden (Sorted.putAll _ _)
    unfold masked
    rw [Sorted.mapValues_putAll, Sorted.mapValues_putAll]
    exact congrArg₂ _ sameAdded same

end Variables.SameBut

/-! ### What can not be told apart -/

/-- The variables can not be told apart but by the value of the hidden name. -/
structure Variables.Alike (hidden : String) (first second : Variables) : Prop where
  keys_eq : first.keys = second.keys
  get?_eq : ∀ key, key ≠ hidden → first.get? key = second.get? key
  inspect_eq : first.inspect = second.inspect
  inspectOnLines_eq : first.inspectOnLines = second.inspectOnLines

theorem Variables.SameBut.alike {first second : Variables} (same : first.SameBut hidden second)
    (sensitive : isSensitive hidden = true) : first.Alike hidden second := by
  obtain ⟨inspect_eq, inspectOnLines_eq⟩ := inspect_congr same.keys_eq fun key shown =>
    same.get?_eq fun isHidden => by simp [isHidden, sensitive] at shown
  exact ⟨same.keys_eq, fun _ => same.get?_eq, inspect_eq, inspectOnLines_eq⟩

/-- The plans are the same but for the value of the hidden name. -/
structure Plan.SameBut (hidden : String) (first second : Plan) : Prop where
  role_eq : first.role = second.role
  bindings : first.bindings.SameBut hidden second.bindings
  arguments_eq : first.arguments = second.arguments
  port_eq : first.port = second.port

/-- The plans can not be told apart but by the value of the hidden name. -/
structure Plan.Alike (hidden : String) (first second : Plan) : Prop where
  role_eq : first.role = second.role
  bindings : first.bindings.Alike hidden second.bindings
  arguments_eq : first.arguments = second.arguments
  port_eq : first.port = second.port

theorem Plan.SameBut.alike {first second : Plan} (same : first.SameBut hidden second)
    (sensitive : Variables.isSensitive hidden = true) : first.Alike hidden second where
  role_eq := same.role_eq
  bindings := same.bindings.alike sensitive
  arguments_eq := same.arguments_eq
  port_eq := same.port_eq

/-- The commands can not be told apart but by the value of the hidden name. -/
structure Command.Alike (hidden : String) (first second : Outside.Command) : Prop where
  path_eq : first.path = second.path
  arguments_eq : first.arguments = second.arguments
  keys_eq : first.bindings.map (·.1) = second.bindings.map (·.1)
  lookup_eq : ∀ key, key ≠ hidden → first.bindings.lookup key = second.bindings.lookup key

/-- Two processes that are not spawned yet can not be told apart but by the value of the hidden
name, and not when they are shown at a later stage either. -/
structure Process.Alike (hidden : String) (first second : Process) : Prop where
  role_eq : first.role = second.role
  path_eq : first.path = second.path
  bindings : first.bindings.Alike hidden second.bindings
  arguments_eq : first.arguments = second.arguments
  port_eq : first.port = second.port
  created : ∃ command other, first.stage = .created command ∧ second.stage = .created other ∧
    Command.Alike hidden command other
  inspect_eq : first.inspect = second.inspect
  inspectLater_eq : ∀ stage,
    ({ first with stage } : Process).inspect = ({ second with stage } : Process).inspect

/-- A child gets the variables of its plan on top of those passed through. -/
theorem Plan.SameBut.command {first second : Plan} (same : first.SameBut hidden second)
    (manager : Manager) :
    Command.Alike hidden
      ⟨manager.executable first.role, first.arguments, manager.childVariables first⟩
      ⟨manager.executable second.role, second.arguments, manager.childVariables second⟩ := by
  have sameValues : masked hidden (manager.childVariables first) =
      masked hidden (manager.childVariables second) := by
    have entries : Sorted.mapValues (unlessHidden hidden) first.bindings.entries =
        Sorted.mapValues (unlessHidden hidden) second.bindings.entries := same.bindings
    unfold masked Manager.childVariables
    simp only [Sorted.mapValues_putAll, entries]
  refine ⟨?_, same.arguments_eq, keys_eq_of_masked sameValues, ?_⟩
  · rw [same.role_eq]
  · exact fun _ => lookup_eq_of_masked sameValues

theorem Plan.SameBut.process {first second : Plan} (same : first.SameBut hidden second)
    (sensitive : Variables.isSensitive hidden = true) (manager : Manager) :
    (manager.process first).Alike hidden (manager.process second) := by
  have bindings := same.bindings.alike sensitive
  have command := same.command manager
  obtain ⟨role, one, arguments, port⟩ := first
  obtain ⟨_, two, _, _⟩ := second
  obtain ⟨rfl, -, rfl, rfl⟩ := same
  refine ⟨rfl, rfl, bindings, rfl, rfl, ⟨_, _, rfl, rfl, command⟩, ?_, fun stage => ?_⟩
  · show inspectRecord _ [_, _, _, _, _, ("env", one.inspect)] = _
    rw [bindings.inspect_eq]
    rfl
  · show inspectRecord _ [_, _, _, _, _, ("env", one.inspect)] = _
    rw [bindings.inspect_eq]
    rfl

/-- The exchange that notes that a launch was prepared. -/
def Manager.preparedNoted (manager : Manager) (plan : Plan) : Exchange Action Reply :=
  noted .debug "lake.process" "Prepared service launch"
    [(manager.process plan).roleField, ("path", .text (manager.process plan).path),
      ("env", .text plan.bindings.inspect),
      ("args", .text (Process.inspectArguments plan.arguments))]

theorem Plan.Alike.preparedNoted_eq {first second : Plan} (alike : first.Alike hidden second)
    (manager : Manager) : manager.preparedNoted first = manager.preparedNoted second := by
  obtain ⟨role, one, arguments, port⟩ := first
  obtain ⟨_, two, _, _⟩ := second
  obtain ⟨rfl, bindings, rfl, rfl⟩ := alike
  unfold Manager.preparedNoted
  rw [bindings.inspect_eq]
  rfl

/-! ### Launches -/

namespace Launch

theorem mergeFragments_append (stem : String) (fragments others : List Fragment)
    (bindings : Variables) :
    mergeFragments stem (fragments ++ others) bindings =
      (mergeFragments stem fragments bindings).bind (mergeFragments stem others) := by
  induction fragments generalizing bindings with
  | nil => rfl
  | cons fragment rest inductionHypothesis =>
    rw [List.cons_append]
    unfold mergeFragments
    split
    · rfl
    · split
      · rfl
      · exact inductionHypothesis _

theorem mergeFragments_singleton (stem : String) (fragment : Fragment) (bindings : Variables) :
    mergeFragments stem [fragment] bindings = (fragment.render stem).bind bindings.merge := by
  unfold mergeFragments
  cases fragment.render stem with
  | error error => rfl
  | ok rendered =>
    show _ = bindings.merge rendered
    dsimp only
    cases bindings.merge rendered <;> rfl

theorem bindings_eq (launch : Launch) :
    launch.bindings = (mergeFragments launch.role.stem launch.allFragments .empty).bind
      (Variables.insertAll (launch.settings.map fun setting =>
        (settingName launch.role.stem setting.1, setting.2))) := by
  unfold bindings
  cases mergeFragments launch.role.stem launch.allFragments .empty <;> rfl

/-- The launch with a relational store and a password for it. -/
def withPassword (launch : Launch) (access : RelationalAccess) (password : Secret) : Launch :=
  { launch with storage := some (.relational { access with password }) }

/-- The name of the variable for the password of a relational store. -/
def passwordName (launch : Launch) : String :=
  entryName launch.role.stem "POSTGRES" "PASSWORD"

variable (launch : Launch) (access : RelationalAccess) (password other : Secret)

/-- The value of the password is not shown. -/
theorem isSensitive_passwordName : Variables.isSensitive launch.passwordName = true := by
  refine (Variables.isSensitive_iff _).2 (.inl (List.IsSuffix.isInfix ?_))
  unfold passwordName entryName
  rw [String.toList_append]
  exact List.suffix_append _ _

/-- The variables of a relational store are the same but for its password. -/
theorem sameOutcome_fragment :
    SameOutcome (Variables.SameBut launch.passwordName)
      ((Storage.relational { access with password }).fragment.render launch.role.stem)
      ((Storage.relational { access with password := other }).fragment.render
        launch.role.stem) := by
  show SameOutcome _ (renderSection "POSTGRES" _ _) (renderSection "POSTGRES" _ _)
  unfold renderSection
  cases checkStem launch.role.stem with
  | error error => exact .refused error
  | ok valid =>
    -- The entries have the same names, and the one value that differs is that of the password.
    have fresh : Variables.empty.SameBut launch.passwordName .empty := rfl
    refine fresh.insertAll ?_
    simp [masked, Sorted.mapValues, unlessHidden, passwordName]

theorem sameOutcome_bindings :
    SameOutcome (Variables.SameBut launch.passwordName)
      (launch.withPassword access password).bindings
      (launch.withPassword access other).bindings := by
  have fragments (secret : Secret) : (launch.withPassword access secret).allFragments =
      launch.fragments ++ [(Storage.relational { access with password := secret }).fragment] := rfl
  rw [bindings_eq, bindings_eq, fragments, fragments, mergeFragments_append, mergeFragments_append]
  refine SameOutcome.bind ?_ fun _ _ (same : Variables.SameBut launch.passwordName _ _) =>
    same.insertAll rfl
  -- Up to the store, both launches are rendered in the same way.
  show SameOutcome _ ((mergeFragments launch.role.stem launch.fragments .empty).bind _)
    ((mergeFragments launch.role.stem launch.fragments .empty).bind _)
  cases mergeFragments launch.role.stem launch.fragments .empty with
  | error error => exact .refused error
  | ok bindings =>
    show SameOutcome _ (mergeFragments launch.role.stem [_] bindings)
      (mergeFragments launch.role.stem [_] bindings)
    rw [mergeFragments_singleton, mergeFragments_singleton]
    have unchanged : bindings.SameBut launch.passwordName bindings := rfl
    exact (launch.sameOutcome_fragment access password other).bind fun _ _ same =>
      unchanged.merge same

theorem sameOutcome_render :
    SameOutcome (Plan.SameBut launch.passwordName)
      (launch.withPassword access password).render (launch.withPassword access other).render := by
  have gathered := launch.sameOutcome_bindings access password other
  show SameOutcome _
    (if Backend.relational ∈ launch.role.backends then
      (launch.withPassword access password).renderSupported
      else .error (.unsupportedBackend launch.role .relational))
    (if Backend.relational ∈ launch.role.backends then
      (launch.withPassword access other).renderSupported
      else .error (.unsupportedBackend launch.role .relational))
  split
  · unfold renderSupported
    generalize (launch.withPassword access password).bindings = one at gathered
    generalize (launch.withPassword access other).bindings = two at gathered
    cases gathered with
    | refused error => exact .refused _
    | succeeded first second same => exact .succeeded _ _ ⟨rfl, same, rfl, rfl⟩
  · exact .refused _

/-- What preparing both launches comes to: the same exchanges, and processes that can not be told
apart. -/
theorem exists_runs_prepare (manager : Manager) :
    ∃ (noted : List (Exchange Action Reply)) (one two : Except LaunchError Process),
      (∀ exchanges result,
        Session.Runs (manager.prepare (launch.withPassword access password)) exchanges result ↔
          exchanges = noted ∧ result = one) ∧
      (∀ exchanges result,
        Session.Runs (manager.prepare (launch.withPassword access other)) exchanges result ↔
          exchanges = noted ∧ result = two) ∧
      SameOutcome (Process.Alike launch.passwordName) one two := by
  have rendered := launch.sameOutcome_render access password other
  unfold Manager.prepare
  generalize (launch.withPassword access password).render = one at rendered
  generalize (launch.withPassword access other).render = two at rendered
  cases rendered with
  | refused error =>
    exact ⟨[], .error error, .error error, fun _ _ => Session.runs_done_iff _ _ _,
      fun _ _ => Session.runs_done_iff _ _ _, .refused error⟩
  | succeeded first second same =>
    have sensitive := launch.isSensitive_passwordName
    refine ⟨[manager.preparedNoted first], .ok (manager.process first),
      .ok (manager.process second), fun _ _ => runs_note_done_iff _ _ _ _ _ _ _, ?_,
      .succeeded _ _ (same.process sensitive manager)⟩
    rw [(same.alike sensitive).preparedNoted_eq manager]
    exact fun _ _ => runs_note_done_iff _ _ _ _ _ _ _

/-- Variables are shown alike, on one line and on many, if they have the same names and differ only
in values whose names speak of a password or of a secret. A launch with a relational store tells
nothing of the password but in the value of one variable: with another password it is refused for
the same error, or gives a plan that can not be told apart but by that value. Preparing it writes
the same log events, and the processes can not be told apart either. -/
theorem password_account :
    (∀ first second : Variables, first.keys = second.keys →
      (∀ key, ¬ "PASSWORD".toList <:+: key.toList → ¬ "SECRET".toList <:+: key.toList →
        first.get? key = second.get? key) →
      first.inspect = second.inspect ∧ first.inspectOnLines = second.inspectOnLines) ∧
    ∀ (launch : Launch) (access : RelationalAccess) (password other : Secret),
      SameOutcome (Plan.Alike launch.passwordName) (launch.withPassword access password).render
        (launch.withPassword access other).render ∧
      ∀ manager : Manager, ∃ noted one two,
        (∀ exchanges result,
          Session.Runs (manager.prepare (launch.withPassword access password)) exchanges result ↔
            exchanges = noted ∧ result = one) ∧
        (∀ exchanges result,
          Session.Runs (manager.prepare (launch.withPassword access other)) exchanges result ↔
            exchanges = noted ∧ result = two) ∧
        SameOutcome (Process.Alike launch.passwordName) one two := by
  constructor
  · intro first second keys shown
    refine Variables.inspect_congr keys fun key isShown => ?_
    have notSensitive : ¬ ("PASSWORD".toList <:+: key.toList ∨ "SECRET".toList <:+: key.toList) :=
      fun named => by simp [(Variables.isSensitive_iff key).2 named] at isShown
    exact shown key (fun named => notSensitive (.inl named)) fun named => notSensitive (.inr named)
  · intro launch access password other
    refine ⟨?_, launch.exists_runs_prepare access password other⟩
    exact (launch.sameOutcome_render access password other).imp fun _ _ same =>
      same.alike launch.isSensitive_passwordName

/-- A launch whose store has the default access. -/
def stored : Launch where
  role := .edgeRegistry
  fragments := []

/-- Two passwords are shown alike, each beside the same name of a user. Launches with them succeed,
and each of the processes gets its own password. -/
theorem password_account_stored :
    (∃ (one : Sorted.Ascending [("PASSWORD", "one"), ("USER", "lake")])
      (two : Sorted.Ascending [("PASSWORD", "two"), ("USER", "lake")]),
      Variables.inspect ⟨_, one⟩ = Variables.inspect ⟨_, two⟩) ∧
    ∃ first second, (stored.withPassword {} ⟨"one"⟩).render = .ok first ∧
      (stored.withPassword {} ⟨"two"⟩).render = .ok second ∧
      first.bindings.get? "EDGE_REGISTRY_POSTGRES__PASSWORD" = some "one" ∧
      second.bindings.get? "EDGE_REGISTRY_POSTGRES__PASSWORD" = some "two" ∧
      first.bindings.inspect = second.bindings.inspect := by
  obtain ⟨shownAlike, launches⟩ := password_account
  constructor
  · have ascending (password : String) :
        Sorted.Ascending [("PASSWORD", password), ("USER", "lake")] :=
      List.pairwise_pair.2 (show "PASSWORD" < "USER" by decide)
    refine ⟨ascending _, ascending _, (shownAlike _ _ rfl fun key noPassword _ => ?_).1⟩
    have other : key ≠ "PASSWORD" := by
      rintro rfl
      exact noPassword List.infix_rfl
    show List.lookup key _ = List.lookup key _
    rw [List.lookup_cons, List.lookup_cons, beq_eq_false_iff_ne.2 other]
  · have rendered := (launches stored {} ⟨"one"⟩ ⟨"two"⟩).1
    have one : (stored.withPassword {} ⟨"one"⟩).render.toOption.bind
        (·.bindings.get? "EDGE_REGISTRY_POSTGRES__PASSWORD") = some "one" := by decide +kernel
    have two : (stored.withPassword {} ⟨"two"⟩).render.toOption.bind
        (·.bindings.get? "EDGE_REGISTRY_POSTGRES__PASSWORD") = some "two" := by decide +kernel
    generalize (stored.withPassword {} ⟨"one"⟩).render = first at rendered one ⊢
    generalize (stored.withPassword {} ⟨"two"⟩).render = second at rendered two ⊢
    cases rendered with
    | refused error => cases one
    | succeeded first second alike => exact ⟨_, _, rfl, rfl, one, two, alike.bindings.inspect_eq⟩

end Launch

end Testbed
