/-
This file proves what a history of additions makes of variables. An addition sets a variable, merges
other variables or merges what a fragment renders. It is carried out in place, one variable after
another, and what was done before a refusal would stay done; so what comes first is that nothing is
done before a refusal. The variables after a history are then told by the additions that succeeded,
by induction on the history: they are those that these additions brought along, each is as it was
first set, and they are listed in the order of the bytes of their names.
-/

import Testbed.Proofs.Naming
import Testbed.Text.Utf8

namespace Testbed

open Text

namespace Variables

/-! ### Changes in place -/

/-- A change of variables in place. What was changed before a refusal stays changed. -/
abbrev Change (Value : Type) := ExceptT VariableError (StateM Variables) Value

namespace Change

variable {Value Next : Type}

/-- What becomes of a change, and the variables afterwards. -/
def outcome (change : Change Value) (bindings : Variables) :
    Except VariableError Value × Variables :=
  change.run bindings

/-- Puts a variable in, whether or not it is set. -/
def put (key value : String) : Change Unit :=
  modify fun bindings =>
    ⟨Sorted.put key value bindings.entries, Sorted.ascending_put key value bindings.ascending⟩

/-- Sets a variable that is not set yet. -/
def insert (key value : String) : Change Unit := do
  let bindings ← get
  if bindings.contains key then throw (.duplicate key)
  put key value

/-- Puts variables in, one after another. -/
def putEach : List (String × String) → Change Unit
  | [] => pure ()
  | (key, value) :: rest => do
    put key value
    putEach rest

/-- Puts many variables in, unless one of them is set already. -/
def merge (added : Variables) : Change Unit := do
  let bindings ← get
  match added.keys.find? bindings.contains with
  | some key => throw (.duplicate key)
  | none => putEach added.entries

@[simp] theorem outcome_pure (value : Value) (bindings : Variables) :
    (pure value : Change Value).outcome bindings = (.ok value, bindings) := rfl

@[simp] theorem outcome_get (bindings : Variables) :
    (get : Change Variables).outcome bindings = (.ok bindings, bindings) := rfl

@[simp] theorem outcome_throw (error : VariableError) (bindings : Variables) :
    (throw error : Change Value).outcome bindings = (.error error, bindings) := rfl

@[simp] theorem outcome_put (key value : String) (bindings : Variables) :
    (put key value).outcome bindings =
      (.ok (), ⟨Sorted.put key value bindings.entries,
        Sorted.ascending_put key value bindings.ascending⟩) := rfl

@[simp] theorem outcome_ofExcept (result : Except VariableError Value) (bindings : Variables) :
    (MonadExcept.ofExcept result : Change Value).outcome bindings = (result, bindings) := by
  cases result <;> rfl

/-- A refusal ends a change where it is; otherwise the next one goes on from there. -/
@[simp] theorem outcome_bind (change : Change Value) (next : Value → Change Next)
    (bindings : Variables) :
    (change >>= next).outcome bindings =
      match change.outcome bindings with
      | (.ok value, changed) => (next value).outcome changed
      | (.error error, changed) => (.error error, changed) := by
  unfold outcome ExceptT.run
  simp only [bind, ExceptT.bind, ExceptT.mk, StateT.bind]
  cases change bindings with
  | mk result changed => cases result <;> rfl

theorem outcome_putEach (entries : List (String × String)) (bindings : Variables) :
    (putEach entries).outcome bindings =
      (.ok (), ⟨Sorted.putAll entries bindings.entries,
        Sorted.ascending_putAll entries bindings.ascending⟩) := by
  induction entries generalizing bindings with
  | nil => rfl
  | cons entry rest inductionHypothesis =>
    unfold putEach
    rw [outcome_bind, outcome_put]
    exact inductionHypothesis _

end Change

/-- The outcome of a change that is made as a whole or not at all. -/
def settled (bindings : Variables) :
    Except VariableError Variables → Except VariableError Unit × Variables
  | .ok changed => (.ok (), changed)
  | .error error => (.error error, bindings)

/-- A variable is set in place or nothing is changed. -/
theorem outcome_insert (key value : String) (bindings : Variables) :
    (Change.insert key value).outcome bindings =
      bindings.settled (bindings.insert key value) := by
  unfold insert Change.insert
  cases isSet : bindings.contains key <;> simp [isSet, settled]

/-- All variables are merged in place or nothing is changed. -/
theorem outcome_merge (added bindings : Variables) :
    (Change.merge added).outcome bindings = bindings.settled (bindings.merge added) := by
  unfold merge Change.merge
  rw [Change.outcome_bind, Change.outcome_get]
  cases clash : added.keys.find? bindings.contains with
  | some key => simp [clash, settled]
  | none => simp only [clash, Change.outcome_putEach, settled]

/-! ### Additions -/

/-- An addition to variables. What a fragment with a rendering of its own gives is merged like any
other variables. -/
inductive Addition where
  | insert (key value : String)
  | merge (added : Variables)
  | mergeFragment (fragment : Fragment) (stem : String)

namespace Addition

/-- What an addition brings along. -/
def pairs : Addition → List (String × String)
  | insert key value => [(key, value)]
  | merge added => added.entries
  | mergeFragment fragment stem => fragment.given stem

/-- The names of what an addition brings along. -/
def names (addition : Addition) : List String :=
  addition.pairs.map (·.1)

/-- The variables after an addition. -/
def apply : Addition → Variables → Except VariableError Variables
  | insert key value, bindings => bindings.insert key value
  | merge added, bindings => bindings.merge added
  | mergeFragment fragment stem, bindings => (fragment.render stem).bind bindings.merge

/-- An addition that is carried out in place. -/
def inPlace : Addition → Change Unit
  | insert key value => Change.insert key value
  | merge added => Change.merge added
  | mergeFragment fragment stem => do
    let added ← MonadExcept.ofExcept (fragment.render stem)
    Change.merge added

/-- Whether the fragment of an addition, if it is of one, has no rendering of its own. -/
def IsPlain : Addition → Prop
  | mergeFragment fragment _ => fragment.IsPlain
  | _ => True

/-- Whether an addition is refused whatever is set: its fragment has no stem that names can begin
with, or repeats a key. -/
def IsFaulty : Addition → Prop
  | mergeFragment fragment stem => isStem stem = false ∨ ¬ (fragment.entries.map (·.1)).Nodup
  | _ => False

/-- Whether an addition would set a variable that is set already, or is faulty itself. -/
def IsRefused (addition : Addition) (bindings : Variables) : Prop :=
  addition.IsFaulty ∨ ∃ key ∈ addition.names, bindings.contains key = true

/-- The first of the names, in the order of their bytes, that is set already. -/
structure IsLeastClash (names : List String) (bindings : Variables) (key : String) : Prop where
  isAdded : key ∈ names
  isSet : bindings.contains key = true
  least : ∀ other ∈ names, bindings.contains other = true →
    other = key ∨ bytesOf key < bytesOf other

/-- What an addition is refused for. -/
inductive Refusal (bindings : Variables) : Addition → VariableError → Prop where
  | isSet (key value : String) : Refusal bindings (insert key value) (.duplicate key)
  | clash (added : Variables) (key : String) (least : IsLeastClash added.keys bindings key) :
      Refusal bindings (merge added) (.duplicate key)
  | invalidStem (fragment : Fragment) (stem : String) (invalid : isStem stem = false) :
      Refusal bindings (mergeFragment fragment stem) (.invalidStem stem)
  | repeated (fragment : Fragment) (stem key : String) (valid : isStem stem = true)
      (twice : 2 ≤ ((fragment.given stem).map (·.1)).count key) :
      Refusal bindings (mergeFragment fragment stem) (.duplicate key)
  | fragmentClash (fragment : Fragment) (stem key : String) (valid : isStem stem = true)
      (distinct : (fragment.entries.map (·.1)).Nodup)
      (least : IsLeastClash ((fragment.given stem).map (·.1)) bindings key) :
      Refusal bindings (mergeFragment fragment stem) (.duplicate key)

variable {addition : Addition} {bindings : Variables}

/-- An addition is carried out in place as a whole or not at all. -/
theorem outcome_inPlace (addition : Addition) (bindings : Variables) :
    addition.inPlace.outcome bindings = bindings.settled (addition.apply bindings) := by
  cases addition with
  | insert key value => exact outcome_insert key value bindings
  | merge added => exact outcome_merge added bindings
  | mergeFragment fragment stem =>
    show Change.outcome (MonadExcept.ofExcept (fragment.render stem) >>= Change.merge) bindings =
      bindings.settled ((fragment.render stem).bind bindings.merge)
    rw [Change.outcome_bind, Change.outcome_ofExcept]
    cases fragment.render stem with
    | error error => rfl
    | ok added => exact outcome_merge added bindings

/-- An addition that is not faulty gathers what was given before and what it brings along. -/
theorem gathers_apply {given : List (String × String)} (isPlain : addition.IsPlain)
    (sound : ¬ addition.IsFaulty) (gathers : Gathers given (.ok bindings)) :
    Gathers (given ++ addition.pairs) (addition.apply bindings) := by
  cases addition with
  | insert key value => exact gathers.insert key value
  | merge added => exact gathers.merge (Gathers.self added)
  | mergeFragment fragment stem =>
    obtain ⟨valid, distinct⟩ := not_or.1 sound
    have rendered := Fragment.IsPlain.gathers isPlain (eq_true_of_ne_false valid)
    show Gathers (given ++ fragment.given stem) ((fragment.render stem).bind bindings.merge)
    generalize fragment.render stem = result at rendered
    cases rendered with
    | gathered added same => exact gathers.merge (.gathered added same)
    | repeated key twice =>
      exact (Gathers.repeated key twice).mono (List.sublist_append_right _ _)

/-- A faulty addition is refused. -/
theorem isError_of_isFaulty (isPlain : addition.IsPlain) (faulty : addition.IsFaulty)
    (bindings : Variables) : ∃ error, addition.apply bindings = .error error := by
  cases addition with
  | insert key value => exact faulty.elim
  | merge added => exact faulty.elim
  | mergeFragment fragment stem =>
    show ∃ error, (fragment.render stem).bind bindings.merge = .error error
    cases valid : isStem stem with
    | false =>
      exact ⟨_, by rw [Fragment.IsPlain.render_of_not_isStem isPlain valid]; rfl⟩
    | true =>
      have repeats := faulty.resolve_left (by rw [valid]; exact Bool.noConfusion)
      have rendered := Fragment.IsPlain.gathers isPlain valid
      obtain ⟨error, isError⟩ :=
        rendered.isError_iff.2 (mt (fragment.nodup_given_iff stem).1 repeats)
      exact ⟨error, by rw [isError]; rfl⟩

/-- What an addition brings along that is not faulty has names of its own. -/
theorem nodup_names (sound : ¬ addition.IsFaulty) : addition.names.Nodup := by
  cases addition with
  | insert key value => exact List.nodup_singleton key
  | merge added => exact added.ascending.nodup_keys
  | mergeFragment fragment stem =>
    exact (fragment.nodup_given_iff stem).2 (Decidable.not_not.1 (not_or.1 sound).2)

/-- An addition is refused if and only if it is faulty or brings along what is set already. -/
theorem isError_apply_iff (isPlain : addition.IsPlain) (bindings : Variables) :
    (∃ error, addition.apply bindings = .error error) ↔ addition.IsRefused bindings := by
  by_cases faulty : addition.IsFaulty
  · exact iff_of_true (isError_of_isFaulty isPlain faulty bindings) (.inl faulty)
  · rw [(gathers_apply isPlain faulty (Gathers.self bindings)).isError_iff, List.map_append,
      List.nodup_append]
    constructor
    · intro repeats
      by_contra fits
      refine repeats ⟨bindings.ascending.nodup_keys, nodup_names faulty, ?_⟩
      rintro key before other now rfl
      exact fits (.inr ⟨key, now, ((Gathers.self bindings).contains_iff key).2 before⟩)
    · rintro (isFaulty | ⟨key, now, isSet⟩) ⟨-, -, apart⟩
      · exact faulty isFaulty
      · exact apart key (((Gathers.self bindings).contains_iff key).1 isSet) key now rfl

/-- The name that a merge finds to be set already is the first one. -/
theorem isLeastClash_of_find? {added : Variables} {key : String}
    (found : added.keys.find? bindings.contains = some key) :
    IsLeastClash added.keys bindings key := by
  obtain ⟨isSet, before, after, split, free⟩ := List.find?_eq_some_iff_append.1 found
  have order : added.keys.Pairwise (· < ·) := List.pairwise_map.2 added.ascending
  rw [split] at order
  refine ⟨List.mem_of_find?_eq_some found, isSet, fun other member otherSet => ?_⟩
  rw [split] at member
  rcases List.mem_append.1 member with earlier | here
  · have notSet := free other earlier
    rw [otherSet] at notSet
    cases notSet
  · rcases List.mem_cons.1 here with same | later
    · exact .inl same
    · have above := List.rel_of_pairwise_cons (List.pairwise_append.1 order).2.1 later
      exact .inr ((bytesOf_lt_iff key other).2 above)

theorem isLeastClash_of_merge {added : Variables} {error : VariableError}
    (isError : bindings.merge added = .error error) :
    ∃ key, error = .duplicate key ∧ IsLeastClash added.keys bindings key := by
  unfold Variables.merge at isError
  split at isError
  next key found =>
    cases isError
    exact ⟨key, rfl, isLeastClash_of_find? found⟩
  next => cases isError

/-- Which name is the first that is set already does not depend on how the names are listed. -/
theorem IsLeastClash.perm {names others : List String} {key : String}
    (least : IsLeastClash names bindings key) (same : names.Perm others) :
    IsLeastClash others bindings key where
  isAdded := same.mem_iff.1 least.isAdded
  isSet := least.isSet
  least other member := least.least other (same.mem_iff.2 member)

/-- What an addition is refused for is said. -/
theorem refusal_of_apply (isPlain : addition.IsPlain) {error : VariableError}
    (isError : addition.apply bindings = .error error) : Refusal bindings addition error := by
  cases addition with
  | insert key value =>
    have inserted : bindings.insert key value = .error error := isError
    unfold Variables.insert at inserted
    split at inserted
    · cases inserted
      exact .isSet key value
    · cases inserted
  | merge added =>
    obtain ⟨key, rfl, least⟩ := isLeastClash_of_merge isError
    exact .clash added key least
  | mergeFragment fragment stem =>
    have merged : (fragment.render stem).bind bindings.merge = .error error := isError
    cases valid : isStem stem with
    | false =>
      rw [Fragment.IsPlain.render_of_not_isStem isPlain valid] at merged
      cases merged
      exact .invalidStem fragment stem valid
    | true =>
      have rendered := Fragment.IsPlain.gathers isPlain valid
      generalize fragment.render stem = result at rendered merged
      cases rendered with
      | repeated key twice =>
        cases merged
        exact .repeated fragment stem key valid twice
      | gathered added same =>
        obtain ⟨key, rfl, least⟩ := isLeastClash_of_merge merged
        have distinct := (Gathers.gathered added same).nodup
        exact .fragmentClash fragment stem key valid ((fragment.nodup_given_iff stem).1 distinct)
          (least.perm (same.map _))

/-- An addition that is not refused adds what it brings along and nothing else. -/
theorem perm_of_apply (isPlain : addition.IsPlain) {changed : Variables}
    (isChanged : addition.apply bindings = .ok changed) :
    changed.entries.Perm (bindings.entries ++ addition.pairs) := by
  have sound : ¬ addition.IsFaulty := by
    intro faulty
    obtain ⟨error, isError⟩ := isError_of_isFaulty isPlain faulty bindings
    rw [isError] at isChanged
    cases isChanged
  have gathers := gathers_apply isPlain sound (Gathers.self bindings)
  rw [isChanged] at gathers
  exact gathers.perm

/-- What becomes of an addition: it is refused and nothing is changed, or it adds what it brings
along. -/
inductive Account (addition : Addition) (bindings : Variables) :
    Except VariableError Unit × Variables → Prop where
  | refused (error : VariableError) (isRefused : addition.IsRefused bindings)
      (refusal : Refusal bindings addition error) :
      Account addition bindings (.error error, bindings)
  | added (changed : Variables) (isSound : ¬ addition.IsRefused bindings)
      (adds : changed.entries.Perm (bindings.entries ++ addition.pairs)) :
      Account addition bindings (.ok (), changed)

theorem account_inPlace (isPlain : addition.IsPlain) (bindings : Variables) :
    addition.Account bindings (addition.inPlace.outcome bindings) := by
  have isError_iff := isError_apply_iff isPlain bindings
  rw [outcome_inPlace]
  cases applied : addition.apply bindings with
  | error error =>
    exact .refused error (isError_iff.1 ⟨error, applied⟩) (refusal_of_apply isPlain applied)
  | ok changed =>
    refine .added changed (fun isRefused => ?_) (perm_of_apply isPlain applied)
    obtain ⟨error, isError⟩ := isError_iff.2 isRefused
    rw [applied] at isError
    cases isError

end Addition

/-! ### Histories -/

/-- The variables after additions, of which some may have been refused. -/
def after : List Addition → Variables → Variables
  | [], bindings => bindings
  | addition :: rest, bindings => after rest (addition.inPlace.outcome bindings).2

/-- The additions that were not refused. -/
def accepted : List Addition → Variables → List Addition
  | [], _ => []
  | addition :: rest, bindings =>
    match addition.inPlace.outcome bindings with
    | (.ok (), changed) => addition :: accepted rest changed
    | (.error _, changed) => accepted rest changed

theorem after_append (first second : List Addition) (bindings : Variables) :
    after (first ++ second) bindings = after second (after first bindings) := by
  induction first generalizing bindings with
  | nil => rfl
  | cons addition rest inductionHypothesis => exact inductionHypothesis _

variable {additions : List Addition}

/-- After a history, what was set before it is set and what its accepted additions brought along. -/
theorem perm_after (arePlain : ∀ addition ∈ additions, addition.IsPlain) (bindings : Variables) :
    (after additions bindings).entries.Perm
      (bindings.entries ++ (accepted additions bindings).flatMap Addition.pairs) := by
  induction additions generalizing bindings with
  | nil =>
    rw [accepted, List.flatMap_nil, List.append_nil]
    exact .refl _
  | cons addition rest inductionHypothesis =>
    have account := Addition.account_inPlace (arePlain addition List.mem_cons_self) bindings
    have arePlainToo := fun other member => arePlain other (List.mem_cons_of_mem _ member)
    unfold after accepted
    generalize addition.inPlace.outcome bindings = outcome at account
    cases account with
    | refused error _ _ => exact inductionHypothesis arePlainToo bindings
    | added changed _ adds =>
      rw [List.flatMap_cons, ← List.append_assoc]
      exact (inductionHypothesis arePlainToo changed).trans (adds.append_right _)

/-- What is set stays as it is. -/
theorem get?_after (arePlain : ∀ addition ∈ additions, addition.IsPlain) {bindings : Variables}
    {key value : String} (isSet : bindings.get? key = some value) :
    (after additions bindings).get? key = some value := by
  have member := (bindings.ascending.lookup_eq_some_iff key value).1 isSet
  refine ((after additions bindings).ascending.lookup_eq_some_iff key value).2 ?_
  exact (perm_after arePlain bindings).mem_iff.2 (List.mem_append_left _ member)

/-- Names are listed in the order of their bytes, and none of them twice. -/
theorem pairwise_keys (bindings : Variables) :
    bindings.keys.Pairwise fun first second => bytesOf first < bytesOf second :=
  List.pairwise_map.2 (bindings.ascending.imp fun below => (bytesOf_lt_iff _ _).2 below)

/-- In every history of additions to no variables, each addition is refused if and only if it would
set a variable that is set already, has no valid stem or repeats a key; nothing is changed then, and
a merge that is refused tells the first of the names that are set already. Otherwise what it brings
along is added and nothing else. A variable is therefore as it was first set, there are as many as
the accepted additions brought along, and they are listed in the order of the bytes of their
names. -/
theorem additions_account (additions : List Addition)
    (arePlain : ∀ addition ∈ additions, addition.IsPlain) :
    (∀ before addition later, additions = before ++ addition :: later →
      addition.inPlace.outcome (after before .empty) =
        (after before .empty).settled (addition.apply (after before .empty)) ∧
      addition.Account (after before .empty) (addition.inPlace.outcome (after before .empty))) ∧
    (∀ before later, additions = before ++ later → ∀ key value,
      (after before .empty).get? key = some value →
        (after additions .empty).get? key = some value) ∧
    (after additions .empty).entries.Perm
      ((accepted additions .empty).flatMap Addition.pairs) ∧
    (after additions .empty).size =
      ((accepted additions .empty).flatMap Addition.pairs).length ∧
    (after additions .empty).keys.Pairwise fun first second => bytesOf first < bytesOf second := by
  have perm := perm_after arePlain .empty
  refine ⟨?_, ?_, perm, ?_, pairwise_keys _⟩
  · rintro before addition later rfl
    have isPlain := arePlain addition (List.mem_append_right _ List.mem_cons_self)
    exact ⟨addition.outcome_inPlace _, Addition.account_inPlace isPlain _⟩
  · rintro before later rfl key value isSet
    rw [after_append]
    exact get?_after (fun addition member => arePlain addition (List.mem_append_right _ member))
      isSet
  · exact perm.length_eq

/-- Variables of which two are set by the first additions of the history below. -/
def overlapping : Variables where
  entries := [("SVC_A", "x"), ("SVC_Z", "y"), ("SVC_\u00c9", "z")]
  ascending := by unfold Sorted.Ascending; decide +kernel

/-- A history with additions of each kind, of which a merge, a repeated fragment and a fragment
without a valid stem are refused. -/
def mixedHistory : List Addition :=
  [.insert "SVC_\u00c9" "1", .insert "SVC_Z" "2", .merge overlapping,
    .mergeFragment (ReportTarget.disabled).fragment "SVC",
    .mergeFragment (ReportTarget.disabled).fragment "SVC",
    .mergeFragment (ReportTarget.disabled).fragment "1SVC"]

/-- The refused merge tells the first name that is set already and leaves what was set; four
variables come of the history. -/
theorem additions_account_mixed :
    (∃ key, (Addition.merge overlapping).inPlace.outcome (after (mixedHistory.take 2) .empty) =
        (.error (.duplicate key), after (mixedHistory.take 2) .empty) ∧
      Addition.IsLeastClash overlapping.keys (after (mixedHistory.take 2) .empty) key) ∧
    (after mixedHistory .empty).get? "SVC_Z" = some "2" ∧
    (after mixedHistory .empty).size = 4 := by
  have arePlain : ∀ addition ∈ mixedHistory, addition.IsPlain := by
    simp only [mixedHistory, List.forall_mem_cons]
    exact ⟨trivial, trivial, trivial, rfl, rfl, rfl, by simp⟩
  obtain ⟨each, stays, -, size, -⟩ := additions_account mixedHistory arePlain
  refine ⟨?_, ?_, size.trans (by decide +kernel)⟩
  · obtain ⟨-, account⟩ := each (mixedHistory.take 2) (.merge overlapping) (mixedHistory.drop 3) rfl
    generalize (Addition.merge overlapping).inPlace.outcome _ = outcome at account
    cases account with
    | added changed isSound _ =>
      refine absurd (.inr ⟨"SVC_Z", ?_, ?_⟩) isSound <;> decide +kernel
    | refused error _ refusal =>
      cases refusal with
      | clash _ key least => exact ⟨key, rfl, least⟩
  · exact stays (mixedHistory.take 2) _ rfl _ _ (by decide +kernel)

end Variables

end Testbed
