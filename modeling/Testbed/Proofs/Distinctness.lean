/-
This file proves that fragments with sections of their own never clash. A name is built by plain
concatenation, and keys may hold the separator too, but its first double underscore stands behind
the section; so names are equal only for one section and one key, and no setting without a double
underscore has the name of an entry. Whatever is added under one stem is therefore accepted in every
order, with the same variables in the end.
-/

import Testbed.Proofs.Additions
import Testbed.Proofs.Choices

namespace Testbed

namespace Variables

/-- The variables after additions, up to the first that is refused. -/
def addAll : List Addition → Variables → Except VariableError Variables
  | [], bindings => .ok bindings
  | addition :: rest, bindings =>
    match addition.apply bindings with
    | .error error => .error error
    | .ok changed => addAll rest changed

variable {additions : List Addition} {given : List (String × String)} {bindings : Variables}

/-- Additions that are not faulty gather what was given before and what they bring along. -/
theorem gathers_addAll (arePlain : ∀ addition ∈ additions, addition.IsPlain)
    (areSound : ∀ addition ∈ additions, ¬ addition.IsFaulty)
    (gathers : Gathers given (.ok bindings)) :
    Gathers (given ++ additions.flatMap Addition.pairs) (addAll additions bindings) := by
  induction additions generalizing given bindings with
  | nil =>
    rw [List.flatMap_nil, List.append_nil]
    exact gathers
  | cons addition rest inductionHypothesis =>
    have applied := Addition.gathers_apply (arePlain addition List.mem_cons_self)
      (areSound addition List.mem_cons_self) gathers
    have arePlainToo := fun other member => arePlain other (List.mem_cons_of_mem _ member)
    have areSoundToo := fun other member => areSound other (List.mem_cons_of_mem _ member)
    unfold addAll
    rw [List.flatMap_cons, ← List.append_assoc]
    generalize addition.apply bindings = result at applied
    cases applied with
    | gathered changed same =>
      exact inductionHypothesis arePlainToo areSoundToo (.gathered changed same)
    | repeated key twice =>
      exact (Gathers.repeated key twice).mono (List.sublist_append_left _ _)

/-- The additions of fragments and of settings under a stem. -/
def additionsUnder (stem : String) (fragments : List Fragment)
    (settings : List (String × String)) : List Addition :=
  fragments.map (.mergeFragment · stem) ++
    settings.map fun setting => .insert (settingName stem setting.1) setting.2

section AdditionsUnder

variable {stem : String} {fragments : List Fragment} {settings : List (String × String)}

theorem pairs_additionsUnder :
    (additionsUnder stem fragments settings).flatMap Addition.pairs =
      fragments.flatMap (Fragment.given · stem) ++
        settings.map fun setting => (settingName stem setting.1, setting.2) := by
  unfold additionsUnder
  rw [List.flatMap_append, List.flatMap_map, List.flatMap_map]
  congr 1
  exact List.map_eq_flatMap.symm

theorem isPlain_additionsUnder (areProper : AreProper fragments settings) :
    ∀ addition ∈ additionsUnder stem fragments settings, addition.IsPlain := by
  intro addition member
  rcases List.mem_append.1 member with ofFragment | ofSetting
  · obtain ⟨fragment, isOne, rfl⟩ := List.mem_map.1 ofFragment
    exact (areProper.each fragment isOne).isPlain
  · obtain ⟨setting, -, rfl⟩ := List.mem_map.1 ofSetting
    trivial

theorem not_isFaulty_additionsUnder (valid : isStem stem = true)
    (areProper : AreProper fragments settings) :
    ∀ addition ∈ additionsUnder stem fragments settings, ¬ addition.IsFaulty := by
  intro addition member faulty
  rcases List.mem_append.1 member with ofFragment | ofSetting
  · obtain ⟨fragment, isOne, rfl⟩ := List.mem_map.1 ofFragment
    rcases faulty with invalid | repeats
    · rw [valid] at invalid
      cases invalid
    · exact repeats (areProper.each fragment isOne).keys
  · obtain ⟨setting, -, rfl⟩ := List.mem_map.1 ofSetting
    exact faulty

/-- Fragments with sections of their own and settings that look like no entry are added in every
order, with the same variables in the end. -/
theorem exists_addAll (valid : isStem stem = true) (areProper : AreProper fragments settings) :
    ∃ bindings : Variables,
      bindings.entries.Perm (fragments.flatMap (Fragment.given · stem) ++
        settings.map fun setting => (settingName stem setting.1, setting.2)) ∧
      ∀ additions : List Addition,
        additions.Perm (additionsUnder stem fragments settings) →
          addAll additions .empty = .ok bindings := by
  have succeeds (additions : List Addition)
      (same : additions.Perm (additionsUnder stem fragments settings)) :
      ∃ bindings : Variables, addAll additions .empty = .ok bindings ∧
        bindings.entries.Perm (fragments.flatMap (Fragment.given · stem) ++
          settings.map fun setting => (settingName stem setting.1, setting.2)) := by
    have gathers := gathers_addAll
      (fun addition member => isPlain_additionsUnder areProper addition (same.mem_iff.1 member))
      (fun addition member =>
        not_isFaulty_additionsUnder valid areProper addition (same.mem_iff.1 member))
      Gathers.empty
    have given := same.flatMap_right Addition.pairs
    rw [pairs_additionsUnder] at given
    have distinct := ((given.map (·.1)).nodup_iff).2 (areProper.nodup_given stem)
    rw [List.nil_append] at gathers
    cases result : addAll additions .empty with
    | error error =>
      exact absurd distinct (gathers.isError_iff.1 ⟨error, result⟩)
    | ok bindings =>
      rw [result] at gathers
      exact ⟨bindings, rfl, gathers.perm.trans given⟩
  obtain ⟨bindings, -, perm⟩ := succeeds _ (.refl _)
  refine ⟨bindings, perm, fun additions same => ?_⟩
  obtain ⟨others, isResult, permToo⟩ := succeeds additions same
  have entries := others.ascending.eq_of_perm bindings.ascending (permToo.trans perm.symm)
  obtain ⟨_, _⟩ := others
  cases entries
  exact isResult

end AdditionsUnder

/-- Under a valid stem, names of entries are equal only for one section and one key, if no section
has a double underscore or an underscore at its end; keys may have any. This holds of the sections
of all fragments there are. No entry has the name of a setting without a double underscore. Of such
fragments with sections of their own, none of which repeats a key, and of such settings with keys of
their own, any number is added in any order, with the same variables in the end, and every launch of
them is rendered. -/
theorem names_account (stem : String) (valid : isStem stem = true) :
    (∀ name, isSectionName name = true ↔
      hasSeparator name.toList = false ∧ name.toList.getLast? ≠ some '_') ∧
    (∀ first second, isSectionName first = true → isSectionName second = true → ∀ key other,
      entryName stem first key = entryName stem second other ↔ first = second ∧ key = other) ∧
    (∀ sectionName key setting, hasSeparator setting.toList = false →
      entryName stem sectionName key ≠ settingName stem setting) ∧
    (∀ fragments settings, AreProper fragments settings →
      ∃ bindings : Variables,
        bindings.entries.Perm (fragments.flatMap (Fragment.given · stem) ++
          settings.map fun setting => (settingName stem setting.1, setting.2)) ∧
        ∀ additions : List Addition,
          additions.Perm (additionsUnder stem fragments settings) →
            addAll additions .empty = .ok bindings) ∧
    (∀ launch : Launch, launch.IsSupported → launch.IsProper →
      ∃ plan, launch.render = .ok plan) ∧
    (∀ input : EventInput, input.fragment.IsProper) ∧
    (∀ report : ReportTarget, report.fragment.IsProper) ∧
    (∀ monitoring : Monitoring, monitoring.fragment.IsProper) ∧
    (∀ storage : Storage, storage.fragment.IsProper) ∧
    (∀ listener : Listener, listener.fragment.IsProper) ∧
    ∀ service : ObjectBuilder, service.services.IsProper := by
  refine ⟨isSectionName_iff, fun first second isName isNameToo key other =>
    entryName_inj isName isNameToo, fun sectionName key setting plain =>
    (settingName_ne_entryName plain).symm, fun fragments settings => exists_addAll valid,
    fun launch supported isProper => ?_, EventInput.isProper_fragment,
    ReportTarget.isProper_fragment, Monitoring.isProper_fragment, Storage.isProper_fragment,
    Listener.isProper_fragment, ObjectBuilder.isProper_services⟩
  have rendered := Launch.rendered_render isProper.arePlain supported
  exact rendered.exists_plan_iff.2 isProper.nodup_given

/-- A fragment whose keys have the separator themselves. -/
def ambiguous (sectionName : String) : Fragment where
  sectionName
  entries := [("B__C", "1"), ("_C", "2"), ("__", "3")]

/-- A setting, two fragments with the separator in their keys and another setting are added one
after another, and all eight variables are set. -/
theorem names_account_separated :
    ∃ bindings : Variables,
      addAll [.insert "SVC_A_B" "4", .mergeFragment (ambiguous "A_B") "SVC",
        .insert "SVC_C" "5", .mergeFragment (ambiguous "A") "SVC"] .empty = .ok bindings ∧
      bindings.size = 8 ∧ bindings.get? "SVC_A__B__C" = some "1" := by
  have areProper : AreProper [ambiguous "A_B", ambiguous "A"] [("A_B", "4"), ("C", "5")] := by
    refine ⟨?_, by decide, by decide, by decide⟩
    simp only [List.forall_mem_cons]
    exact ⟨⟨rfl, by decide, by decide⟩, ⟨rfl, by decide, by decide⟩, by simp⟩
  obtain ⟨-, -, -, arranged, -⟩ := names_account "SVC" (by decide)
  obtain ⟨bindings, perm, succeeds⟩ := arranged _ _ areProper
  refine ⟨bindings, succeeds _ ?_, perm.length_eq, ?_⟩
  · exact (List.Perm.swap _ _ _).trans ((List.perm_append_singleton _ [_, _]).cons _)
  · exact (bindings.ascending.lookup_eq_some_iff _ _).2 (perm.mem_iff.2 (by decide +kernel))

end Variables

end Testbed
