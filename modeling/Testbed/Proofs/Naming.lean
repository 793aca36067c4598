/-
This file proves that the name of a variable tells where it comes from. The first double underscore
in the name of an entry stands behind its section, so entries of other sections or with other keys
have other names, and a setting without a double underscore has the name of no entry. A launch whose
fragments have different sections therefore gives no name twice, and what is found under a name is
what was given for it. All names begin with the stem of the role, which is found in front of no name
of another role.
-/

import Testbed.Proofs.Rendering

namespace Testbed

open Text

/-! ### Names of sections and keys -/

/-- Whether a text has a double underscore. -/
def hasSeparator (text : List Char) : Bool :=
  occursIn ['_', '_'] text

/-- Whether the first double underscore behind the name of a section does not begin in the name. -/
def isSectionName (sectionName : String) : Bool :=
  !hasSeparator (sectionName.toList ++ ['_'])

/-- A name is one of a section if it has no double underscore and no underscore at its end. -/
theorem isSectionName_iff (sectionName : String) :
    isSectionName sectionName = true ↔
      hasSeparator sectionName.toList = false ∧ sectionName.toList.getLast? ≠ some '_' := by
  unfold isSectionName hasSeparator
  rw [Bool.not_eq_true', Bool.eq_false_iff, Bool.eq_false_iff, ne_eq, ne_eq, ne_eq, occursIn_iff,
    occursIn_iff, List.infix_concat_iff, List.suffix_concat_iff,
    ← List.singleton_suffix_iff_getLast?_eq_some]
  constructor
  · intro apart
    refine ⟨fun inside => apart (.inr inside), fun atEnd => apart (.inl (.inr ⟨['_'], rfl, atEnd⟩))⟩
  · rintro ⟨notInside, notAtEnd⟩ ((isEmpty | ⟨front, same, atEnd⟩) | inside)
    · cases isEmpty
    · have same : ['_'] ++ ['_'] = front ++ ['_'] := same
      obtain rfl : ['_'] = front := List.append_cancel_right same
      exact notAtEnd atEnd
    · exact notInside inside

theorem hasSeparator_append (before after : List Char) :
    hasSeparator (before ++ '_' :: '_' :: after) = true :=
  (occursIn_iff _ _).2 ⟨before, after, by rw [List.append_assoc]; rfl⟩

/-- Only the empty text can be put between the name of a section and its double underscore. -/
theorem eq_nil_of_section {name between key other : List Char}
    (valid : hasSeparator (name ++ between ++ ['_']) = false)
    (same : '_' :: '_' :: key = between ++ '_' :: '_' :: other) : between = [] := by
  match between with
  | [] => rfl
  | [first] =>
    obtain ⟨rfl, -⟩ := List.cons.inj same
    rw [List.append_assoc] at valid
    exact absurd (hasSeparator_append name []) (Bool.eq_false_iff.1 valid)
  | first :: second :: rest =>
    obtain ⟨rfl, sameRest⟩ := List.cons.inj same
    obtain ⟨rfl, -⟩ := List.cons.inj sameRest
    rw [List.append_assoc] at valid
    exact absurd (hasSeparator_append name (rest ++ ['_'])) (Bool.eq_false_iff.1 valid)

/-- A text is split at its first double underscore in one way only. -/
theorem split_eq {first second key other : List Char}
    (valid : hasSeparator (first ++ ['_']) = false)
    (validToo : hasSeparator (second ++ ['_']) = false)
    (same : first ++ '_' :: '_' :: key = second ++ '_' :: '_' :: other) :
    first = second ∧ key = other := by
  rcases List.append_eq_append_iff.1 same with ⟨between, rfl, rest⟩ | ⟨between, rfl, rest⟩
  · obtain rfl := eq_nil_of_section validToo rest
    simpa using rest
  · obtain rfl := eq_nil_of_section valid rest
    simpa [eq_comm] using rest

variable {stem : String}

theorem toList_entryName (sectionName key : String) :
    (entryName stem sectionName key).toList =
      (stem ++ "_").toList ++ (sectionName.toList ++ '_' :: '_' :: key.toList) := by
  simp [entryName]

theorem toList_settingName (key : String) :
    (settingName stem key).toList = (stem ++ "_").toList ++ key.toList := by
  simp [settingName]

/-- Entries with one name are of one section and have one key. -/
theorem entryName_inj {first second key other : String} (valid : isSectionName first = true)
    (validToo : isSectionName second = true) :
    entryName stem first key = entryName stem second other ↔ first = second ∧ key = other := by
  constructor
  · intro same
    have lists := congrArg String.toList same
    rw [toList_entryName, toList_entryName] at lists
    obtain ⟨sections, keys⟩ := split_eq (Bool.not_eq_true' _ ▸ valid)
      (Bool.not_eq_true' _ ▸ validToo) (List.append_cancel_left lists)
    exact ⟨String.toList_inj.1 sections, String.toList_inj.1 keys⟩
  · rintro ⟨rfl, rfl⟩
    rfl

/-- In one section, whatever its name, entries with one name have one key. -/
theorem entryName_right_inj (sectionName : String) {key other : String} :
    entryName stem sectionName key = entryName stem sectionName other ↔ key = other := by
  constructor
  · intro same
    have lists := congrArg String.toList same
    rw [toList_entryName, toList_entryName] at lists
    have keys := List.append_cancel_left (List.append_cancel_left lists)
    exact String.toList_inj.1 (List.cons.inj (List.cons.inj keys).2).2
  · rintro rfl
    rfl

theorem settingName_inj {key other : String} :
    settingName stem key = settingName stem other ↔ key = other := by
  constructor
  · intro same
    have lists := congrArg String.toList same
    rw [toList_settingName, toList_settingName] at lists
    exact String.toList_inj.1 (List.append_cancel_left lists)
  · rintro rfl
    rfl

/-- A setting without a double underscore has the name of no entry. -/
theorem settingName_ne_entryName {sectionName key other : String}
    (plain : hasSeparator key.toList = false) :
    settingName stem key ≠ entryName stem sectionName other := by
  intro same
  have lists := congrArg String.toList same
  rw [toList_settingName, toList_entryName] at lists
  rw [List.append_cancel_left lists, hasSeparator_append] at plain
  cases plain

/-! ### Names of roles -/

/-- No name begins with the stems of two roles. -/
theorem Role.eq_of_isPrefix {first second : Role} {name : List Char}
    (begins : (first.stem ++ "_").toList <+: name)
    (beginsToo : (second.stem ++ "_").toList <+: name) : first = second := by
  have nested := List.prefix_or_prefix_of_prefix begins beginsToo
  revert nested
  cases first <;> cases second <;> decide

/-! ### The names of a launch -/

/-- A fragment whose names tell its section and no key twice. -/
structure Fragment.IsProper (fragment : Fragment) : Prop where
  isPlain : fragment.IsPlain
  sectionName : isSectionName fragment.sectionName = true
  keys : (fragment.entries.map (·.1)).Nodup

/-- Fragments with sections of their own, and settings that look like no entry. -/
structure AreProper (fragments : List Fragment) (settings : List (String × String)) : Prop where
  each : ∀ fragment ∈ fragments, fragment.IsProper
  sections : (fragments.map (·.sectionName)).Nodup
  keys : (settings.map (·.1)).Nodup
  plain : ∀ key ∈ settings.map (·.1), hasSeparator key.toList = false

/-- A launch whose fragments have sections of their own, and settings that look like no entry. -/
structure Launch.IsProper (launch : Launch) : Prop where
  fragments : ∀ fragment ∈ launch.allFragments, fragment.IsProper
  sections : (launch.allFragments.map (·.sectionName)).Nodup
  keys : (launch.settings.map (·.1)).Nodup
  plain : ∀ key ∈ launch.settings.map (·.1), hasSeparator key.toList = false

namespace Fragment

variable {fragment other : Fragment}

theorem keys_given (fragment : Fragment) (stem : String) :
    (fragment.given stem).map (·.1) =
      (fragment.entries.map (·.1)).map (entryName stem fragment.sectionName) := by
  unfold given
  rw [List.map_map, List.map_map]
  rfl

/-- A fragment gives no name twice if and only if it repeats no key. -/
theorem nodup_given_iff (fragment : Fragment) (stem : String) :
    ((fragment.given stem).map (·.1)).Nodup ↔ (fragment.entries.map (·.1)).Nodup := by
  rw [keys_given]
  exact List.nodup_map_iff fun key other => (entryName_right_inj _).1

/-- Fragments of different sections give no name both. -/
theorem IsProper.disjoint_given (isProper : fragment.IsProper) (isProperToo : other.IsProper)
    (apart : fragment.sectionName ≠ other.sectionName) (stem : String) :
    ((fragment.given stem).map (·.1)).Disjoint ((other.given stem).map (·.1)) := by
  rw [keys_given, keys_given]
  intro name member memberToo
  obtain ⟨key, -, rfl⟩ := List.mem_map.1 member
  obtain ⟨otherKey, -, same⟩ := List.mem_map.1 memberToo
  exact apart ((entryName_inj isProperToo.sectionName isProper.sectionName).1 same).1.symm

/-- What a fragment gives under the name of an entry is an entry of its own. -/
theorem IsProper.mem_given_iff (isProper : fragment.IsProper) {sectionName : String}
    (valid : isSectionName sectionName = true) (key value : String) :
    (entryName stem sectionName key, value) ∈ fragment.given stem ↔
      fragment.sectionName = sectionName ∧ (key, value) ∈ fragment.entries := by
  unfold given
  rw [List.mem_map]
  constructor
  · rintro ⟨⟨ownKey, ownValue⟩, member, same⟩
    obtain ⟨names, rfl⟩ := Prod.mk.inj same
    obtain ⟨rfl, rfl⟩ := (entryName_inj isProper.sectionName valid).1 names
    exact ⟨rfl, member⟩
  · rintro ⟨rfl, member⟩
    exact ⟨(key, value), member, rfl⟩

end Fragment

/-! ### Names of fragments and settings -/

section AreProper

variable {fragments : List Fragment} {settings : List (String × String)}

theorem keys_settings (settings : List (String × String)) (stem : String) :
    (settings.map fun setting => (settingName stem setting.1, setting.2)).map (·.1) =
      (settings.map (·.1)).map (settingName stem) := by
  rw [List.map_map, List.map_map]
  rfl

theorem nodup_fragments (areProper : ∀ fragment ∈ fragments, fragment.IsProper)
    (sections : (fragments.map (·.sectionName)).Nodup) (stem : String) :
    ((fragments.flatMap (Fragment.given · stem)).map (·.1)).Nodup := by
  rw [List.map_flatMap]
  refine List.nodup_flatMap.2 ⟨fun fragment member => ?_, ?_⟩
  · exact (fragment.nodup_given_iff _).2 (areProper fragment member).keys
  · refine (List.pairwise_map.1 sections).imp_of_mem fun member memberToo apart => ?_
    exact (areProper _ member).disjoint_given (areProper _ memberToo) apart _

/-- No name is given twice. -/
theorem AreProper.nodup_given (areProper : AreProper fragments settings) (stem : String) :
    ((fragments.flatMap (Fragment.given · stem) ++
      settings.map fun setting => (settingName stem setting.1, setting.2)).map (·.1)).Nodup := by
  rw [List.map_append]
  refine List.nodup_append.2
    ⟨nodup_fragments areProper.each areProper.sections stem, ?_, ?_⟩
  · rw [keys_settings]
    exact areProper.keys.map fun key other => settingName_inj.1
  · intro name member other memberToo same
    rw [List.map_flatMap, List.mem_flatMap] at member
    obtain ⟨fragment, -, ofFragment⟩ := member
    rw [Fragment.keys_given] at ofFragment
    obtain ⟨key, -, rfl⟩ := List.mem_map.1 ofFragment
    rw [keys_settings] at memberToo
    obtain ⟨settingKey, ofSettings, rfl⟩ := List.mem_map.1 memberToo
    exact settingName_ne_entryName (areProper.plain settingKey ofSettings) same.symm

end AreProper

namespace Launch

variable {launch : Launch}

/-- What a launch gives under the name of a setting is the setting. -/
theorem mem_given_settingName_iff {key : String} (plain : hasSeparator key.toList = false)
    (value : String) :
    (settingName launch.role.stem key, value) ∈ launch.given ↔ (key, value) ∈ launch.settings := by
  unfold given
  rw [List.mem_append, List.mem_flatMap]
  constructor
  · rintro (⟨fragment, -, ofFragment⟩ | ofSettings)
    · obtain ⟨entry, -, same⟩ := List.mem_map.1 ofFragment
      exact absurd (Prod.mk.inj same).1.symm (settingName_ne_entryName plain)
    · obtain ⟨⟨ownKey, ownValue⟩, isSetting, same⟩ := List.mem_map.1 ofSettings
      obtain ⟨names, rfl⟩ := Prod.mk.inj same
      obtain rfl := settingName_inj.1 names
      exact isSetting
  · intro isSetting
    exact .inr (List.mem_map.2 ⟨(key, value), isSetting, rfl⟩)

/-- Every name of a launch begins with the stem of its role. -/
theorem isPrefix_of_mem_given {name : String} (member : name ∈ launch.given.map (·.1)) :
    (launch.role.stem ++ "_").toList <+: name.toList := by
  unfold given at member
  rw [List.map_append, keys_settings, List.map_flatMap] at member
  rcases List.mem_append.1 member with ofFragments | ofSettings
  · obtain ⟨fragment, -, ofFragment⟩ := List.mem_flatMap.1 ofFragments
    rw [Fragment.keys_given] at ofFragment
    obtain ⟨key, -, rfl⟩ := List.mem_map.1 ofFragment
    rw [toList_entryName]
    exact List.prefix_append _ _
  · obtain ⟨key, -, rfl⟩ := List.mem_map.1 ofSettings
    rw [toList_settingName]
    exact List.prefix_append _ _

namespace IsProper

theorem arePlain (isProper : launch.IsProper) :
    ∀ fragment ∈ launch.fragments, fragment.IsPlain :=
  fun fragment member => (isProper.fragments fragment (List.mem_append_left _ member)).isPlain

/-- No name is given twice. -/
theorem nodup_given (isProper : launch.IsProper) : (launch.given.map (·.1)).Nodup :=
  AreProper.nodup_given ⟨isProper.fragments, isProper.sections, isProper.keys, isProper.plain⟩ _

/-- What a launch gives under the name of an entry is an entry of the fragment of the section. -/
theorem mem_given_iff (isProper : launch.IsProper) {sectionName : String}
    (valid : isSectionName sectionName = true) (key value : String) :
    (entryName launch.role.stem sectionName key, value) ∈ launch.given ↔
      ∃ fragment ∈ launch.allFragments, fragment.sectionName = sectionName ∧
        (key, value) ∈ fragment.entries := by
  unfold given
  rw [List.mem_append, List.mem_flatMap]
  constructor
  · rintro (⟨fragment, member, ofFragment⟩ | ofSettings)
    · exact ⟨fragment, member, ((isProper.fragments _ member).mem_given_iff valid _ _).1 ofFragment⟩
    · obtain ⟨setting, isSetting, same⟩ := List.mem_map.1 ofSettings
      have plain := isProper.plain setting.1 (List.mem_map.2 ⟨setting, isSetting, rfl⟩)
      exact absurd (Prod.mk.inj same).1 (settingName_ne_entryName plain)
  · rintro ⟨fragment, member, ofFragment⟩
    exact .inl
      ⟨fragment, member, ((isProper.fragments _ member).mem_given_iff valid _ _).2 ofFragment⟩

end IsProper

end Launch

end Testbed
