/-
This file defines lists of entries in ascending order of their keys. Putting an entry in keeps the
order and replaces the value of a key that is there. The main statements are that the order is kept
and what is found under each key afterwards, and that entries with new keys are added to those that
are there. The order leaves one way only to list given entries.
-/

namespace Testbed.Sorted

variable {Value : Type}

/-- Entries in strictly ascending order of their keys, so that no key comes twice. -/
def Ascending (entries : List (String × Value)) : Prop :=
  entries.Pairwise fun first second => first.1 < second.1

/-- The entries with the value put under the key. -/
def put (key : String) (value : Value) : List (String × Value) → List (String × Value)
  | [] => [(key, value)]
  | (other, held) :: rest =>
    if key < other then (key, value) :: (other, held) :: rest
    else if key = other then (key, value) :: rest
    else (other, held) :: put key value rest

/-- The entries with many others put in, one after another. -/
def putAll (added : List (String × Value)) (entries : List (String × Value)) :
    List (String × Value) :=
  added.foldl (fun entries entry => put entry.1 entry.2 entries) entries

/-! ### Laws -/

theorem ascending_nil : Ascending ([] : List (String × Value)) := .nil

/-- An entry found after putting one in is that one or was there before. -/
theorem eq_or_mem_of_mem_put {key : String} {value : Value} {entry : String × Value}
    {entries : List (String × Value)} (found : entry ∈ put key value entries) :
    entry = (key, value) ∨ entry ∈ entries := by
  induction entries with
  | nil => simpa [put] using found
  | cons first rest inductionHypothesis =>
    obtain ⟨other, held⟩ := first
    unfold put at found
    split at found
    · simpa using found
    · split at found
      · rcases List.mem_cons.1 found with here | later
        · exact .inl here
        · exact .inr (List.mem_cons_of_mem _ later)
      · rcases List.mem_cons.1 found with here | later
        · exact .inr (here ▸ List.mem_cons_self)
        · exact (inductionHypothesis later).imp_right (List.mem_cons_of_mem _)

/-- Putting an entry in keeps the order. -/
theorem ascending_put (key : String) (value : Value) {entries : List (String × Value)}
    (order : Ascending entries) : Ascending (put key value entries) := by
  induction entries with
  | nil => exact List.pairwise_singleton _ _
  | cons first rest inductionHypothesis =>
    obtain ⟨other, held⟩ := first
    obtain ⟨above, orderRest⟩ := List.pairwise_cons.1 order
    unfold put
    split
    next below =>
      refine List.pairwise_cons.2 ⟨fun entry member => ?_, order⟩
      rcases List.mem_cons.1 member with here | later
      · exact here ▸ below
      · exact String.lt_trans below (above entry later)
    next notBelow =>
      split
      next same =>
        exact List.pairwise_cons.2 ⟨fun entry later => same ▸ above entry later, orderRest⟩
      next different =>
        refine List.pairwise_cons.2 ⟨fun entry member => ?_, inductionHypothesis orderRest⟩
        rcases eq_or_mem_of_mem_put member with here | later
        · exact here ▸ Std.lt_of_le_of_ne (String.not_lt.1 notBelow) (Ne.symm different)
        · exact above entry later

theorem ascending_putAll (added : List (String × Value)) {entries : List (String × Value)}
    (order : Ascending entries) : Ascending (putAll added entries) := by
  induction added generalizing entries with
  | nil => exact order
  | cons first rest inductionHypothesis => exact inductionHypothesis (ascending_put _ _ order)

/-- An entry found after putting entries in is one of those or was there before. -/
theorem mem_or_mem_of_mem_putAll {added entries : List (String × Value)} {entry : String × Value}
    (found : entry ∈ putAll added entries) : entry ∈ added ∨ entry ∈ entries := by
  induction added generalizing entries with
  | nil => exact .inr found
  | cons first rest inductionHypothesis =>
    obtain later | before := inductionHypothesis found
    · exact .inl (List.mem_cons_of_mem _ later)
    · refine (eq_or_mem_of_mem_put before).imp_left fun here => ?_
      rw [here]
      exact List.mem_cons_self

/-- What was put in is found under its key. -/
theorem lookup_put_self (key : String) (value : Value) (entries : List (String × Value)) :
    (put key value entries).lookup key = some value := by
  induction entries with
  | nil => simp [put]
  | cons first rest inductionHypothesis =>
    obtain ⟨other, held⟩ := first
    unfold put
    split
    · simp
    · split
      · simp
      next different =>
        have unequal : (key == other) = false := by simpa using different
        simp [List.lookup_cons, unequal, inductionHypothesis]

/-- Under every other key stands what stood there before. -/
theorem lookup_put_of_ne {key other : String} (different : other ≠ key) (value : Value)
    (entries : List (String × Value)) :
    (put key value entries).lookup other = entries.lookup other := by
  have unequal : (other == key) = false := by simpa using different
  induction entries with
  | nil => simp [put, List.lookup_cons, unequal]
  | cons first rest inductionHypothesis =>
    obtain ⟨name, held⟩ := first
    unfold put
    split
    · simp [List.lookup_cons, unequal]
    · split
      next same => simp [List.lookup_cons, unequal, ← same]
      next => simp [List.lookup_cons, inductionHypothesis]

/-! ### New keys -/

/-- No key comes twice in ascending entries. -/
theorem Ascending.nodup_keys {entries : List (String × Value)} (order : Ascending entries) :
    (entries.map (·.1)).Nodup :=
  List.pairwise_map.2 (order.imp Std.ne_of_lt)

/-- Entries are listed in ascending order in one way only. -/
theorem Ascending.eq_of_perm {first second : List (String × Value)} (order : Ascending first)
    (otherOrder : Ascending second) (same : first.Perm second) : first = second :=
  same.eq_of_pairwise
    (fun _ _ _ _ below above => absurd (String.lt_trans below above) (String.lt_irrefl _))
    order otherOrder

/-- What is found under a key is the entry with that key. -/
theorem Ascending.lookup_eq_some_iff {entries : List (String × Value)} (order : Ascending entries)
    (key : String) (value : Value) :
    entries.lookup key = some value ↔ (key, value) ∈ entries := by
  rw [List.lookup_eq_some_iff]
  constructor
  · rintro ⟨earlier, later, rfl, -⟩
    exact List.mem_append_right _ List.mem_cons_self
  · intro member
    obtain ⟨earlier, later, rfl⟩ := List.append_of_mem member
    refine ⟨earlier, later, rfl, fun entry before => ?_⟩
    have below := (List.pairwise_append.1 order).2.2 entry before (key, value) List.mem_cons_self
    exact bne_iff_ne.2 (Std.ne_of_lt below).symm

/-- A new key adds its entry to those that are there. -/
theorem perm_put {key : String} (value : Value) {entries : List (String × Value)}
    (isNew : key ∉ entries.map (·.1)) : (put key value entries).Perm ((key, value) :: entries) := by
  induction entries with
  | nil => exact .refl _
  | cons first rest inductionHypothesis =>
    obtain ⟨other, held⟩ := first
    obtain ⟨different, isNewToRest⟩ := List.ne_and_not_mem_of_not_mem_cons isNew
    unfold put
    split
    · exact .refl _
    · exact ((inductionHypothesis isNewToRest).cons _).trans (.swap _ _ _)

/-- New keys add their entries to those that are there. -/
theorem perm_putAll {added entries : List (String × Value)}
    (areNew : (entries.map (·.1) ++ added.map (·.1)).Nodup) :
    (putAll added entries).Perm (entries ++ added) := by
  induction added generalizing entries with
  | nil =>
    rw [List.append_nil]
    exact .refl _
  | cons first rest inductionHypothesis =>
    obtain ⟨key, value⟩ := first
    have isNew : key ∉ entries.map (·.1) := fun member =>
      (List.nodup_append.1 areNew).2.2 key member key List.mem_cons_self rfl
    have extended := perm_put value isNew
    have areNewToRest : ((put key value entries).map (·.1) ++ rest.map (·.1)).Nodup :=
      (((extended.map (·.1)).append_right _).trans List.perm_middle.symm).nodup_iff.2 areNew
    exact ((inductionHypothesis areNewToRest).trans (extended.append_right rest)).trans
      List.perm_middle.symm

end Testbed.Sorted
