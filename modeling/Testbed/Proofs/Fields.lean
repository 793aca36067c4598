/-
This file proves that fields which were written one after another are read one by one. The bytes of
a number tell where it ends, and a field begins with its number and the number of its bytes, so what
stands behind a field makes no difference to how it is read. The number of its bytes is read in 64
bits: a field that has more bytes than such a number counts is written, but not read.
-/

import Testbed.Edges.Wire

namespace Testbed.Wire

variable {rest others : List UInt8}

/-! ### Numbers -/

theorem numberBytes_of_lt {value : Nat} (small : value < 128) :
    numberBytes value = [UInt8.ofNat value] := by
  rw [numberBytes, if_pos small]

theorem numberBytes_of_le {value : Nat} (large : 128 ≤ value) :
    numberBytes value = UInt8.ofNat (value % 128 + 128) :: numberBytes (value / 128) := by
  rw [numberBytes, if_neg (Nat.not_lt.2 large)]

theorem length_numberBytes_pos (value : Nat) : 0 < (numberBytes value).length := by
  rw [numberBytes]
  split <;> exact Nat.zero_lt_succ _

/-- The first number that is too great for the last place, which holds one bit, behind so many
others, each of which holds seven. -/
def placesLimit : Nat → Nat
  | 0 => 2
  | places + 1 => 128 * placesLimit places

theorem lt_placesLimit (places : Nat) : places < placesLimit places := by
  induction places with
  | zero => exact Nat.zero_lt_two
  | succ places inductionHypothesis =>
    rw [placesLimit]
    omega

theorem toNat_ofNat_of_lt {value : Nat} (isByte : value < 256) :
    (UInt8.ofNat value).toNat = value := by
  rw [UInt8.toNat_ofNat', Nat.mod_eq_of_lt isByte]

/-- The last byte of a number ends it. -/
theorem numberPlaces?_of_lt {value : Nat} (places : Nat) (small : value < 128)
    (rest : List UInt8) :
    numberPlaces? (places + 1) (numberBytes value ++ rest) =
      if places = 0 ∧ 1 < value then none else some (value, rest) := by
  have same := toNat_ofNat_of_lt (Nat.lt_trans small (by decide))
  have ends : UInt8.ofNat value < 128 := by rwa [UInt8.lt_iff_toNat_lt, same]
  have greater : 1 < UInt8.ofNat value ↔ 1 < value := by
    rw [UInt8.lt_iff_toNat_lt, same]
    rfl
  rw [numberBytes_of_lt small, List.singleton_append, numberPlaces?, if_pos ends, same]
  simp only [greater]

/-- Every other byte holds the lowest seven bits, and the number goes on behind it. -/
theorem numberPlaces?_of_le {value : Nat} (places : Nat) (large : 128 ≤ value)
    (rest : List UInt8) :
    numberPlaces? (places + 1) (numberBytes value ++ rest) =
      (numberPlaces? places (numberBytes (value / 128) ++ rest)).map fun (higher, rest) =>
        (value % 128 + 128 * higher, rest) := by
  have same := toNat_ofNat_of_lt (show value % 128 + 128 < 256 by omega)
  have goesOn : ¬ UInt8.ofNat (value % 128 + 128) < 128 := by
    rw [UInt8.lt_iff_toNat_lt, same]
    exact Nat.not_lt.2 (Nat.le_add_left _ _)
  rw [numberBytes_of_le large, List.cons_append, numberPlaces?, if_neg goesOn, same,
    Nat.add_sub_cancel]

/-- A number is read up to its last byte, if there are places enough for it. -/
theorem numberPlaces?_numberBytes (places value : Nat) (rest : List UInt8) :
    numberPlaces? (places + 1) (numberBytes value ++ rest) =
      if value < placesLimit places then some (value, rest) else none := by
  induction places generalizing value with
  | zero =>
    rw [placesLimit]
    by_cases small : value < 128
    · rw [numberPlaces?_of_lt 0 small]
      by_cases fits : value < 2
      · rw [if_neg (by omega), if_pos fits]
      · rw [if_pos ⟨rfl, by omega⟩, if_neg fits]
    · rw [numberPlaces?_of_le 0 (Nat.not_lt.1 small), if_neg (by omega)]
      rfl
  | succ places inductionHypothesis =>
    have limit := lt_placesLimit places
    rw [placesLimit]
    by_cases small : value < 128
    · rw [numberPlaces?_of_lt _ small, if_neg (by omega), if_pos (by omega)]
    · rw [numberPlaces?_of_le _ (Nat.not_lt.1 small), inductionHypothesis]
      by_cases fits : value / 128 < placesLimit places
      · have whole : value % 128 + 128 * (value / 128) = value := Nat.mod_add_div value 128
        rw [if_pos fits, if_pos (by omega), Option.map_some]
        simp only [whole]
      · rw [if_neg fits, if_neg (by omega), Option.map_none]

/-- The first number that has no form of 64 bits. -/
def numberLimit : Nat := 0x10000000000000000

theorem number?_numberBytes (value : Nat) (rest : List UInt8) :
    number? (numberBytes value ++ rest) =
      if value < numberLimit then some (value, rest) else none :=
  numberPlaces?_numberBytes 9 value rest

/-- Bytes begin with one number at most. -/
theorem numberBytes_append_inj {first second : Nat}
    (same : numberBytes first ++ rest = numberBytes second ++ others) :
    first = second ∧ rest = others := by
  have read := congrArg (numberPlaces? (first + second + 1)) same
  have enough := lt_placesLimit (first + second)
  rw [numberPlaces?_numberBytes, numberPlaces?_numberBytes, if_pos (by omega),
    if_pos (by omega)] at read
  exact Prod.mk.inj (Option.some.inj read)

/-! ### Fields -/

variable {field other : Nat × List UInt8} {fields : List (Nat × List UInt8)}

/-- Whether a field has a number that a key can tell. -/
structure IsNumbered (field : Nat × List UInt8) : Prop where
  pos : 0 < field.1
  lt : field.1 < 0x20000000

/-- Whether the bytes of a field can be counted in 64 bits. -/
def Fits (field : Nat × List UInt8) : Prop :=
  field.2.length < numberLimit

theorem key?_numberBytes (numbered : IsNumbered field) (rest : List UInt8) :
    key? (numberBytes (field.1 * 8 + 2) ++ rest) = some (field.1, .bytes, rest) := by
  have pos := numbered.pos
  have lt := numbered.lt
  have number : (field.1 * 8 + 2) / 8 = field.1 := by omega
  have form : (field.1 * 8 + 2) % 8 = 2 := by omega
  have isKey : ¬ (0x100000000 ≤ field.1 * 8 + 2 ∨ field.1 = 0) := by omega
  have fits : field.1 * 8 + 2 < numberLimit := by
    rw [numberLimit]
    omega
  rw [key?, number?_numberBytes, if_pos fits]
  simp only [number, form, if_neg isKey, FieldForm.ofBits?, Option.map_some]

theorem split?_append (bytes rest : List UInt8) :
    split? bytes.length (bytes ++ rest) = some (bytes, rest) := by
  rw [split?, if_pos (by simp), List.take_left, List.drop_left]

/-- A field is read up to its last byte, if its bytes can be counted. -/
theorem field?_fieldBytes (levels : Nat) (numbered : IsNumbered field) (rest : List UInt8) :
    field? levels (fieldBytes field ++ rest) =
      if field.2.length < numberLimit then some ((field.1, some field.2), rest) else none := by
  rw [field?, fieldBytes, List.append_assoc, List.append_assoc, key?_numberBytes numbered]
  simp only [if_true, number?_numberBytes]
  by_cases fits : field.2.length < numberLimit
  · simp only [if_pos fits, split?_append, Option.map_some]
  · simp only [if_neg fits]

theorem length_fieldBytes (field : Nat × List UInt8) :
    field.2.length < (fieldBytes field).length := by
  have pos := length_numberBytes_pos (field.1 * 8 + 2)
  simp only [fieldBytes, List.length_append]
  omega

theorem fields?_fieldBytes (levels : Nat) (numbered : IsNumbered field) (rest : List UInt8) :
    fields? levels (fieldBytes field ++ rest) =
      if field.2.length < numberLimit then
        (fields? levels rest).map ((field.1, some field.2) :: ·)
      else none := by
  have pos := length_fieldBytes field
  have some : (fieldBytes field ++ rest).isEmpty = false := by
    rw [List.isEmpty_eq_false_iff_exists_mem]
    exact List.exists_mem_of_length_pos (by rw [List.length_append]; omega)
  have shorter : rest.length < (fieldBytes field ++ rest).length := by
    rw [List.length_append]
    omega
  rw [fields?, some, field?_fieldBytes levels numbered, if_neg Bool.false_ne_true]
  by_cases fits : field.2.length < numberLimit
  · simp only [if_pos fits, if_pos shorter]
  · simp only [if_neg fits]

/-- Fields are read as they were written if and only if the bytes of each can be counted. -/
theorem fields?_flatMap_eq_some_iff (levels : Nat) (numbered : ∀ field ∈ fields, IsNumbered field)
    (read : List (Nat × Option (List UInt8))) :
    fields? levels (fields.flatMap fieldBytes) = some read ↔
      (∀ field ∈ fields, Fits field) ∧ read = fields.map fun field => (field.1, some field.2) := by
  induction fields generalizing read with
  | nil =>
    rw [List.flatMap_nil, fields?, if_pos List.isEmpty_nil, Option.some_inj, eq_comm]
    exact ⟨fun same => ⟨fun _ => nofun, same⟩, And.right⟩
  | cons field fields inductionHypothesis =>
    obtain ⟨first, others⟩ := List.forall_mem_cons.1 numbered
    rw [List.flatMap_cons, fields?_fieldBytes levels first, List.forall_mem_cons, List.map_cons]
    by_cases fits : field.2.length < numberLimit
    · simp only [if_pos fits, Option.map_eq_some_iff, inductionHypothesis others]
      constructor
      · rintro ⟨_, ⟨allFit, rfl⟩, rfl⟩
        exact ⟨⟨fits, allFit⟩, rfl⟩
      · rintro ⟨⟨-, allFit⟩, rfl⟩
        exact ⟨_, ⟨allFit, rfl⟩, rfl⟩
    · rw [if_neg fits]
      exact ⟨nofun, fun allFit => absurd allFit.1.1 fits⟩

/-- Bytes begin with one field at most. -/
theorem fieldBytes_append_inj (same : fieldBytes field ++ rest = fieldBytes other ++ others) :
    field = other ∧ rest = others := by
  simp only [fieldBytes, List.append_assoc] at same
  obtain ⟨sameKey, behindKey⟩ := numberBytes_append_inj same
  obtain ⟨sameLength, behindLength⟩ := numberBytes_append_inj behindKey
  obtain ⟨sameBytes, sameRest⟩ := List.append_inj behindLength sameLength
  exact ⟨Prod.ext (by omega) sameBytes, sameRest⟩

/-- Different fields are written differently, whether or not their bytes can be counted. -/
theorem flatMap_fieldBytes_injective :
    Function.Injective fun fields : List (Nat × List UInt8) => fields.flatMap fieldBytes := by
  have nonempty (field : Nat × List UInt8) (rest : List UInt8) : fieldBytes field ++ rest ≠ [] := by
    have pos := length_fieldBytes field
    intro empty
    rw [(List.append_eq_nil_iff.1 empty).1] at pos
    cases pos
  intro first second same
  induction first generalizing second with
  | nil =>
    cases second with
    | nil => rfl
    | cons field fields => exact absurd same.symm (nonempty field _)
  | cons field fields inductionHypothesis =>
    cases second with
    | nil => exact absurd same (nonempty field _)
    | cons other others =>
      obtain ⟨rfl, sameRest⟩ := fieldBytes_append_inj same
      rw [inductionHypothesis sameRest]

end Testbed.Wire
