/-
This file proves which values are records and what becomes of them. A value is refused for the first
thing that is wrong with it, and the field this is found in is named. An encoded record loses
nothing: its payload is parsed as the value that was encoded, whose encoding is the same again.
-/

import Testbed.Record
import Testbed.Proofs.ReadBack

namespace Testbed

open Json

/-- The value that a payload is the text of, if it is one. -/
def EncodedRecord.value? (encoded : EncodedRecord) : Option Json :=
  (Text.ofBytes? encoded.payload).bind fun text => (parse text.toList).toOption

namespace Record

/-! ### Keys and times -/

/-- The key that a value gives: a string itself, or a number as its text. -/
inductive KeyOf : Json → String → Prop where
  | string (text : String) : KeyOf (.string text) text
  | number (value : Number) : KeyOf (.number value) (compact (.number value))

/-- The time that a value gives: an integer of 64 bits with a sign. -/
inductive TimeOf : Json → Int64 → Prop where
  | integer (value : Integer) (time : Int64) (same : time.toInt = value.value) :
      TimeOf (.number (.integer value)) time

/-- Whether a value gives a key. -/
def IsKey (held : Json) : Prop :=
  (∃ text, held = .string text) ∨ ∃ value, held = .number value

/-- Whether a value gives a time: a double never does. -/
def IsTime (held : Json) : Prop :=
  ∃ value : Integer, held = .number (.integer value) ∧
    -0x8000000000000000 ≤ value.value ∧ value.value < 0x8000000000000000

theorem isKey_iff {held : Json} : IsKey held ↔ ∃ key, KeyOf held key := by
  constructor
  · rintro (⟨text, rfl⟩ | ⟨value, rfl⟩)
    · exact ⟨text, .string text⟩
    · exact ⟨_, .number value⟩
  · rintro ⟨key, text | value⟩
    · exact .inl ⟨key, rfl⟩
    · exact .inr ⟨value, rfl⟩

theorem isTime_iff {held : Json} : IsTime held ↔ ∃ time, TimeOf held time := by
  constructor
  · rintro ⟨value, rfl, least, below⟩
    exact ⟨_, .integer value _ (Int64.toInt_ofInt_of_le least below)⟩
  · rintro ⟨time, value, _, same⟩
    exact ⟨value, rfl, same ▸ time.le_toInt, same ▸ time.toInt_lt⟩

theorem int64?_eq_some_iff {held : Json} {time : Int64} :
    int64? held = some time ↔ TimeOf held time := by
  constructor
  · intro isTime
    unfold int64? at isTime
    split at isTime
    next value =>
      unfold Number.toInt64? at isTime
      split at isTime
      next exact =>
        split at isTime
        next below =>
          cases isTime
          exact .integer exact _ (Int64.toInt_ofInt_of_le exact.least_le below)
        next => cases isTime
      next => cases isTime
    next => cases isTime
  · rintro ⟨value, _, same⟩
    have below : value.value < 0x8000000000000000 := same ▸ time.toInt_lt
    show (if value.value < 0x8000000000000000 then some (Int64.ofInt value.value) else none) = _
    rw [if_pos below, ← same, Int64.ofInt_toInt]

/-! ### Fields -/

/-- What a field is to hold: the values that give something, and the words for any other value. -/
structure Rule (Value : Type) where
  gives : Json → Value → Prop
  refusal : String

def keyRule : Rule String where
  gives := KeyOf
  refusal := "expected string or number, got "

def timeRule : Rule Int64 where
  gives := TimeOf
  refusal := "expected integer milliseconds, got "

namespace Rule

variable {Value : Type} {rule : Rule Value} {record : Json} {field : String}

/-- What is wrong with a field: it is missing, or what it holds gives nothing. -/
inductive Fault (rule : Rule Value) (record : Json) (field : String) : RecordError → Prop where
  | missing (isMissing : record.get? field = none) : Fault rule record field (.missingField field)
  | invalid (held : Json) (found : record.get? field = some held)
      (givesNothing : ∀ value, ¬ rule.gives held value) :
      Fault rule record field (.invalidField field (rule.refusal ++ held.compact))

theorem Fault.not_gives {error : RecordError} {held : Json} {value : Value}
    (isFault : rule.Fault record field error) (found : record.get? field = some held) :
    ¬ rule.gives held value := by
  cases isFault with
  | missing isMissing => exact absurd (isMissing.symm.trans found) nofun
  | invalid other foundOther givesNothing =>
    cases Option.some.inj (foundOther.symm.trans found)
    exact givesNothing value

/-- A field has one fault at most, since it is missing or holds one value. -/
theorem Fault.unique {first second : RecordError} (isFault : rule.Fault record field first)
    (isFaultToo : rule.Fault record field second) : first = second := by
  cases isFault with
  | missing isMissing =>
    cases isFaultToo with
    | missing => rfl
    | invalid held found => exact absurd (isMissing.symm.trans found) nofun
  | invalid held found =>
    cases isFaultToo with
    | missing isMissing => exact absurd (isMissing.symm.trans found) nofun
    | invalid other foundOther =>
      cases Option.some.inj (found.symm.trans foundOther)
      rfl

/-- What is taken from a field. -/
inductive Taken (rule : Rule Value) (record : Json) (field : String) :
    Except RecordError Value → Prop where
  | fault (error : RecordError) (isFault : rule.Fault record field error) :
      Taken rule record field (.error error)
  | value (held : Json) (value : Value) (found : record.get? field = some held)
      (gives : rule.gives held value) : Taken rule record field (.ok value)

theorem Taken.eq_ok_iff {result : Except RecordError Value} (taken : rule.Taken record field result)
    (functional : ∀ {held first second}, rule.gives held first → rule.gives held second →
      first = second) {value : Value} :
    result = .ok value ↔ ∃ held, record.get? field = some held ∧ rule.gives held value := by
  cases taken with
  | fault error isFault =>
    exact ⟨nofun, fun ⟨held, found, gives⟩ => absurd gives (isFault.not_gives found)⟩
  | value held taken found gives =>
    constructor
    · intro same
      cases same
      exact ⟨held, found, gives⟩
    · rintro ⟨other, foundOther, givesOther⟩
      cases Option.some.inj (foundOther.symm.trans found)
      rw [functional gives givesOther]

theorem Taken.eq_error_iff {result : Except RecordError Value}
    (taken : rule.Taken record field result) {error : RecordError} :
    result = .error error ↔ rule.Fault record field error := by
  cases taken with
  | fault other isFault =>
    constructor
    · intro same
      cases same
      exact isFault
    · intro isFaultToo
      rw [isFault.unique isFaultToo]
  | value held taken found gives =>
    exact ⟨nofun, fun isFault => absurd gives (isFault.not_gives found)⟩

end Rule

variable {record : Json} {keyField timestampField : String}

theorem taken_key (record : Json) (field : String) :
    keyRule.Taken record field (key record field) := by
  unfold key
  split
  next isMissing => exact .fault _ (.missing isMissing)
  next text found => exact .value _ _ found (.string text)
  next value found => exact .value _ _ found (.number value)
  next held noText noNumber found =>
    refine .fault _ (.invalid held found fun key isKey => ?_)
    cases isKey with
    | string => exact noText _ rfl
    | number => exact noNumber _ rfl

theorem taken_timestamp (record : Json) (field : String) :
    timeRule.Taken record field (timestamp record field) := by
  unfold timestamp
  split
  next isMissing => exact .fault _ (.missing isMissing)
  next held found =>
    split
    next time isTime => exact .value held time found (int64?_eq_some_iff.1 isTime)
    next noTime =>
      refine .fault _ (.invalid held found fun time isTime => ?_)
      rw [int64?_eq_some_iff.2 isTime] at noTime
      cases noTime

theorem key_eq_ok_iff {key : String} :
    Record.key record keyField = .ok key ↔
      ∃ held, record.get? keyField = some held ∧ KeyOf held key :=
  (taken_key record keyField).eq_ok_iff fun first second => by
    cases first <;> cases second <;> rfl

theorem timestamp_eq_ok_iff {time : Int64} :
    timestamp record timestampField = .ok time ↔
      ∃ held, record.get? timestampField = some held ∧ TimeOf held time :=
  (taken_timestamp record timestampField).eq_ok_iff fun first second =>
    Option.some.inj ((int64?_eq_some_iff.2 first).symm.trans (int64?_eq_some_iff.2 second))

theorem holds_key_iff :
    (∃ held, record.get? keyField = some held ∧ IsKey held) ↔
      ∃ key, Record.key record keyField = .ok key := by
  simp only [key_eq_ok_iff, isKey_iff]
  exact ⟨fun ⟨held, found, key, gives⟩ => ⟨key, held, found, gives⟩,
    fun ⟨key, held, found, gives⟩ => ⟨held, found, key, gives⟩⟩

theorem holds_time_iff :
    (∃ held, record.get? timestampField = some held ∧ IsTime held) ↔
      ∃ time, timestamp record timestampField = .ok time := by
  simp only [timestamp_eq_ok_iff, isTime_iff]
  exact ⟨fun ⟨held, found, time, gives⟩ => ⟨time, held, found, gives⟩,
    fun ⟨time, held, found, gives⟩ => ⟨held, found, time, gives⟩⟩

/-! ### Records -/

/-- Whether a value is a record with its key and its time in these fields. -/
def IsRecord (record : Json) (keyField timestampField : String) : Prop :=
  (∃ members, record = .object members) ∧
    (∃ held, record.get? keyField = some held ∧ IsKey held) ∧
    ∃ held, record.get? timestampField = some held ∧ IsTime held

/-- Why a value is refused as a record: the first thing that is wrong with it. -/
inductive Refusal (record : Json) (keyField timestampField : String) : RecordError → Prop where
  | notAnObject (noObject : ¬ ∃ members, record = .object members) :
      Refusal record keyField timestampField .notAnObject
  | key (isObject : ∃ members, record = .object members) (error : RecordError)
      (fault : keyRule.Fault record keyField error) : Refusal record keyField timestampField error
  | timestamp (isObject : ∃ members, record = .object members)
      (hasKey : ∃ held, record.get? keyField = some held ∧ IsKey held) (error : RecordError)
      (fault : timeRule.Fault record timestampField error) :
      Refusal record keyField timestampField error

theorem encode_of_not_object (noObject : ¬ ∃ members, record = .object members) :
    encode record keyField timestampField = .error .notAnObject := by
  unfold encode
  split
  next members => exact absurd ⟨members, rfl⟩ noObject
  next => rfl

theorem encode_eq_ok_iff {encoded : EncodedRecord} :
    encode record keyField timestampField = .ok encoded ↔
      (∃ members, record = .object members) ∧ key record keyField = .ok encoded.key ∧
        timestamp record timestampField = .ok encoded.timestamp ∧
          encoded.payload = Text.bytesOf record.compact := by
  by_cases isObject : ∃ members, record = .object members
  · obtain ⟨members, rfl⟩ := isObject
    rw [encode]
    cases key (.object members) keyField with
    | error error => simp
    | ok key =>
      cases timestamp (.object members) timestampField with
      | error error => simp
      | ok timestamp =>
        obtain ⟨otherKey, otherTimestamp, payload⟩ := encoded
        simp [eq_comm]
  · rw [encode_of_not_object isObject]
    exact ⟨nofun, fun ⟨isObjectToo, _⟩ => absurd isObjectToo isObject⟩

/-- The first thing that is wrong with an object is wrong with its key, if anything is. -/
theorem encode_object_eq_error_iff {members : Members} {error : RecordError} :
    encode (.object members) keyField timestampField = .error error ↔
      key (.object members) keyField = .error error ∨
        (∃ found, key (.object members) keyField = .ok found) ∧
          timestamp (.object members) timestampField = .error error := by
  rw [encode]
  cases key (.object members) keyField with
  | error keyError => simp
  | ok key => cases timestamp (.object members) timestampField <;> simp

theorem encode_eq_error_iff {error : RecordError} :
    encode record keyField timestampField = .error error ↔
      Refusal record keyField timestampField error := by
  by_cases isObject : ∃ members, record = .object members
  · obtain ⟨members, rfl⟩ := isObject
    rw [encode_object_eq_error_iff, (taken_key _ _).eq_error_iff,
      (taken_timestamp _ _).eq_error_iff, ← holds_key_iff]
    constructor
    · rintro (fault | ⟨hasKey, fault⟩)
      · exact .key ⟨members, rfl⟩ error fault
      · exact .timestamp ⟨members, rfl⟩ hasKey error fault
    · intro refusal
      cases refusal with
      | notAnObject noObject => exact absurd ⟨members, rfl⟩ noObject
      | key _ _ fault => exact .inl fault
      | timestamp _ hasKey _ fault => exact .inr ⟨hasKey, fault⟩
  · rw [encode_of_not_object isObject]
    constructor
    · intro same
      cases same
      exact .notAnObject isObject
    · intro refusal
      cases refusal with
      | notAnObject => rfl
      | key isObjectToo => exact absurd isObjectToo isObject
      | timestamp isObjectToo => exact absurd isObjectToo isObject

theorem exists_encode_iff :
    (∃ encoded, encode record keyField timestampField = .ok encoded) ↔
      IsRecord record keyField timestampField := by
  unfold IsRecord
  rw [holds_key_iff, holds_time_iff]
  constructor
  · rintro ⟨encoded, isEncoded⟩
    obtain ⟨isObject, isKey, isTime, -⟩ := encode_eq_ok_iff.1 isEncoded
    exact ⟨isObject, ⟨_, isKey⟩, _, isTime⟩
  · rintro ⟨isObject, ⟨key, isKey⟩, time, isTime⟩
    exact ⟨⟨key, time, Text.bytesOf record.compact⟩,
      encode_eq_ok_iff.2 ⟨isObject, isKey, isTime, rfl⟩⟩

/-- The payload of a record is the text of the record. -/
theorem value?_of_encode {encoded : EncodedRecord}
    (isEncoded : encode record keyField timestampField = .ok encoded) (ordered : IsOrdered record)
    (integral : IsIntegral record) (shallow : depth record ≤ greatestDepth) :
    encoded.value? = some record := by
  obtain ⟨-, -, -, payload⟩ := encode_eq_ok_iff.1 isEncoded
  rw [EncodedRecord.value?, payload, Text.ofBytes?_bytesOf]
  show (parse (String.ofList (characters record)).toList).toOption = _
  rw [String.toList_ofList, parse_characters ordered integral shallow]
  rfl

/-- A value is encoded if and only if it is an object whose fields hold a key and a time, and is
refused for the first thing that is wrong with it otherwise. What is encoded carries that key and
that time. Where all numbers are integers and nothing nests deeper than a reader goes, its payload
is parsed as the same value, whose encoding is the same again; that objects are ordered is how every
value is kept. -/
theorem encode_account (record : Json) (keyField timestampField : String) :
    ((∃ encoded, encode record keyField timestampField = .ok encoded) ↔
      IsRecord record keyField timestampField) ∧
    (∀ error, encode record keyField timestampField = .error error ↔
      Refusal record keyField timestampField error) ∧
    ∀ encoded, encode record keyField timestampField = .ok encoded →
      (∃ held, record.get? keyField = some held ∧ KeyOf held encoded.key) ∧
      (∃ held, record.get? timestampField = some held ∧ TimeOf held encoded.timestamp) ∧
      (IsOrdered record → IsIntegral record → depth record ≤ greatestDepth →
        ∃ value, encoded.value? = some value ∧ value = record ∧
          encode value keyField timestampField = .ok encoded) := by
  refine ⟨exists_encode_iff, fun error => encode_eq_error_iff, fun encoded isEncoded => ?_⟩
  obtain ⟨-, isKey, isTime, -⟩ := encode_eq_ok_iff.1 isEncoded
  refine ⟨key_eq_ok_iff.1 isKey, timestamp_eq_ok_iff.1 isTime, fun ordered integral shallow => ?_⟩
  exact ⟨record, value?_of_encode isEncoded ordered integral shallow, rfl, isEncoded⟩

/-- A record with a text to be escaped and the least of all integers. -/
def sample : Json :=
  .object [("at", .number (.integer ⟨1700000000000, by decide, by decide⟩)),
    ("note", .array [.string "\"\n",
      .number (.integer ⟨-0x8000000000000000, by decide, by decide⟩)])]

/-- One field gives both the key and the time of the record, and the other gives no time. -/
theorem encode_account_sample :
    (∃ encoded, encode sample "at" "at" = .ok encoded ∧ encoded.key = "1700000000000" ∧
      encoded.timestamp = 1700000000000 ∧ encoded.value? = some sample) ∧
    encode sample "at" "note" = .error (.invalidField "note"
      "expected integer milliseconds, got [\"\\\"\\n\",-9223372036854775808]") := by
  constructor
  · obtain ⟨isRecord, -, onSuccess⟩ := encode_account sample "at" "at"
    obtain ⟨encoded, isEncoded⟩ := isRecord.2 ⟨⟨_, rfl⟩, ⟨_, rfl, .inr ⟨_, rfl⟩⟩, _, rfl, _, rfl,
      by decide, by decide⟩
    obtain ⟨⟨keyHeld, keyFound, isKey⟩, ⟨timeHeld, timeFound, isTime⟩, readBack⟩ :=
      onSuccess encoded isEncoded
    have ordered : IsOrdered sample :=
      ⟨List.pairwise_pair.2 (by decide), trivial, ⟨trivial, trivial, trivial, trivial⟩, trivial⟩
    obtain ⟨value, valueOf, rfl, -⟩ := readBack ordered
      ⟨trivial, trivial, ⟨trivial, trivial, trivial, trivial⟩, trivial⟩ (by decide)
    refine ⟨encoded, isEncoded, ?_, ?_, valueOf⟩
    · cases Option.some.inj keyFound
      generalize encoded.key = key at isKey
      cases isKey
      decide
    · cases Option.some.inj timeFound
      cases isTime with
      | integer value time same => exact Int64.toInt_inj.1 same
  · have fault : timeRule.Fault sample "note" (.invalidField "note" (timeRule.refusal ++
        compact (.array [.string "\"\n",
          .number (.integer ⟨-0x8000000000000000, by decide, by decide⟩)]))) :=
      .invalid _ rfl nofun
    exact ((encode_account sample "at" "note").2.1 _).2
      (.timestamp ⟨_, rfl⟩ ⟨_, rfl, .inr ⟨_, rfl⟩⟩ _ fault)

end Record

end Testbed
