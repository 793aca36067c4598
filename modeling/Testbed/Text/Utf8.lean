/-
This file reads bytes as UTF-8 text. Strict reading refuses bytes that are no UTF-8; lossy reading
puts a replacement character for every sequence that begins a character and can not be completed.
Texts are ordered as their bytes are.
-/

namespace Testbed.Text

/-- The UTF-8 bytes of a text. -/
def bytesOf (text : String) : List UInt8 :=
  text.toUTF8.data.toList

/-- The text of UTF-8 bytes. -/
def ofBytes? (bytes : List UInt8) : Option String :=
  String.fromUTF8? ⟨bytes.toArray⟩

/-- The text of bytes is read back. -/
@[simp] theorem ofBytes?_bytesOf (text : String) : ofBytes? (bytesOf text) = some text := by
  obtain ⟨bytes, valid⟩ := text
  have whole : (⟨bytes.data.toList.toArray⟩ : ByteArray) = bytes := by simp
  have back : ofBytes? (bytesOf ⟨bytes, valid⟩) = String.fromUTF8? bytes := by
    simp [ofBytes?, bytesOf, String.toUTF8]
  rw [back, String.fromUTF8?, dif_pos valid]
  rfl

/-! ### The order of the bytes -/

theorem bytesOf_eq (text : String) :
    bytesOf text = text.toList.flatMap String.utf8EncodeChar := by
  have whole : text.toByteArray = (text.toList.flatMap String.utf8EncodeChar).toByteArray := by
    conv => lhs; rw [← String.ofList_toList (s := text)]
    exact String.toByteArray_ofList
  rw [bytesOf, String.toUTF8_eq_toByteArray, whole, List.data_toByteArray]

/-- Bytes are ordered by the first of them, and where it is the same by what follows. -/
theorem ofNat_cons_lt_iff {first second : Nat} (isByte : first < 256) (isByteToo : second < 256)
    (rest others : List UInt8) :
    UInt8.ofNat first :: rest < UInt8.ofNat second :: others ↔
      first < second ∨ first = second ∧ rest < others := by
  rw [List.cons_lt_cons_iff, UInt8.lt_iff_toNat_lt, ← UInt8.toNat_inj, UInt8.toNat_ofNat',
    UInt8.toNat_ofNat', Nat.mod_eq_of_lt isByte, Nat.mod_eq_of_lt isByteToo]

/-- The bytes of a character stand below those of every greater one, whatever follows them. -/
theorem utf8EncodeChar_append_lt {first second : Char} (below : first < second)
    (rest others : List UInt8) :
    String.utf8EncodeChar first ++ rest < String.utf8EncodeChar second ++ others := by
  have less : first.val.toNat < second.val.toNat := below
  have limit : second.val.toNat < 0x110000 := by
    rcases second.valid with low | ⟨-, high⟩
    · exact Nat.lt_trans low (by decide)
    · exact high
  -- The bits are divided six by six, so that both characters are compared digit by digit.
  have third (value : Nat) : value / 4096 = value / 64 / 64 := by omega
  have fourth (value : Nat) : value / 262144 = value / 64 / 64 / 64 := by omega
  unfold String.utf8EncodeChar
  generalize first.val.toNat = value at less
  generalize second.val.toNat = other at less limit
  simp only [third, fourth]
  repeat' split
  all_goals
    simp (disch := omega) only [List.cons_append, List.nil_append, ofNat_cons_lt_iff]
    omega

theorem flatMap_utf8EncodeChar_lt {first second : List Char} (below : first < second) :
    first.flatMap String.utf8EncodeChar < second.flatMap String.utf8EncodeChar := by
  induction first generalizing second with
  | nil =>
    cases second with
    | nil => exact absurd below (List.not_lt_nil _)
    | cons other others =>
      rw [List.flatMap_nil, List.flatMap_cons]
      obtain ⟨byte, bytes, same⟩ :=
        List.exists_cons_of_ne_nil (String.utf8EncodeChar_ne_nil (c := other))
      rw [same]
      exact List.nil_lt_cons _ _
  | cons character rest inductionHypothesis =>
    cases second with
    | nil => exact absurd below (List.not_lt_nil _)
    | cons other others =>
      rw [List.flatMap_cons, List.flatMap_cons]
      rcases List.cons_lt_cons_iff.1 below with less | ⟨rfl, less⟩
      · exact utf8EncodeChar_append_lt less _ _
      · exact List.append_left_lt (inductionHypothesis less)

/-- Texts are ordered as their bytes are. -/
theorem bytesOf_lt_iff (first second : String) :
    bytesOf first < bytesOf second ↔ first < second := by
  rw [bytesOf_eq, bytesOf_eq, String.lt_iff]
  refine ⟨fun below => ?_, flatMap_utf8EncodeChar_lt⟩
  refine Decidable.byContradiction fun notLess => ?_
  rcases List.le_iff_lt_or_eq.1 (List.not_lt.1 notLess) with greater | same
  · exact List.lt_irrefl _ (List.lt_trans below (flatMap_utf8EncodeChar_lt greater))
  · rw [same] at below
    exact List.lt_irrefl _ below

/-! ### The bytes of a character -/

/-- A byte that continues a character. -/
def isContinuation (byte : UInt8) : Bool := 0x80 ≤ byte && byte ≤ 0xBF

theorem isContinuation_ofNat_iff {value : Nat} (isByte : value < 256) :
    isContinuation (UInt8.ofNat value) = true ↔ 0x80 ≤ value ∧ value ≤ 0xBF := by
  have same : (UInt8.ofNat value).toNat = value := by
    rw [UInt8.toNat_ofNat', Nat.mod_eq_of_lt isByte]
  rw [isContinuation, Bool.and_eq_true, decide_eq_true_iff, decide_eq_true_iff,
    UInt8.le_iff_toNat_le, UInt8.le_iff_toNat_le, same]
  rfl

/-- Behind its first byte, a character consists of bytes that continue it. -/
theorem exists_utf8EncodeChar_eq_cons (character : Char) :
    ∃ lead continuing, String.utf8EncodeChar character = lead :: continuing ∧
      isContinuation lead = false ∧ ∀ byte ∈ continuing, isContinuation byte = true := by
  have limit : character.val.toNat < 0x110000 := by
    rcases character.valid with low | ⟨-, high⟩
    · exact Nat.lt_trans low (by decide)
    · exact high
  unfold String.utf8EncodeChar
  generalize character.val.toNat = value at limit
  simp only []
  repeat' split
  all_goals
    refine ⟨_, _, rfl, ?_⟩
    simp (disch := omega) only [List.forall_mem_cons, Bool.eq_false_iff, ne_eq,
      isContinuation_ofNat_iff]
    simp only [List.not_mem_nil, false_implies, implies_true, and_true]
    omega

/-! ### Lossy reading -/

/-- The bytes that may follow the first byte of a character of three or four bytes. -/
def mayFollow (first second : UInt8) : Bool :=
  if first = 0xE0 then 0xA0 ≤ second && second ≤ 0xBF
  else if first = 0xED then 0x80 ≤ second && second ≤ 0x9F
  else if first = 0xF0 then 0x90 ≤ second && second ≤ 0xBF
  else if first = 0xF4 then 0x80 ≤ second && second ≤ 0x8F
  else isContinuation second

/-- What stands for bytes that are no text. -/
def replacement : Char := '\ufffd'

/-- The character of a first byte's bits and the bits of continuing bytes. -/
def assembled (lead : Nat) (continuing : List UInt8) : Char :=
  Char.ofNat (continuing.foldl (fun value byte => value * 64 + (byte.toNat - 0x80)) lead)

/-- The characters of bytes, read lossily. -/
def lossyFrom : List UInt8 → List Char
  | [] => []
  | first :: rest =>
    if first < 0x80 then Char.ofNat first.toNat :: lossyFrom rest
    else if 0xC2 ≤ first && first ≤ 0xDF then
      match rest with
      | second :: rest' =>
        if isContinuation second then
          assembled (first.toNat - 0xC0) [second] :: lossyFrom rest'
        else replacement :: lossyFrom (second :: rest')
      | [] => [replacement]
    else if 0xE0 ≤ first && first ≤ 0xEF then
      match rest with
      | second :: rest' =>
        if mayFollow first second then
          match rest' with
          | third :: rest'' =>
            if isContinuation third then
              assembled (first.toNat - 0xE0) [second, third] :: lossyFrom rest''
            else replacement :: lossyFrom (third :: rest'')
          | [] => [replacement]
        else replacement :: lossyFrom (second :: rest')
      | [] => [replacement]
    else if 0xF0 ≤ first && first ≤ 0xF4 then
      match rest with
      | second :: rest' =>
        if mayFollow first second then
          match rest' with
          | third :: rest'' =>
            if isContinuation third then
              match rest'' with
              | fourth :: rest''' =>
                if isContinuation fourth then
                  assembled (first.toNat - 0xF0) [second, third, fourth] :: lossyFrom rest'''
                else replacement :: lossyFrom (fourth :: rest''')
              | [] => [replacement]
            else replacement :: lossyFrom (third :: rest'')
          | [] => [replacement]
        else replacement :: lossyFrom (second :: rest')
      | [] => [replacement]
    else replacement :: lossyFrom rest

/-- The text of bytes, read lossily. -/
def lossy (bytes : List UInt8) : String :=
  String.ofList (lossyFrom bytes)

end Testbed.Text
