/-
This file cuts texts at numbers of bytes of their UTF-8 form, never inside a character. A long text
is cut so for error messages, and a mark shows that it was cut: the place of the cut is looked for
backwards, byte by byte, from the most bytes that are shown. That there is such a place, and that a
text can be cut there, is what the excerpt of a text rests on.
-/

import Testbed.Text.Utf8

namespace Testbed.Text

/-- The characters from the front whose bytes fit the budget, up to the first that does not fit. -/
def takeBytes : Nat → List Char → List Char
  | _, [] => []
  | budget, character :: rest =>
    if character.utf8Size ≤ budget then
      character :: takeBytes (budget - character.utf8Size) rest
    else []

/-- The number of bytes of the UTF-8 form. -/
def byteCount : List Char → Nat
  | [] => 0
  | character :: rest => character.utf8Size + byteCount rest

/-- The text behind so many bytes, unless they end inside a character or behind the text. -/
def dropBytes? : Nat → List Char → Option (List Char)
  | 0, text => some text
  | _ + 1, [] => none
  | count + 1, character :: rest =>
    if character.utf8Size ≤ count + 1 then dropBytes? (count + 1 - character.utf8Size) rest
    else none

/-- The part of a text from one place to another, both counted in bytes, unless one of them lies
inside a character or behind the text. -/
def between? (start stop : Nat) (text : List Char) : Option (List Char) := do
  let behind ← dropBytes? start text
  let part := takeBytes (stop - start) behind
  if byteCount part = stop - start then some part else none

theorem byteCount_eq_utf8ByteSize (text : List Char) :
    byteCount text = (String.ofList text).utf8ByteSize := by
  induction text with
  | nil => rfl
  | cons character rest inductionHypothesis =>
    rw [byteCount, inductionHypothesis, String.ofList_cons, String.utf8ByteSize_append,
      String.utf8ByteSize_singleton]

theorem length_le_byteCount (text : List Char) : text.length ≤ byteCount text := by
  induction text with
  | nil => exact Nat.le_refl 0
  | cons character rest inductionHypothesis =>
    have positive := character.utf8Size_pos
    rw [List.length_cons, byteCount]
    omega

theorem byteCount_toList (name : String) : byteCount name.toList = name.utf8ByteSize := by
  rw [byteCount_eq_utf8ByteSize, String.ofList_toList]

theorem takeBytes_byteCount_append (before behind : List Char) :
    takeBytes (byteCount before) (before ++ behind) = before := by
  induction before with
  | nil =>
    cases behind with
    | nil => rfl
    | cons character rest =>
      have size := character.utf8Size_pos
      rw [List.nil_append, takeBytes, byteCount, if_neg (by omega)]
  | cons character rest inductionHypothesis =>
    rw [List.cons_append, takeBytes, byteCount, if_pos (Nat.le_add_right _ _),
      Nat.add_sub_cancel_left, inductionHypothesis]

theorem between?_byteCount_append (before behind : List Char) :
    between? 0 (byteCount before) (before ++ behind) = some before := by
  simp [between?, dropBytes?, takeBytes_byteCount_append]

/-! ### Where a text can be cut -/

/-- Whether a text of these bytes can be cut at a place: at its ends, and in front of every byte
that does not continue a character. -/
def isBoundary (bytes : List UInt8) (place : Nat) : Bool :=
  place == 0 || match bytes[place]? with
    | some byte => !isContinuation byte
    | none => place == bytes.length

theorem isBoundary_zero (bytes : List UInt8) : isBoundary bytes 0 = true := rfl

theorem isBoundary_iff {bytes : List UInt8} {place : Nat} :
    isBoundary bytes place = true ↔
      place = 0 ∨ place = bytes.length ∨
        ∃ byte, bytes[place]? = some byte ∧ isContinuation byte = false := by
  rw [isBoundary, Bool.or_eq_true, beq_iff_eq]
  refine or_congr_right ?_
  cases there : bytes[place]? with
  | none => simp
  | some byte =>
    have inside := (List.getElem?_eq_some_iff.1 there).1
    simp [Nat.ne_of_lt inside]

/-- A text begins with a byte that does not continue a character. -/
theorem isContinuation_of_head {text : List Char} {byte : UInt8}
    (isFirst : (text.flatMap String.utf8EncodeChar)[0]? = some byte) :
    isContinuation byte = false := by
  cases text with
  | nil => cases isFirst
  | cons character rest =>
    obtain ⟨lead, continuing, encoded, leads, -⟩ := exists_utf8EncodeChar_eq_cons character
    rw [List.flatMap_cons, encoded] at isFirst
    cases isFirst
    exact leads

/-- A text can be cut in front of its first character, or behind it where the rest can be cut. -/
theorem isBoundary_cons_iff (character : Char) (rest : List Char) (place : Nat) :
    isBoundary ((character :: rest).flatMap String.utf8EncodeChar) place = true ↔
      place = 0 ∨ character.utf8Size ≤ place ∧
        isBoundary (rest.flatMap String.utf8EncodeChar) (place - character.utf8Size) = true := by
  obtain ⟨lead, continuing, encoded, -, continues⟩ := exists_utf8EncodeChar_eq_cons character
  have size : character.utf8Size = continuing.length + 1 := by
    rw [← String.length_utf8EncodeChar, encoded, List.length_cons]
  cases place with
  | zero => exact iff_of_true (isBoundary_zero _) (.inl rfl)
  | succ place =>
    rw [isBoundary_iff, isBoundary_iff, List.flatMap_cons, encoded, size, List.cons_append,
      List.getElem?_cons_succ, List.length_cons, List.length_append, Nat.add_sub_add_right]
    by_cases inside : place < continuing.length
    · -- The byte at the place continues the first character.
      have goesOn := continues _ (List.getElem_mem inside)
      rw [List.getElem?_append_left inside, List.getElem?_eq_getElem inside]
      refine iff_of_false ?_ (by omega)
      rintro (front | whole | ⟨byte, isByte, leads⟩)
      · cases front
      · omega
      · cases isByte
        rw [goesOn] at leads
        cases leads
    · rw [List.getElem?_append_right (Nat.not_lt.1 inside)]
      constructor
      · rintro (front | whole | leads)
        · cases front
        · exact .inr ⟨by omega, .inr (.inl (by omega))⟩
        · exact .inr ⟨by omega, .inr (.inr leads)⟩
      · rintro (front | ⟨-, front | whole | leads⟩)
        · cases front
        · -- Right behind the first character another one begins, or the text ends.
          rw [front]
          cases first : (rest.flatMap String.utf8EncodeChar)[0]? with
          | none =>
            have ended := List.getElem?_eq_none_iff.1 first
            exact .inr (.inl (by omega))
          | some byte => exact .inr (.inr ⟨byte, rfl, isContinuation_of_head first⟩)
        · exact .inr (.inl (by omega))
        · exact .inr (.inr leads)

/-- A text can be cut behind some of its characters, and nowhere else. -/
theorem isBoundary_bytesOf_iff (text : String) (place : Nat) :
    isBoundary (bytesOf text) place = true ↔
      ∃ before behind, text.toList = before ++ behind ∧ byteCount before = place := by
  rw [bytesOf_eq]
  generalize text.toList = characters
  induction characters generalizing place with
  | nil =>
    rw [isBoundary_iff]
    constructor
    · rintro (rfl | rfl | ⟨_, none, -⟩)
      · exact ⟨[], [], rfl, rfl⟩
      · exact ⟨[], [], rfl, rfl⟩
      · cases none
    · rintro ⟨before, behind, parts, rfl⟩
      rw [(List.append_eq_nil_iff.1 parts.symm).1]
      exact .inl rfl
  | cons character rest inductionHypothesis =>
    rw [isBoundary_cons_iff, inductionHypothesis]
    constructor
    · rintro (rfl | ⟨inside, before, behind, rfl, count⟩)
      · exact ⟨[], _, rfl, rfl⟩
      · exact ⟨character :: before, behind, rfl, by rw [byteCount]; omega⟩
    · rintro ⟨before, behind, parts, rfl⟩
      cases before with
      | nil => exact .inl rfl
      | cons first before =>
        obtain ⟨rfl, same⟩ := List.cons.inj parts
        exact .inr ⟨Nat.le_add_right _ _, before, behind, same, (Nat.add_sub_cancel_left ..).symm⟩

/-- The last place up to a given one at which a text of these bytes can be cut, if there is one. -/
def lastBoundary? (bytes : List UInt8) : Nat → Option Nat
  | 0 => if isBoundary bytes 0 then some 0 else none
  | place + 1 =>
    if isBoundary bytes (place + 1) then some (place + 1) else lastBoundary? bytes place

/-- The place is found at the front of the text at the latest. -/
theorem exists_lastBoundary? (bytes : List UInt8) (place : Nat) :
    ∃ found, lastBoundary? bytes place = some found ∧ isBoundary bytes found = true := by
  induction place with
  | zero => exact ⟨0, rfl, isBoundary_zero bytes⟩
  | succ place inductionHypothesis =>
    unfold lastBoundary?
    split
    case isTrue boundary => exact ⟨place + 1, rfl, boundary⟩
    case isFalse => exact inductionHypothesis

/-! ### Excerpts -/

/-- The most bytes of a response body that an error shows. -/
def excerptLimit : Nat := 256

/-- What stands behind a text that was cut. -/
def excerptMark : String := "...[truncated]"

/-- A text as an error shows it, if it is found where to cut it and it can be cut there. -/
def excerpt? (text : String) : Option String :=
  if (bytesOf text).length ≤ excerptLimit then some text
  else do
    let place ← lastBoundary? (bytesOf text) excerptLimit
    let part ← between? 0 place text.toList
    return String.ofList part ++ excerptMark

theorem isSome_excerpt? (text : String) : (excerpt? text).isSome := by
  unfold excerpt?
  split
  case isTrue => rfl
  case isFalse =>
    obtain ⟨place, found, boundary⟩ := exists_lastBoundary? (bytesOf text) excerptLimit
    obtain ⟨before, behind, parts, rfl⟩ := (isBoundary_bytesOf_iff _ _).1 boundary
    simp only [found, parts, Option.bind_eq_bind, Option.bind_some, between?_byteCount_append]
    rfl

/-- A text as an error shows it. -/
def excerpt (text : String) : String :=
  (excerpt? text).get (isSome_excerpt? text)

end Testbed.Text
