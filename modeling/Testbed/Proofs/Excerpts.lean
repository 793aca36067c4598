/-
This file proves that the excerpt of a long text is the longest part from its front that consists of
whole characters and has no more bytes than an excerpt shows, with the mark behind it. The place of
the cut is looked for backwards. A character has four bytes at most, so one of any four places in a
row is in front of a character or at the end of the text, and the search ends after three steps at
the latest. The places that it passes are inside characters, so no longer part could be shown.
-/

import Testbed.Text.Excerpt

namespace Testbed.Text

/-! ### The search for the place of a cut -/

/-- Whether the search for a place of a cut, from a place backwards, takes so many steps. -/
structure GoesBack (bytes : List UInt8) (start steps : Nat) : Prop where
  /-- It does not go back behind the front of the text. -/
  inside : steps ≤ start
  /-- The text cannot be cut at any place that is passed. -/
  passed : ∀ earlier < steps, isBoundary bytes (start - earlier) = false
  ends : isBoundary bytes (start - steps) = true

/-- The search finds the place to which it goes back. -/
theorem exists_goesBack (bytes : List UInt8) (start : Nat) :
    ∃ steps, GoesBack bytes start steps ∧ lastBoundary? bytes start = some (start - steps) := by
  induction start with
  | zero => exact ⟨0, ⟨Nat.le_refl 0, fun _ => nofun, rfl⟩, rfl⟩
  | succ start inductionHypothesis =>
    unfold lastBoundary?
    split
    case isTrue boundary =>
      exact ⟨0, ⟨Nat.zero_le _, fun _ => nofun, boundary⟩, rfl⟩
    case isFalse noBoundary =>
      obtain ⟨steps, goesBack, found⟩ := inductionHypothesis
      refine ⟨steps + 1, ⟨Nat.succ_le_succ goesBack.inside, ?_, ?_⟩, ?_⟩
      · intro earlier early
        cases earlier with
        | zero => exact Bool.eq_false_iff.2 noBoundary
        | succ earlier =>
          rw [Nat.add_sub_add_right]
          exact goesBack.passed earlier (Nat.lt_of_succ_lt_succ early)
      · rw [Nat.add_sub_add_right]
        exact goesBack.ends
      · rw [Nat.add_sub_add_right]
        exact found

/-- Every place at which the text can be cut is behind the one that is found, or the same. -/
theorem GoesBack.le_of_isBoundary {bytes : List UInt8} {start steps place : Nat}
    (goesBack : GoesBack bytes start steps) (early : place ≤ start)
    (boundary : isBoundary bytes place = true) : place ≤ start - steps := by
  refine Nat.le_of_not_lt fun later => ?_
  have passed := goesBack.passed (start - place) (by omega)
  rw [Nat.sub_sub_self early, boundary] at passed
  cases passed

/-- In front of a place inside a text, a character begins within three bytes, or right there. -/
theorem exists_characters_before {characters : List Char} {place : Nat}
    (inside : place ≤ byteCount characters) :
    ∃ before behind, characters = before ++ behind ∧ byteCount before ≤ place ∧
      place ≤ byteCount before + 3 := by
  induction characters generalizing place with
  | nil => exact ⟨[], [], rfl, Nat.zero_le _, Nat.le_trans inside (Nat.zero_le _)⟩
  | cons character rest inductionHypothesis =>
    have size := character.utf8Size_le_four
    rw [byteCount] at inside
    by_cases short : place < character.utf8Size
    · refine ⟨[], character :: rest, rfl, Nat.zero_le _, ?_⟩
      rw [byteCount]
      omega
    · have further : place - character.utf8Size ≤ byteCount rest := by omega
      obtain ⟨before, behind, rfl, low, high⟩ := inductionHypothesis further
      refine ⟨character :: before, behind, rfl, ?_, ?_⟩ <;> rw [byteCount] <;> omega

theorem length_bytesOf (text : String) : (bytesOf text).length = text.utf8ByteSize := by
  rw [bytesOf, Array.length_toList]
  rfl

/-- Inside a text, the search takes three steps at most. -/
theorem GoesBack.steps_le {text : String} {start steps : Nat}
    (goesBack : GoesBack (bytesOf text) start steps) (inside : start ≤ text.utf8ByteSize) :
    steps ≤ 3 := by
  rw [← byteCount_toList] at inside
  obtain ⟨before, behind, parts, low, high⟩ := exists_characters_before inside
  have boundary := (isBoundary_bytesOf_iff text (byteCount before)).2 ⟨before, behind, parts, rfl⟩
  have last := goesBack.le_of_isBoundary low boundary
  have front := goesBack.inside
  omega

/-! ### Excerpts -/

/-- The parts of a text that is cut: what an excerpt shows, and what it leaves out. -/
structure IsCut (text part left : String) : Prop where
  whole : text = part ++ left
  size_le : part.utf8ByteSize ≤ excerptLimit
  /-- No longer part from the front has so few bytes. -/
  longest : ∀ other rest, text = other ++ rest → other.utf8ByteSize ≤ excerptLimit →
    other.utf8ByteSize ≤ part.utf8ByteSize

/-- The excerpt of a long text is what the search finds, with the mark behind it. -/
theorem exists_isCut {text : String} (long : excerptLimit < text.utf8ByteSize) :
    ∃ part left steps, IsCut text part left ∧ steps ≤ 3 ∧
      GoesBack (bytesOf text) excerptLimit steps ∧
      part.utf8ByteSize = excerptLimit - steps ∧
      lastBoundary? (bytesOf text) excerptLimit = some part.utf8ByteSize ∧
      between? 0 part.utf8ByteSize text.toList = some part.toList ∧
      excerpt? text = some (part ++ excerptMark) := by
  obtain ⟨steps, goesBack, found⟩ := exists_goesBack (bytesOf text) excerptLimit
  obtain ⟨before, behind, parts, count⟩ := (isBoundary_bytesOf_iff _ _).1 goesBack.ends
  have size : (String.ofList before).utf8ByteSize = excerptLimit - steps :=
    (byteCount_eq_utf8ByteSize before).symm.trans count
  have shown : between? 0 (excerptLimit - steps) text.toList = some before := by
    rw [parts, ← count, between?_byteCount_append]
  have isCut : IsCut text (String.ofList before) (String.ofList behind) := by
    refine ⟨?_, by rw [size]; exact Nat.sub_le _ _, fun other rest whole few => ?_⟩
    · rw [← String.ofList_append, ← parts, String.ofList_toList]
    · rw [size]
      refine goesBack.le_of_isBoundary few ((isBoundary_bytesOf_iff _ _).2
        ⟨other.toList, rest.toList, ?_, byteCount_toList other⟩)
      rw [whole, String.toList_append]
  refine ⟨_, _, steps, isCut, goesBack.steps_le (Nat.le_of_lt long), goesBack, size, ?_, ?_, ?_⟩
  · rw [size, found]
  · rw [size, shown, String.toList_ofList]
  · rw [excerpt?, if_neg (by rw [length_bytesOf]; exact Nat.not_le.2 long), found]
    simp only [Option.bind_eq_bind, Option.bind_some, shown]
    rfl

theorem excerpt_eq_of_excerpt? {text shown : String} (same : excerpt? text = some shown) :
    excerpt text = shown :=
  Option.get_of_eq_some _ same

/-- A text of as many bytes as an excerpt shows is its own excerpt. Of a longer one, the excerpt is
the longest part from the front that has no more bytes, with the mark behind it: the place of the
cut is found within three steps, none of them behind the front of the text, and it is not inside a
character. So an excerpt has 270 bytes at most. -/
theorem excerpt_account (text : String) :
    (text.utf8ByteSize ≤ 256 → excerpt text = text) ∧
      (256 < text.utf8ByteSize →
        ∃ part left steps, IsCut text part left ∧ excerpt text = part ++ "...[truncated]" ∧
          steps ≤ 3 ∧ GoesBack (bytesOf text) 256 steps ∧ part.utf8ByteSize = 256 - steps ∧
          lastBoundary? (bytesOf text) 256 = some part.utf8ByteSize ∧
          between? 0 part.utf8ByteSize text.toList = some part.toList) ∧
      (excerpt text).utf8ByteSize ≤ 270 := by
  have short (few : text.utf8ByteSize ≤ excerptLimit) : excerpt text = text := by
    refine excerpt_eq_of_excerpt? ?_
    rw [excerpt?, length_bytesOf, if_pos few]
  refine ⟨short, fun long => ?_, ?_⟩
  · obtain ⟨part, left, steps, isCut, few, goesBack, size, found, shown, same⟩ := exists_isCut long
    exact ⟨part, left, steps, isCut, excerpt_eq_of_excerpt? same, few, goesBack, size, found, shown⟩
  · by_cases few : text.utf8ByteSize ≤ excerptLimit
    · rw [short few]
      exact Nat.le_trans few (by decide)
    · obtain ⟨part, _, _, isCut, -, -, -, -, -, same⟩ := exists_isCut (Nat.not_le.1 few)
      have mark : excerptMark.utf8ByteSize = 14 := by decide
      rw [excerpt_eq_of_excerpt? same, String.utf8ByteSize_append, mark]
      exact Nat.add_le_add_right isCut.size_le 14

/-- A text of 257 bytes in which the most bytes that an excerpt shows end inside a character. -/
def faces : String := String.ofList ('a' :: List.replicate 64 '😀')

theorem excerpt_account_threeSteps :
    256 < faces.utf8ByteSize ∧
      ∃ part left, IsCut faces part left ∧ excerpt faces = part ++ "...[truncated]" ∧
        GoesBack (bytesOf faces) 256 3 ∧ part.utf8ByteSize = 253 := by
  have size : faces.utf8ByteSize = 257 :=
    (byteCount_eq_utf8ByteSize ('a' :: List.replicate 64 '😀')).symm.trans rfl
  have long : 256 < faces.utf8ByteSize := by
    rw [size]
    decide
  have last : lastBoundary? (bytesOf faces) 256 = some 253 := by
    have characters : faces.toList = 'a' :: List.replicate 64 '😀' := String.toList_ofList
    rw [bytesOf_eq, characters]
    rfl
  obtain ⟨part, left, steps, isCut, same, few, goesBack, shown, found, -⟩ :=
    (excerpt_account faces).2.1 long
  have place : part.utf8ByteSize = 253 := Option.some.inj (found.symm.trans last)
  obtain rfl : steps = 3 := by omega
  exact ⟨long, part, left, isCut, same, goesBack, place⟩

end Testbed.Text
