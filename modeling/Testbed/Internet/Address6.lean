/-
This file defines addresses of eight groups of sixteen bits, the forms in which they are written and
their normal form. Between groups stand colons. A double colon stands for one or more groups of
zero and occurs once at most; the last two groups may be written as an address of four bytes. In the
normal form a double colon stands for the first of the longest runs of two or more groups of zero.
-/

import Testbed.Internet.Address4

namespace Testbed.Internet

open Text

/-- An address of eight groups of sixteen bits. -/
structure Address6 where
  groups : Vector UInt16 8
  deriving DecidableEq

namespace Address6

/-- The address of groups, if they are eight. -/
def ofGroups? (groups : List UInt16) : Option Address6 :=
  if eight : groups.length = 8 then some ⟨⟨groups.toArray, by simpa using eight⟩⟩ else none

/-! ### Reading -/

/-- A group of one to four hexadecimal digits. -/
def group? (digits : List Char) : Option UInt16 :=
  if digits.isEmpty || digits.length > 4 then none else (numberIn? 16 digits).map UInt16.ofNat

/-- The two groups of an address of four bytes. -/
def groupsOf (address : Address4) : List UInt16 :=
  [UInt16.ofNat (address.bits.toNat / 65536), UInt16.ofNat (address.bits.toNat % 65536)]

/-- The groups of the pieces between colons. -/
def groups? : List (List Char) → Option (List UInt16)
  | [] => some []
  | [last] =>
    if last.contains '.' then (Address4.ofQuad? last).map groupsOf
    else (group? last).map fun group => [group]
  | piece :: rest => do return (← group? piece) :: (← groups? rest)

/-- The groups on one side of a double colon, of which there may be none. -/
def side? (text : List Char) : Option (List UInt16) :=
  if text.isEmpty then some [] else groups? (splitAt ':' text)

/-- The texts on both sides of the first double colon. -/
def sides? : List Char → Option (List Char × List Char)
  | [] => none
  | ':' :: ':' :: rest => some ([], rest)
  | character :: rest => (sides? rest).map fun sides => (character :: sides.1, sides.2)

/-- Reads an address. -/
def ofText? (text : List Char) : Option Address6 :=
  match sides? text with
  | none => (side? text).bind ofGroups?
  | some (left, right) => do
    let front ← if left.contains '.' then none else side? left
    let back ← side? right
    let given := front.length + back.length
    if given < 8 then ofGroups? (front ++ List.replicate (8 - given) 0 ++ back) else none

/-! ### The normal form -/

/-- The number of groups of zero at the beginning. -/
def zerosInFront (groups : List UInt16) : Nat :=
  (groups.takeWhile (· == 0)).length

/-- Where the first of the longest runs of zero groups begins, and its length. -/
def longestRun (groups : List UInt16) : Nat × Nat :=
  (List.range groups.length).foldl (fun best start =>
    let length := zerosInFront (groups.drop start)
    if best.2 < length then (start, length) else best) (0, 0)

/-- Groups in hexadecimal digits with colons between them. -/
def groupsText (groups : List UInt16) : String :=
  ":".intercalate (groups.map fun group => String.ofList (Nat.toDigits 16 group.toNat))

/-- The normal form of an address. -/
def text (address : Address6) : String :=
  let groups := address.groups.toList
  let (start, length) := longestRun groups
  if length < 2 then groupsText groups
  else groupsText (groups.take start) ++ "::" ++ groupsText (groups.drop (start + length))

/-! ### Kinds of addresses -/

/-- Whether an address stands for an address of four bytes. -/
def isMapped (address : Address6) : Bool :=
  address.groups.toList.take 6 == [0, 0, 0, 0, 0, 0xFFFF]

/-- The first group of an address. -/
def firstGroup (address : Address6) : UInt16 :=
  address.groups[0]

/-- Whether an address holds on one link only, so that the link has to be named with it. -/
def isLinkLocal (address : Address6) : Bool :=
  address.firstGroup &&& 0xFFC0 == 0xFE80

/-- Whether an address stands for many receivers. -/
def isMulticast (address : Address6) : Bool :=
  address.firstGroup &&& 0xFF00 == 0xFF00

end Address6

end Testbed.Internet
