/-!
# Escapes of quoted texts

A quoted text is first cut into pieces, each a character or an escaped code unit of sixteen bits, and
then decoded. A character beyond U+FFFF is escaped as a pair of units, a high and a low surrogate; a
surrogate that is not part of such a pair makes the text invalid.
-/

namespace FilterQuery

namespace Json

/-- The value of a hexadecimal digit. -/
def hexValue? (c : Char) : Option Nat :=
  if c.isDigit then some (c.toNat - '0'.toNat)
  else if 'a' ≤ c ∧ c ≤ 'f' then some (c.toNat - 'a'.toNat + 10)
  else if 'A' ≤ c ∧ c ≤ 'F' then some (c.toNat - 'A'.toNat + 10)
  else none

/-- The value of a list of hexadecimal digits. -/
def hexNumber? : List Char → Option Nat :=
  List.foldlM (fun n c => (hexValue? c).map (16 * n + ·)) 0

/-- A piece of a quoted text. -/
inductive Piece where
  | char (value : Char)
  | codeUnit (value : Nat)
deriving DecidableEq

/-- Whether the code unit is the first of a pair. -/
def isHighSurrogate (codeUnit : Nat) : Bool :=
  0xd800 ≤ codeUnit && codeUnit ≤ 0xdbff

/-- Whether the code unit is the second of a pair. -/
def isLowSurrogate (codeUnit : Nat) : Bool :=
  0xdc00 ≤ codeUnit && codeUnit ≤ 0xdfff

/-- The characters of a list of pieces, given the rule that makes a character of a pair of surrogates
and the high surrogate right before the list, if there is one. -/
def decodePieces (pair : Nat → Nat → Nat) : Option Nat → List Piece → Option (List Char)
  | none, [] => some []
  | some _, [] => none
  | none, .char c :: rest => (decodePieces pair none rest).map (c :: ·)
  | some _, .char _ :: _ => none
  | none, .codeUnit n :: rest =>
    if isHighSurrogate n then decodePieces pair (some n) rest
    else if isLowSurrogate n then none
    else (decodePieces pair none rest).map (Char.ofNat n :: ·)
  | some high, .codeUnit low :: rest =>
    if isLowSurrogate low then
      (decodePieces pair none rest).map (Char.ofNat (pair high low) :: ·)
    else none

end Json

end FilterQuery
