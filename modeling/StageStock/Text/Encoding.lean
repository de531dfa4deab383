/-!
# Texts as bytes

A text is kept as bytes in units of one, two or four bytes, and the larger units in either order of
their bytes. `Encoding.decode?` reads such bytes; half of a pair of units that stands alone is read
as the replacement character, and bytes that make no whole unit or no code point are no text.

Where a text begins with two characters of Basic Latin, the zeros among its first bytes tell how it
is kept (`Encoding.ofBytes`). Bytes that should be text in units of one byte but are not can still
be shown (`decodeShown`).
-/

namespace StageStock.Text

/-- The character that stands for something that is none. -/
def replacement : Char := '\ufffd'

/-- The character of a code point, or the replacement character. -/
def charOr (n : Nat) : Char :=
  if n.isValidChar then Char.ofNat n else replacement

/-- The number that bytes spell, the highest one first. -/
def bytesValue (bs : List UInt8) : Nat :=
  bs.foldl (fun n b => 256 * n + b.toNat) 0

/-- How a text is kept as bytes. -/
inductive Encoding where
  | single
  /-- Units of two bytes, of which the lowest may come first. -/
  | double (lowFirst : Bool)
  /-- Units of four bytes, of which the lowest may come first. -/
  | quadruple (lowFirst : Bool)
  deriving DecidableEq, Repr

namespace Encoding

/-- The number that the bytes of a unit spell. -/
def unit (lowFirst : Bool) (bs : List UInt8) : Nat :=
  bytesValue (if lowFirst then bs.reverse else bs)

/-- The units of two bytes, if the bytes are nothing else. -/
def doubleUnits? (lowFirst : Bool) : List UInt8 → Option (List Nat)
  | [] => some []
  | a :: b :: rest => (doubleUnits? lowFirst rest).map (unit lowFirst [a, b] :: ·)
  | _ => none

/-- The units of four bytes, if the bytes are nothing else. -/
def quadrupleUnits? (lowFirst : Bool) : List UInt8 → Option (List Nat)
  | [] => some []
  | a :: b :: c :: d :: rest =>
    (quadrupleUnits? lowFirst rest).map (unit lowFirst [a, b, c, d] :: ·)
  | _ => none

/-- The code point that a pair of units stands for, if they form a pair. -/
def pairValue? (high low : Nat) : Option Nat :=
  if 0xD800 ≤ high ∧ high < 0xDC00 ∧ 0xDC00 ≤ low ∧ low < 0xE000 then
    some (0x10000 + (high - 0xD800) * 0x400 + (low - 0xDC00))
  else none

/-- The characters of units of two bytes. -/
def ofDoubleUnits : List Nat → List Char
  | high :: low :: rest =>
    match pairValue? high low with
    | some n => charOr n :: ofDoubleUnits rest
    | none => charOr high :: ofDoubleUnits (low :: rest)
  | [n] => [charOr n]
  | [] => []

/-- The characters of units of four bytes, if they are code points. -/
def ofQuadrupleUnits? (units : List Nat) : Option (List Char) :=
  if units.all (· < 0x110000) then some (units.map charOr) else none

/-- The text that bytes are. -/
def decode? : Encoding → List UInt8 → Option (List Char)
  | single, bs => (String.fromUTF8? ⟨bs.toArray⟩).map String.toList
  | double lowFirst, bs => (doubleUnits? lowFirst bs).map ofDoubleUnits
  | quadruple lowFirst, bs => (quadrupleUnits? lowFirst bs).bind ofQuadrupleUnits?

/-- How a text is kept that begins with two characters of Basic Latin, or is one of them. -/
def ofBytes : List UInt8 → Encoding
  | a :: b :: c :: d :: _ =>
    if a = 0 then (if b = 0 then quadruple false else double false)
    else if b = 0 then (if c = 0 && d = 0 then quadruple true else double true)
    else single
  | [a, b] => if a = 0 then double false else if b = 0 then double true else single
  | _ => single

end Encoding

/-! ### Bytes that may be no text -/

/-- The character at the front of bytes, if one of so many bytes stands there. -/
def frontChar? (size : Nat) (bs : List UInt8) : Option Char :=
  let front := bs.take size
  match (String.fromUTF8? ⟨front.toArray⟩).map String.toList with
  | some [c] => if front.length = size then some c else none
  | _ => none

/-- The characters of bytes, each byte that belongs to none being shown as the replacement
character. -/
def decodeShown (bs : List UInt8) : List Char :=
  match bs with
  | [] => []
  | b :: rest =>
    match [1, 2, 3, 4].findSome? fun size => (frontChar? size (b :: rest)).map (size, ·) with
    | some (size, c) => c :: decodeShown (rest.drop (size - 1))
    | none => replacement :: decodeShown rest
termination_by bs.length

end StageStock.Text
