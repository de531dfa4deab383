import StageStock.Text.Blank

/-!
# Whole numbers in text

`wholeNumber` reads a whole number written in decimal digits: white space around it does not count,
one sign may stand in front, and a single low line may stand between two digits. The digits may be
of any script; `decimalDigit?` gives the value of a digit of any of them. More than `mostDigits` of
them are not read.
-/

namespace StageStock.Text

/-- The code points of the digit zero of every script but Basic Latin; each is followed by the
digits one to nine. -/
def scriptZeros : List Nat :=
  [0x660, 0x6F0, 0x7C0, 0x966, 0x9E6, 0xA66, 0xAE6, 0xB66, 0xBE6, 0xC66, 0xCE6, 0xD66, 0xDE6,
  0xE50, 0xED0, 0xF20, 0x1040, 0x1090, 0x17E0, 0x1810, 0x1946, 0x19D0, 0x1A80, 0x1A90, 0x1B50,
  0x1BB0, 0x1C40, 0x1C50, 0xA620, 0xA8D0, 0xA900, 0xA9D0, 0xA9F0, 0xAA50, 0xABF0, 0xFF10, 0x104A0,
  0x10D30, 0x11066, 0x110F0, 0x11136, 0x111D0, 0x112F0, 0x11450, 0x114D0, 0x11650, 0x116C0,
  0x11730, 0x118E0, 0x11950, 0x11C50, 0x11D50, 0x11DA0, 0x16A60, 0x16AC0, 0x16B50, 0x1D7CE,
  0x1D7D8, 0x1D7E2, 0x1D7EC, 0x1D7F6, 0x1E140, 0x1E2F0, 0x1E950, 0x1FBF0]

/-- The value of a Basic Latin digit. -/
def basicDigit? (c : Char) : Option Nat :=
  if c.isDigit then some (c.toNat - 48) else none

/-- The value of a decimal digit of any script. -/
def decimalDigit? (c : Char) : Option Nat :=
  match basicDigit? c with
  | some d => some d
  | none =>
    (scriptZeros.find? fun first => first ≤ c.toNat && c.toNat < first + 10).map (c.toNat - ·)

/-- The number that digits spell. -/
def digitsValue (ds : List Nat) : Nat :=
  ds.foldl (fun n d => 10 * n + d) 0

/-! ### Numerals -/

/-- The most digits that are read. How many digits are written is not bounded. -/
def mostDigits : Nat := 4300

/-- Why a text spells no number. -/
inductive NumeralProblem where
  | malformed
  /-- There are more digits than are read. -/
  | tooLong (digits : Nat)
  deriving DecidableEq, Repr

/-- A sign in front of a text: whether it is the minus sign, and the text behind it. -/
def splitSign : List Char → Bool × List Char
  | '-' :: rest => (true, rest)
  | '+' :: rest => (false, rest)
  | cs => (false, cs)

/-- Whether every low line in a row of digits stands between two digits, and there is a digit. -/
def isGrouped : List Char → Bool
  | [] => false
  | '_' :: _ => false
  | _ :: '_' :: rest => isGrouped rest
  | _ :: rest => rest.isEmpty || isGrouped rest

/-- The whole number a text spells. Digits are counted before what follows them is looked at. -/
def wholeNumber (s : String) : Except NumeralProblem Int :=
  let (negative, unsigned) := splitSign (s.toList.dropWhile isWhiteSpace)
  let inRow (c : Char) : Bool := c = '_' || (decimalDigit? c).isSome
  let row := unsigned.takeWhile inRow
  let digits := row.filterMap decimalDigit?
  if !isGrouped row then .error .malformed
  else if mostDigits < digits.length then .error (.tooLong digits.length)
  else if (unsigned.dropWhile inRow).all isWhiteSpace then
    let magnitude : Int := digitsValue digits
    .ok (if negative then -magnitude else magnitude)
  else .error .malformed

end StageStock.Text
