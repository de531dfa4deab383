/-!
# Rounding to binary floating point

Ratios are computed exactly and rounded once to a binary floating-point number of 53 significant
bits whose last place is never finer than `2 ^ -1074`. A tie goes to the even neighbour.

* `halfEven`: the nearest whole number;
* `nearest`: the nearest floating-point number, as an exact rational;
* `tooLarge`: whether a number rounds beyond the largest one;
* `ofDecimal?`: the value of a decimal numeral;
* `sixDigits`: a number written with six significant digits.
-/

namespace StageStock.Rounding

/-- The power of a base with any exponent. -/
def power (base : Nat) (e : Int) : Rat :=
  if 0 ≤ e then (Nat.pow base e.toNat : Rat) else 1 / (Nat.pow base (-e).toNat : Rat)

/-- The nearest whole number, of two equally near ones the even one. -/
def halfEven (x : Rat) : Int :=
  let below := x.floor
  let rest := x - below
  if rest < 1 / 2 then below
  else if 1 / 2 < rest then below + 1
  else if below % 2 = 0 then below
  else below + 1

/-- The largest `e` with `2 ^ e ≤ x`, for a positive `x`. -/
def exponentOf (x : Rat) : Int :=
  let guess : Int := (x.num.toNat.log2 : Int) - (x.den.log2 : Int)
  if x < power 2 guess then guess - 1 else guess

/-- The distance of two neighbouring floating-point numbers at a positive `x`. -/
def spacing (x : Rat) : Rat :=
  power 2 (max (exponentOf x - 52) (-1074))

/-- The nearest floating-point number, were there no largest one. -/
def nearest (x : Rat) : Rat :=
  if x = 0 then 0
  else
    let unit := spacing (if x < 0 then -x else x)
    (halfEven (x / unit) : Rat) * unit

/-- Whether a number rounds beyond the largest floating-point number. -/
def tooLarge (x : Rat) : Bool :=
  let largest := power 2 1024
  largest ≤ nearest x || nearest x ≤ -largest

/-- The value of a decimal numeral, rounded; nothing if it is too large. -/
def ofDecimal? (digits exponent : Int) : Option Rat :=
  let length : Int := (toString digits.natAbs).length
  if digits = 0 || exponent + length < -400 then some 0
  else if 400 < exponent + length then none
  else
    let x : Rat := digits * power 10 exponent
    if tooLarge x then none else some (nearest x)

/-- The whole part of a number, the digits after the point dropped. -/
def truncate (x : Rat) : Int :=
  if x < 0 then x.ceil else x.floor

/-! ### Six significant digits -/

/-- The largest `e` with `10 ^ e ≤ x`, for a positive `x`, searched downwards from `start`. -/
def decimalExponent (x : Rat) : (fuel : Nat) → (start : Int) → Int
  | 0, start => start
  | fuel + 1, start =>
    if power 10 start ≤ x then start else decimalExponent x fuel (start - 1)

/-- Drop the zeros at the end of a row of digits. -/
def dropTrailingZeros (digits : List Char) : List Char :=
  (digits.reverse.dropWhile (· = '0')).reverse

/-- Digits with a point after the first `whole` of them, zeros after the point dropped at the
end. -/
def pointed (whole : Nat) (digits : List Char) : String :=
  let decimals := dropTrailingZeros (digits.drop whole)
  String.ofList (digits.take whole ++ (if decimals = [] then [] else '.' :: decimals))

/-- A non-negative number in six significant digits: positional from `0.0001` to below a million,
otherwise with an exponent of at least two digits; zeros after the point are dropped at the end. -/
def sixDigits (x : Rat) : String :=
  if x ≤ 0 then "0"
  else
    let size := decimalExponent x 800 400
    let rounded := halfEven (x * power 10 (5 - size))
    let (e, mantissa) := if rounded = 1000000 then (size + 1, 100000) else (size, rounded.toNat)
    let digits := (toString mantissa).toList
    if -4 ≤ e ∧ e < 6 then
      if 0 ≤ e then pointed (e.toNat + 1) digits
      else pointed 1 (List.replicate (-e).toNat '0' ++ digits)
    else
      let exponent := toString e.natAbs
      pointed 1 digits ++ "e" ++ (if e < 0 then "-" else "+")
        ++ (if exponent.length < 2 then "0" ++ exponent else exponent)

end StageStock.Rounding
