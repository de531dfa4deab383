import StageStock.Rounding
import StageStock.Store.Dump

/-!
# Sums of stored numbers

Stored numbers are added exactly as long as the sum has a place in 64 bits with sign. A sum that has
none goes on as a floating-point number, and whatever is added to that is rounded as well.

* `Amount.add`: the sum of two amounts;
* `Amount.whole`: the whole number that an amount is.
-/

namespace StageStock.Overview

/-- A stored number or a sum of them. -/
inductive Amount where
  | exact (n : Int)
  /-- A sum that went beyond 64 bits. -/
  | rounded (x : Rat)
  deriving DecidableEq, Repr

namespace Amount

/-- An amount as a floating-point number. -/
def float : Amount → Rat
  | exact n => Rounding.nearest n
  | rounded x => x

/-- The sum of two amounts. -/
def add (a b : Amount) : Amount :=
  match a, b with
  | exact n, exact m =>
    if fitsWord (n + m) then exact (n + m)
    else rounded (Rounding.nearest (Rounding.nearest n + Rounding.nearest m))
  | _, _ => rounded (Rounding.nearest (a.float + b.float))

/-- The whole number that an amount is. -/
def whole : Amount → Int
  | exact n => n
  | rounded x => Rounding.truncate x

theorem whole_add_exact {n m : Int} (h : fitsWord (n + m) = true) :
    ((exact n).add (exact m)).whole = n + m := by
  simp [add, whole, h]

end Amount

end StageStock.Overview
