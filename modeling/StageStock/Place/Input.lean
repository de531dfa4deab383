import StageStock.Failure

/-!
# Places as callers give them

A caller names a place by the id of a listed location or by words, not by both. `Place.ofInput`
turns such an input into a place; giving neither means no place.
-/

namespace StageStock

namespace Place

/-- A place as a caller gives it. -/
structure Input where
  id : Option Int := none
  name : Option String := none
  deriving DecidableEq, Repr

/-- The place an input means, before it is looked up among the listed locations. Words in blanks
alone count as not given. -/
def ofInput (input : Input) : Except Failure (Option Place) :=
  let words := Text.normalise? input.name
  match input.id with
  | some id =>
    if words ≠ "" then .error .placeGivenTwice
    else if id ≤ 0 then .error .placeIdNotPositive
    else .ok (some (named id))
  | none => if words ≠ "" then .ok (some (custom words)) else .ok none

end Place

end StageStock
