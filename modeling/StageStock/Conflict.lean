import StageStock.Json
import StageStock.Status
import StageStock.Text.Quoted

/-!
# Conflicts

A conflict is a reason why a reservation cannot be changed as asked. `Conflict.message` is its
wording, `Conflict.bound?` the number that would have been acceptable, if there is one, and
`Conflict.toJson` the way it is shown.
-/

namespace StageStock

/-- A reason why a reservation cannot be changed as asked. -/
inductive Conflict where
  | unknownStatus (status : String)
  /-- A returned reservation stays returned. -/
  | returnedIsFinal (id : Option Int)
  | negativeQuantity
  | exceedsNeeded (quantity needed : Int)
  /-- More units than the reservation could hold. -/
  | exceedsAvailable (bound : Int)
  /-- Units can only leave the store if there are some. -/
  | nothingToCheckOut
  /-- Another show has units out on the same days; only `bound` units are left beside all of
  them. -/
  | sameDays (id : Option Int) (showId : Int) (status : String) (quantity bound : Int)
  deriving DecidableEq, Repr

namespace Conflict

/-- The word by which programs tell conflicts apart. -/
def kind : Conflict → String
  | unknownStatus .. => "unknown_status"
  | returnedIsFinal .. => "returned_is_terminal"
  | negativeQuantity => "negative_quantity"
  | exceedsNeeded .. => "quantity_exceeds_needed"
  | exceedsAvailable .. => "quantity_exceeds_available"
  | nothingToCheckOut => "zero_allocation"
  | sameDays .. => "allocation_conflict"

/-- Whether another show's use of the units is the reason. -/
def isSameDays : Conflict → Bool
  | sameDays .. => true
  | _ => false

/-- The wording for people. -/
def message : Conflict → String
  | unknownStatus status =>
    "Unknown status " ++ Text.quoted status ++ ". Expected one of: "
      ++ ", ".intercalate (ReservationStatus.all.map ReservationStatus.text) ++ "."
  | returnedIsFinal _ =>
    "A returned allocation cannot be revived; allocate the equipment to the show again."
  | negativeQuantity => "Quantity cannot be negative."
  | exceedsNeeded quantity needed =>
    "Allocated quantity " ++ toString quantity ++ " exceeds the " ++ toString needed
      ++ " units needed."
  | exceedsAvailable bound =>
    "Only " ++ toString bound ++ " units can be held by this allocation."
  | nothingToCheckOut => "Cannot check out equipment with zero allocated quantity."
  | sameDays _ showId status quantity _ =>
    "Show " ++ toString showId ++ " already has " ++ toString quantity ++ " units " ++ status
      ++ " during overlapping dates."

/-- The number that would have been acceptable. -/
def bound? : Conflict → Option Int
  | negativeQuantity => some 0
  | exceedsNeeded _ needed => some needed
  | exceedsAvailable bound => some bound
  | sameDays _ _ _ _ bound => some bound
  | unknownStatus _ | returnedIsFinal _ | nothingToCheckOut => none

/-- What a conflict is about, besides its wording. -/
def subject : Conflict → List (String × Json)
  | returnedIsFinal id => [("allocationID", Json.ofInt? id)]
  | sameDays id showId status quantity _ =>
    [("allocationID", Json.ofInt? id), ("showID", .int showId), ("status", .str status),
      ("quantity", .int quantity)]
  | _ => []

/-- The conflict as it is shown. -/
def toJson (c : Conflict) : Json :=
  let bound := match c.bound? with
    | some n => [("bound", .int n)]
    | none => []
  .obj ([("type", .str c.kind), ("message", .str c.message)] ++ c.subject ++ bound)

end Conflict

end StageStock
