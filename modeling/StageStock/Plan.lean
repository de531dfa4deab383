import StageStock.Snapshot

/-!
# Plans

A plan spreads units over places anew. `splitEqually` gives each place the same share and one unit
more to the first ones until the remainder is used up; `moveAll` gives one place everything. A place
that would get nothing is left out.
-/

namespace StageStock

namespace Plan

/-- New units for a place, without a row of their own yet. -/
def placed (place : Place) (quantity : Int) : Placement :=
  { id := none, place, quantity }

/-- Shares for places numbered from `index`, one unit more for those below `remainder`. -/
def shares (share remainder : Int) : List Place → (index : Nat) → List Placement
  | [], _ => []
  | place :: rest, index =>
    let quantity := share + (if (index : Int) < remainder then 1 else 0)
    (if 0 < quantity then [placed place quantity] else [])
      ++ shares share remainder rest (index + 1)

/-- Spread units over places as evenly as possible. -/
def splitEqually (places : List Place) (units : Int) : List Placement :=
  if places.isEmpty ∨ units ≤ 0 then []
  else shares (units / places.length) (units % places.length) places 0

/-- Give one place all units. -/
def moveAll (place : Place) (units : Int) : List Placement :=
  if units ≤ 0 then [] else [placed place units]

end Plan

end StageStock
