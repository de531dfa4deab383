import StageStock.Overview.Amount

/-!
# Integrity checks over rows

The checks look at the rows of a store alone and do not build ledgers from them: that is what makes
them a second opinion on the rules that every commit enforces.

* `figures`: the total and the committed units of every equipment, summed over rows;
* `checks`: the seven checks, in the order in which they are shown;
* `passes`: all of them.
-/

namespace StageStock.Overview

/-- The outcome of a check. -/
structure Check where
  name : String
  ok : Bool
  detail : String
  deriving DecidableEq, Repr

/-- The units of an equipment. -/
structure Figures where
  equipment : Int
  total : Int
  committed : Int
  deriving DecidableEq, Repr

/-- The units that the rows of an equipment commit: those at places, those of reservations that are
not returned, and those of an installation that is not portable. They are added up in this order.

The rows of either kind are summed up exactly. The database does so up to 64 bits with sign and fails
with an integer overflow beyond them, where no overview is made and these figures say nothing; only
the three sums go over to floating point when they are added to each other. -/
def committed (s : Store) (id : Int) (row : EquipmentRow) : Int :=
  let placed := (s.placements.select fun r => r.equipment = id).map fun r => r.2.quantity
  let reserved := (s.reservations.select fun r =>
    r.equipment = id && r.status ≠ ReservationStatus.returned.text).map fun r => r.2.allocated
  let portable := row.installationKind = InstallationKind.portable.text
  let installed := if portable then 0 else row.installed
  (((Amount.exact (addUp placed)).add (.exact (addUp reserved))).add (.exact installed)).whole

/-- The units of every equipment, by id. -/
def figures (s : Store) : List Figures :=
  s.equipments.rows.map fun row =>
    { equipment := row.1, total := row.2.total, committed := committed s row.1 row.2 }

/-- The number of values that occur more than once. -/
def repeatedCount {α : Type} [BEq α] (values : List α) : Nat :=
  (values.eraseDups.filter fun v => 1 < values.count v).length

/-- A check that counts rows and passes when there is none. -/
def countCheck (name : String) (count : Nat) : Check :=
  { name, ok := count = 0, detail := "count=" ++ toString count }

/-- No equipment has more units committed than there are. -/
def overCommitted (s : Store) : Check :=
  let found := (figures s).filter fun f => f.total < f.committed
  { name := "equipment:over_committed", ok := found.isEmpty
    detail :=
      if found.isEmpty then "count=0"
      else "count=" ++ toString found.length ++ " ids="
        ++ ",".intercalate (found.map fun f => toString f.equipment) }

/-- The rows of placements at listed locations, each as equipment and location. -/
def namedPlaces (s : Store) : List (Int × Int) :=
  s.placements.rows.filterMap fun row => row.2.placeId.map (row.2.equipment, ·)

/-- The rows of other placements, each as equipment and words with small Basic Latin letters. -/
def customPlaces (s : Store) : List (Int × Option String) :=
  (s.placements.select fun r => r.placeId.isNone).map fun row =>
    (row.2.equipment, row.2.placeText.map Text.lowerBasicLatin)

/-- No equipment has two placements at one place. -/
def duplicatePlaces (s : Store) : Check :=
  let named := repeatedCount (namedPlaces s)
  let custom := repeatedCount (customPlaces s)
  { name := "locationallocations:duplicate_location", ok := named + custom = 0
    detail := "named=" ++ toString named ++ " custom=" ++ toString custom }

/-- Every placement has a listed location or words, and not both. -/
def placeExclusive (s : Store) : Check :=
  countCheck "locationallocations:location_ref_not_exclusive"
    (s.placements.select fun r => r.placeId.isSome == r.placeText.isSome).length

/-- Every placement holds a unit. -/
def placementsPositive (s : Store) : Check :=
  countCheck "locationallocations:quantity_below_one"
    (s.placements.select fun r => r.quantity < 1).length

/-- Every reservation holds no more units than it needs, and no negative number of them. -/
def reservationsWithinNeed (s : Store) : Check :=
  countCheck "showallocations:allocated_outside_needed"
    (s.reservations.select fun r => r.needed < r.allocated || r.allocated < 0).length

/-- Every reservation is for a show that exists. -/
def reservationsOfShows (s : Store) : Check :=
  countCheck "showallocations:orphan_showid"
    (s.reservations.select fun r => (s.shows.find? r.showId).isNone).length

/-- Portable equipments have no units installed and all others have a place. -/
def installationsConsistent (s : Store) : Check :=
  countCheck "equipment:installation_inconsistent"
    (s.equipments.select fun r =>
      if r.installationKind = InstallationKind.portable.text then r.installed ≠ 0
      else r.placeId.isNone && r.placeText.isNone).length

/-- The integrity checks in the order in which they are shown. -/
def checks (s : Store) : List Check :=
  [overCommitted s, duplicatePlaces s, placeExclusive s, placementsPositive s,
    reservationsWithinNeed s, reservationsOfShows s, installationsConsistent s]

/-- Whether every integrity check passes. -/
def passes (s : Store) : Bool :=
  (checks s).all Check.ok

end StageStock.Overview
