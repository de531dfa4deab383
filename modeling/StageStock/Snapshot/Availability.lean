import StageStock.Failure

/-!
# How much is left

`Snapshot.summary?` reports how the units of an equipment are spread and what is left, with the
warnings that apply. Little is left when what is left is less than two tenths of the total; that
limit and the percentage in the warning are floating-point numbers, rounded once from the exact
product and ratio.

* `lowLimit?`: the limit, unless the total is too large for floating-point arithmetic;
* `Snapshot.levelWarnings?`: the warnings about what is left, of which there is none, one, or the
  two that go together when nothing is left;
* `Snapshot.warnings?`: all warnings in the order in which they are shown.
-/

namespace StageStock

/-- The floating-point number nearest to two tenths. -/
def twoTenths : Rat :=
  Rounding.nearest (2 / 10)

/-- Two tenths of a total in floating-point arithmetic. -/
def lowLimit? (total : Int) : Except Failure Rat :=
  if Rounding.tooLarge total then .error .totalTooLarge
  else .ok (Rounding.nearest (Rounding.nearest total * twoTenths))

/-- The share of a total in percent, rounded to a whole number. -/
def percentage (part total : Int) : Int :=
  Rounding.halfEven (Rounding.nearest ((part * 100 : Int) / (total : Rat)))

namespace Snapshot

/-- The units of a status in a tally. -/
def unitsOf (tally : List (String × Int)) (status : String) : Int :=
  (tally.lookup status).getD 0

/-- The units that shows have requested without a final decision. -/
def requestedUnits (s : Snapshot) : Int :=
  unitsOf s.reservationsByStatus ReservationStatus.requested.text

/-- The warnings about what is left. -/
def levelWarnings? (s : Snapshot) : Except Failure (List Warning) :=
  if s.total ≤ 0 then .ok []
  else if s.inStore ≤ 0 then
    .ok ((if 0 < s.requestedUnits then [.mayFreeUp s.requestedUnits] else [])
      ++ [.nothingLeft s.total s.committed])
  else
    match lowLimit? s.total with
    | .error e => .error e
    | .ok limit =>
      if (s.inStore : Rat) < limit then
        .ok [.fewLeft s.inStore s.total (percentage s.inStore s.total)]
      else .ok []

/-- The warnings about units that others are using. -/
def useWarnings (s : Snapshot) : List Warning :=
  let atShows := unitsOf s.reservationsByStatus ReservationStatus.inUse.text
  let atPlaces := unitsOf s.placementsByStatus PlacementStatus.inUse.text
  let out := unitsOf s.reservationsByStatus ReservationStatus.checkedOut.text
  (if 0 < atShows + atPlaces then [.inUse atShows atPlaces] else [])
    ++ (if 0 < out then [.checkedOut out] else [])

/-- All warnings about an equipment. -/
def warnings? (s : Snapshot) : Except Failure (List Warning) :=
  match s.levelWarnings? with
  | .error e => .error e
  | .ok level =>
    .ok ((if 0 < s.requestedUnits then [.requested s.requestedUnits] else [])
      ++ level ++ s.useWarnings)

end Snapshot

/-- How the units of an equipment are spread and what is left. -/
structure Summary where
  equipment : Int
  total : Int
  /-- The units in the store. -/
  available : Int
  placed : Int
  reserved : Int
  installed : Int
  installationKind : String
  /-- The units that a reservation holding some already may hold after a change. -/
  availableForUpdate : Int
  reservationsByStatus : List (String × Int)
  placementsByStatus : List (String × Int)
  status : EquipmentStatus
  version : Int
  warnings : List Warning
  deriving DecidableEq, Repr

namespace Snapshot

/-- The summary of a ledger, for a reservation that holds `held` units. -/
def summary? (s : Snapshot) (held : Int) : Except Failure Summary :=
  match s.warnings? with
  | .error e => .error e
  | .ok warnings =>
    .ok { equipment := s.equipment
          total := s.total
          available := s.inStore
          placed := s.placed
          reserved := s.reserved
          installed := s.installed
          installationKind := s.installation.kind
          availableForUpdate := s.inStoreWith held
          reservationsByStatus := s.reservationsByStatus
          placementsByStatus := s.placementsByStatus
          status := s.status
          version := s.version
          warnings := warnings }

end Snapshot

namespace Summary

/-- A tally as it is shown. -/
def tallyJson (tally : List (String × Int)) : Json :=
  .obj (tally.map fun entry => (entry.1, .int entry.2))

/-- The summary as it is shown. What is available is what is in the store. -/
def toJson (s : Summary) : Json :=
  .obj [("equipmentID", .int s.equipment), ("total_quantity", .int s.total),
    ("available_quantity", .int s.available), ("default_storage_quantity", .int s.available),
    ("total_allocated", .int s.placed), ("show_allocated", .int s.reserved),
    ("installation_allocated", .int s.installed),
    ("installation_type", .str s.installationKind),
    ("effectively_available", .int s.availableForUpdate),
    ("show_status_breakdown", tallyJson s.reservationsByStatus),
    ("inventory_status_breakdown", tallyJson s.placementsByStatus),
    ("status", .str s.status.text), ("ledgerVersion", .int s.version),
    ("warnings", .arr (s.warnings.map Warning.toJson))]

end Summary

end StageStock
