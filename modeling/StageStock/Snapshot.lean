import StageStock.Calendar
import StageStock.Place
import StageStock.Status
import StageStock.Whole

/-!
# The ledger of one equipment

A `Snapshot` says where the units of an equipment are: at places, promised to shows, installed, or
in the store. The first three are recorded, and the store holds what is left of the total.

* `Snapshot.placed`, `Snapshot.reserved`, `Snapshot.installed`: the recorded units; units of a
  returned reservation and of a portable equipment's installation do not count;
* `Snapshot.inStore`: the rest, which is negative when more is recorded than there is;
* `Snapshot.total_eq`: the total is the sum of these four.
-/

namespace StageStock

/-- Units kept at a place. -/
structure Placement where
  /-- The row that stores them, if there is one already. -/
  id : Option Int
  place : Place
  quantity : Int
  status : String := PlacementStatus.allocated.text
  notes : Option String := none
  deriving DecidableEq, Repr

/-- Units promised to a show. -/
structure Reservation where
  /-- The row that stores them, if there is one already. -/
  id : Option Int
  showId : Int
  /-- The units the show needs. -/
  needed : Int
  /-- The units held for it. -/
  allocated : Int
  status : String := ReservationStatus.requested.text
  notes : Option String := none
  /-- The first day of the show. -/
  first : Option Date := none
  /-- The last day of the show. -/
  last : Option Date := none
  deriving DecidableEq, Repr

/-- The installation of an equipment; the default is a portable equipment. -/
structure Installation where
  kind : String := InstallationKind.portable.text
  place : Option Place := none
  quantity : Int := 0
  since : Option Date := none
  notes : Option String := none
  deriving DecidableEq, Repr

/-- Where the units of an equipment are. -/
structure Snapshot where
  equipment : Int
  total : Int
  placements : List Placement := []
  reservations : List Reservation := []
  installation : Installation := {}
  /-- The number of changes committed so far. -/
  version : Int := 0
  deriving DecidableEq, Repr

namespace Reservation

/-- A returned reservation holds no units. -/
def isActive (r : Reservation) : Bool :=
  r.status ≠ ReservationStatus.returned.text

/-- Whether the units have left the store. -/
def isOut (r : Reservation) : Bool :=
  ReservationStatus.isOut r.status

/-- The units the show needs beyond those held for it. -/
def missing (r : Reservation) : Int :=
  max 0 (r.needed - r.allocated)

/-- The units that come back when the reservation ends. -/
def held (r : Reservation) : Int :=
  if r.isActive then r.allocated else 0

end Reservation

namespace Installation

/-- Portable equipment is not installed. -/
def isActive (i : Installation) : Bool :=
  i.kind ≠ InstallationKind.portable.text

/-- The units that are installed. -/
def units (i : Installation) : Int :=
  if i.isActive then i.quantity else 0

theorem isActive_eq_false_iff {i : Installation} :
    i.isActive = false ↔ i.kind = InstallationKind.portable.text := by
  simp [isActive]

theorem units_eq (i : Installation) :
    i.units = if i.kind = InstallationKind.portable.text then 0 else i.quantity := by
  by_cases h : i.kind = InstallationKind.portable.text <;> simp [units, isActive, h]

end Installation

namespace Snapshot

/-! ### Sums -/

/-- The units at places. -/
def placed (s : Snapshot) : Int :=
  addUp (s.placements.map Placement.quantity)

/-- The units held for shows. -/
def reserved (s : Snapshot) : Int :=
  addUp ((s.reservations.filter Reservation.isActive).map Reservation.allocated)

/-- The installed units. -/
def installed (s : Snapshot) : Int :=
  s.installation.units

/-- The units that are not in the store. -/
def committed (s : Snapshot) : Int :=
  s.placed + s.reserved + s.installed

/-- The units in the store, free for any use. -/
def inStore (s : Snapshot) : Int :=
  s.total - s.committed

/-- The units that a reservation may hold after a change, counting the `held` units it has
already. -/
def inStoreWith (s : Snapshot) (held : Int) : Int :=
  s.inStore + max 0 held

/-- The units that can be distributed over places: those in the store and those at places
already. -/
def distributable (s : Snapshot) : Int :=
  s.inStore + s.placed

theorem total_eq (s : Snapshot) : s.total = s.inStore + s.placed + s.reserved + s.installed := by
  simp only [inStore, committed]
  omega

/-! ### Rows -/

/-- The reservation that a row stores. -/
def findReservation? (s : Snapshot) (id : Int) : Option Reservation :=
  s.reservations.find? fun r => r.id = some id

/-- The reservation of a show. -/
def reservationFor? (s : Snapshot) (showId : Int) : Option Reservation :=
  s.reservations.find? fun r => r.showId = showId

/-- The units placed or held per status, in the order in which the statuses occur first. -/
def tally (rows : List (String × Int)) : List (String × Int) :=
  rows.foldl (fun done row => add row.1 row.2 done) []
where
  /-- Add units to the entry of a status. -/
  add (status : String) (units : Int) : List (String × Int) → List (String × Int)
    | [] => [(status, units)]
    | entry :: rest =>
      if entry.1 = status then (status, entry.2 + units) :: rest else entry :: add status units rest

/-- The units held for shows per status, returned ones included. -/
def reservationsByStatus (s : Snapshot) : List (String × Int) :=
  tally (s.reservations.map fun r => (r.status, r.allocated))

/-- The units at places per status. -/
def placementsByStatus (s : Snapshot) : List (String × Int) :=
  tally (s.placements.map fun p => (p.status, p.quantity))

/-- What the whole equipment is doing. An equipment that is installed to the last unit is installed;
one with units out at a show is in use; one with units in the store is available. -/
def status (s : Snapshot) : EquipmentStatus :=
  if s.installation.isActive && s.total ≤ s.installed then .installed
  else if s.reservations.any fun r => r.isActive && r.isOut then .inUse
  else if 0 < s.inStore then .available
  else .allocated

/-! ### Answers -/

/-- The installation as it is shown. -/
def installationFields (s : Snapshot) (names : List (Int × String)) : List (String × Json) :=
  [("installationType", .str s.installation.kind),
    ("location", Place.toJson names s.installation.place),
    ("quantity", .int s.installation.units),
    ("installationDate", Json.ofDate? s.installation.since),
    ("notes", Json.ofStr? s.installation.notes)]

/-- The installation as an answer of its own. -/
def installationJson (s : Snapshot) (names : List (Int × String)) : Json :=
  .obj (("equipmentID", .int s.equipment) :: s.installationFields names)

/-- Units at a place as they are shown. -/
def placementJson (names : List (Int × String)) (p : Placement) : Json :=
  .obj [("allocationID", Json.ofInt? p.id), ("location", Place.toJson names (some p.place)),
    ("quantity", .int p.quantity), ("status", .str p.status), ("notes", Json.ofStr? p.notes)]

/-- Units of a show as they are shown. -/
def reservationJson (r : Reservation) : Json :=
  .obj [("allocationID", Json.ofInt? r.id), ("showID", .int r.showId),
    ("quantityNeeded", .int r.needed), ("quantityAllocated", .int r.allocated),
    ("missingQuantity", .int r.missing), ("status", .str r.status),
    ("notes", Json.ofStr? r.notes)]

/-- The whole ledger of the equipment as it is shown. -/
def toJson (s : Snapshot) (names : List (Int × String)) : Json :=
  .obj [("equipmentID", .int s.equipment), ("total", .int s.total),
    ("locations", .arr (s.placements.map (placementJson names))),
    ("shows", .arr (s.reservations.map reservationJson)),
    ("installation", .obj (s.installationFields names)),
    ("defaultStorage", .int s.inStore), ("ledgerVersion", .int s.version)]

end Snapshot

end StageStock
