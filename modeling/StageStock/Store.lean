import StageStock.Place.Input
import StageStock.Store.Table

/-!
# The store

A `Store` holds six tables: the equipments, the catalogue of locations and shows, the placements and
reservations of units, and an audit trail. Rows may refer to rows that do not exist.

* `Store.snapshot`: the ledger of an equipment, read off its rows; a placement without a place is
  left out, and an empty status or kind stands for the usual one;
* `Store.ledger?`: the same by the id of the equipment;
* `Store.fits`: rows store whole numbers of 64 bits with sign only, and ids are looked up as such
  numbers.
-/

namespace StageStock

/-! ### Rows -/

/-- An equipment: its total, how it is installed, and how often its ledger has changed. -/
structure EquipmentRow where
  name : Option String := none
  total : Int := 1
  status : Option String := some EquipmentStatus.available.text
  installationKind : String := InstallationKind.portable.text
  installed : Int := 0
  placeId : Option Int := none
  placeText : Option String := none
  installedSince : Option Date := none
  installationNotes : Option String := none
  version : Int := 0
  created : Option Moment := none
  updated : Option Moment := none
  deriving DecidableEq, Repr

/-- A listed location. -/
structure LocationRow where
  name : String
  description : Option String := none
  isActive : Option Bool := some true
  created : Option Moment := none
  deriving DecidableEq, Repr

/-- A show with its first and last day. -/
structure ShowRow where
  name : String
  first : Option Date := none
  last : Option Date := none
  created : Option Moment := none
  deriving DecidableEq, Repr

/-- Units of an equipment at a place. -/
structure PlacementRow where
  equipment : Int
  placeId : Option Int := none
  placeText : Option String := none
  quantity : Int := 1
  status : String := PlacementStatus.allocated.text
  notes : Option String := none
  /-- Who put them there first. -/
  placedBy : Option Int := none
  /-- When they were put there first. -/
  placedAt : Option Moment := none
  updated : Option Moment := none
  deriving DecidableEq, Repr

/-- Units of an equipment for a show. -/
structure ReservationRow where
  equipment : Int
  showId : Int
  needed : Int := 1
  allocated : Int := 0
  status : String := ReservationStatus.requested.text
  notes : Option String := none
  /-- When the units were checked out first. -/
  checkedOutAt : Option Moment := none
  createdBy : Option Int := none
  created : Option Moment := none
  updated : Option Moment := none
  deriving DecidableEq, Repr

/-- An entry of the audit trail. -/
structure AuditRow where
  /-- The kind of thing that changed. -/
  subject : String
  subjectId : Int
  action : String
  details : Option String := none
  user : Option Int := none
  time : Option Moment := none
  deriving DecidableEq, Repr

/-- All tables. -/
structure Store where
  equipments : Table EquipmentRow := Table.empty
  locations : Table LocationRow := Table.empty
  shows : Table ShowRow := Table.empty
  placements : Table PlacementRow := Table.empty
  reservations : Table ReservationRow := Table.empty
  audits : Table AuditRow := Table.empty
  deriving Inhabited

/-! ### What rows say -/

namespace EquipmentRow

/-- Whether every number of the row can be stored. -/
def fits (r : EquipmentRow) : Bool :=
  fitsWord r.total && fitsWord r.installed && fitsWord? r.placeId && fitsWord r.version

/-- The installation that the row records. -/
def installation (r : EquipmentRow) : Installation :=
  { kind := if r.installationKind = "" then InstallationKind.portable.text else r.installationKind
    place := Place.ofColumns r.placeId r.placeText
    quantity := r.installed
    since := r.installedSince
    notes := r.installationNotes }

end EquipmentRow

namespace PlacementRow

/-- Whether every number of the row can be stored. -/
def fits (r : PlacementRow) : Bool :=
  fitsWord r.equipment && fitsWord? r.placeId && fitsWord r.quantity && fitsWord? r.placedBy

/-- The place of the units. -/
def place? (r : PlacementRow) : Option Place :=
  Place.ofColumns r.placeId r.placeText

end PlacementRow

namespace ReservationRow

/-- Whether every number of the row can be stored. -/
def fits (r : ReservationRow) : Bool :=
  fitsWord r.equipment && fitsWord r.showId && fitsWord r.needed && fitsWord r.allocated
    && fitsWord? r.createdBy

end ReservationRow

namespace AuditRow

/-- Whether every number of the row can be stored. -/
def fits (r : AuditRow) : Bool :=
  fitsWord r.subjectId && fitsWord? r.user

end AuditRow

namespace Store

/-- The store without a row. -/
def empty : Store := {}

/-- Whether every number in the tables that change can be stored. -/
def fits (s : Store) : Bool :=
  (s.equipments.rows.all fun row => row.2.fits) && (s.placements.rows.all fun row => row.2.fits)
    && (s.reservations.rows.all fun row => row.2.fits) && (s.audits.rows.all fun row => row.2.fits)

/-! ### Reading a ledger -/

/-- The rows of placements of an equipment. -/
def placementsOf (s : Store) (equipment : Int) : List (Int × PlacementRow) :=
  s.placements.select fun r => r.equipment = equipment

/-- The rows of reservations of an equipment. -/
def reservationsOf (s : Store) (equipment : Int) : List (Int × ReservationRow) :=
  s.reservations.select fun r => r.equipment = equipment

/-- The placement that a row records, if it has a place. -/
def placementOf? (row : Int × PlacementRow) : Option Placement :=
  row.2.place?.map fun place =>
    { id := some row.1, place, quantity := row.2.quantity
      status := if row.2.status = "" then PlacementStatus.allocated.text else row.2.status
      notes := row.2.notes }

/-- The reservation that a row records, with the days of its show. -/
def reservationOf (s : Store) (row : Int × ReservationRow) : Reservation :=
  { id := some row.1, showId := row.2.showId, needed := row.2.needed
    allocated := row.2.allocated
    status := if row.2.status = "" then ReservationStatus.requested.text else row.2.status
    notes := row.2.notes
    first := (s.shows.find? row.2.showId).bind ShowRow.first
    last := (s.shows.find? row.2.showId).bind ShowRow.last }

/-- The ledger of an equipment. -/
def snapshot (s : Store) (id : Int) (equipment : EquipmentRow) : Snapshot :=
  { equipment := id
    total := equipment.total
    placements := (s.placementsOf id).filterMap placementOf?
    reservations := (s.reservationsOf id).map s.reservationOf
    installation := equipment.installation
    version := equipment.version }

/-- The row of an equipment. -/
def equipment? (s : Store) (id : Int) : Except Failure EquipmentRow :=
  if fitsWord id then
    match s.equipments.find? id with
    | some row => .ok row
    | none => .error (.noEquipment id)
  else .error .numberTooWide

/-- The ledger of an equipment by its id. -/
def ledger? (s : Store) (id : Int) : Except Failure Snapshot :=
  match s.equipment? id with
  | .error e => .error e
  | .ok row => .ok (s.snapshot id row)

/-! ### The catalogue -/

/-- The listed locations with their ids. The database reads them from its index of the names, and so
in the order of the names, not of the ids. -/
def locationNames (s : Store) : List (Int × String) :=
  Directory.byName (s.locations.rows.map fun row => (row.1, row.2.name))

theorem perm_locationNames (s : Store) :
    s.locationNames.Perm (s.locations.rows.map fun row => (row.1, row.2.name)) :=
  Directory.perm_byName _

theorem mem_locationNames_of_mem {s : Store} {row : Int × LocationRow}
    (h : row ∈ s.locations.rows) : (row.1, row.2.name) ∈ s.locationNames :=
  s.perm_locationNames.mem_iff.2 (List.mem_map.2 ⟨row, h, rfl⟩)

/-- The directory of the listed locations. Of locations whose names fold to the same name the one
whose name comes last in the order of names counts, whichever was entered first. -/
def directory (s : Store) : Directory :=
  Directory.ofNames s.locationNames

/-- The row of a show. -/
def show? (s : Store) (id : Int) : Except Failure ShowRow :=
  if fitsWord id then
    match s.shows.find? id with
    | some row => .ok row
    | none => .error (.noShow id)
  else .error .numberTooWide

/-- The row of a location. -/
def location? (s : Store) (id : Int) : Except Failure LocationRow :=
  if fitsWord id then
    match s.locations.find? id with
    | some row => .ok row
    | none => .error (.noLocation id)
  else .error .numberTooWide

/-- The row of a reservation. -/
def reservation? (s : Store) (id : Int) : Except Failure ReservationRow :=
  if fitsWord id then
    match s.reservations.find? id with
    | some row => .ok row
    | none => .error (.noReservation id)
  else .error .numberTooWide

/-- The row of a placement. -/
def placement? (s : Store) (id : Int) : Except Failure PlacementRow :=
  if fitsWord id then
    match s.placements.find? id with
    | some row => .ok row
    | none => .error (.noPlacement id)
  else .error .numberTooWide

/-- The place that an input means: a description that names a listed location is that location, and
a location named by its id must be listed. -/
def findPlace (s : Store) (input : Place.Input) : Except Failure (Option Place) :=
  match Place.ofInput input with
  | .error e => .error e
  | .ok none => .ok none
  | .ok (some place) =>
    match place.resolve s.directory with
    | .custom text => .ok (some (.custom text))
    | .named id =>
      match s.location? id with
      | .error e => .error e
      | .ok _ => .ok (some (.named id))

end Store

end StageStock
