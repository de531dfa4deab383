import StageStock.Store

/-!
# Rows as they are shown

A record is a row with its id and with what belongs to it from other tables, ready to be shown. A
reference to a row that does not exist shows as nothing.

* `Store.placementRecord`, `Store.reservationRecord`: a row with the names it refers to;
* `inNameOrder`: records in the order of an optional name, those without a name first, and otherwise
  in the order in which they were.
-/

namespace StageStock

/-! ### Order -/

/-- Whether a name comes no later than another; no name comes first. -/
def nameLe (a b : Option String) : Bool :=
  match a, b with
  | none, _ => true
  | some _, none => false
  | some x, some y => decide (x ≤ y)

/-- Whether a day comes no later than another; no day comes first. -/
def dateLe (a b : Option Date) : Bool :=
  match a, b with
  | none, _ => true
  | some _, none => false
  | some x, some y => decide (x ≤ y)

/-- Records in the order of a name. -/
def inNameOrder {α : Type} (name : α → Option String) (records : List α) : List α :=
  records.mergeSort fun a b => nameLe (name a) (name b)

/-! ### Equipments -/

/-- An equipment as it is shown, with what is in the store if that was asked for. -/
structure EquipmentRecord where
  id : Int
  row : EquipmentRow
  inStore : Option Int := none
  deriving DecidableEq, Repr

namespace EquipmentRecord

/-- The record as it is shown. -/
def toJson (r : EquipmentRecord) : Json :=
  .obj ([("equipmentID", .int r.id), ("equipmentName", Json.ofStr? r.row.name),
    ("totalQuantity", .int r.row.total), ("status", Json.ofStr? r.row.status),
    ("installationType", .str r.row.installationKind),
    ("installationQuantity", .int r.row.installed),
    ("installationLocationID", Json.ofInt? r.row.placeId),
    ("installationLocation", Json.ofStr? r.row.placeText),
    ("installationDate", Json.ofDate? r.row.installedSince),
    ("installationNotes", Json.ofStr? r.row.installationNotes),
    ("ledgerVersion", .int r.row.version), ("createdDate", Json.ofMoment? r.row.created),
    ("updatedDate", Json.ofMoment? r.row.updated)]
    ++ match r.inStore with
      | some n => [("availableQuantity", .int n)]
      | none => [])

end EquipmentRecord

/-! ### The catalogue -/

/-- A show as it is shown. -/
def showJson (id : Int) (row : ShowRow) : Json :=
  .obj [("showID", .int id), ("showName", .str row.name), ("startDate", Json.ofDate? row.first),
    ("endDate", Json.ofDate? row.last), ("createdDate", Json.ofMoment? row.created)]

/-- A location as it is shown. -/
def locationJson (id : Int) (row : LocationRow) : Json :=
  .obj [("locationID", .int id), ("locationName", .str row.name),
    ("description", Json.ofStr? row.description), ("isActive", .bool (row.isActive.getD false))]

/-! ### Placements and reservations -/

/-- Units at a place as they are shown. -/
structure PlacementRecord where
  id : Int
  row : PlacementRow
  equipmentName : Option String
  /-- The name of the listed location. -/
  locationName : Option String
  deriving DecidableEq, Repr

namespace PlacementRecord

/-- The record as it is shown. -/
def toJson (r : PlacementRecord) : Json :=
  .obj [("allocationID", .int r.id), ("equipmentID", .int r.row.equipment),
    ("equipmentName", Json.ofStr? r.equipmentName), ("locationID", Json.ofInt? r.row.placeId),
    ("locationName", Json.ofStr? (r.locationName.or r.row.placeText)),
    ("isCustomLocation", .bool r.row.placeId.isNone), ("quantity", .int r.row.quantity),
    ("status", .str r.row.status), ("notes", Json.ofStr? r.row.notes),
    ("allocatedBy", Json.ofInt? r.row.placedBy), ("allocatedDate", Json.ofMoment? r.row.placedAt),
    ("updatedDate", Json.ofMoment? r.row.updated)]

end PlacementRecord

/-- Units of a show as they are shown. -/
structure ReservationRecord where
  id : Int
  row : ReservationRow
  equipmentName : Option String
  deriving DecidableEq, Repr

namespace ReservationRecord

/-- The record as it is shown. -/
def toJson (r : ReservationRecord) : Json :=
  .obj [("allocationID", .int r.id), ("showID", .int r.row.showId),
    ("equipmentID", .int r.row.equipment), ("equipmentName", Json.ofStr? r.equipmentName),
    ("quantityNeeded", .int r.row.needed), ("quantityAllocated", .int r.row.allocated),
    ("missingQuantity", .int (max 0 (r.row.needed - r.row.allocated))),
    ("status", .str r.row.status), ("notes", Json.ofStr? r.row.notes),
    ("checkoutDate", Json.ofMoment? r.row.checkedOutAt), ("createdBy", Json.ofInt? r.row.createdBy),
    ("createdDate", Json.ofMoment? r.row.created), ("updatedDate", Json.ofMoment? r.row.updated)]

end ReservationRecord

/-! ### The audit trail -/

/-- An entry of the audit trail as it is shown. -/
def auditJson (id : Int) (row : AuditRow) : Json :=
  .obj [("auditID", .int id), ("action", .str row.action), ("details", Json.ofStr? row.details),
    ("userID", Json.ofInt? row.user), ("createdAt", Json.ofMoment? row.time)]

namespace Store

/-- The name of an equipment. -/
def equipmentName (s : Store) (id : Int) : Option String :=
  (s.equipments.find? id).bind EquipmentRow.name

/-- The name of a listed location. -/
def locationName (s : Store) (id : Option Int) : Option String :=
  id.bind fun n => (s.locations.find? n).map LocationRow.name

/-- A placement as it is shown. -/
def placementRecord (s : Store) (row : Int × PlacementRow) : PlacementRecord :=
  { id := row.1, row := row.2, equipmentName := s.equipmentName row.2.equipment
    locationName := s.locationName row.2.placeId }

/-- A reservation as it is shown. -/
def reservationRecord (s : Store) (row : Int × ReservationRow) : ReservationRecord :=
  { id := row.1, row := row.2, equipmentName := s.equipmentName row.2.equipment }

end Store

end StageStock
