import StageStock.Store

/-!
# The store as a document

A store is written as an object with one array of rows for each table, every row with all its
columns, and it is read back row by row. A column that is missing from a row, or is `null`, gets its
usual value: the defaults of the row types, and the moment of reading for the times at which a row
was made and changed. A row without an id gets the next one.

* `Store.toJson`: the whole store as a document;
* `Store.addRow`: one row of a document entered into its table;
* `Store.ofJson?`: the store that a document describes.
-/

namespace StageStock

/-! ### Writing -/

namespace EquipmentRow

/-- The columns of the row. -/
def toJson (id : Int) (r : EquipmentRow) : Json :=
  .obj [("EquipmentID", .int id), ("EquipmentName", Json.ofStr? r.name),
    ("TotalQuantity", .int r.total), ("Status", Json.ofStr? r.status),
    ("InstallationType", .str r.installationKind), ("InstallationQuantity", .int r.installed),
    ("InstallationLocationID", Json.ofInt? r.placeId),
    ("InstallationLocation", Json.ofStr? r.placeText),
    ("InstallationDate", Json.ofDate? r.installedSince),
    ("InstallationNotes", Json.ofStr? r.installationNotes), ("LedgerVersion", .int r.version),
    ("CreatedDate", Json.ofMoment? r.created), ("UpdatedDate", Json.ofMoment? r.updated)]

end EquipmentRow

namespace LocationRow

/-- The columns of the row. -/
def toJson (id : Int) (r : LocationRow) : Json :=
  .obj [("LocationID", .int id), ("LocationName", .str r.name),
    ("Description", Json.ofStr? r.description),
    ("IsActive", match r.isActive with
      | some b => .bool b
      | none => .null),
    ("CreatedDate", Json.ofMoment? r.created)]

end LocationRow

namespace ShowRow

/-- The columns of the row. -/
def toJson (id : Int) (r : ShowRow) : Json :=
  .obj [("ShowID", .int id), ("ShowName", .str r.name), ("StartDate", Json.ofDate? r.first),
    ("EndDate", Json.ofDate? r.last), ("CreatedDate", Json.ofMoment? r.created)]

end ShowRow

namespace PlacementRow

/-- The columns of the row. -/
def toJson (id : Int) (r : PlacementRow) : Json :=
  .obj [("AllocationID", .int id), ("EquipmentID", .int r.equipment),
    ("LocationID", Json.ofInt? r.placeId), ("CustomLocation", Json.ofStr? r.placeText),
    ("Quantity", .int r.quantity), ("Status", .str r.status), ("Notes", Json.ofStr? r.notes),
    ("AllocatedBy", Json.ofInt? r.placedBy), ("AllocatedDate", Json.ofMoment? r.placedAt),
    ("UpdatedDate", Json.ofMoment? r.updated)]

end PlacementRow

namespace ReservationRow

/-- The columns of the row. -/
def toJson (id : Int) (r : ReservationRow) : Json :=
  .obj [("AllocationID", .int id), ("EquipmentID", .int r.equipment), ("ShowID", .int r.showId),
    ("QuantityNeeded", .int r.needed), ("QuantityAllocated", .int r.allocated),
    ("Status", .str r.status), ("Notes", Json.ofStr? r.notes),
    ("CheckoutDate", Json.ofMoment? r.checkedOutAt), ("CreatedBy", Json.ofInt? r.createdBy),
    ("CreatedDate", Json.ofMoment? r.created), ("UpdatedDate", Json.ofMoment? r.updated)]

end ReservationRow

namespace AuditRow

/-- The columns of the row. -/
def toJson (id : Int) (r : AuditRow) : Json :=
  .obj [("AuditID", .int id), ("EntityType", .str r.subject), ("EntityID", .int r.subjectId),
    ("Action", .str r.action), ("Details", Json.ofStr? r.details),
    ("UserID", Json.ofInt? r.user), ("CreatedAt", Json.ofMoment? r.time)]

end AuditRow

/-- The names of the tables. -/
inductive TableName where
  | equipments
  | locations
  | shows
  | placements
  | reservations
  | audits
  deriving DecidableEq, Repr

namespace TableName

/-- All tables. -/
def all : List TableName :=
  [equipments, locations, shows, placements, reservations, audits]

/-- The name of a table in a document. -/
def text : TableName → String
  | equipments => "Equipment"
  | locations => "Locations"
  | shows => "Shows"
  | placements => "LocationAllocations"
  | reservations => "ShowAllocations"
  | audits => "AuditLogs"

/-- The table of a name. -/
def ofText? (name : String) : Option TableName :=
  all.find? fun table => table.text = name

end TableName

namespace Store

/-- The rows of a table as they are written. -/
def tableJson (s : Store) : TableName → List Json
  | .equipments => s.equipments.rows.map fun row => row.2.toJson row.1
  | .locations => s.locations.rows.map fun row => row.2.toJson row.1
  | .shows => s.shows.rows.map fun row => row.2.toJson row.1
  | .placements => s.placements.rows.map fun row => row.2.toJson row.1
  | .reservations => s.reservations.rows.map fun row => row.2.toJson row.1
  | .audits => s.audits.rows.map fun row => row.2.toJson row.1

/-- The whole store as a document. -/
def toJson (s : Store) : Json :=
  .obj (TableName.all.map fun table => (table.text, .arr (s.tableJson table)))

/-- The number of rows of a table. -/
def size (s : Store) (table : TableName) : Nat :=
  (s.tableJson table).length

/-- The store with a table emptied. -/
def clearTable (s : Store) : TableName → Store
  | .equipments => { s with equipments := Table.empty }
  | .locations => { s with locations := Table.empty }
  | .shows => { s with shows := Table.empty }
  | .placements => { s with placements := Table.empty }
  | .reservations => { s with reservations := Table.empty }
  | .audits => { s with audits := Table.empty }

end Store

/-! ### Reading -/

/-- The values of a row of a document by column; a column that is `null` counts as missing. -/
structure Columns where
  row : Json

namespace Columns

/-- The value of a column, read by `read`; a value of the wrong kind is an error. -/
def read? {α : Type} (c : Columns) (column : String) (read : Json → Option α) :
    Option (Option α) :=
  match c.row.field column with
  | .null => some none
  | value => (read value).map some

/-- A whole number. -/
def int? (c : Columns) (column : String) : Option (Option Int) :=
  c.read? column Json.int?

/-- A text. -/
def str? (c : Columns) (column : String) : Option (Option String) :=
  c.read? column Json.str?

/-- A truth value. -/
def bool? (c : Columns) (column : String) : Option (Option Bool) :=
  c.read? column Json.bool?

/-- A day. -/
def date? (c : Columns) (column : String) : Option (Option Date) :=
  c.read? column fun value => value.str?.bind Date.parse?

/-- A moment. -/
def moment? (c : Columns) (column : String) : Option (Option Moment) :=
  c.read? column fun value => value.str?.bind Moment.parse?

/-- The row of an equipment. -/
def equipment? (c : Columns) (now : Moment) : Option EquipmentRow := do
  let usual : EquipmentRow := {}
  return {
    name := ← c.str? "EquipmentName"
    total := (← c.int? "TotalQuantity").getD usual.total
    status := (← c.str? "Status").or usual.status
    installationKind := (← c.str? "InstallationType").getD usual.installationKind
    installed := (← c.int? "InstallationQuantity").getD usual.installed
    placeId := ← c.int? "InstallationLocationID"
    placeText := ← c.str? "InstallationLocation"
    installedSince := ← c.date? "InstallationDate"
    installationNotes := ← c.str? "InstallationNotes"
    version := (← c.int? "LedgerVersion").getD usual.version
    created := (← c.moment? "CreatedDate").or (some now)
    updated := (← c.moment? "UpdatedDate").or (some now) }

/-- The row of a location. -/
def location? (c : Columns) (now : Moment) : Option LocationRow := do
  return {
    name := ← (← c.str? "LocationName")
    description := ← c.str? "Description"
    isActive := (← c.bool? "IsActive").or (some true)
    created := (← c.moment? "CreatedDate").or (some now) }

/-- The row of a show. -/
def show? (c : Columns) (now : Moment) : Option ShowRow := do
  return {
    name := ← (← c.str? "ShowName")
    first := ← c.date? "StartDate"
    last := ← c.date? "EndDate"
    created := (← c.moment? "CreatedDate").or (some now) }

/-- The row of a placement. -/
def placement? (c : Columns) (now : Moment) : Option PlacementRow := do
  let equipment ← (← c.int? "EquipmentID")
  let usual : PlacementRow := { equipment }
  return {
    equipment
    placeId := ← c.int? "LocationID"
    placeText := ← c.str? "CustomLocation"
    quantity := (← c.int? "Quantity").getD usual.quantity
    status := (← c.str? "Status").getD usual.status
    notes := ← c.str? "Notes"
    placedBy := ← c.int? "AllocatedBy"
    placedAt := (← c.moment? "AllocatedDate").or (some now)
    updated := (← c.moment? "UpdatedDate").or (some now) }

/-- The row of a reservation. -/
def reservation? (c : Columns) (now : Moment) : Option ReservationRow := do
  let equipment ← (← c.int? "EquipmentID")
  let showId ← (← c.int? "ShowID")
  let usual : ReservationRow := { equipment, showId }
  return {
    equipment, showId
    needed := (← c.int? "QuantityNeeded").getD usual.needed
    allocated := (← c.int? "QuantityAllocated").getD usual.allocated
    status := (← c.str? "Status").getD usual.status
    notes := ← c.str? "Notes"
    checkedOutAt := ← c.moment? "CheckoutDate"
    createdBy := ← c.int? "CreatedBy"
    created := (← c.moment? "CreatedDate").or (some now)
    updated := (← c.moment? "UpdatedDate").or (some now) }

/-- The row of an audit entry. -/
def audit? (c : Columns) (now : Moment) : Option AuditRow := do
  return {
    subject := ← (← c.str? "EntityType")
    subjectId := ← (← c.int? "EntityID")
    action := ← (← c.str? "Action")
    details := ← c.str? "Details"
    user := ← c.int? "UserID"
    time := (← c.moment? "CreatedAt").or (some now) }

end Columns

namespace Store

/-- Enter a row under an id, or under the next one. -/
def enter {α : Type} (t : Table α) (id : Option Int) (a : α) : Table α :=
  match id with
  | some n => t.put n a
  | none => t.insert a

/-- Enter a row of a document into its table. -/
def addRow (s : Store) (table : TableName) (row : Json) (now : Moment) : Option Store := do
  let c : Columns := ⟨row⟩
  match table with
  | .equipments =>
    return { s with
      equipments := enter s.equipments (← c.int? "EquipmentID") (← c.equipment? now) }
  | .locations =>
    return { s with locations := enter s.locations (← c.int? "LocationID") (← c.location? now) }
  | .shows =>
    return { s with shows := enter s.shows (← c.int? "ShowID") (← c.show? now) }
  | .placements =>
    return { s with
      placements := enter s.placements (← c.int? "AllocationID") (← c.placement? now) }
  | .reservations =>
    return { s with
      reservations := enter s.reservations (← c.int? "AllocationID") (← c.reservation? now) }
  | .audits =>
    return { s with audits := enter s.audits (← c.int? "AuditID") (← c.audit? now) }

/-- Enter rows of a document into a table. -/
def addRows (s : Store) (table : TableName) (rows : List Json) (now : Moment) : Option Store :=
  rows.foldlM (fun done row => done.addRow table row now) s

/-- The store that a document describes; a table that is missing from it is empty. -/
def ofJson? (document : Json) (now : Moment) : Option Store :=
  TableName.all.foldlM (fun done table => done.addRows table (document.field table.text).items now)
    ({} : Store)

end Store

end StageStock
