import StageStock.Change
import StageStock.Notifier
import StageStock.Store

/-!
# Committing changes

Changes of a ledger are committed together or not at all. `Store.commit` reads the ledger, checks
that it is the one that the caller has seen, carries the changes out in memory, refuses a result
that breaks a rule, and only then writes the rows.

Writing goes through a `Worksheet`. Edits of rows that exist are seen at once; new rows and dropped
rows wait until the worksheet is flushed, which enters the new rows first and drops rows afterwards.
A reservation is dropped at once, since a new row for its show may follow; everything that waits is
flushed before it.

* `Worksheet.replacePlacements`: a placement keeps the row that its place had, new places get new
  rows, and rows that are left over are dropped;
* `Worksheet.flush`: fails if a number is too wide for a row or a show would get two rows;
* `Store.commit`: the whole, with an entry in the audit trail and the version raised by one.
-/

namespace StageStock

/-! ### Rows that wait -/

/-- A store whose rows are being written. -/
structure Worksheet where
  store : Store
  /-- New placements, not entered yet. -/
  newPlacements : List PlacementRow := []
  /-- Placements that will be dropped. -/
  droppedPlacements : List Int := []
  /-- New reservations, not entered yet. -/
  newReservations : List ReservationRow := []
  /-- New audit entries, not entered yet. -/
  newAudits : List AuditRow := []

namespace Store

/-- Enter a new reservation, unless its show has one for the equipment already. -/
def enterReservation (s : Store) (r : ReservationRow) : Except Failure Store :=
  let isSame (row : Int × ReservationRow) : Bool :=
    row.2.showId = r.showId && row.2.equipment = r.equipment
  if s.reservations.rows.any isSame then .error (.reservationExists r.showId r.equipment)
  else .ok { s with reservations := s.reservations.insert r }

/-- Enter new reservations in order. -/
def enterReservations (s : Store) : List ReservationRow → Except Failure Store
  | [] => .ok s
  | r :: rest =>
    match s.enterReservation r with
    | .error e => .error e
    | .ok entered => entered.enterReservations rest

end Store

namespace Worksheet

/-- Write everything that waits: new rows first, then the rows to drop. -/
def flush (w : Worksheet) : Except Failure Store :=
  match w.store.enterReservations w.newReservations with
  | .error e => .error e
  | .ok entered =>
    let grown := w.newPlacements.foldl Table.insert entered.placements
    let written : Store :=
      { entered with
        placements := w.droppedPlacements.foldl Table.erase grown
        audits := w.newAudits.foldl Table.insert entered.audits }
    if written.fits then .ok written else .error .numberTooWide

/-! ### Writing one change -/

/-- Who changes which equipment, and when. -/
structure Author where
  equipment : Int
  user : Option Int
  now : Moment

/-- The row of a reservation with the figures of a change. The moment at which units are checked out
is written once. -/
def reservationRow (a : Author) (r : Reservation) (row : ReservationRow) : ReservationRow :=
  { row with
    needed := r.needed
    allocated := r.allocated
    status := r.status
    notes := r.notes
    updated := some a.now
    checkedOutAt :=
      if r.status = ReservationStatus.checkedOut.text ∧ row.checkedOutAt = none then some a.now
      else row.checkedOutAt }

/-- Write a reservation in its row, or in a new one. -/
def putReservation (w : Worksheet) (a : Author) (r : Reservation) : Except Failure Worksheet :=
  match r.id with
  | none =>
    let row : ReservationRow :=
      { equipment := a.equipment, showId := r.showId, createdBy := a.user, created := some a.now }
    .ok { w with newReservations := w.newReservations ++ [reservationRow a r row] }
  | some id =>
    match w.store.reservation? id with
    | .error e => .error e
    | .ok row =>
      if row.equipment = a.equipment then
        .ok { w with store := { w.store with
          reservations := w.store.reservations.modify id (reservationRow a r) } }
      else .error (.noReservation id)

/-- Drop a reservation, after everything that waits is written. -/
def dropReservation (w : Worksheet) (id : Int) : Except Failure Worksheet :=
  match w.store.reservation? id with
  | .error e => .error e
  | .ok _ =>
    match w.flush with
    | .error e => .error e
    | .ok flushed =>
      .ok { store := { flushed with reservations := flushed.reservations.erase id } }

/-- The row of a placement with the figures of a change. -/
def placementRow (a : Author) (p : Placement) (row : PlacementRow) : PlacementRow :=
  let (placeId, placeText) := Place.columns (some p.place)
  { row with
    placeId, placeText
    quantity := p.quantity
    status := p.status
    notes := p.notes
    updated := some a.now }

/-- Sort rows into those that can be used again, the first one of each place by its key, and those
to drop. Rows without a place are dropped. -/
def reusableRows : List (Int × PlacementRow) → (found : List (PlaceKey × Int)) →
    (dropped : List Int) → List (PlaceKey × Int) × List Int
  | [], found, dropped => (found, dropped)
  | row :: rest, found, dropped =>
    match row.2.place? with
    | none => reusableRows rest found (dropped ++ [row.1])
    | some place =>
      if (found.lookup place.key).isSome then reusableRows rest found (dropped ++ [row.1])
      else reusableRows rest (found ++ [(place.key, row.1)]) dropped

/-- Write placements in the rows of their places, or in new rows; the rows not used come back. -/
def putPlacements (a : Author) : List Placement → Worksheet → (found : List (PlaceKey × Int)) →
    Worksheet × List (PlaceKey × Int)
  | [], w, found => (w, found)
  | p :: rest, w, found =>
    match found.lookup p.place.key with
    | some id =>
      putPlacements a rest
        { w with store := { w.store with
          placements := w.store.placements.modify id (placementRow a p) } }
        (found.filter fun entry => entry.1 ≠ p.place.key)
    | none =>
      let row : PlacementRow :=
        { equipment := a.equipment, placedBy := a.user, placedAt := some a.now }
      putPlacements a rest
        { w with newPlacements := w.newPlacements ++ [placementRow a p row] } found

/-- Write placements instead of all that the equipment had. -/
def replacePlacements (w : Worksheet) (a : Author) (placements : List Placement) : Worksheet :=
  let (found, surplus) := reusableRows (w.store.placementsOf a.equipment) [] []
  let (written, unused) := putPlacements a placements w found
  { written with
    droppedPlacements := written.droppedPlacements ++ surplus ++ unused.map Prod.snd }

/-- Edit the row of the equipment. -/
def editEquipment (w : Worksheet) (a : Author) (f : EquipmentRow → EquipmentRow) : Worksheet :=
  { w with store := { w.store with equipments := w.store.equipments.modify a.equipment f } }

/-- The row of an equipment with another installation. -/
def installationRow (i : Installation) (row : EquipmentRow) : EquipmentRow :=
  let (placeId, placeText) := Place.columns i.place
  { row with
    installationKind := i.kind
    installed := i.quantity
    placeId, placeText
    installedSince := i.since
    installationNotes := i.notes }

/-- Write a change. -/
def write (w : Worksheet) (a : Author) : Change → Except Failure Worksheet
  | .putReservation r => w.putReservation a r
  | .dropReservation id _ => w.dropReservation id
  | .replacePlacements placements => .ok (w.replacePlacements a placements)
  | .setInstallation i => .ok (w.editEquipment a (installationRow i))
  | .setTotal total => .ok (w.editEquipment a fun row => { row with total := total })

/-- Write changes one after the other. -/
def writeAll (w : Worksheet) (a : Author) : List Change → Except Failure Worksheet
  | [] => .ok w
  | change :: rest =>
    match w.write a change with
    | .error e => .error e
    | .ok written => written.writeAll a rest

end Worksheet

/-! ### The whole commit -/

/-- A failure if the caller was shown another version than the current one. -/
def checkExpected (expected : Option Int) (current : Int) : Except Failure Unit :=
  match expected with
  | some version => if version = current then .ok () else .error (.staleVersion version current)
  | none => .ok ()

/-- Changes to commit together. -/
structure Proposal where
  equipment : Int
  /-- What the audit trail calls them. -/
  action : String
  changes : List Change
  /-- The version that the caller was shown; another one is refused for good. -/
  expected : Option Int := none
  /-- The version that the changes were prepared from; another one means the caller was
  overtaken. -/
  read : Option Int := none
  user : Option Int := none

namespace Proposal

/-- The shows that the changes concern. -/
def showIds (p : Proposal) : List Int :=
  p.changes.flatMap Change.showIds

/-- A failure if the changes were prepared from another version than the current one. -/
def checkRead (p : Proposal) (current : Int) : Except Failure Unit :=
  match p.read with
  | some read =>
    if read = current then .ok () else .error (.overtaken p.equipment p.action read current)
  | none => .ok ()

end Proposal

/-- The figures before and after a change, as the audit trail notes them. -/
def describeChange (before after : Snapshot) : String :=
  let part (name : String) (figure : Snapshot → Int) : String :=
    name ++ " " ++ toString (figure before) ++ "->" ++ toString (figure after)
  "; ".intercalate [part "total" Snapshot.total, part "locations" Snapshot.placed,
    part "shows" Snapshot.reserved, part "installation" Snapshot.installed,
    part "defaultStorage" Snapshot.inStore]

namespace Store

/-- The ledger after the changes, checked against the rules. -/
def prepare (s : Store) (p : Proposal) : Except Failure (Snapshot × Snapshot) :=
  match s.ledger? p.equipment with
  | .error e => .error e
  | .ok before =>
    match checkExpected p.expected before.version with
    | .error e => .error e
    | .ok () =>
      match p.checkRead before.version with
      | .error e => .error e
      | .ok () =>
        match Change.applyAll before p.changes with
        | .error e => .error e
        | .ok after =>
          match after.violations with
          | [] => .ok (before, after)
          | broken => .error (.wouldBreak p.equipment p.action broken)

/-- What every commit writes besides its changes: the raised version, the state of the equipment and
the entry in the audit trail. -/
def complete (w : Worksheet) (a : Worksheet.Author) (p : Proposal) (before after : Snapshot) :
    Worksheet :=
  let edited := w.editEquipment a fun row =>
    { row with
      version := before.version + 1
      status := some after.status.text
      updated := some a.now }
  let entry : AuditRow :=
    { subject := "Equipment", subjectId := p.equipment, action := p.action
      details := some (describeChange before after), user := p.user, time := some a.now }
  { edited with newAudits := edited.newAudits ++ [entry] }

/-- Commit changes: the store after them and the ledger that it then holds. -/
def commit (s : Store) (p : Proposal) (now : Moment) : Except Failure (Store × Snapshot) :=
  match s.prepare p with
  | .error e => .error e
  | .ok (before, after) =>
    let author : Worksheet.Author := { equipment := p.equipment, user := p.user, now }
    match Worksheet.writeAll { store := s } author p.changes with
    | .error e => .error e
    | .ok written =>
      match (complete written author p before after).flush with
      | .error e => .error e
      | .ok stored =>
        match stored.ledger? p.equipment with
        | .error e => .error e
        | .ok committed => .ok (stored, committed)

end Store

end StageStock
