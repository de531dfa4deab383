import StageStock.Desk
import StageStock.Record

/-!
# Equipments

An equipment is registered once with its total, all of it in the store. The total can be changed
later, but not below what is out of the store.

* `Equipments.register`: two commits, one for the equipment and one for its entry in the audit
  trail; the second may fail on its own, and the equipment is there nevertheless;
* `Equipments.setTotal`: change the total;
* `Equipments.history`: the audit trail of an equipment, newest entries first;
* `Equipments.list`: all equipments by name.
-/

namespace StageStock.Equipments

/-! ### Registration -/

/-- An equipment is to be registered. -/
structure RegisterRequest where
  name : Option String
  total : Int
  user : Option Int := none

/-- The row of a new equipment. -/
def newRow (r : RegisterRequest) (now : Moment) : EquipmentRow :=
  { name := r.name, total := r.total, created := some now, updated := some now }

/-- The entry in the audit trail of a registration. -/
def registration (r : RegisterRequest) (id : Int) (now : Moment) : AuditRow :=
  { subject := "Equipment", subjectId := id, action := "RegisterEquipment"
    details := some (r.name.getD "None" ++ ": " ++ toString r.total ++ " units")
    user := r.user, time := some now }

/-- Register an equipment: its record, and the store after it. -/
def register (r : RegisterRequest) (now : Moment) (s : Store) :
    Except Failure EquipmentRecord × Store :=
  if r.total < 1 then (.error .totalTooSmall, s)
  else
    let row := newRow r now
    if !row.fits then (.error .numberTooWide, s)
    else
      let id := s.equipments.nextId
      let registered : Store := { s with equipments := s.equipments.insert row }
      let entry := registration r id now
      if entry.fits then
        (.ok { id, row }, { registered with audits := registered.audits.insert entry })
      else (.error .numberTooWide, registered)

/-! ### The total -/

/-- Prepare a change of the total. -/
def prepareTotal (total : Int) (ledger : Snapshot) : Except Failure (Prepared Summary) :=
  if total < ledger.committed then .error (.totalBelowCommitted ledger.committed total)
  else
    .ok { action := "EditTotalQuantity", changes := [.setTotal total]
          answer := fun _ committed => committed.summary? 0 }

/-- Change the total of an equipment. -/
def setTotal (equipment total : Int) (user : Option Int) (_ : Store) :
    Except Failure (Mutation Summary) :=
  if total < 1 then .error .totalTooSmall
  else .ok { equipment, user, preparation := .fromLedger (prepareTotal total) }

/-! ### Reading -/

/-- The equipment as it is shown. -/
def record (s : Store) (id : Int) : Except Failure EquipmentRecord :=
  match s.equipment? id with
  | .error e => .error e
  | .ok row => .ok { id, row, inStore := some (s.snapshot id row).inStore }

/-- All equipments by name. -/
def list (s : Store) : List EquipmentRecord :=
  inNameOrder (fun r => r.row.name)
    (s.equipments.rows.map fun row => ({ id := row.1, row := row.2 } : EquipmentRecord))

/-- The newest entries of the audit trail of an equipment, at least one and at most `limit` of
them. -/
def history (s : Store) (equipment limit : Int) : Except Failure (List (Int × AuditRow)) :=
  match s.equipment? equipment with
  | .error e => .error e
  | .ok _ =>
    if !fitsWord (max 1 limit) then .error .numberTooWide
    else
      let entries := s.audits.select fun row =>
        row.subject = "Equipment" && row.subjectId = equipment
      .ok (entries.reverse.take (max 1 limit).toNat)

/-- The summary of an equipment, for a reservation that holds `held` units. -/
def summary (s : Store) (equipment held : Int) : Except Failure Summary :=
  match s.ledger? equipment with
  | .error e => .error e
  | .ok ledger => ledger.summary? held

/-- The summary of an equipment for one of its reservations, counting the units that it holds. -/
def summaryFor (s : Store) (equipment : Int) (reservation : Option Int) : Except Failure Summary :=
  match s.ledger? equipment with
  | .error e => .error e
  | .ok ledger =>
    match reservation with
    | none => ledger.summary? 0
    | some id =>
      match ledger.findReservation? id with
      | none => .error (.noReservationOf id equipment)
      | some current => ledger.summary? current.held

end StageStock.Equipments
