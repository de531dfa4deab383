import StageStock.Desk
import StageStock.Record
import StageStock.Snapshot.Transition

/-!
# Reservations

Shows reserve units of an equipment. A reservation begins as a request that holds all the units the
show needs; its status and its units can be changed, and it ends when the units are returned or when
it is removed.

* `Reservations.reserve`: make a reservation, or change how many units an existing one needs;
* `Reservations.change`: change status, units and notes, checked by `Snapshot.transition`;
* `Reservations.remove`: end a reservation without a check;
* `Reservations.preview`: what `change` would find, without changing anything;
* `Reservations.ofShow`: the reservations of a show.
-/

namespace StageStock.Reservations

/-! ### Answers -/

/-- What a change of a reservation answers; a reservation that has ended has no record. -/
structure Answer where
  record : Option ReservationRecord
  /-- The warnings of the check, where one was made. -/
  warnings : Option (List Warning) := none
  availability : Summary

namespace Answer

/-- The answer as it is shown. -/
def toJson (a : Answer) : Json :=
  .obj ([("allocation", match a.record with
      | some record => record.toJson
      | none => .null)]
    ++ (match a.warnings with
      | some warnings => [("warnings", .arr (warnings.map Warning.toJson))]
      | none => [])
    ++ [("availability", a.availability.toJson)])

end Answer

/-- What the removal of a reservation answers. -/
structure Removed where
  id : Int
  availability : Summary

namespace Removed

/-- The answer as it is shown. -/
def toJson (r : Removed) : Json :=
  .obj [("allocationID", .int r.id), ("availability", r.availability.toJson)]

end Removed

/-! ### Making a reservation -/

/-- A show asks for units. -/
structure ReserveRequest where
  showId : Int
  equipment : Int
  needed : Int
  notes : Option String := none
  user : Option Int := none

/-- The units that an existing reservation holds when its need changes: units that are out stay out
as far as they are still needed, others follow the need. -/
def heldAfter (current : Reservation) (needed : Int) : Int :=
  if current.isOut then min current.allocated needed else needed

/-- The new reservation of a show. -/
def fresh (r : ReserveRequest) (row : ShowRow) : Reservation :=
  { id := none, showId := r.showId, needed := r.needed, allocated := r.needed, notes := r.notes
    first := row.first, last := row.last }

/-- The changes that make or change the reservation of a show, with the units it holds so far. A
returned one that is still stored makes room for a new one. -/
def reserveChanges (r : ReserveRequest) (row : ShowRow) (s : Snapshot) : List Change × Int :=
  match s.reservationFor? r.showId with
  | none => ([.putReservation (fresh r row)], 0)
  | some current =>
    if current.isActive then
      ([.putReservation { current with
          needed := r.needed
          allocated := heldAfter current r.needed
          notes := r.notes.or current.notes }], current.allocated)
    else
      (([.dropReservation (current.id.getD 0) (some current.showId),
          .putReservation (fresh r row)] : List Change), 0)

/-- The reservation of a show for an equipment. -/
def recordOf (s : Store) (showId equipment : Int) : Option ReservationRecord :=
  ((s.reservations.select fun row => row.showId = showId && row.equipment = equipment).head?).map
    s.reservationRecord

/-- The answer after a reservation was made. -/
def reserveAnswer (r : ReserveRequest) (s : Store) (committed : Snapshot) :
    Except Failure Answer :=
  match committed.summary? 0 with
  | .error e => .error e
  | .ok availability => .ok { record := recordOf s r.showId r.equipment, availability }

/-- Make the reservation of a show, or change how many units it needs. -/
def reserve (r : ReserveRequest) (s : Store) : Except Failure (Mutation Answer) :=
  if r.needed < 1 then .error .neededTooSmall
  else
    match s.show? r.showId with
    | .error e => .error e
    | .ok row =>
      .ok { equipment := r.equipment, user := r.user
            preparation := .fromLedger fun ledger =>
              let (changes, held) := reserveChanges r row ledger
              let bound := ledger.inStoreWith held
              if bound < r.needed then .error (.tooManyRequested r.needed bound)
              else .ok { action := "AllocateToShow", changes, answer := reserveAnswer r } }

/-! ### Changing a reservation -/

/-- A change of a reservation; what is not given stays as it is. -/
structure ChangeRequest where
  id : Int
  needed : Option Int := none
  allocated : Option Int := none
  status : Option String := none
  notes : Option String := none
  /-- The version of the ledger that the caller was shown. -/
  expected : Option Int := none
  user : Option Int := none

/-- The answer after a reservation was changed. -/
def changeAnswer (id : Int) (warnings : List Warning) (s : Store) (committed : Snapshot) :
    Except Failure Answer :=
  match committed.summary? 0 with
  | .error e => .error e
  | .ok availability =>
    .ok { record := (s.reservations.find? id).map fun row => s.reservationRecord (id, row)
          warnings := some warnings, availability }

/-- The commit of a transition that nothing speaks against. A reservation that is returned ends. -/
def changeWork (r : ChangeRequest) (current : Reservation) (needed : Int) (t : Transition) :
    Prepared Answer :=
  if t.status = ReservationStatus.returned.text then
    { action := "ReturnShowAllocation"
      changes := [.dropReservation (current.id.getD 0) (some current.showId)]
      answer := changeAnswer r.id t.warnings }
  else
    { action := if t.status = current.status then "UpdateShowAllocation" else "ShowStatusChange"
      changes := [.putReservation { current with
        needed := needed
        allocated := t.quantity
        status := t.status
        notes := r.notes.or current.notes }]
      answer := changeAnswer r.id t.warnings }

/-- Prepare the change of a reservation. Where only the need is lowered below the units held, the
units follow it. -/
def prepareChange (r : ChangeRequest) (ledger : Snapshot) : Except Failure (Prepared Answer) :=
  match checkExpected r.expected ledger.version with
  | .error e => .error e
  | .ok () =>
    match ledger.findReservation? r.id with
    | none => .error (.noReservation r.id)
    | some current =>
      let needed := r.needed.getD current.needed
      if needed < 1 then .error .neededTooSmall
      else
        let allocated :=
          if r.allocated = none ∧ needed < current.allocated then some needed else r.allocated
        let t := ledger.transition { current with needed := needed } r.status allocated
        match t.check with
        | .error e => .error e
        | .ok () => .ok (changeWork r current needed t)

/-- Change a reservation. -/
def change (r : ChangeRequest) (s : Store) : Except Failure (Mutation Answer) :=
  match s.reservation? r.id with
  | .error e => .error e
  | .ok row =>
    .ok { equipment := row.equipment, user := r.user
          preparation := .fromLedger (prepareChange r) }

/-! ### Ending a reservation -/

/-- Remove a reservation; its units go back to the store. -/
def remove (id : Int) (user : Option Int) (s : Store) : Except Failure (Mutation Removed) :=
  match s.reservation? id with
  | .error e => .error e
  | .ok row =>
    .ok { equipment := row.equipment, user
          preparation := .known
            { action := "RemoveShowAllocation"
              changes := [.dropReservation id (some row.showId)]
              answer := fun _ committed =>
                match committed.summary? 0 with
                | .error e => .error e
                | .ok availability => .ok { id, availability } } }

/-! ### Reading -/

/-- What a change of a reservation would find. -/
structure Preview where
  transition : Transition
  id : Int
  equipment : Int

namespace Preview

/-- The preview as it is shown. -/
def toJson (p : Preview) : Json :=
  .obj (p.transition.fields
    ++ [("allocationID", .int p.id), ("equipmentID", .int p.equipment)])

end Preview

/-- Check a change of status and units without making it. -/
def preview (s : Store) (id : Int) (status : Option String) (quantity : Option Int) :
    Except Failure Preview :=
  match s.reservation? id with
  | .error e => .error e
  | .ok row =>
    match s.ledger? row.equipment with
    | .error e => .error e
    | .ok ledger =>
      match ledger.findReservation? id with
      | none => .error (.noReservation id)
      | some current =>
        .ok { transition := ledger.transition current status quantity, id
              equipment := ledger.equipment }

/-- The reservations of a show in the order of the names of their equipments; those of equipments
that do not exist are left out. -/
def ofShow (s : Store) (showId : Int) : Except Failure (List ReservationRecord) :=
  match s.show? showId with
  | .error e => .error e
  | .ok _ =>
    let rows := (s.reservations.select fun row => row.showId = showId).filter fun row =>
      (s.equipments.find? row.2.equipment).isSome
    .ok (inNameOrder ReservationRecord.equipmentName (rows.map s.reservationRecord))

end StageStock.Reservations
