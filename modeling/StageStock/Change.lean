import StageStock.Failure

/-!
# Changes of a ledger

A `Change` concerns one of the places where units are recorded. `Change.apply` carries it out on a
ledger in memory, where it is checked against the rules before anything is stored; `Change.showIds`
names the shows whose readers have to hear of it.
-/

namespace StageStock

/-- A change of one equipment's ledger. -/
inductive Change where
  /-- Record a reservation, in its row if it has one and in a new row otherwise. -/
  | putReservation (reservation : Reservation)
  /-- Drop the row of a reservation. -/
  | dropReservation (id : Int) (showId : Option Int)
  /-- Record these placements and no others. -/
  | replacePlacements (placements : List Placement)
  | setInstallation (installation : Installation)
  | setTotal (total : Int)
  deriving DecidableEq, Repr

namespace Change

/-- Carry out a change on a ledger in memory. -/
def apply (s : Snapshot) : Change → Except Failure Snapshot
  | putReservation r =>
    let others := s.reservations.filter fun other => r.id = none || other.id ≠ r.id
    .ok { s with reservations := others ++ [r] }
  | dropReservation id _ =>
    match s.findReservation? id with
    | none => .error (.noReservation id)
    | some _ =>
      .ok { s with reservations := s.reservations.filter fun other => other.id ≠ some id }
  | replacePlacements placements => .ok { s with placements := placements }
  | setInstallation installation => .ok { s with installation := installation }
  | setTotal total => .ok { s with total := total }

/-- Carry out changes one after the other. -/
def applyAll (s : Snapshot) : List Change → Except Failure Snapshot
  | [] => .ok s
  | change :: rest =>
    match apply s change with
    | .error e => .error e
    | .ok changed => applyAll changed rest

/-- The shows that a change concerns. -/
def showIds : Change → List Int
  | putReservation r => [r.showId]
  | dropReservation _ showId => showId.toList
  | _ => []

end Change

end StageStock
