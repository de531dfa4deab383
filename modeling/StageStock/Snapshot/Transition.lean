import StageStock.Failure

/-!
# Changing a reservation

`Snapshot.transition` checks a change of a reservation's status and units against the rest of the
ledger. It never declines: the reasons against the change come back as conflicts, in a fixed order,
and the rest as warnings. `Transition.check` turns conflicts into a failure.

Units that leave the store must not be out at another show on the same days. Two shows have a day in
common unless one ends before the other begins; a show without a first day is on every day, and one
without a last day only on its first (`sharesDays`).
-/

namespace StageStock

/-- Whether two shows, each given by its first and last day, have a day in common. -/
def sharesDays (first₁ last₁ first₂ last₂ : Option Date) : Bool :=
  match first₁, first₂ with
  | some start₁, some start₂ =>
    decide (start₁ ≤ last₂.getD start₂) && decide (start₂ ≤ last₁.getD start₁)
  | _, _ => true

/-- The outcome of checking a change of a reservation. -/
structure Transition where
  status : String
  quantity : Int
  /-- The units that would still be missing. -/
  missing : Int
  conflicts : List Conflict
  warnings : List Warning
  /-- The version of the ledger that was checked. -/
  version : Int
  deriving DecidableEq, Repr

namespace Transition

/-- Whether nothing speaks against the change. -/
def isValid (t : Transition) : Bool :=
  t.conflicts.isEmpty

/-- A failure if anything speaks against the change. -/
def check (t : Transition) : Except Failure Unit :=
  match t.conflicts with
  | [] => .ok ()
  | first :: others => .error (.transitionBlocked first others t.warnings)

/-- The outcome as it is shown. -/
def fields (t : Transition) : List (String × Json) :=
  [("valid", .bool t.isValid), ("status", .str t.status), ("quantity", .int t.quantity),
    ("missing", .int t.missing), ("conflicts", .arr (t.conflicts.map Conflict.toJson)),
    ("warnings", .arr (t.warnings.map Warning.toJson)), ("ledgerVersion", .int t.version)]

/-- The outcome as an answer. -/
def toJson (t : Transition) : Json :=
  .obj t.fields

end Transition

namespace Snapshot

/-- The other reservations that hold units. -/
def others (s : Snapshot) (r : Reservation) : List Reservation :=
  s.reservations.filter fun other => other.id ≠ r.id && other.isActive

/-- The other reservations whose units are out on days of this reservation's show. -/
def outOnSameDays (s : Snapshot) (r : Reservation) : List Reservation :=
  (s.others r).filter fun other =>
    other.isOut && sharesDays r.first r.last other.first other.last

/-- The conflicts with shows on the same days, one for each of them, if the units do not suffice. -/
def sameDaysConflicts (s : Snapshot) (r : Reservation) (quantity : Int) : List Conflict :=
  let blocking := s.outOnSameDays r
  let out := addUp (blocking.map Reservation.allocated)
  if s.total < quantity + out then
    blocking.map fun other =>
      .sameDays other.id other.showId other.status other.allocated (max 0 (s.total - out))
  else []

/-- The warning that other shows have units allocated. -/
def elsewhereWarnings (s : Snapshot) (r : Reservation) : List Warning :=
  let allocated := (s.others r).filter fun other =>
    other.status = ReservationStatus.allocated.text && 0 < other.allocated
  if allocated.isEmpty then []
  else [.allocatedElsewhere (allocated.map Reservation.showId)
    (addUp (allocated.map Reservation.allocated))]

/-- A conflict, if its condition holds. -/
def conflictIf (against : Bool) (c : Conflict) : List Conflict :=
  if against then [c] else []

/-- Check the change of a reservation to a status and a number of units; both stay as they are where
nothing, or an empty status, is given. -/
def transition (s : Snapshot) (r : Reservation) (status? : Option String)
    (quantity? : Option Int) : Transition :=
  let status := match status? with
    | none => r.status
    | some text => if text = "" then r.status else text
  let quantity := quantity?.getD r.allocated
  let returns := decide (status = ReservationStatus.returned.text)
  let goesOut := ReservationStatus.isOut status
  let bound := s.inStoreWith r.held
  let missing := max 0 (r.needed - quantity)
  { status, quantity, missing
    conflicts :=
      conflictIf (!ReservationStatus.isKnown status) (.unknownStatus status)
        ++ conflictIf (!r.isActive && !returns) (.returnedIsFinal r.id)
        ++ conflictIf (quantity < 0) .negativeQuantity
        ++ conflictIf (r.needed < quantity) (.exceedsNeeded quantity r.needed)
        ++ conflictIf (!returns && bound < quantity) (.exceedsAvailable bound)
        ++ conflictIf (goesOut && quantity ≤ 0) .nothingToCheckOut
        ++ (if goesOut then s.sameDaysConflicts r quantity else [])
    warnings :=
      (if goesOut then s.elsewhereWarnings r else [])
        ++ (if status = ReservationStatus.allocated.text ∧ 0 < missing then
          [.unitsMissing missing r.needed quantity] else [])
    version := s.version }

end Snapshot

end StageStock
