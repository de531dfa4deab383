import StageStock.Snapshot

/-!
# The rules of a sound ledger

`Snapshot.violations` lists every rule that a ledger breaks, in a fixed order: the total, then each
placement, each reservation, the installation and at last the units left in the store. A change is
committed only if this list is empty.

Figures are written in full: the setting of the runtime by which numbers of more than
`Text.mostDigits` digits are not written is left out.

* `Violation`: a broken rule with the figures that show it, and its wording;
* `Snapshot.IsSound`: the rules said once more, without the list.
-/

namespace StageStock

/-- A broken rule of the ledger. Placements are counted from zero. -/
inductive Violation where
  | totalTooSmall (total : Int)
  | placementTooSmall (index : Nat) (quantity : Int)
  | placementStatus (index : Nat) (status : String)
  /-- Two placements at one place. -/
  | placeTwice (key : PlaceKey) (first second : Nat)
  /-- Two reservations for one show. -/
  | showTwice (showId : Int)
  | neededTooSmall (showId needed : Int)
  | allocatedNegative (showId allocated : Int)
  | allocatedExceedsNeeded (showId allocated needed : Int)
  | reservationStatus (showId : Int) (status : String)
  | installationKind (kind : String)
  | installationNegative (quantity : Int)
  | installationWithoutPlace
  | portableInstalled (quantity : Int)
  /-- More units are recorded than there are. -/
  | overcommitted (inStore committed total : Int)
  deriving DecidableEq, Repr

namespace Violation

/-- How the wording starts that concerns a placement. -/
def aboutPlacement (index : Nat) : String :=
  "location allocation #" ++ toString index

/-- How the wording starts that concerns a reservation. -/
def aboutShow (showId : Int) : String :=
  "show allocation for show " ++ toString showId

/-- The wording for people. -/
def message : Violation → String
  | totalTooSmall total => "total_quantity must be at least 1 (got " ++ toString total ++ ")"
  | placementTooSmall index quantity =>
    aboutPlacement index ++ " quantity must be at least 1 (got " ++ toString quantity ++ ")"
  | placementStatus index status =>
    aboutPlacement index ++ " has unknown status " ++ Text.quoted status
  | placeTwice key first second =>
    "duplicate location " ++ key.text ++ " in rows #" ++ toString first ++ " and #"
      ++ toString second
  | showTwice showId => aboutShow showId ++ " appears more than once"
  | neededTooSmall showId needed =>
    aboutShow showId ++ " quantity_needed must be at least 1 (got " ++ toString needed ++ ")"
  | allocatedNegative showId allocated =>
    aboutShow showId ++ " quantity_allocated is negative (" ++ toString allocated ++ ")"
  | allocatedExceedsNeeded showId allocated needed =>
    aboutShow showId ++ " quantity_allocated " ++ toString allocated
      ++ " exceeds quantity_needed " ++ toString needed
  | reservationStatus showId status =>
    aboutShow showId ++ " has unknown status " ++ Text.quoted status
  | installationKind kind => "unknown installation type " ++ Text.quoted kind
  | installationNegative quantity =>
    "installation quantity is negative (" ++ toString quantity ++ ")"
  | installationWithoutPlace => "non-portable installation has no location"
  | portableInstalled quantity =>
    "portable equipment carries installation quantity " ++ toString quantity
  | overcommitted inStore committed total =>
    "default storage would be " ++ toString inStore ++ ": committed " ++ toString committed
      ++ " exceeds total " ++ toString total

end Violation

/-- A violation, if its condition holds. -/
def violationIf (broken : Bool) (v : Violation) : List Violation :=
  if broken then [v] else []

namespace Placement

/-- The rules that a placement breaks, after placements whose keys and numbers are `seen`. -/
def violations (p : Placement) (index : Nat) (seen : List (PlaceKey × Nat)) : List Violation :=
  violationIf (p.quantity < 1) (.placementTooSmall index p.quantity)
    ++ violationIf (!PlacementStatus.isKnown p.status) (.placementStatus index p.status)
    ++ match seen.lookup p.place.key with
      | some first => [.placeTwice p.place.key first index]
      | none => []

/-- The rules that placements break, numbered from `index`. -/
def listViolations : List Placement → (index : Nat) → (seen : List (PlaceKey × Nat)) →
    List Violation
  | [], _, _ => []
  | p :: rest, index, seen =>
    p.violations index seen ++
      listViolations rest (index + 1)
        (if (seen.lookup p.place.key).isSome then seen else (p.place.key, index) :: seen)

end Placement

namespace Reservation

/-- The rules that a reservation breaks, after reservations of the shows `seen`. -/
def violations (r : Reservation) (seen : List Int) : List Violation :=
  violationIf (seen.contains r.showId) (.showTwice r.showId)
    ++ violationIf (r.needed < 1) (.neededTooSmall r.showId r.needed)
    ++ violationIf (r.allocated < 0) (.allocatedNegative r.showId r.allocated)
    ++ violationIf (r.needed < r.allocated)
      (.allocatedExceedsNeeded r.showId r.allocated r.needed)
    ++ violationIf (!ReservationStatus.isKnown r.status) (.reservationStatus r.showId r.status)

/-- The rules that reservations break. -/
def listViolations : List Reservation → (seen : List Int) → List Violation
  | [], _ => []
  | r :: rest, seen => r.violations seen ++ listViolations rest (r.showId :: seen)

end Reservation

namespace Installation

/-- The rules that an installation breaks. -/
def violations (i : Installation) : List Violation :=
  violationIf (!InstallationKind.isKnown i.kind) (.installationKind i.kind)
    ++ violationIf (i.quantity < 0) (.installationNegative i.quantity)
    ++ violationIf (i.isActive && i.place.isNone) .installationWithoutPlace
    ++ violationIf (!i.isActive && i.quantity ≠ 0) (.portableInstalled i.quantity)

end Installation

namespace Snapshot

/-- The rules that a ledger breaks. -/
def violations (s : Snapshot) : List Violation :=
  violationIf (s.total < 1) (.totalTooSmall s.total)
    ++ Placement.listViolations s.placements 0 []
    ++ Reservation.listViolations s.reservations []
    ++ s.installation.violations
    ++ violationIf (s.inStore < 0) (.overcommitted s.inStore s.committed s.total)

/-! ### The rules without the list -/

/-- A placement holds at least one unit in a known state. -/
def PlacementSound (p : Placement) : Prop :=
  1 ≤ p.quantity ∧ PlacementStatus.isKnown p.status

/-- A reservation needs at least one unit, holds at most those it needs, and is in a known state. -/
def ReservationSound (r : Reservation) : Prop :=
  1 ≤ r.needed ∧ 0 ≤ r.allocated ∧ r.allocated ≤ r.needed ∧ ReservationStatus.isKnown r.status

/-- An installation is of a known kind; a portable equipment has no units installed, any other has a
place and no negative number of units. -/
def InstallationSound (i : Installation) : Prop :=
  InstallationKind.isKnown i.kind ∧ 0 ≤ i.quantity ∧ (i.isActive → i.place.isSome)
    ∧ (i.isActive = false → i.quantity = 0)

/-- A sound ledger: each row is sound, no place and no show occurs twice, and no more units are
recorded than there are. -/
structure IsSound (s : Snapshot) : Prop where
  one_le_total : 1 ≤ s.total
  placements : ∀ p ∈ s.placements, PlacementSound p
  places : (s.placements.map fun p => p.place.key).Nodup
  reservations : ∀ r ∈ s.reservations, ReservationSound r
  shows : (s.reservations.map Reservation.showId).Nodup
  installation : InstallationSound s.installation
  inStore_nonneg : 0 ≤ s.inStore

end Snapshot

end StageStock
