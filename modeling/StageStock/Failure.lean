import StageStock.Conflict
import StageStock.Notice
import StageStock.Rounding
import StageStock.Violation
import StageStock.Warning

/-!
# Causes of failure

`Failure` lists every reason for which the library declines a request, with the figures that belong
to it. `Failure.notice?` gives the wording; a few failures are not the ledger's own, such as a
number that no row can store, and have no notice.

* `Failure.isRetryable`: the ledger was busy or moved on while a change was prepared, so that the
  same request may succeed when it is run again.
-/

namespace StageStock

/-- Why a request is declined. -/
inductive Failure where
  -- Places
  /-- A place was given both by id and in words. -/
  | placeGivenTwice
  | placeIdNotPositive
  -- Whole sets of placements, rows counted from zero
  | rowWithoutPlace (row : Nat)
  | rowTooSmall (row : Nat)
  | rowStatusUnknown (row : Nat) (status : String)
  /-- Two rows mean the same place. -/
  | rowsShareAPlace (first second : Nat)
  | tooManyPlaced (requested bound : Int)
  -- Plans
  | planWithoutPlace
  | planNamesPlaceTwice
  | moveAllNeedsOnePlace
  | planModeUnknown (mode : String)
  -- Drafts
  | draftRowMissing (index : Int)
  | draftFieldUnknown (field : String)
  -- Placements
  | placementTooSmall
  | placementStatusUnknown (status : String)
  | placeRequired
  | storeTooSmall (requested bound : Int)
  | moveOutOfRange (held : Int)
  | alreadyThere
  -- Reservations
  | neededTooSmall
  | tooManyRequested (requested bound : Int)
  /-- A reservation cannot be changed as asked; the first conflict gives the wording. -/
  | transitionBlocked (first : Conflict) (others : List Conflict) (warnings : List Warning)
  -- Installations
  | installationKindUnknown (kind : String)
  | installationPlaceRequired
  | installedTooSmall
  | installedExceedsTotal (requested total : Int)
  | installedExceedsAvailable (requested bound : Int)
  | notInstalled
  | returnOutOfRange (installed : Int)
  -- Totals and names
  | totalTooSmall
  | totalBelowCommitted (committed total : Int)
  | equipmentNameRequired
  | showNameRequired
  | showEndsBeforeStart
  | locationNameRequired
  | locationExists (name : String)
  -- Rows that do not exist
  | noEquipment (id : Int)
  | noShow (id : Int)
  | noReservation (id : Int)
  | noReservationOf (id equipment : Int)
  | noPlacement (id : Int)
  | noLocation (id : Int)
  -- Changes at the same time
  /-- The lock of an equipment was not free within so many seconds. -/
  | lockTimeout (equipment : Int) (seconds : Rat)
  /-- No attempt was left to take the lock. -/
  | busy (equipment : Int)
  | cancelled
  /-- The caller's version of the ledger is no longer the current one. -/
  | staleVersion (expected current : Int)
  /-- The ledger changed between the reading and the writing of a change. -/
  | overtaken (equipment : Int) (action : String) (read current : Int)
  /-- A change would have broken rules of the ledger. -/
  | wouldBreak (equipment : Int) (action : String) (violations : List Violation)
  -- Failures that are not the ledger's own
  /-- A notice made by the caller. -/
  | reported (notice : Notice)
  /-- A number outside 64 bits with sign was to be stored or looked up. -/
  | numberTooWide
  /-- A total too large for floating-point arithmetic. -/
  | totalTooLarge
  /-- A text that spells no whole number. -/
  | notANumeral (text : String)
  /-- A text that spells a whole number with more digits than are read. -/
  | numeralTooLong (digits : Nat)
  /-- A list where a number is needed. -/
  | listForNumber
  /-- An object where a number is needed. -/
  | objectForNumber
  /-- A number too large for floating-point arithmetic where a whole number is needed. -/
  | infiniteNumber
  /-- A result of arithmetic that is no number where a whole number is needed. -/
  | notANumber
  /-- A number that cannot be written was to be shown in an answer. -/
  | unwritableNumber
  /-- A control character in the target of a request, with its position. -/
  | unprintableTarget (c : Char) (position : Nat)
  | targetTooLong
  | topicUnknown (topic : String)
  | settingMissing (name : String)
  /-- A second row for one show and one equipment was to be stored. -/
  | reservationExists (showId equipment : Int)

namespace Failure

/-- A request that is wrong in itself. -/
def invalid (message : String) : Notice :=
  { kind := .validation, message }

/-- A request that is wrong in itself, with the number that would have been acceptable. -/
def outOfBounds (message : String) (bound : Int) : Notice :=
  { kind := .validation, message, bound := some bound }

/-- Something that does not exist. -/
def missing (what : String) (id : Int) : Notice :=
  { kind := .notFound, message := what ++ " " ++ toString id ++ " not found." }

/-- The words for a set of choices. -/
def expected (choices : List String) : String :=
  "Expected one of: " ++ ", ".intercalate choices ++ "."

/-- The notice of two rows of a plan that mean the same place. -/
def sharedPlace (first second : Nat) : Notice :=
  { kind := .validation
    message := "Each location may appear only once in a redistribution plan."
    conflicts := [.obj [("type", .str "duplicate_location"),
      ("message", .str ("Rows " ++ toString (first + 1) ++ " and " ++ toString (second + 1)
        ++ " resolve to the same location.")),
      ("rows", .arr [.int first, .int second])]] }

/-- The notice of a change that conflicts block: the first conflict speaks, and the first bound
among them is given. -/
def blocked (first : Conflict) (others : List Conflict) (warnings : List Warning) : Notice :=
  let conflicts := first :: others
  { kind := if conflicts.any Conflict.isSameDays then .conflict else .validation
    message := first.message
    bound := conflicts.findSome? Conflict.bound?
    conflicts := conflicts.map Conflict.toJson
    warnings := warnings.map Warning.toJson }

/-- What the caller is told about a failure; nothing if it is not the ledger's own. -/
def notice? : Failure → Option Notice
  | placeGivenTwice => some (invalid "Provide either locationID or locationName, not both.")
  | placeIdNotPositive => some (invalid "locationID must be greater than zero.")
  | rowWithoutPlace row => some (invalid ("Row " ++ toString (row + 1) ++ " has no location."))
  | rowTooSmall row =>
    some (outOfBounds ("Row " ++ toString (row + 1) ++ " quantity must be at least 1.") 1)
  | rowStatusUnknown row status =>
    some (invalid ("Row " ++ toString (row + 1) ++ " has unknown status " ++ Text.quoted status
      ++ "."))
  | rowsShareAPlace first second => some (sharedPlace first second)
  | tooManyPlaced requested bound =>
    some (outOfBounds ("Plan assigns " ++ toString requested ++ " units but only "
      ++ toString bound ++ " can be distributed to locations.") bound)
  | planWithoutPlace =>
    some (invalid "Every planned location needs a locationID or locationName.")
  | planNamesPlaceTwice =>
    some (invalid "Each location may appear only once in a redistribution plan.")
  | moveAllNeedsOnePlace => some (invalid "move-all needs exactly one location.")
  | planModeUnknown mode =>
    some (invalid ("Unknown plan mode " ++ Text.quoted mode
      ++ ". Expected split-equal or move-all."))
  | draftRowMissing index => some (invalid ("No draft row at index " ++ toString index ++ "."))
  | draftFieldUnknown field =>
    some (invalid ("Unknown draft field " ++ Text.quoted field ++ "."))
  | placementTooSmall => some (outOfBounds "quantity must be at least 1." 1)
  | placementStatusUnknown status =>
    some (invalid ("Unknown location status " ++ Text.quoted status ++ ". "
      ++ expected (PlacementStatus.all.map PlacementStatus.text)))
  | placeRequired => some (invalid "A locationID or locationName is required.")
  | storeTooSmall requested bound =>
    some (outOfBounds ("Cannot place " ++ toString requested ++ " units; only " ++ toString bound
      ++ " are in default storage.") bound)
  | moveOutOfRange held =>
    some (outOfBounds ("Can move between 1 and " ++ toString held
      ++ " units from this location.") held)
  | alreadyThere => some (invalid "Equipment is already allocated to that location.")
  | neededTooSmall => some (outOfBounds "quantityNeeded must be at least 1." 1)
  | tooManyRequested requested bound =>
    some (outOfBounds ("Requested " ++ toString requested ++ " units but only " ++ toString bound
      ++ " are available.") bound)
  | transitionBlocked first others warnings => some (blocked first others warnings)
  | installationKindUnknown kind =>
    some (invalid ("Unknown installation type " ++ Text.quoted kind ++ ". "
      ++ expected (InstallationKind.all.map InstallationKind.text)))
  | installationPlaceRequired =>
    some (invalid "A location is required for semi-permanent or fixed installations.")
  | installedTooSmall => some (outOfBounds "Installed quantity must be at least 1." 1)
  | installedExceedsTotal requested total =>
    some (outOfBounds ("Cannot install " ++ toString requested ++ " units; equipment only has "
      ++ toString total ++ ".") total)
  | installedExceedsAvailable requested bound =>
    some (outOfBounds ("Cannot install " ++ toString requested ++ " units; only "
      ++ toString bound ++ " are available for installation.") bound)
  | notInstalled =>
    some (invalid "Equipment is portable; there is no installation to return from.")
  | returnOutOfRange installed =>
    some (outOfBounds ("Can return between 1 and " ++ toString installed
      ++ " installed units.") installed)
  | totalTooSmall => some (outOfBounds "totalQuantity must be at least 1." 1)
  | totalBelowCommitted committed total =>
    some (outOfBounds (toString committed ++ " units are allocated, installed or reserved; "
      ++ "release them before reducing the total to " ++ toString total ++ ".") committed)
  | equipmentNameRequired => some (invalid "equipmentName is required.")
  | showNameRequired => some (invalid "showName is required.")
  | showEndsBeforeStart => some (invalid "endDate cannot be before startDate.")
  | locationNameRequired => some (invalid "locationName is required.")
  | locationExists name =>
    some (invalid ("Location " ++ Text.quoted name ++ " already exists."))
  | noEquipment id => some (missing "Equipment" id)
  | noShow id => some (missing "Show" id)
  | noReservation id => some (missing "Show allocation" id)
  | noReservationOf id equipment =>
    some { kind := .notFound
           message := "Show allocation " ++ toString id ++ " not found for equipment "
             ++ toString equipment ++ "." }
  | noPlacement id => some (missing "Location allocation" id)
  | noLocation id => some (missing "Location" id)
  | lockTimeout equipment seconds =>
    some { kind := .concurrency
           message := "Equipment " ++ toString equipment ++ " is busy; lock not acquired within "
             ++ Rounding.sixDigits seconds ++ "s."
           retryable := true }
  | busy equipment =>
    some { kind := .concurrency
           message := "Equipment " ++ toString equipment ++ " is busy."
           retryable := true }
  | cancelled =>
    some { kind := .concurrency
           message := "Mutation cancelled before the equipment lock was acquired." }
  | staleVersion expected current =>
    some { kind := .concurrency
           message := "Equipment ledger changed since it was validated; retry the operation."
           details := [("expectedVersion", .int expected), ("currentVersion", .int current)] }
  | overtaken equipment action read current =>
    some { kind := .concurrency
           message := "Equipment " ++ toString equipment ++ " changed while " ++ action
             ++ " was being prepared."
           details := [("readVersion", .int read), ("currentVersion", .int current)]
           retryable := true }
  | wouldBreak equipment action violations =>
    some { kind := .invariant
           message := "Mutation " ++ action ++ " would break ledger invariants for equipment "
             ++ toString equipment ++ "."
           violations := violations.map Violation.message }
  | reported notice => some notice
  | numberTooWide | totalTooLarge | notANumeral _ | numeralTooLong _ | listForNumber
  | objectForNumber | infiniteNumber | notANumber | unwritableNumber | unprintableTarget ..
  | targetTooLong | topicUnknown _ | settingMissing _ | reservationExists .. => none

/-- Whether the same request may succeed when it is run again. -/
def isRetryable (f : Failure) : Bool :=
  match f.notice? with
  | some notice => notice.kind = .concurrency && notice.retryable
  | none => false

end Failure

end StageStock
