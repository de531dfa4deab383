import StageStock.Desk
import StageStock.Draft
import StageStock.Plan
import StageStock.Record

/-!
# Placements

Units that are not in the store can be kept at places. An equipment has one placement for each
place; units brought to a place that has some already are added to them.

* `Placements.place`: bring units from the store to a place;
* `Placements.move`: move units of a placement to another place or back to the store;
* `Placements.replace`: give the equipment a whole new set of placements;
* `Placements.plan`: the set of placements that a plan would give, without changing anything;
* `Placements.ofEquipment`, `Placements.inventory`: the placements of an equipment, and everything
  that is at a listed location.
-/

namespace StageStock.Placements

/-! ### Answers -/

/-- What a change of placements answers: all placements of the equipment after it. -/
structure Answer where
  records : List PlacementRecord
  availability : Summary

namespace Answer

/-- The answer as it is shown. -/
def toJson (a : Answer) : Json :=
  .obj [("allocations", .arr (a.records.map PlacementRecord.toJson)),
    ("availability", a.availability.toJson)]

end Answer

/-- The placements of an equipment. -/
def ofEquipment (s : Store) (equipment : Int) : Except Failure (List PlacementRecord) :=
  match s.equipment? equipment with
  | .error e => .error e
  | .ok _ => .ok ((s.placementsOf equipment).map s.placementRecord)

/-- The answer after placements were changed. -/
def answer (equipment : Int) (s : Store) (committed : Snapshot) : Except Failure Answer :=
  match ofEquipment s equipment with
  | .error e => .error e
  | .ok records =>
    match committed.summary? 0 with
    | .error e => .error e
    | .ok availability => .ok { records, availability }

/-! ### A whole set of placements -/

/-- A row of a set of placements as it is submitted. An empty status stands for the usual one. -/
structure Row where
  place : Place.Input := {}
  quantity : Int := 0
  status : Option String := none
  notes : Option String := none
  deriving DecidableEq, Repr

namespace Row

/-- The status of a row. -/
def statusText (r : Row) : String :=
  match r.status with
  | none => PlacementStatus.allocated.text
  | some text => if text = "" then PlacementStatus.allocated.text else text

/-- The row that a draft row submits, if its values are of the right kinds. -/
def ofDraftRow? (row : DraftRow) : Option Row := do
  let quantity ← row.quantity.int?
  let name ← optionalText? row.locationName
  let status ← optionalText? row.status
  let notes ← optionalText? row.notes
  return { place := { id := row.locationId, name }, quantity, status, notes }
where
  /-- A text or nothing. -/
  optionalText? : Json → Option (Option String)
    | .null => some none
    | .str s => some (some s)
    | _ => none

end Row

/-- Turn rows into placements, numbered from `index`, after rows whose places are `seen`. Every row
must name a place that exists, hold units in a known state, and mean another place than the rows
before it. -/
def readRows (s : Store) : List Row → (index : Nat) → (seen : List (PlaceKey × Nat)) →
    Except Failure (List Placement)
  | [], _, _ => .ok []
  | row :: rest, index, seen =>
    match s.findPlace row.place with
    | .error e => .error e
    | .ok none => .error (.rowWithoutPlace index)
    | .ok (some place) =>
      if row.quantity < 1 then .error (.rowTooSmall index)
      else if !PlacementStatus.isKnown row.statusText then
        .error (.rowStatusUnknown index row.statusText)
      else
        match seen.lookup place.key with
        | some first => .error (.rowsShareAPlace first index)
        | none =>
          match readRows s rest (index + 1) ((place.key, index) :: seen) with
          | .error e => .error e
          | .ok others =>
            .ok ({ id := none, place, quantity := row.quantity, status := row.statusText,
                   notes := row.notes } :: others)

/-- A whole new set of placements is asked for. -/
structure ReplaceRequest where
  equipment : Int
  rows : List Row
  user : Option Int := none

/-- Give the equipment a whole new set of placements; what is placed nowhere goes back to the
store. -/
def replace (r : ReplaceRequest) (s : Store) : Except Failure (Mutation Answer) :=
  match s.equipment? r.equipment with
  | .error e => .error e
  | .ok _ =>
    match readRows s r.rows 0 [] with
    | .error e => .error e
    | .ok placements =>
      .ok { equipment := r.equipment, user := r.user
            preparation := .fromLedger fun ledger =>
              let bound := ledger.distributable
              let requested := addUp (placements.map Placement.quantity)
              if bound < requested then .error (.tooManyPlaced requested bound)
              else
                .ok { action := "ReplaceLocations", changes := [.replacePlacements placements]
                      answer := answer r.equipment } }

/-! ### Moving units -/

/-- Units of a placement are to be moved; without a target they go back to the store, and without a
quantity all of them are meant. -/
structure MoveRequest where
  id : Int
  target : Place.Input := {}
  quantity : Option Int := none
  user : Option Int := none

/-- The placements after `moved` units of `source` went to `target`. -/
def moveUnits (source : Placement) (target : Option Place) (moved : Int)
    (placements : List Placement) : List Placement :=
  let isTarget (p : Placement) : Bool := target.any fun place => p.place.key = place.key
  let kept := placements.flatMap fun p =>
    if p.id = source.id then
      if 0 < p.quantity - moved then [{ p with quantity := p.quantity - moved }] else []
    else if isTarget p then [{ p with quantity := p.quantity + moved }]
    else [p]
  let merged := placements.any fun p => p.id ≠ source.id && isTarget p
  match target with
  | none => kept
  | some place =>
    if merged then kept
    else kept ++ [{ id := none, place, quantity := moved, status := source.status,
                    notes := source.notes }]

/-- Prepare the move of units. -/
def prepareMove (r : MoveRequest) (target : Option Place) (ledger : Snapshot) :
    Except Failure (Prepared Answer) :=
  match ledger.placements.find? fun p => p.id = some r.id with
  | none => .error (.noPlacement r.id)
  | some source =>
    let moved := r.quantity.getD source.quantity
    if moved < 1 ∨ source.quantity < moved then .error (.moveOutOfRange source.quantity)
    else if target.any fun place => place.key = source.place.key then .error .alreadyThere
    else
      .ok { action := "MoveLocationAllocation"
            changes := [.replacePlacements (moveUnits source target moved ledger.placements)]
            answer := answer ledger.equipment }

/-- Move units of a placement. -/
def move (r : MoveRequest) (s : Store) : Except Failure (Mutation Answer) :=
  match s.placement? r.id with
  | .error e => .error e
  | .ok row =>
    match s.findPlace r.target with
    | .error e => .error e
    | .ok target =>
      .ok { equipment := row.equipment, user := r.user
            preparation := .fromLedger (prepareMove r target) }

/-! ### Bringing units to a place -/

/-- Units from the store are to be brought to a place. -/
structure PlaceRequest where
  equipment : Int
  target : Place.Input
  quantity : Int
  status : String := PlacementStatus.allocated.text
  notes : Option String := none
  user : Option Int := none

/-- The placements after units were brought to a place. Units that are there already keep their
status. -/
def addUnits (r : PlaceRequest) (place : Place) (placements : List Placement) : List Placement :=
  let isTarget (p : Placement) : Bool := p.place.key = place.key
  let topped := placements.map fun p =>
    if isTarget p then
      { p with quantity := p.quantity + r.quantity, notes := r.notes.or p.notes }
    else p
  if placements.any isTarget then topped
  else topped ++ [{ id := none, place, quantity := r.quantity, status := r.status,
                    notes := r.notes }]

/-- Bring units from the store to a place. -/
def place (r : PlaceRequest) (s : Store) : Except Failure (Mutation Answer) :=
  if r.quantity < 1 then .error .placementTooSmall
  else if !PlacementStatus.isKnown r.status then .error (.placementStatusUnknown r.status)
  else
    match s.equipment? r.equipment with
    | .error e => .error e
    | .ok _ =>
      match s.findPlace r.target with
      | .error e => .error e
      | .ok none => .error .placeRequired
      | .ok (some target) =>
        .ok { equipment := r.equipment, user := r.user
              preparation := .fromLedger fun ledger =>
                if ledger.inStore < r.quantity then
                  .error (.storeTooSmall r.quantity ledger.inStore)
                else
                  .ok { action := "AllocateToLocation"
                        changes := [.replacePlacements (addUnits r target ledger.placements)]
                        answer := answer r.equipment } }

/-! ### Plans -/

/-- The places that a plan names, in order; none may be meant twice. -/
def planPlaces (s : Store) : List Place.Input → (seen : List PlaceKey) →
    Except Failure (List Place)
  | [], _ => .ok []
  | input :: rest, seen =>
    match s.findPlace input with
    | .error e => .error e
    | .ok none => .error .planWithoutPlace
    | .ok (some place) =>
      if seen.contains place.key then .error .planNamesPlaceTwice
      else
        match planPlaces s rest (place.key :: seen) with
        | .error e => .error e
        | .ok others => .ok (place :: others)

/-- The placements that a mode of planning gives. -/
def planRows (mode : String) (places : List Place) (units : Int) :
    Except Failure (List Placement) :=
  if mode = "split-equal" then .ok (Plan.splitEqually places units)
  else if mode = "move-all" then
    match places with
    | [only] => .ok (Plan.moveAll only units)
    | _ => .error .moveAllNeedsOnePlace
  else .error (.planModeUnknown mode)

/-- A planned placement as it is shown, with the id and the name of a listed location. -/
structure PlannedRow where
  locationId : Option Int
  locationName : Option String
  quantity : Int
  status : String
  deriving DecidableEq, Repr

namespace PlannedRow

/-- The planned row of a placement, a listed location with its name. -/
def ofPlacement (names : List (Int × String)) (p : Placement) : PlannedRow :=
  match p.place with
  | .named id =>
    { locationId := some id, locationName := names.lookup id, quantity := p.quantity
      status := p.status }
  | .custom text =>
    { locationId := none, locationName := some text, quantity := p.quantity, status := p.status }

/-- The row as it is shown. -/
def toJson (r : PlannedRow) : Json :=
  .obj [("locationID", Json.ofInt? r.locationId), ("locationName", Json.ofStr? r.locationName),
    ("quantity", .int r.quantity), ("status", .str r.status)]

/-- The row as it would be submitted. -/
def toRow (r : PlannedRow) : Row :=
  { place := { id := r.locationId, name := r.locationName }, quantity := r.quantity
    status := some r.status }

end PlannedRow

/-- What a plan would give. -/
structure Planned where
  equipment : Int
  mode : String
  /-- The units that were distributed. -/
  units : Int
  version : Int
  rows : List PlannedRow
  deriving DecidableEq, Repr

namespace Planned

/-- The plan as it is shown. -/
def toJson (p : Planned) : Json :=
  .obj [("equipmentID", .int p.equipment), ("mode", .str p.mode),
    ("totalAvailableForAllocation", .int p.units), ("ledgerVersion", .int p.version),
    ("allocations", .arr (p.rows.map PlannedRow.toJson))]

end Planned

/-- Plan the distribution of an equipment's units over places. -/
def plan (s : Store) (equipment : Int) (mode : String) (targets : List Place.Input) :
    Except Failure Planned :=
  match s.ledger? equipment with
  | .error e => .error e
  | .ok ledger =>
    match planPlaces s targets [] with
    | .error e => .error e
    | .ok places =>
      match planRows mode places ledger.distributable with
      | .error e => .error e
      | .ok placements =>
        .ok { equipment := ledger.equipment, mode, units := ledger.distributable
              version := ledger.version
              rows := placements.map (PlannedRow.ofPlacement s.locationNames) }

/-! ### Everything at a location -/

/-- Units installed at a location. -/
structure InstalledRecord where
  equipment : Int
  row : EquipmentRow
  deriving DecidableEq, Repr

namespace InstalledRecord

/-- The record as it is shown. -/
def toJson (r : InstalledRecord) : Json :=
  .obj [("equipmentID", .int r.equipment), ("equipmentName", Json.ofStr? r.row.name),
    ("installationType", .str r.row.installationKind), ("quantity", .int r.row.installed),
    ("installationDate", Json.ofDate? r.row.installedSince)]

end InstalledRecord

/-- Everything that is at a listed location. -/
structure Inventory where
  id : Int
  name : String
  placed : List PlacementRecord
  installed : List InstalledRecord

namespace Inventory

/-- The units at the location. -/
def total (i : Inventory) : Int :=
  addUp (i.placed.map fun r => r.row.quantity) + addUp (i.installed.map fun r => r.row.installed)

/-- The inventory as it is shown. -/
def toJson (i : Inventory) : Json :=
  .obj [("locationID", .int i.id), ("locationName", .str i.name),
    ("allocations", .arr (i.placed.map PlacementRecord.toJson)),
    ("installations", .arr (i.installed.map InstalledRecord.toJson)),
    ("totalQuantity", .int i.total)]

end Inventory

/-- Everything that is at a listed location, in the order of the names of the equipments. Placements
of equipments that do not exist are left out. -/
def inventory (s : Store) (id : Int) : Except Failure Inventory :=
  match s.location? id with
  | .error e => .error e
  | .ok location =>
    let placed := (s.placements.select fun row => row.placeId = some id).filter fun row =>
      (s.equipments.find? row.2.equipment).isSome
    let installed := s.equipments.select fun row =>
      row.placeId = some id && row.installationKind ≠ InstallationKind.portable.text
        && 0 < row.installed
    .ok { id, name := location.name
          placed := inNameOrder PlacementRecord.equipmentName (placed.map s.placementRecord)
          installed := inNameOrder (fun r => r.row.name)
            (installed.map fun row => ({ equipment := row.1, row := row.2 } : InstalledRecord)) }

end StageStock.Placements
