import StageStock.Http.Field
import StageStock.Service.Order

/-!
# Bodies of requests

Each body that a request can have is read into the request type of the service that it is meant for.
The part of a service request that comes from the path is an argument. Unknown fields are ignored.
-/

namespace StageStock.Http.Body

open StageStock.Http.Field

/-- The texts of the known states of a reservation. -/
def reservationStatus : Reader String :=
  choice (ReservationStatus.all.map ReservationStatus.text)

/-- The texts of the known states of a placement. -/
def placementStatus : Reader String :=
  choice (PlacementStatus.all.map PlacementStatus.text)

/-- A place by id or words. -/
def place (path : List Step) (object : Json) : Checked Place.Input :=
  Place.Input.mk <$> maybe "locationID" whole path object <*> maybe "locationName" text path object

/-- An equipment to register. -/
def equipment : Reader Equipments.RegisterRequest :=
  objectOf fun path object =>
    (fun name total user => { name := some name, total, user })
      <$> required "equipmentName" text path object
      <*> optional "totalQuantity" whole 1 path object
      <*> maybe "userID" whole path object

/-- A new total, and the user who sets it. -/
def total : Reader (Int × Option Int) :=
  objectOf fun path object =>
    Prod.mk <$> required "totalQuantity" whole path object <*> maybe "userID" whole path object

/-- A show to enter. -/
def newShow : Reader Catalogue.ShowRequest :=
  objectOf fun path object =>
    (fun name first last => { name, first, last })
      <$> required "showName" text path object
      <*> maybe "startDate" day path object
      <*> maybe "endDate" day path object

/-- A location to enter. -/
def newLocation : Reader Catalogue.LocationRequest :=
  objectOf fun path object =>
    (fun name description => { name, description })
      <$> required "locationName" text path object
      <*> maybe "description" text path object

/-- A reservation for a show. -/
def reserve (showId : Int) : Reader Reservations.ReserveRequest :=
  objectOf fun path object =>
    (fun equipment needed notes user => { showId, equipment, needed, notes, user })
      <$> required "equipmentID" whole path object
      <*> optional "quantityNeeded" whole 1 path object
      <*> maybe "notes" text path object
      <*> maybe "userID" whole path object

/-- A change of a reservation. -/
def changeReservation (id : Int) : Reader Reservations.ChangeRequest :=
  objectOf fun path object =>
    (fun needed allocated status notes expected user =>
        { id, needed, allocated, status, notes, expected, user })
      <$> maybe "quantityNeeded" whole path object
      <*> maybe "quantityAllocated" whole path object
      <*> maybe "status" reservationStatus path object
      <*> maybe "notes" text path object
      <*> maybe "expectedVersion" whole path object
      <*> maybe "userID" whole path object

/-- A status and a number of units to check. -/
def preview : Reader (String × Option Int) :=
  objectOf fun path object =>
    Prod.mk <$> required "status" reservationStatus path object
      <*> maybe "quantity" whole path object

/-- A row of a set of placements. -/
def row : Reader Placements.Row :=
  objectOf fun path object =>
    (fun id name quantity status notes =>
        { place := { id, name }, quantity, status := some status, notes })
      <$> maybe "locationID" whole path object
      <*> maybe "locationName" text path object
      <*> optional "quantity" whole 1 path object
      <*> optional "status" placementStatus PlacementStatus.allocated.text path object
      <*> maybe "notes" text path object

/-- A whole set of placements. -/
def replace (equipment : Int) : Reader Placements.ReplaceRequest :=
  objectOf fun path object =>
    (fun rows user => { equipment, rows, user })
      <$> optional "allocations" (listOf row) [] path object
      <*> maybe "userID" whole path object

/-- Units to bring to a place. -/
def placeUnits (equipment : Int) : Reader Placements.PlaceRequest :=
  objectOf fun path object =>
    (fun target quantity status notes user => { equipment, target, quantity, status, notes, user })
      <$> place path object
      <*> optional "quantity" whole 1 path object
      <*> optional "status" placementStatus PlacementStatus.allocated.text path object
      <*> maybe "notes" text path object
      <*> maybe "userID" whole path object

/-- A mode of planning and the places to plan for. -/
def plan : Reader (String × List Place.Input) :=
  objectOf fun path object =>
    Prod.mk <$> required "mode" (choice ["split-equal", "move-all"]) path object
      <*> optional "locations" (listOf (objectOf place)) [] path object

/-- Units to move. -/
def moveUnits (id : Int) : Reader Placements.MoveRequest :=
  objectOf fun path object =>
    (fun target quantity user => { id, target, quantity, user })
      <$> place path object
      <*> maybe "quantity" whole path object
      <*> maybe "userID" whole path object

/-- Units to install. -/
def install (equipment : Int) : Reader Installations.InstallRequest :=
  objectOf fun path object =>
    (fun kind target quantity since notes user =>
        { equipment, kind, target, quantity, since, notes, user })
      <$> required "installationType"
        (choice (InstallationKind.all.map InstallationKind.text)) path object
      <*> place path object
      <*> maybe "quantity" whole path object
      <*> maybe "installationDate" day path object
      <*> maybe "notes" text path object
      <*> maybe "userID" whole path object

/-- Installed units to bring back, and the user who does it. -/
def bringBack : Reader (Option Int × Option Int) :=
  objectOf fun path object =>
    Prod.mk <$> maybe "quantity" whole path object <*> maybe "userID" whole path object

end StageStock.Http.Body
