import StageStock.Service.Catalogue
import StageStock.Service.Equipments
import StageStock.Service.Installations
import StageStock.Service.Placements
import StageStock.Service.Reservations

/-!
# Orders

An `Order` is a change that a caller can ask the desk for. Three of them enter something new into
the store, and the other nine are mutations that run under the lock of their equipment.

* `Desk.fulfil`: what an order comes to, its answer ready to be shown;
* `Desk.fulfilAll`: the desk after a row of orders, those that were declined included;
* `Store.Reached`: what orders alone make of the empty store.
-/

namespace StageStock

/-- A change that a caller can ask for. -/
inductive Order where
  | register (request : Equipments.RegisterRequest)
  | addShow (request : Catalogue.ShowRequest)
  | addLocation (request : Catalogue.LocationRequest)
  | setTotal (equipment total : Int) (user : Option Int)
  | reserve (request : Reservations.ReserveRequest)
  | changeReservation (request : Reservations.ChangeRequest)
  | removeReservation (id : Int) (user : Option Int)
  | replacePlacements (request : Placements.ReplaceRequest)
  | placeUnits (request : Placements.PlaceRequest)
  | moveUnits (request : Placements.MoveRequest)
  | install (request : Installations.InstallRequest)
  | bringBack (equipment : Int) (quantity user : Option Int)

namespace Outcome

variable {α β : Type}

/-- The outcome with its answer changed. -/
def map (f : α → β) (o : Outcome α) : Outcome β :=
  { result := o.result.map f, desk := o.desk, deliveries := o.deliveries }

@[simp] theorem desk_map (f : α → β) (o : Outcome α) : (o.map f).desk = o.desk := rfl

@[simp] theorem deliveries_map (f : α → β) (o : Outcome α) :
    (o.map f).deliveries = o.deliveries := rfl

end Outcome

namespace Desk

/-- What an entry into the store comes to; nobody is told of it. -/
def entered {α : Type} (desk : Desk) (entry : Except Failure α × Store) : Outcome α :=
  { result := entry.1, desk := { desk with store := entry.2 } }

/-- What an order comes to. -/
def fulfil (desk : Desk) (call : Call) : Order → Outcome Json
  | .register r =>
    (desk.entered (Equipments.register r call.now desk.store)).map EquipmentRecord.toJson
  | .addShow r =>
    (desk.entered (Catalogue.addShow r call.now desk.store)).map fun row => showJson row.1 row.2
  | .addLocation r =>
    (desk.entered (Catalogue.addLocation r call.now desk.store)).map
      fun row => locationJson row.1 row.2
  | .setTotal equipment total user =>
    (desk.mutate call (Equipments.setTotal equipment total user)).map Summary.toJson
  | .reserve r => (desk.mutate call (Reservations.reserve r)).map Reservations.Answer.toJson
  | .changeReservation r =>
    (desk.mutate call (Reservations.change r)).map Reservations.Answer.toJson
  | .removeReservation id user =>
    (desk.mutate call (Reservations.remove id user)).map Reservations.Removed.toJson
  | .replacePlacements r =>
    (desk.mutate call (Placements.replace r)).map Placements.Answer.toJson
  | .placeUnits r => (desk.mutate call (Placements.place r)).map Placements.Answer.toJson
  | .moveUnits r => (desk.mutate call (Placements.move r)).map Placements.Answer.toJson
  | .install r =>
    (desk.mutate call (Installations.install r call.now.date)).map Installations.Answer.toJson
  | .bringBack equipment quantity user =>
    (desk.mutate call (Installations.bringBack equipment quantity user)).map
      Installations.Answer.toJson

/-- The desk after orders, each in its circumstances. -/
def fulfilAll (desk : Desk) (orders : List (Call × Order)) : Desk :=
  orders.foldl (fun after order => (after.fulfil order.1 order.2).desk) desk

end Desk

/-- A store that orders have made of the empty one. Each may have come to another desk, with other
locks held and other listeners, but no other worker has committed beside them. -/
inductive Store.Reached : Store → Prop where
  | empty : Reached Store.empty
  | order (desk : Desk) (call : Call) (o : Order) (h : Reached desk.store)
      (alone : call.rivals = []) : Reached (desk.fulfil call o).desk.store

end StageStock
