import StageStock.Http.Body
import StageStock.Http.Payload
import StageStock.Http.Target
import StageStock.Json.Finite

/-!
# The ledger over HTTP

A request says by its path and its method what it wants: an answer to a `Question`, which changes
nothing, or a `Command` to be carried out. Its path, its query and its body are read first; when
anything in them cannot be read, all problems are answered together and nothing is done. The answer
shows what was found in the places of the problems, and where that cannot be written there is none.

* `Route.ofSegments`: what can be wanted at a path, by method;
* `Route.settle`: a target led on from a path with slashes at its end to the one without;
* `Input`: the parts of a request as they are read;
* `Store.answer`: the response to a question;
* `Command.order`: the order that a command means;
* `Desk.carryOut`: the response to a command, and the desk after it;
* `Desk.serve`: the response to a request.
-/

namespace StageStock.Http

/-- A request. An empty body is no body. -/
structure Request where
  method : String
  target : String
  body : String := ""
  deriving DecidableEq, Repr

/-- A response. -/
inductive Response where
  | answer (status : Nat) (body : Json)
  /-- Problems of reading the request. -/
  | invalid (problems : List Problem)
  /-- A failure that is not the ledger's own. -/
  | failure (cause : Failure)

namespace Response

/-- The response with a value. -/
def ok (body : Json) : Response :=
  .answer 200 body

/-- The response to problems of reading. -/
def ofProblems (ps : List Problem) : Response :=
  if ps.all fun p => p.found.isFinite then .invalid ps else .failure .unwritableNumber

/-- The response to a body that could not be read to its end. -/
def unreadableBody : Response :=
  .answer 400 (.obj [("detail", .str "There was an error parsing the body")])

/-- The response to an unknown path. -/
def notFound : Response :=
  .answer 404 (.obj [("detail", .str "Not Found")])

/-- The response to a method that the resource does not have. -/
def methodNotAllowed : Response :=
  .answer 405 (.obj [("detail", .str "Method Not Allowed")])

/-- The response that a result comes to. -/
def ofResult {α : Type} (encode : α → Json) : Except Failure α → Response
  | .ok a => ok (encode a)
  | .error e =>
    match e.notice? with
    | some notice => .answer notice.httpStatus (.obj notice.payload)
    | none => .failure e

end Response

/-! ### Paths and methods -/

/-- What can be asked; ids are kept as text until they are read. -/
inductive Question where
  /-- A page about the interface; such pages are not kept here. -/
  | page
  | health
  | storeHealth
  | equipments
  | equipment (id : String)
  | availability (id : String)
  | breakdown (id : String)
  | history (id : String)
  | shows
  | reservations (showId : String)
  | preview (reservation : String)
  | locations
  | inventory (location : String)
  | placements (equipment : String)
  | plan (equipment : String)
  deriving DecidableEq, Repr

/-- What can be done; ids are kept as text until they are read. -/
inductive Command where
  | addEquipment
  | setTotal (equipment : String)
  | addShow
  | addLocation
  | reserve (showId : String)
  | changeReservation (id : String)
  | removeReservation (id : String)
  | replacePlacements (equipment : String)
  | placeUnits (equipment : String)
  | moveUnits (placement : String)
  | install (equipment : String)
  | bringBack (equipment : String)
  deriving DecidableEq, Repr

/-- What a request wants. -/
inductive Route where
  | ask (question : Question)
  | order (command : Command)
  deriving DecidableEq, Repr

namespace Route

/-- What can be wanted of a page about the interface, by method. -/
def pages : List (String × Route) :=
  [("GET", .ask .page), ("HEAD", .ask .page)]

/-- What can be wanted at the parts of a path, by method. -/
def ofParts : List String → List (String × Route)
  | ["healthz"] => [("GET", .ask .health)]
  | ["docs"] | ["docs", "oauth2-redirect"] | ["redoc"] | ["openapi.json"] => pages
  | ["api", "healthz"] => [("GET", .ask .storeHealth)]
  | ["api", "equipment"] => [("GET", .ask .equipments), ("POST", .order .addEquipment)]
  | ["api", "equipment", id] => [("GET", .ask (.equipment id))]
  | ["api", "equipment", id, "quantity"] => [("PUT", .order (.setTotal id))]
  | ["api", "equipment", id, "availability"] => [("GET", .ask (.availability id))]
  | ["api", "equipment", id, "breakdown"] => [("GET", .ask (.breakdown id))]
  | ["api", "equipment", id, "history"] => [("GET", .ask (.history id))]
  | ["api", "equipment", id, "location-allocations"] =>
    [("GET", .ask (.placements id)), ("PUT", .order (.replacePlacements id)),
      ("POST", .order (.placeUnits id))]
  | ["api", "equipment", id, "location-allocations", "plan"] => [("POST", .ask (.plan id))]
  | ["api", "equipment", id, "installation"] => [("PUT", .order (.install id))]
  | ["api", "equipment", id, "installation", "return"] => [("POST", .order (.bringBack id))]
  | ["api", "shows"] => [("GET", .ask .shows), ("POST", .order .addShow)]
  | ["api", "shows", id, "allocations"] =>
    [("GET", .ask (.reservations id)), ("POST", .order (.reserve id))]
  | ["api", "show-allocations", id] =>
    [("PUT", .order (.changeReservation id)), ("DELETE", .order (.removeReservation id))]
  | ["api", "show-allocations", id, "validate-status"] => [("POST", .ask (.preview id))]
  | ["api", "locations"] => [("GET", .ask .locations), ("POST", .order .addLocation)]
  | ["api", "locations", id, "inventory"] => [("GET", .ask (.inventory id))]
  | ["api", "location-allocations", id, "move"] => [("POST", .order (.moveUnits id))]
  | _ => []

/-- A text without the line feed at its end. -/
def dropLineFeed (s : String) : String :=
  let cs := s.toList
  if cs.getLast? = some '\n' then String.ofList cs.dropLast else s

/-- What can be wanted at a path, by method. No part of a path is empty, and a line feed at the end
of a path that ends in a word does not count. -/
def ofSegments (segments : List String) : List (String × Route) :=
  if segments.contains "" then []
  else
    match ofParts segments with
    | [] => ofParts (segments.dropLast ++ (segments.getLast?.map dropLineFeed).toList)
    | routes => routes

/-- A target led on to the path without the slashes at its end, as long as there is something at
that path. Every step makes the target shorter, and so many steps are taken at most. -/
def settle : (steps : Nat) → Target → Target
  | 0, t => t
  | steps + 1, t =>
    if t.endsInSlash && !(ofSegments (Target.segmentsOf t.trimmedPath)).isEmpty then
      settle steps t.withoutSlashes
    else t

/-- Whether a request that wants this has a body. -/
def takesBody : Route → Bool
  | .ask (.plan _) | .ask (.preview _) => true
  | .ask _ => false
  | .order (.removeReservation _) => false
  | .order _ => true

end Route

/-! ### Reading a request -/

/-- The parts of a request as they are read. -/
structure Input where
  target : Target
  /-- The document in the body, if there is one. -/
  body : Option Json

namespace Input

/-- An id in the path. -/
def id (name text : String) : Checked Int :=
  Field.whole [.key "path", .key name] (.str text)

/-- An optional number in the query. -/
def queryWhole? (input : Input) (key : String) : Checked (Option Int) :=
  match input.target.query? key with
  | none => .value none
  | some text => (Field.whole [.key "query", .key key] (.str text)).map some

/-- A number in the query within bounds, with a usual value. -/
def queryWithin (input : Input) (key : String) (least most usual : Int) : Checked Int :=
  match input.target.query? key with
  | none => .value usual
  | some text => Field.wholeWithin least most [.key "query", .key key] (.str text)

/-- The body, read by a reader. -/
def read {α : Type} (input : Input) (reader : Reader α) : Checked α :=
  match input.body with
  | none => .problem [.key "body"] .missing .null
  | some body => reader [.key "body"] body

/-- The body, read by a reader that is given the id in the path. What is wrong with a body does not
depend on the id. -/
def readFor {α : Type} (input : Input) (name text : String) (reader : Int → Reader α) : Checked α :=
  match id name text with
  | .value n => input.read (reader n)
  | .problems ps => Checked.apply (.problems ps) (input.read (reader 0))

end Input

/-- The response once everything was read. -/
def Checked.respond {α : Type} (read : Checked α) (respond : α → Response) : Response :=
  match read with
  | .problems ps => .ofProblems ps
  | .value a => respond a

end StageStock.Http

namespace StageStock

open Http

/-! ### Questions -/

namespace Store

/-- A list as an answer. -/
def listJson {α : Type} (encode : α → Json) (entries : List α) : Json :=
  .arr (entries.map encode)

/-- A row with its id as an answer. -/
def rowJson {α : Type} (encode : Int → α → Json) (row : Int × α) : Json :=
  encode row.1 row.2

/-- The response to a question. -/
def answer (s : Store) (input : Input) : Question → Response
  | .page => .notFound
  | .health => .ok (.obj [("ok", .bool true)])
  | .storeHealth => .ok (.obj [("ok", .bool true), ("database", .str "ok")])
  | .equipments => .ok (listJson EquipmentRecord.toJson (Equipments.list s))
  | .equipment id =>
    (Input.id "equipment_id" id).respond fun n =>
      .ofResult EquipmentRecord.toJson (Equipments.record s n)
  | .availability id =>
    (Prod.mk <$> Input.id "equipment_id" id <*> input.queryWhole? "allocationID").respond
      fun (n, reservation) => .ofResult Summary.toJson (Equipments.summaryFor s n reservation)
  | .breakdown id =>
    (Input.id "equipment_id" id).respond fun n =>
      .ofResult (fun (ledger : Snapshot) => ledger.toJson s.locationNames) (s.ledger? n)
  | .history id =>
    (Prod.mk <$> Input.id "equipment_id" id <*> input.queryWithin "limit" 1 500 50).respond
      fun (n, limit) => .ofResult (listJson (rowJson auditJson)) (Equipments.history s n limit)
  | .shows => .ok (listJson (rowJson showJson) (Catalogue.shows s))
  | .reservations showId =>
    (Input.id "show_id" showId).respond fun n =>
      .ofResult (listJson ReservationRecord.toJson) (Reservations.ofShow s n)
  | .preview reservation =>
    (Prod.mk <$> Input.id "allocation_id" reservation <*> input.read Body.preview).respond
      fun (n, status, quantity) =>
        .ofResult Reservations.Preview.toJson (Reservations.preview s n (some status) quantity)
  | .locations => .ok (listJson (rowJson locationJson) (Catalogue.locations s))
  | .inventory location =>
    (Input.id "location_id" location).respond fun n =>
      .ofResult Placements.Inventory.toJson (Placements.inventory s n)
  | .placements equipment =>
    (Input.id "equipment_id" equipment).respond fun n =>
      .ofResult (listJson PlacementRecord.toJson) (Placements.ofEquipment s n)
  | .plan equipment =>
    (Prod.mk <$> Input.id "equipment_id" equipment <*> input.read Body.plan).respond
      fun (n, mode, targets) =>
        .ofResult Placements.Planned.toJson (Placements.plan s n mode targets)

end Store

/-! ### Commands -/

namespace Http.Command

/-- The order that a command means, read from the path, the query and the body. -/
def order (input : Input) : Command → Checked Order
  | .addEquipment => Order.register <$> input.read Body.equipment
  | .setTotal equipment =>
    (fun n (total, user) => Order.setTotal n total user)
      <$> Input.id "equipment_id" equipment <*> input.read Body.total
  | .addShow => Order.addShow <$> input.read Body.newShow
  | .addLocation => Order.addLocation <$> input.read Body.newLocation
  | .reserve showId => Order.reserve <$> input.readFor "show_id" showId Body.reserve
  | .changeReservation id =>
    Order.changeReservation <$> input.readFor "allocation_id" id Body.changeReservation
  | .removeReservation id =>
    Order.removeReservation <$> Input.id "allocation_id" id <*> input.queryWhole? "userID"
  | .replacePlacements equipment =>
    Order.replacePlacements <$> input.readFor "equipment_id" equipment Body.replace
  | .placeUnits equipment =>
    Order.placeUnits <$> input.readFor "equipment_id" equipment Body.placeUnits
  | .moveUnits placement =>
    Order.moveUnits <$> input.readFor "allocation_id" placement Body.moveUnits
  | .install equipment => Order.install <$> input.readFor "equipment_id" equipment Body.install
  | .bringBack equipment =>
    (fun n (quantity, user) => Order.bringBack n quantity user)
      <$> Input.id "equipment_id" equipment <*> input.read Body.bringBack

end Http.Command

namespace Desk

/-- Register an equipment under its name without blanks around it, and show it with what is in the
store. -/
def registerNamed (desk : Desk) (call : Call) (r : Equipments.RegisterRequest) :
    Outcome EquipmentRecord :=
  let name := Text.trim (r.name.getD "")
  if name = "" then { result := .error .equipmentNameRequired, desk }
  else
    let named : Equipments.RegisterRequest := { r with name := some name }
    let outcome := desk.entered (Equipments.register named call.now desk.store)
    { outcome with
      result := outcome.result.bind fun record => Equipments.record outcome.desk.store record.id }

/-- The response to a command, and the desk after it. -/
def carryOut (desk : Desk) (now : Moment) (input : Input) (command : Command) : Response × Desk :=
  match command.order input with
  | .problems ps => (.ofProblems ps, desk)
  | .value (.register r) =>
    let outcome := desk.registerNamed { now } r
    (.ofResult EquipmentRecord.toJson outcome.result, outcome.desk)
  | .value order =>
    let outcome := desk.fulfil { now } order
    (.ofResult id outcome.result, outcome.desk)

/-- The response to a request for something that is there, and the desk after it. A body that is no
document is answered before anything else is read. -/
def handle (desk : Desk) (now : Moment) (target : Target) (body : Payload) (route : Route) :
    Response × Desk :=
  match route.takesBody, body with
  | true, .malformed => (.ofProblems [⟨[.key "body"], .notJson, .null⟩], desk)
  | true, .unreadable => (.unreadableBody, desk)
  | _, _ =>
    let input : Input := { target, body := body.document? }
    match route with
    | .ask question => (desk.store.answer input question, desk)
    | .order command => desk.carryOut now input command

/-- The response to a request, and the desk after it. -/
def serve (desk : Desk) (now : Moment) (request : Request) : Response × Desk :=
  match Target.fault? request.target with
  | some fault => (.failure fault, desk)
  | none =>
    let target := Route.settle request.target.length (Target.parse request.target)
    match Route.ofSegments target.segments with
    | [] => (.notFound, desk)
    | routes =>
      match routes.lookup request.method.toUpper with
      | none => (.methodNotAllowed, desk)
      | some route => desk.handle now target (Payload.read request.body) route

end Desk

end StageStock
