import StageStock.Failure

/-!
# Listeners

Readers of the ledger listen to an equipment or to a show. A committed change is told to the
listeners of its equipment first and then to those of the shows it concerns, in ascending order of
the shows, and within one topic in the order in which they began to listen. A listener may fail; the
others are told nevertheless.

* `Notifier.subscribe`, `Notifier.unsubscribe`: begin and end listening; a listener that listens to
  one topic twice is not told apart from itself, so that ending takes the earlier subscription;
* `Notifier.publish`: tell an event, every listener of its topics in order;
* `Event.ofChange`: the event of a change names each show once, in ascending order.
-/

namespace StageStock

/-- What can be listened to. -/
inductive Topic where
  | equipment (id : Int)
  | show (id : Int)
  deriving DecidableEq, Repr

namespace Topic

/-- The topic of a kind and an id. -/
def ofKind? (kind : String) (id : Int) : Except Failure Topic :=
  if kind = "equipment" then .ok (.equipment id)
  else if kind = "show" then .ok (.show id)
  else .error (.topicUnknown kind)

end Topic

/-- A committed change, as listeners are told. -/
structure Event where
  equipment : Int
  /-- The shows concerned, in ascending order. -/
  showIds : List Int
  action : String
  version : Int
  deriving DecidableEq, Repr

namespace Event

/-- Put a number into an ascending list, once. -/
def insertOnce (n : Int) : List Int → List Int
  | [] => [n]
  | m :: rest =>
    if n < m then n :: m :: rest
    else if n = m then m :: rest
    else m :: insertOnce n rest

/-- The numbers of a list, each once and in ascending order. -/
def ascending (ns : List Int) : List Int :=
  ns.foldr insertOnce []

/-- The event of a change. -/
def ofChange (equipment : Int) (showIds : List Int) (action : String) (version : Int) : Event :=
  { equipment, showIds := ascending showIds, action, version }

/-- The topics whose listeners are told of an event, in order. -/
def topics (e : Event) : List Topic :=
  .equipment e.equipment :: e.showIds.map .show

/-- The event as it is shown. -/
def toJson (e : Event) : Json :=
  .obj [("equipmentID", .int e.equipment), ("showIDs", .arr (e.showIds.map .int)),
    ("action", .str e.action), ("ledgerVersion", .int e.version)]

end Event

/-- Somebody who is told of changes. -/
structure Listener where
  name : String
  /-- Whether being told of a change makes the listener fail. -/
  fails : Bool := false
  deriving DecidableEq, Repr

/-- The telling of one event. -/
structure Delivery where
  event : Event
  /-- The listeners that were told, in order. -/
  told : List Listener
  deriving DecidableEq, Repr

namespace Delivery

/-- The number of listeners that did not fail. -/
def delivered (d : Delivery) : Nat :=
  (d.told.filter fun listener => !listener.fails).length

end Delivery

/-- A listener with what it listens to. -/
structure Subscription where
  topic : Topic
  listener : Listener
  deriving DecidableEq, Repr

/-- The subscriptions in the order in which they began. -/
structure Notifier where
  subscriptions : List Subscription := []
  deriving DecidableEq, Repr

namespace Notifier

/-- Begin to listen. A listener that listens twice is told twice. -/
def subscribe (n : Notifier) (s : Subscription) : Notifier :=
  ⟨n.subscriptions ++ [s]⟩

/-- End listening: the first of equal subscriptions goes. -/
def unsubscribe (n : Notifier) (s : Subscription) : Notifier :=
  ⟨n.subscriptions.erase s⟩

/-- Forget all listeners. -/
def clear (_ : Notifier) : Notifier :=
  ⟨[]⟩

/-- The listeners of a topic. -/
def listeners (n : Notifier) (topic : Topic) : List Listener :=
  (n.subscriptions.filter fun s => s.topic = topic).map Subscription.listener

/-- The listeners that an event is told to, in order. -/
def targets (n : Notifier) (e : Event) : List Listener :=
  e.topics.flatMap n.listeners

/-- Tell an event to its listeners. -/
def publish (n : Notifier) (e : Event) : Delivery :=
  { event := e, told := n.targets e }

end Notifier

end StageStock
