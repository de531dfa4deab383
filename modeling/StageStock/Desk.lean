import StageStock.Commit
import StageStock.Lock
import StageStock.Snapshot.Availability

/-!
# Mutations at the desk

A `Desk` is the ledger at work: the store, the locks of the equipments and the listeners. A
`Mutation` is a change of one equipment that a caller has asked for and whose first checks it has
passed. `Desk.mutate` carries it out under the lock of its equipment:

* the ledger is read, the changes are prepared from it, and they are committed if the ledger is
  still the one that was read; otherwise the attempt is repeated;
* other workers may commit while a mutation is at work, between its reading and its writing; these
  commits are given by the caller as `rivals`, one for each reading;
* after the lock is given back, the committed change is told to the listeners, and to none if
  nothing was committed.

`Desk.propose` does the same for changes that are known beforehand.
-/

namespace StageStock

/-- What is prepared from a ledger: changes, and how the committed store is answered from. -/
structure Prepared (α : Type) where
  action : String
  changes : List Change
  /-- The version that the caller was shown; another one is refused for good. -/
  expected : Option Int := none
  /-- The version that the changes were prepared from. -/
  read : Option Int := none
  answer : Store → Snapshot → Except Failure α

/-- How a mutation comes by its changes. -/
inductive Preparation (α : Type) where
  /-- They are known beforehand. -/
  | known (work : Prepared α)
  /-- They are prepared from the ledger, which is read under the lock. -/
  | fromLedger (prepare : Snapshot → Except Failure (Prepared α))

/-- A change of one equipment that has passed the checks made before its lock is taken. -/
structure Mutation (α : Type) where
  equipment : Int
  user : Option Int
  preparation : Preparation α

/-- A commit of another worker. -/
structure Rival where
  action : String
  changes : List Change
  user : Option Int := none

/-- The circumstances of a call. -/
structure Call where
  now : Moment
  /-- Whether the caller has given up already. -/
  cancelled : Bool := false
  /-- What other workers commit to the same equipment: the first right after the first reading of
  the ledger under the lock, and so on. -/
  rivals : List Rival := []

/-- The store with the commits of other workers that are still to come. -/
structure Scene where
  store : Store
  rivals : List Rival := []

namespace Scene

/-- The next commit of another worker, if there is one. -/
def advance (scene : Scene) (equipment : Int) (now : Moment) : Except Failure Unit × Scene :=
  match scene.rivals with
  | [] => (.ok (), scene)
  | rival :: rest =>
    let proposal : Proposal :=
      { equipment, action := rival.action, changes := rival.changes, user := rival.user }
    match scene.store.commit proposal now with
    | .error e => (.error e, { scene with rivals := rest })
    | .ok (store, _) => (.ok (), { store, rivals := rest })

end Scene

namespace Mutation

variable {α : Type}

/-- Commit prepared changes; the answer comes with the event to tell. -/
def finish (m : Mutation α) (work : Prepared α) (now : Moment) (scene : Scene) :
    Except Failure (α × Event) × Scene :=
  let proposal : Proposal :=
    { equipment := m.equipment, action := work.action, changes := work.changes
      expected := work.expected, read := work.read, user := m.user }
  match scene.store.commit proposal now with
  | .error e => (.error e, scene)
  | .ok (store, committed) =>
    let after := { scene with store := store }
    match work.answer store committed with
    | .error e => (.error e, after)
    | .ok answer =>
      (.ok (answer,
        Event.ofChange m.equipment proposal.showIds work.action committed.version), after)

/-- Read, prepare and commit once. -/
def attempt (m : Mutation α) (now : Moment) (scene : Scene) :
    Except Failure (α × Event) × Scene :=
  match m.preparation with
  | .known work => m.finish work now scene
  | .fromLedger prepare =>
    match scene.store.ledger? m.equipment with
    | .error e => (.error e, scene)
    | .ok read =>
      match scene.advance m.equipment now with
      | (.error e, after) => (.error e, after)
      | (.ok (), after) =>
        match prepare read with
        | .error e => (.error e, after)
        | .ok work => m.finish { work with read := some read.version } now after

end Mutation

/-- The ledger at work. -/
structure Desk where
  store : Store := {}
  locks : Locks := {}
  notifier : Notifier := {}
  /-- How many seconds a mutation waits for a lock. -/
  lockWait : Rat := 5
  /-- How often a mutation is tried again. -/
  lockRetries : Int := 2

/-- What a call comes to. -/
structure Outcome (α : Type) where
  result : Except Failure α
  desk : Desk
  /-- What listeners were told, each with whether the lock of the equipment was still held. -/
  deliveries : List (Delivery × Bool) := []

namespace Desk

variable {α : Type}

/-- Carry out a mutation, trying again as often as `retries` says. -/
def mutateWith (desk : Desk) (call : Call) (retries : Int) (m : Mutation α) : Outcome α :=
  let request : LockRequest :=
    { equipment := m.equipment, wait := desk.lockWait, retries, cancelled := call.cancelled }
  let run := desk.locks.run request (fun _ scene => m.attempt call.now scene)
    { store := desk.store, rivals := call.rivals }
  let after := { desk with store := run.state.store, locks := run.locks }
  match run.result with
  | .error e => { result := .error e, desk := after }
  | .ok (answer, event) =>
    { result := .ok answer, desk := after
      deliveries := [(desk.notifier.publish event, run.locks.isHeld m.equipment)] }

/-- Carry out a mutation, if the checks before its lock is taken have passed. -/
def mutate (desk : Desk) (call : Call) (request : Store → Except Failure (Mutation α)) :
    Outcome α :=
  match request desk.store with
  | .error e => { result := .error e, desk }
  | .ok m => desk.mutateWith call desk.lockRetries m

/-- Commit changes that are known beforehand; the answer is the ledger after them. -/
def propose (desk : Desk) (call : Call) (retries : Int) (p : Proposal) : Outcome Snapshot :=
  desk.mutateWith call retries
    { equipment := p.equipment, user := p.user
      preparation := .known
        { action := p.action, changes := p.changes, expected := p.expected, read := p.read
          answer := fun _ committed => .ok committed } }

end Desk

end StageStock
