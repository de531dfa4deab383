import Mathlib.Tactic.Lemma
import StageStock.Proofs.Mutation
import StageStock.Proofs.Rounding
import StageStock.Service.Order

/-!
Orders as mutations.

* `Mutation.map`: the mutation with its answer changed; running it is running the mutation
  (`Desk.mutate_map`);
* `Order.request?`: the request that an order makes under the lock of an equipment, its answer ready
  to be shown. The nine orders that have one are fulfilled by it (`Desk.fulfil_eq_mutate`);
* `Order.equipment?`: the equipment whose lock the order takes, and `Order.afterRivals`: what other
  workers have made of it.
-/

namespace StageStock

variable {α β : Type}

/-! ### Changed answers -/

lemma map_eq_ok {x : Except Failure α} {f : α → β} {b : β} (h : x.map f = .ok b) :
    ∃ a, x = .ok a ∧ f a = b := by
  cases x with
  | error failure => cases h
  | ok a => exact ⟨a, rfl, Except.ok.inj h⟩

lemma map_eq_error {x : Except Failure α} {f : α → β} {failure : Failure}
    (h : x.map f = .error failure) : x = .error failure := by
  cases x with
  | error e => exact congrArg Except.error (Except.error.inj h)
  | ok a => cases h

/-- Prepared changes with their answer changed. -/
def Prepared.map (f : α → β) (work : Prepared α) : Prepared β :=
  { action := work.action, changes := work.changes, expected := work.expected, read := work.read
    answer := fun s ledger => (work.answer s ledger).map f }

namespace Mutation

/-- The mutation with its answer changed. -/
def map (f : α → β) (m : Mutation α) : Mutation β :=
  { equipment := m.equipment, user := m.user
    preparation := match m.preparation with
      | .known work => .known (work.map f)
      | .fromLedger prepare => .fromLedger fun ledger => (prepare ledger).map (Prepared.map f) }

lemma finish_map (f : α → β) (m : Mutation α) (work : Prepared α) (now : Moment) (scene : Scene) :
    (m.map f).finish (work.map f) now scene
      = ((m.finish work now scene).1.map fun told => (f told.1, told.2),
        (m.finish work now scene).2) := by
  have hproposal : (m.map f).proposal (work.map f) = m.proposal work := rfl
  rw [finish_eq, finish_eq, hproposal]
  cases scene.store.commit (m.proposal work) now with
  | error e => rfl
  | ok stored =>
      simp only [Prepared.map]
      cases work.answer stored.1 stored.2 with
      | error e => rfl
      | ok answer => rfl

lemma attempt_map (f : α → β) (m : Mutation α) (now : Moment) (scene : Scene) :
    (m.map f).attempt now scene
      = ((m.attempt now scene).1.map fun told => (f told.1, told.2),
        (m.attempt now scene).2) := by
  obtain ⟨e, user, preparation⟩ := m
  cases preparation with
  | known work => exact finish_map f ⟨e, user, .known work⟩ work now scene
  | fromLedger prepare =>
      simp only [attempt, map]
      cases scene.store.ledger? e with
      | error failure => rfl
      | ok read =>
          simp only
          cases scene.advance e now with
          | mk outcome after =>
              cases outcome with
              | error failure => rfl
              | ok _ =>
                  simp only
                  cases prepare read with
                  | error failure => rfl
                  | ok work =>
                      exact finish_map f ⟨e, user, .fromLedger prepare⟩
                        { work with read := some read.version } now after

end Mutation

lemma Prepared.Answers.map {work : Prepared α} {e : Int} (h : work.Answers e) (f : α → β) :
    (work.map f).Answers e := by
  intro s ledger hread hfits
  obtain ⟨answer, hanswer⟩ := h s ledger hread hfits
  exact ⟨f answer, by simp only [Prepared.map, hanswer, Except.map]⟩

lemma Orderly.map {e : Int} {prepare : Snapshot → Except Failure (Prepared α)}
    (h : Orderly e prepare) (f : α → β) :
    Orderly e fun ledger => (prepare ledger).map (Prepared.map f) where
  answers s read work hread hwork := by
    obtain ⟨plain, hplain, rfl⟩ := map_eq_ok hwork
    exact (h.answers s read plain hread hplain).map f
  final read failure hfailed := h.final read failure (map_eq_error hfailed)
  unexpected read work hwork := by
    obtain ⟨plain, hplain, rfl⟩ := map_eq_ok hwork
    exact h.unexpected read plain hplain

lemma Mutation.Prepares.map {m : Mutation α} {P : Snapshot → List Change → Prop}
    (h : m.Prepares P) (f : α → β) : (m.map f).Prepares P := by
  obtain ⟨e, user, preparation⟩ := m
  cases preparation with
  | known work => exact h
  | fromLedger prepare =>
      intro s read work hread hwork
      obtain ⟨plain, hplain, rfl⟩ := map_eq_ok hwork
      exact h s read plain hread hplain

namespace Locks

variable {σ : Type} {request : LockRequest} {operation : Locks → σ → Except Failure α × σ}
  {operation' : Locks → σ → Except Failure β × σ}

/-- The run of an operation with its answer changed. -/
lemma repeatAttempts_map {f : α → β}
    (same : ∀ l state, operation' l state = ((operation l state).1.map f, (operation l state).2))
    (n : Nat) (l : Locks) (state : σ) :
    repeatAttempts request operation' n l state
      = ⟨(repeatAttempts request operation n l state).result.map f,
        (repeatAttempts request operation n l state).locks,
        (repeatAttempts request operation n l state).state⟩ := by
  have hattempt : ∀ l state, attempt request operation' l state
      = ⟨(attempt request operation l state).result.map f,
        (attempt request operation l state).locks, (attempt request operation l state).state⟩ := by
    intro l state
    simp only [attempt]
    cases l.acquire request with
    | error failure => rfl
    | ok taken => simp only [same]
  induction n generalizing l state with
  | zero => rfl
  | succ n ih =>
      simp only [repeatAttempts, hattempt]
      cases hresult : (attempt request operation l state).result with
      | ok answer => simp only [hresult, Except.map]
      | error failure =>
          simp only [Except.map]
          split
          · exact ih _ _
          · simp only [hresult]

end Locks

namespace Desk

lemma mutateWith_map (f : α → β) (desk : Desk) (call : Call) (retries : Int) (m : Mutation α) :
    desk.mutateWith call retries (m.map f) = (desk.mutateWith call retries m).map f := by
  have hrun : desk.runFrom call retries (m.map f) ⟨desk.store, call.rivals⟩
      = ⟨(desk.runFrom call retries m ⟨desk.store, call.rivals⟩).result.map
          fun told => (f told.1, told.2),
        (desk.runFrom call retries m ⟨desk.store, call.rivals⟩).locks,
        (desk.runFrom call retries m ⟨desk.store, call.rivals⟩).state⟩ :=
    Locks.repeatAttempts_map (fun _ scene => Mutation.attempt_map f m call.now scene) _ _ _
  rw [mutateWith_eq, mutateWith_eq, hrun]
  cases (desk.runFrom call retries m ⟨desk.store, call.rivals⟩).result with
  | error failure => rfl
  | ok told => rfl

lemma mutate_map (f : α → β) (desk : Desk) (call : Call)
    (request : Store → Except Failure (Mutation α)) :
    (desk.mutate call request).map f
      = desk.mutate call fun s => (request s).map (Mutation.map f) := by
  unfold mutate
  cases h : request desk.store with
  | error failure => simp only [h, Except.map, Outcome.map]
  | ok m => simp only [h, Except.map, mutateWith_map]

end Desk

/-! ### Requests -/

namespace Order

/-- The request that an order makes under the lock of an equipment; entries into the store make
none. -/
def request? (today : Date) : Order → Option (Store → Except Failure (Mutation Json))
  | .register _ | .addShow _ | .addLocation _ => none
  | .setTotal equipment total user =>
    some fun s => (Equipments.setTotal equipment total user s).map (Mutation.map Summary.toJson)
  | .reserve r =>
    some fun s => (Reservations.reserve r s).map (Mutation.map Reservations.Answer.toJson)
  | .changeReservation r =>
    some fun s => (Reservations.change r s).map (Mutation.map Reservations.Answer.toJson)
  | .removeReservation id user =>
    some fun s => (Reservations.remove id user s).map (Mutation.map Reservations.Removed.toJson)
  | .replacePlacements r =>
    some fun s => (Placements.replace r s).map (Mutation.map Placements.Answer.toJson)
  | .placeUnits r =>
    some fun s => (Placements.place r s).map (Mutation.map Placements.Answer.toJson)
  | .moveUnits r =>
    some fun s => (Placements.move r s).map (Mutation.map Placements.Answer.toJson)
  | .install r =>
    some fun s => (Installations.install r today s).map
      (Mutation.map Installations.Answer.toJson)
  | .bringBack equipment quantity user =>
    some fun s => (Installations.bringBack equipment quantity user s).map
      (Mutation.map Installations.Answer.toJson)

/-- Whether an order is carried out under the lock of an equipment. -/
def isLocked : Order → Bool
  | .register _ | .addShow _ | .addLocation _ => false
  | _ => true

lemma exists_request? {o : Order} (h : o.isLocked = true) (today : Date) :
    ∃ request, o.request? today = some request := by
  cases o with
  | register _ | addShow _ | addLocation _ => cases h
  | _ => exact ⟨_, rfl⟩

/-- Whether an order reads the ledger under the lock before it is changed. -/
def readsLedger : Order → Bool
  | .register _ | .addShow _ | .addLocation _ | .removeReservation .. => false
  | _ => true

/-- The equipment whose ledger an order changes; for orders that name a row it is read off the
row. -/
def equipment? (s : Store) : Order → Option Int
  | .register _ | .addShow _ | .addLocation _ => none
  | .setTotal equipment _ _ | .bringBack equipment _ _ => some equipment
  | .reserve r => some r.equipment
  | .changeReservation r => (s.reservations.find? r.id).map ReservationRow.equipment
  | .removeReservation id _ => (s.reservations.find? id).map ReservationRow.equipment
  | .replacePlacements r => some r.equipment
  | .placeUnits r => some r.equipment
  | .moveUnits r => (s.placements.find? r.id).map PlacementRow.equipment
  | .install r => some r.equipment

lemma isLocked_of_equipment? {o : Order} {s : Store} {e : Int} (h : o.equipment? s = some e) :
    o.isLocked = true := by
  cases o with
  | register _ | addShow _ | addLocation _ => cases h
  | _ => rfl

/-- The store after commits of other workers to the equipment of an order. -/
def afterRivals (o : Order) (s : Store) (now : Moment) (rivals : List Rival) : Store :=
  match o.equipment? s with
  | some e => s.afterRivals e now rivals
  | none => s

lemma afterRivals_nil (o : Order) (s : Store) (now : Moment) : o.afterRivals s now [] = s := by
  rw [afterRivals]
  split <;> rfl

end Order

theorem Desk.fulfil_eq_mutate {desk : Desk} {call : Call} {o : Order}
    {request : Store → Except Failure (Mutation Json)}
    (h : o.request? call.now.date = some request) :
    desk.fulfil call o = desk.mutate call request := by
  cases o <;> cases h <;> exact mutate_map _ desk call _

end StageStock
