import Mathlib.Tactic.Lemma
import StageStock.Proofs.Fulfilment

/-!
What listeners are told of orders.

An order that succeeds tells one event, once the lock of its equipment is given back, and one that
fails tells nothing, however often it was tried. The event names the version that was committed and
the show of the reservation that was changed, as the ledger had it that was committed to: an order
that was overtaken may find another reservation under the id that it names. Listeners are told last
of all, so that nothing else depends on them.

* `Order.showIds`: the show that an order concerns;
* `Order.Proposes.showIds_eq`: the changes that an order proposes concern that show;
* `Desk.fulfil_notifier`: neither the answer nor the store depends on the listeners;
* `Desk.deliveries_fulfil`: what an order tells.
-/

namespace StageStock

/-! ### The show of an order -/

/-- Numbers that all are the same are one number. -/
lemma Event.ascending_of_forall_eq {n : Int} {ns : List Int} (some : ns ≠ [])
    (same : ∀ m ∈ ns, m = n) : ascending ns = [n] := by
  induction ns with
  | nil => exact absurd rfl some
  | cons m rest ih =>
      obtain rfl := same m List.mem_cons_self
      have hrest : ∀ k ∈ rest, k = m := fun k hk => same k (List.mem_cons_of_mem _ hk)
      show insertOnce m (ascending rest) = [m]
      cases rest with
      | nil => rfl
      | cons k rest =>
          rw [ih (by simp) hrest]
          simp [insertOnce]

/-- The show of the reservation that an order concerns; orders for places, installations and totals
concern none. -/
def Order.showIds (s : Store) : Order → List Int
  | .reserve r => [r.showId]
  | .changeReservation r => ((s.reservations.find? r.id).map ReservationRow.showId).toList
  | .removeReservation id _ => ((s.reservations.find? id).map ReservationRow.showId).toList
  | _ => []

/-- Whether a reservation is new, changed or made anew, it is for the show that asks for it. -/
lemma Reservations.showIds_reserveChanges (r : ReserveRequest) (row : ShowRow) (read : Snapshot) :
    Event.ascending ((reserveChanges r row read).1.flatMap Change.showIds) = [r.showId] := by
  rw [reserveChanges]
  split
  · rfl
  · rename_i current hcurrent
    have hshow : current.showId = r.showId := of_decide_eq_true (List.find?_some hcurrent :)
    split
    · refine Event.ascending_of_forall_eq (by simp [Change.showIds]) ?_
      simpa [Change.showIds] using hshow
    · refine Event.ascending_of_forall_eq (by simp [Change.showIds]) ?_
      simpa [Change.showIds, fresh] using hshow

/-- A reservation of a ledger is for the show that its row names. -/
lemma Store.showId_of_findReservation? {s : Store} {e id : Int} {read : Snapshot} {r : Reservation}
    (ledger : s.ledger? e = .ok read) (found : read.findReservation? id = some r) :
    (s.reservations.find? id).map ReservationRow.showId = some r.showId := by
  obtain ⟨equipment, -, -, rfl⟩ := ledger?_eq_ok.1 ledger
  have hid : r.id = some id := of_decide_eq_true (List.find?_some found :)
  obtain ⟨row, hrow, -, rfl⟩ := find?_of_mem_reservations (List.mem_of_find?_eq_some found) hid
  rw [hrow]
  rfl

/-- The changes that an order proposes concern its show. An order that does not read the ledger
looks the show up in the store that it was made of. -/
lemma Order.Proposes.showIds_eq {o : Order} {today : Date} {origin s : Store} {e : Int}
    {read : Snapshot} {action : String} {cs : List Change}
    (h : o.Proposes today origin read action cs) (ledger : s.ledger? e = .ok read)
    (same : o.readsLedger = false → s = origin) :
    Event.ascending (cs.flatMap Change.showIds) = o.showIds s := by
  cases h with
  | reserve r row => exact Reservations.showIds_reserveChanges r row read
  | returned r current found =>
      rw [showIds, Store.showId_of_findReservation? ledger found]
      rfl
  | changed r current changed action found showId named =>
      rw [showIds, Store.showId_of_findReservation? ledger found, ← showId]
      rfl
  | removeReservation id user row found =>
      rw [showIds, same rfl, found]
      rfl
  | _ => rfl

/-! ### Other listeners -/

namespace Desk

variable {α : Type} {desk : Desk} {call : Call} {o : Order}

lemma mutateWith_notifier (desk : Desk) (call : Call) (retries : Int) (m : Mutation α)
    (n : Notifier) :
    (({ desk with notifier := n } : Desk).mutateWith call retries m).result
        = (desk.mutateWith call retries m).result
      ∧ (({ desk with notifier := n } : Desk).mutateWith call retries m).desk
        = { (desk.mutateWith call retries m).desk with notifier := n } := by
  have hrun : ({ desk with notifier := n } : Desk).runFrom call retries m ⟨desk.store, call.rivals⟩
      = desk.runFrom call retries m ⟨desk.store, call.rivals⟩ := rfl
  rw [mutateWith_eq, mutateWith_eq, hrun]
  cases (desk.runFrom call retries m ⟨desk.store, call.rivals⟩).result with
  | error failure => exact ⟨rfl, rfl⟩
  | ok told => exact ⟨rfl, rfl⟩

/-- With other listeners, an order has the same answer and leaves the same store. -/
theorem fulfil_notifier (desk : Desk) (call : Call) (o : Order) (n : Notifier) :
    (({ desk with notifier := n } : Desk).fulfil call o).result = (desk.fulfil call o).result
      ∧ (({ desk with notifier := n } : Desk).fulfil call o).desk
        = { (desk.fulfil call o).desk with notifier := n } := by
  cases hlocked : o.isLocked with
  | false =>
      cases o with
      | register _ | addShow _ | addLocation _ => exact ⟨rfl, rfl⟩
      | _ => cases hlocked
  | true =>
      obtain ⟨request, hrequest⟩ := o.exists_request? hlocked call.now.date
      rw [fulfil_eq_mutate hrequest, fulfil_eq_mutate hrequest, mutate, mutate]
      cases hmade : request desk.store with
      | error failure => exact ⟨rfl, rfl⟩
      | ok m => exact mutateWith_notifier desk call desk.lockRetries m n

/-! ### What is told -/

/-- An order under a lock that succeeds tells one event, with the lock given back: its equipment,
the version that was committed, and its show, as it was after those of the other workers who came
first. One that fails tells nothing. In either case the answer, the store and the locks would be the
same with other listeners. -/
theorem deliveries_fulfil (locked : o.isLocked = true) :
    (∀ answer, (desk.fulfil call o).result = .ok answer → ∃ k before committed event,
      (o.afterRivals desk.store call.now (call.rivals.take k)).ledger? event.equipment = .ok before
        ∧ (desk.fulfil call o).desk.store.ledger? event.equipment = .ok committed
        ∧ committed.version = before.version + 1
        ∧ o.equipment? desk.store = some event.equipment
        ∧ event.version = committed.version
        ∧ event.showIds = o.showIds (o.afterRivals desk.store call.now (call.rivals.take k))
        ∧ (desk.fulfil call o).deliveries = [(desk.notifier.publish event, false)])
      ∧ (∀ failure, (desk.fulfil call o).result = .error failure →
        (desk.fulfil call o).deliveries = [])
      ∧ ∀ n : Notifier,
        (({ desk with notifier := n } : Desk).fulfil call o).result = (desk.fulfil call o).result
          ∧ (({ desk with notifier := n } : Desk).fulfil call o).desk
            = { (desk.fulfil call o).desk with notifier := n } := by
  refine ⟨fun answer succeeded => ?_, fun failure failed => ?_, desk.fulfil_notifier call o⟩
  swap
  · obtain ⟨k, houtcome⟩ := fulfil_of_error locked failed
    rw [houtcome]
  obtain ⟨m, k, work, before, after, w, t, committed, hmakes, hfirst, hready, hcommits, houtcome⟩ :=
    fulfil_ok locked succeeded
  have hsame : o.readsLedger = false →
      o.afterRivals desk.store call.now (call.rivals.take k) = desk.store := by
    intro reads
    rw [hfirst reads, List.take_zero, o.afterRivals_nil]
  refine ⟨k, before, committed,
    .ofChange m.equipment (m.proposal work).showIds work.action committed.version, hcommits.read,
    ?_, hcommits.version_eq, hmakes.equipment?_eq, rfl,
    (hmakes.proposes hready).showIds_eq hcommits.read hsame, ?_⟩
  · rw [houtcome]
    exact hcommits.reread
  · rw [houtcome]

/-- Three lamps and a gala. One listener listens to the lamps and fails, and one to the gala. -/
def galaDesk : Desk :=
  { store := { Store.threeLamps with shows := Table.empty.insert { name := "Gala" } }
    notifier := ⟨[⟨.equipment 1, ⟨"Store room", true⟩⟩, ⟨.show 1, ⟨"Stage", false⟩⟩]⟩ }

/-- Two lamps are reserved after another worker has counted them. Both listeners are told of it, and
once. -/
theorem deliveries_fulfil_galaDesk :
    let call : Call := { now := default, rivals := [.recount] }
    let o : Order := .reserve { showId := 1, equipment := 1, needed := 2 }
    (galaDesk.fulfil call o).result.isOk = true
      ∧ (galaDesk.fulfil call o).deliveries
        = [({ event := { equipment := 1, showIds := [1], action := "AllocateToShow", version := 2 }
              told := [⟨"Store room", true⟩, ⟨"Stage", false⟩] }, false)]
      ∧ (∃ k before committed event,
        (o.afterRivals galaDesk.store default (call.rivals.take k)).ledger? event.equipment
            = .ok before
          ∧ (galaDesk.fulfil call o).desk.store.ledger? event.equipment = .ok committed
          ∧ committed.version = before.version + 1
          ∧ o.equipment? galaDesk.store = some event.equipment
          ∧ event.version = committed.version
          ∧ event.showIds = o.showIds (o.afterRivals galaDesk.store default (call.rivals.take k))
          ∧ (galaDesk.fulfil call o).deliveries = [(galaDesk.notifier.publish event, false)])
      ∧ (({ galaDesk with notifier := {} } : Desk).fulfil call o).result
        = (galaDesk.fulfil call o).result := by
  intro call o
  have hlocked : o.isLocked = true := rfl
  obtain ⟨htold, -, hothers⟩ := @deliveries_fulfil galaDesk call o hlocked
  have hok : (galaDesk.fulfil call o).result.isOk = true := by decide +kernel
  refine ⟨hok, by decide +kernel, ?_, (hothers {}).1⟩
  cases hresult : (galaDesk.fulfil call o).result with
  | error failure =>
      rw [hresult] at hok
      cases hok
  | ok answer => exact htold answer hresult

end Desk

end StageStock
