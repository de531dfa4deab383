import Mathlib.Tactic.Lemma
import StageStock.Proofs.Departure

/-!
A show gives back what it was granted.

A show that had nothing of an equipment makes a reservation, and makes and changes it as it likes
without returning it. As long as it does not return it, the reservation is there; removing or
returning it leads back to the ledger of the start.

* `Order.ForShow`: orders for the reservation of one show;
* `Store.Holds`: a show holds a reservation; orders that do not return it leave it there
  (`Desk.holds_fulfil`);
* `Desk.givesBack_of_reserved`: removing or returning the reservation gives back its units;
* `Desk.givesBack_of_reserve`: after any orders that do not return it, too.
-/

namespace StageStock

/-! ### Orders for one show -/

namespace Order

/-- An order for the reservation that a show has of an equipment, to make it or to change it. -/
inductive ForShow (showId e : Int) (s : Store) : Order → Prop where
  | reserve (r : Reservations.ReserveRequest) (asks : r.showId = showId) (own : r.equipment = e) :
      ForShow showId e s (.reserve r)
  | changeReservation (r : Reservations.ChangeRequest) (row : ReservationRow)
      (stored : s.reservations.find? r.id = some row) (asks : row.showId = showId)
      (own : row.equipment = e) : ForShow showId e s (.changeReservation r)

variable {o : Order} {s : Store} {showId e : Int}

lemma ForShow.within (h : o.ForShow showId e s) :
    o.equipment? s = some e ∧ o.bucket? s = some (.reservation showId) := by
  cases h with
  | reserve r asks own => exact ⟨congrArg some own, by rw [bucket?, asks]⟩
  | changeReservation r row stored asks own =>
      rw [equipment?, bucket?, stored, ← asks, ← own]
      exact ⟨rfl, rfl⟩

end Order

/-! ### The return of a reservation -/

/-- On a sound ledger, nothing speaks against the return of a reservation. -/
lemma Reservations.exists_prepareChange_returned {ledger : Snapshot} {r : Reservation} {id : Int}
    (sound : ledger.IsSound) (found : ledger.findReservation? id = some r) (user : Option Int) :
    ∃ work, prepareChange { id, status := some ReservationStatus.returned.text, user } ledger
        = .ok work ∧ work.changes = [.dropReservation id (some r.showId)] := by
  obtain ⟨hneeded, hnonneg, hheld, -⟩ := sound.reservations r (List.mem_of_find?_eq_some found)
  have hid : r.id = some id := of_decide_eq_true (List.find?_some found :)
  have henough : ¬ r.needed < 1 := by omega
  have hunlowered : ¬ r.needed < r.allocated := by omega
  have hvalid :
      (ledger.transition r (some ReservationStatus.returned.text) none).check = .ok () := by
    rw [Transition.check_eq_ok]
    have hunder : ¬ r.allocated < 0 := by omega
    have hnamed : ReservationStatus.returned.text ≠ "" := by decide
    have hknown : ReservationStatus.isKnown ReservationStatus.returned.text = true := by decide
    have hin : ReservationStatus.isOut ReservationStatus.returned.text = false := by decide
    simp [Snapshot.transition, Snapshot.conflictIf, hunder, hunlowered, hnamed, hknown, hin]
  simp only [prepareChange, checkExpected, found, Option.getD_none, if_neg henough, hunlowered,
    and_false, if_false]
  rw [hvalid]
  refine ⟨_, rfl, ?_⟩
  have hstatus : (ledger.transition r (some ReservationStatus.returned.text) none).status
      = ReservationStatus.returned.text := rfl
  rw [changeWork, if_pos hstatus, hid]
  rfl

namespace Desk

variable {s : Store} {desk : Desk} {call : Call} {o : Order} {e : Int}
  {start current : Snapshot} {m : Mutation Json} {work : Prepared Json}

/-- Dropping the only row of a show gives back what it was granted. -/
lemma givesBack_of_drop {id showId : Int} {row : ReservationRow}
    (h : s.Departs m.equipment (.reservation showId) desk.store)
    (origin : s.ledger? m.equipment = .ok start)
    (free : ∀ r ∈ s.reservationsOf m.equipment, r.2.showId ≠ showId)
    (unhindered : desk.Unhindered call m.equipment)
    (makes : o.Makes call.now.date desk.store m)
    (within : o.bucket? desk.store = some (.reservation showId))
    (stored : desk.store.reservation? id = .ok row) (own : row.equipment = m.equipment)
    (asks : row.showId = showId) (read : desk.store.ledger? m.equipment = .ok current)
    (ready : m.Readies current work) (drops : work.changes = [.dropReservation id (some showId)])
    (user : fitsWord? m.user = true) : desk.GivesBack call o m.equipment start := by
  have hrow := (Store.reservation?_eq_ok.1 stored).2
  have hsound := h.isSound read
  obtain ⟨equipment, -, hequipment, rfl⟩ := Store.ledger?_eq_ok.1 read
  have hlisted : (id, row) ∈ desk.store.reservationsOf m.equipment :=
    Store.mem_reservationsOf.2 ⟨Table.find?_eq_some_iff.1 hrow, own⟩
  obtain ⟨hfound, -⟩ := Reservations.find_of_listed read (List.mem_map_of_mem hlisted) rfl
  have happlied : Change.applyAll (desk.store.snapshot m.equipment equipment) work.changes
      = .ok { desk.store.snapshot m.equipment equipment with
          reservations := (desk.store.snapshot m.equipment equipment).reservations.filter
            fun other => other.id ≠ some id } := by
    rw [drops, Change.applyAll, Change.apply, hfound]
    rfl
  have hwritten := Worksheet.writeAll_dropReservation
    (a := ⟨m.equipment, m.user, call.now⟩) stored h.stored (some showId)
  rw [← drops] at hwritten
  refine givesBack_of_readies h origin unhindered makes within read ready happlied hwritten ?_ user
    ?_
  · intro c hc
    rw [drops, List.mem_singleton] at hc
    rw [hc]
    trivial
  · -- the ledger has no other reservation of the show
    intro t committed hcommits hdeparts
    refine hdeparts.differs.same_of_free origin hcommits.reread free fun r hr hsame => ?_
    obtain ⟨hmem, howned⟩ := Store.mem_reservationsOf.1 hr
    rw [hcommits.tables_eq.2] at hmem
    obtain ⟨hstays, hother⟩ := List.mem_filter.1 hmem
    have hthere : r ∈ desk.store.reservationsOf m.equipment :=
      Store.mem_reservationsOf.2 ⟨hstays, howned⟩
    have hequal := List.inj_on_of_nodup_map hsound.shows (List.mem_map_of_mem hthere)
      (List.mem_map_of_mem hlisted) (hsame.trans asks.symm)
    exact of_decide_eq_true hother (Option.some.inj (congrArg Reservation.id hequal))

/-- Removing or returning the reservation of a show that had none at the start gives back all that
the show was granted. -/
theorem givesBack_of_reserved {showId : Int} {row : Int × ReservationRow} {user : Option Int}
    (h : s.Departs e (.reservation showId) desk.store) (origin : s.ledger? e = .ok start)
    (free : ∀ r ∈ s.reservationsOf e, r.2.showId ≠ showId)
    (listed : row ∈ desk.store.reservationsOf e) (asks : row.2.showId = showId)
    (wide : fitsWord row.1 = true) (unhindered : desk.Unhindered call e)
    (known : fitsWord? user = true) :
    desk.GivesBack call (.removeReservation row.1 user) e start
      ∧ desk.GivesBack call (.changeReservation
        { id := row.1, status := some ReservationStatus.returned.text, user }) e start := by
  obtain ⟨id, row⟩ := row
  obtain ⟨hstored, hown⟩ := Store.mem_reservationsOf.1 listed
  have hfind := Table.find?_of_mem hstored
  have hfound := Store.reservation?_eq_ok.2 ⟨wide, hfind⟩
  obtain ⟨current, hread, hsound⟩ := h.sound
  simp only at hown asks
  subst hown asks
  constructor
  · obtain ⟨m, hmade⟩ : ∃ m, Reservations.remove id user desk.store = .ok m := by
      rw [Reservations.remove, hfound]
      exact ⟨_, rfl⟩
    obtain ⟨row', answer, hrow, rfl, -⟩ := Reservations.remove_eq_ok hmade
    obtain rfl : row' = row := Except.ok.inj (hrow.symm.trans hfound)
    refine givesBack_of_drop h origin free unhindered (.removeReservation hmade) ?_ hfound
      rfl rfl hread rfl rfl known
    rw [Order.bucket?, hfind]
    rfl
  · have hreads := Store.mem_reservations_of_ledger? hread listed
    obtain ⟨hreservation, -⟩ := Reservations.find_of_listed hread hreads rfl
    obtain ⟨work, hwork, hdrops⟩ :=
      Reservations.exists_prepareChange_returned hsound hreservation user
    have hready := (Mutation.readies_of_prepare (m := ⟨row.equipment, user, _⟩) rfl hwork).map
      Reservations.Answer.toJson
    refine givesBack_of_drop h origin free unhindered
      (.changeReservation (Reservations.change_eq hfound)) ?_ hfound rfl rfl hread hready hdrops
      known
    rw [Order.bucket?, hfind]
    rfl

end Desk

/-! ### Reservations that last -/

/-- Whether an order may end a reservation. -/
def Order.returns : Order → Bool
  | .changeReservation r => r.status = some ReservationStatus.returned.text
  | .removeReservation .. => true
  | _ => false

/-- A show holds a reservation of an equipment that has not been returned. -/
def Store.Holds (showId e : Int) (s : Store) : Prop :=
  ∃ m, s.ledger? e = .ok m ∧ ∃ q ∈ m.reservations, q.showId = showId ∧ q.isActive = true

/-- A reservation that a show holds has a row. -/
lemma Store.Holds.exists_row {s : Store} {showId e : Int} (h : s.Holds showId e) :
    ∃ row ∈ s.reservationsOf e, row.2.showId = showId := by
  obtain ⟨m, hm, q, hq, hshow, -⟩ := h
  obtain ⟨equipment, -, -, rfl⟩ := Store.ledger?_eq_ok.1 hm
  obtain ⟨row, hrow, rfl⟩ := List.mem_map.1 hq
  exact ⟨row, hrow, hshow⟩

namespace Reservations

/-- A reservation records what a show asks for, so that asking once more would change nothing of
it. -/
structure Meets (r : ReserveRequest) (q : Reservation) : Prop where
  showId : q.showId = r.showId
  active : q.isActive = true
  needed : q.needed = r.needed
  allocated : heldAfter q r.needed = q.allocated
  notes : r.notes.or q.notes = q.notes

lemma meets_fresh (r : ReserveRequest) (row : ShowRow) : Meets r (fresh r row) where
  showId := rfl
  active := rfl
  needed := rfl
  allocated := rfl
  notes := by simp [fresh]

/-- Units that are out are as many as before or as are needed, and others as many as are needed;
both are so already when the show asks once more. -/
lemma meets_changed {r : ReserveRequest} {current : Reservation} (active : current.isActive = true)
    (asks : current.showId = r.showId) :
    Meets r { current with
      needed := r.needed
      allocated := heldAfter current r.needed
      notes := r.notes.or current.notes } where
  showId := asks
  active := active
  needed := rfl
  allocated := by
    simp only [heldAfter]
    show (if current.isOut = true then _ else _) = _
    split
    · omega
    · rfl
  notes := by cases r.notes <;> rfl

/-- At last, the reservation of the show is recorded. -/
lemma exists_put_of_reserve (r : ReserveRequest) (row : ShowRow) (read : Snapshot) :
    ∃ front q, (reserveChanges r row read).1 = front ++ [.putReservation q] ∧ Meets r q := by
  rw [reserveChanges]
  split
  · exact ⟨[], fresh r row, rfl, meets_fresh r row⟩
  · rename_i current hcurrent
    split
    · rename_i hactive
      exact ⟨[], _, rfl, meets_changed hactive (of_decide_eq_true (List.find?_some hcurrent :))⟩
    · exact ⟨[_], fresh r row, rfl, meets_fresh r row⟩

/-- A reservation that is not returned is recorded again. -/
lemma exists_put_of_change (r : ChangeRequest) (current : Reservation) (needed : Int)
    {t : Transition} (stays : t.status ≠ ReservationStatus.returned.text) :
    ∃ q, (changeWork r current needed t).changes = [.putReservation q]
      ∧ q.showId = current.showId ∧ q.isActive = true := by
  rw [changeWork, if_neg stays]
  exact ⟨_, rfl, rfl, decide_eq_true stays⟩

/-- Without the status of a return, a reservation that has not ended does not end. -/
lemma status_transition_ne_returned {ledger : Snapshot} {current : Reservation}
    {status : Option String} {quantity : Option Int} (active : current.isActive = true)
    (stays : status ≠ some ReservationStatus.returned.text) :
    (ledger.transition current status quantity).status ≠ ReservationStatus.returned.text := by
  have hcurrent : current.status ≠ ReservationStatus.returned.text := of_decide_eq_true active
  cases status with
  | none => exact hcurrent
  | some text =>
      show (if text = "" then current.status else text) ≠ _
      split
      · exact hcurrent
      · exact fun htext => stays (congrArg some htext)

end Reservations

namespace Store.Commits

variable {s t : Store} {p : Proposal} {now : Moment} {before after committed : Snapshot}
  {w : Worksheet} {q : Reservation}

/-- The reservation that is recorded at last is held. -/
lemma holds_of_put (front : List Change) (h : s.Commits p now before after w t committed)
    (proper : Change.Proper before p.changes) (puts : p.changes = front ++ [.putReservation q])
    (active : q.isActive = true) : t.Holds q.showId p.equipment := by
  have happlied := h.applied
  rw [puts] at happlied
  obtain ⟨mid, -, hlast⟩ := Change.applyAll_append happlied
  have hput : q ∈ after.reservations := by
    rw [← Except.ok.inj hlast]
    exact List.mem_append_right _ (List.mem_singleton_self q)
  obtain ⟨q', hq', hshow, -, -, hstatus⟩ :=
    (h.alike_of_proper proper).reservations.exists_right hput
  refine ⟨committed, h.reread, q', hq', hshow.symm, ?_⟩
  rw [Reservation.isActive, ← hstatus]
  exact active

end Store.Commits

namespace Order.Makes

variable {s t : Store} {today : Date} {m : Mutation Json} {work : Prepared Json} {now : Moment}
  {before after committed : Snapshot} {w : Worksheet}

lemma holds_of_reserve {r : Reservations.ReserveRequest}
    (makes : (Order.reserve r).Makes today s m) (ready : m.Readies before work)
    (commits : s.Commits (m.proposal work) now before after w t committed) :
    t.Holds r.showId m.equipment := by
  have hproper := makes.proper.of_readies commits.read ready
  cases makes with
  | reserve made =>
      obtain ⟨mapped, hmapped, rfl⟩ := ready.of_map
      obtain ⟨-, row, -, rfl⟩ := Reservations.reserve_eq_ok made
      obtain ⟨plain, hplain, rfl⟩ := hmapped
      rw [(Reservations.prepareReserve_eq_ok hplain).2] at commits hproper
      obtain ⟨front, q, hputs, hmeets⟩ := Reservations.exists_put_of_reserve r row before
      rw [← hmeets.showId]
      exact commits.holds_of_put front hproper hputs hmeets.active

lemma holds_of_change {r : Reservations.ChangeRequest} {row : ReservationRow}
    (makes : (Order.changeReservation r).Makes today s m) (ready : m.Readies before work)
    (commits : s.Commits (m.proposal work) now before after w t committed)
    (sound : before.IsSound) (stored : s.reservations.find? r.id = some row)
    (held : s.Holds row.showId m.equipment)
    (stays : r.status ≠ some ReservationStatus.returned.text) :
    t.Holds row.showId m.equipment := by
  have hproper := makes.proper.of_readies commits.read ready
  obtain ⟨ledger, hledger, q, hq, hshow, hactive⟩ := held
  obtain rfl : before = ledger := Except.ok.inj (commits.read.symm.trans hledger)
  cases makes with
  | changeReservation made =>
      obtain ⟨mapped, hmapped, rfl⟩ := ready.of_map
      obtain ⟨found, -, rfl⟩ := Reservations.change_eq_ok made
      obtain ⟨plain, hplain, rfl⟩ := hmapped
      obtain ⟨current, needed, t, allocated, hcurrent, -, ht, -, rfl⟩ :=
        Reservations.prepareChange_eq_ok hplain
      have hlisted := List.mem_of_find?_eq_some hcurrent
      obtain ⟨-, row', hrow', -, hsame⟩ := Reservations.find_of_listed hledger hlisted
        (of_decide_eq_true (List.find?_some hcurrent :))
      obtain rfl : row' = row := Option.some.inj (hrow'.symm.trans stored)
      -- the reservation that is changed is the one that the show holds
      have hown : current.showId = row'.showId := by rw [hsame]; rfl
      obtain rfl := List.inj_on_of_nodup_map sound.shows hlisted hq (hown.trans hshow.symm)
      have hlasts : t.status ≠ ReservationStatus.returned.text :=
        ht ▸ Reservations.status_transition_ne_returned hactive stays
      obtain ⟨q, hputs, hshow', hactive'⟩ :=
        Reservations.exists_put_of_change r current needed hlasts
      rw [← hshow, ← hshow']
      exact commits.holds_of_put [] hproper hputs hactive'

end Order.Makes

namespace Desk

variable {s : Store} {desk : Desk} {call : Call} {o : Order} {e showId : Int} {start : Snapshot}

/-- An order for a show that may not end its reservation leaves it with one. -/
lemma holds_fulfil (h : s.Departs e (.reservation showId) desk.store)
    (kind : o.ForShow showId e desk.store) (stays : o.returns = false) (alone : call.rivals = [])
    (held : desk.store.Holds showId e) : (desk.fulfil call o).desk.store.Holds showId e := by
  refine fulfil_keeps alone kind.within.1 held fun hmakes he hready hcommits => ?_
  subst he
  cases kind with
  | reserve r asks own => exact asks ▸ hmakes.holds_of_reserve hready hcommits
  | changeReservation r row stored asks own =>
      subst asks
      exact hmakes.holds_of_change hready hcommits (h.isSound hcommits.read) stored held
        (of_decide_eq_false stays)

/-- A show that had nothing of an equipment makes a reservation, and makes or changes it as it likes
as long as it does not return it. After that it has a row, and removing or returning it gives back
all that the show was granted. -/
theorem givesBack_of_reserve {first : Desk} {earlier : Call} {r : Reservations.ReserveRequest}
    {answer : Json} {user : Option Int} (stored : first.store.fits = true)
    (origin : first.store.ledger? e = .ok start) (sound : start.IsSound) (own : r.equipment = e)
    (free : ∀ row ∈ first.store.reservationsOf e, row.2.showId ≠ r.showId)
    (alone : earlier.rivals = [])
    (granted : (first.fulfil earlier (.reserve r)).result = .ok answer)
    (changed : (first.fulfil earlier (.reserve r)).desk.store.YieldsBy
      (fun u o => o.ForShow r.showId e u ∧ o.returns = false) desk.store)
    (unhindered : desk.Unhindered call e) (known : fitsWord? user = true) :
    (∃ row ∈ desk.store.reservationsOf e, row.2.showId = r.showId)
      ∧ ∀ row ∈ desk.store.reservationsOf e, row.2.showId = r.showId → fitsWord row.1 = true →
        desk.GivesBack call (.removeReservation row.1 user) e start
          ∧ desk.GivesBack call (.changeReservation
            { id := row.1, status := some ReservationStatus.returned.text, user }) e start := by
  have hkind : (Order.reserve r).ForShow r.showId e first.store := .reserve r rfl own
  have hfirst := departs_fulfil (Store.departs_start stored origin sound _) alone hkind.within.1
    hkind.within.2
  have hheld : (first.fulfil earlier (.reserve r)).desk.store.Holds r.showId e := by
    obtain ⟨m, work, after, w, committed, hmakes, rfl, hready, hcommits⟩ :=
      exists_commit_of_granted alone hkind.within.1 origin granted
    exact hmakes.holds_of_reserve hready hcommits
  obtain ⟨hdeparts, hholds⟩ := changed.preserves
    (I := fun t => first.store.Departs e (.reservation r.showId) t ∧ t.Holds r.showId e)
    ⟨hfirst, hheld⟩ fun desk call o hallowed alone hsofar =>
      ⟨departs_fulfil hsofar.1 alone hallowed.1.within.1 hallowed.1.within.2,
        holds_fulfil hsofar.1 hallowed.1 hallowed.2 alone hsofar.2⟩
  exact ⟨hholds.exists_row, fun row listed asks wide =>
    givesBack_of_reserved hdeparts origin free listed asks wide unhindered known⟩

end Desk

end StageStock
