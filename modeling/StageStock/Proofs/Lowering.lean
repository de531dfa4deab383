import Mathlib.Tactic.Lemma
import StageStock.Proofs.Amendment
import StageStock.Proofs.Reserving

/-!
Two ways for a show to need less.

A show that needs fewer units than it holds can ask again for the units that it needs, or its
reservation can be changed. Either way the same reservation is put, so that the same row and the
same ledger come of it: what is no longer needed is given up, whether the units are out or not. The
one difference is that a show which asks has to be listed.

* `Snapshot.lowered`: a ledger in which one reservation has a smaller need, of which it holds all;
* `Store.Commits.ledger_lowered`: the ledger after such a reservation is put in its row;
* `Desk.mutate_lower`: a request that puts it, of which `Desk.mutate_change_lower` and
  `Desk.mutate_reserve_lower` are the two ways;
* `Desk.lower_need`: exactly when each of the two ways succeeds, and what both leave.
-/

namespace StageStock

/-- The reservation with another need, and all the units that it needs. -/
def Reservation.lowered (r : Reservation) (needed : Int) : Reservation :=
  { r with needed, allocated := needed }

/-- The next ledger, in which the reservation under an id has another need. -/
def Snapshot.lowered (s : Snapshot) (id needed : Int) : Snapshot :=
  { s with
    version := s.version + 1
    reservations := s.reservations.map fun r => if r.id = some id then r.lowered needed else r }

/-- The row of a reservation with another need. -/
def ReservationRow.lowered (row : ReservationRow) (status : String) (needed : Int) (now : Moment) :
    ReservationRow :=
  { row with
    needed
    allocated := needed
    status
    updated := some now
    checkedOutAt :=
      if status = ReservationStatus.checkedOut.text ∧ row.checkedOutAt = none then some now
      else row.checkedOutAt }

/-- What a store has of a reservation whose need was lowered at this moment, and of the ledger. -/
structure Store.Lowered (t : Store) (e id n : Int) (now : Moment) (ledger : Snapshot)
    (current : Reservation) (row : ReservationRow) : Prop where
  read : t.ledger? e = .ok (ledger.lowered id n)
  stored : t.reservations.find? id = some (row.lowered current.status n now)

/-! ### What is committed -/

namespace Store.Commits

variable {s t : Store} {p : Proposal} {now : Moment} {before after committed : Snapshot}
  {w : Worksheet} {id n : Int} {row : ReservationRow}

/-- The row of a reservation that was put with another need, and all others. -/
lemma reservations_lowered (h : s.Commits p now before after w t committed)
    (puts : p.changes = [.putReservation ((s.reservationOf (id, row)).lowered n)])
    (stored : s.reservations.find? id = some row) (own : row.equipment = p.equipment) :
    t.reservations
        = s.reservations.modify id
          (Worksheet.reservationRow (p.author now) ((s.reservationOf (id, row)).lowered n))
      ∧ s.ChangesOnly p.equipment (.reservation row.showId) t := by
  have hlisted := mem_reservations_of_find? h.read stored own
  have htouches : Change.Touches before (.reservation row.showId) p.changes := by
    rw [puts]
    exact .editReservation _ _ id hlisted rfl rfl rfl
  refine ⟨?_, h.changesOnly htouches⟩
  have hwrites := h.writes htouches
  rw [puts] at hwrites
  rw [h.tables_eq.2]
  generalize Bucket.reservation row.showId = b at hwrites
  generalize w.flushed = u at hwrites
  cases hwrites with
  | newReservation r new => cases new
  | editReservation id' row' r _ _ same =>
      obtain rfl : id = id' := Option.some.inj same
      rfl

/-- The ledger in which a reservation was put with another need. -/
theorem ledger_lowered (h : s.Commits p now before after w t committed)
    (puts : p.changes = [.putReservation ((s.reservationOf (id, row)).lowered n)])
    (stored : s.reservations.find? id = some row) (own : row.equipment = p.equipment) :
    t.Lowered p.equipment id n now before (s.reservationOf (id, row)) row := by
  obtain ⟨htable, honly⟩ := h.reservations_lowered puts stored own
  have hrow : t.reservations.find? id
      = some (row.lowered (s.reservationOf (id, row)).status n now) := by
    rw [htable, Table.find?_modify, if_pos rfl, stored]
    rfl
  have hread : t.reservationOf (id, row.lowered (s.reservationOf (id, row)).status n now)
      = (s.reservationOf (id, row)).lowered n := by
    have hnamed : (s.reservationOf (id, row)).status ≠ "" := by
      rw [reservationOf]
      dsimp only
      split <;> simp_all [ReservationStatus.text]
    simp only [reservationOf, Reservation.lowered, ReservationRow.lowered,
      honly.beside.shows] at hnamed ⊢
    rw [if_neg hnamed]
  have hreservations : committed.reservations = (before.lowered id n).reservations := by
    rw [reservations_of_ledger? h.reread, Snapshot.lowered, reservations_of_ledger? h.read,
      reservationsOf, htable,
      Table.select_modify (f := Worksheet.reservationRow _ _) fun _ _ => rfl, List.map_map,
      List.map_map]
    refine List.map_congr_left fun other hother => ?_
    simp only [Function.comp_apply]
    by_cases hid : other.1 = id
    · have hown : other.2 = row :=
        Table.eq_of_mem_of_find? (mem_reservationsOf.1 hother).1 (hid.symm ▸ stored)
      obtain rfl : other = (id, row) := Prod.ext hid hown
      rw [if_pos rfl]
      exact hread.trans (if_pos rfl).symm
    · have hapart : (s.reservationOf other).id ≠ some id := fun hsame => hid (Option.some.inj hsame)
      rw [if_neg hid, if_neg hapart]
      simp only [reservationOf, honly.beside.shows]
  refine ⟨h.reread.trans (congrArg Except.ok ?_), hrow⟩
  obtain ⟨hplacements, -, hinstallation, htotal⟩ := honly.outside_eq h.read h.reread
  have hversion := h.version_eq
  have hequipment : committed.equipment = before.equipment := by
    obtain ⟨read, -, -, hbefore⟩ := ledger?_eq_ok.1 h.read
    obtain ⟨raised, -, -, hcommitted⟩ := ledger?_eq_ok.1 h.reread
    rw [hcommitted, hbefore]
    rfl
  obtain ⟨e, total, placements, reservations, installation, version⟩ := committed
  simp only at hreservations hplacements hinstallation htotal hversion hequipment
  rw [hequipment, htotal (by simp), hplacements (by simp), hinstallation (by simp), hreservations,
    hversion]
  rfl

end Store.Commits

/-! ### What both ways put -/

namespace Reservations

variable {ledger : Snapshot} {current : Reservation} {id n : Int} {user : Option Int}

/-- A show has one reservation. -/
lemma activeFor?_of_listed (sound : ledger.IsSound) (listed : current ∈ ledger.reservations)
    (active : current.isActive = true) : ledger.activeFor? current.showId = some current :=
  Snapshot.activeFor?_eq_some_iff.2 ⟨find?_eq_some_of_unique listed (decide_eq_true rfl)
    fun _ hother hshow =>
      List.inj_on_of_nodup_map sound.shows hother listed (of_decide_eq_true hshow), active⟩

/-- A show that asks for no more than it holds keeps what it asks for. -/
lemma reserveChanges_lower (sound : ledger.IsSound) (listed : current ∈ ledger.reservations)
    (active : current.isActive = true) (most : n ≤ current.allocated) (e : Int) (dates : ShowRow) :
    (reserveChanges { showId := current.showId, equipment := e, needed := n, user } dates ledger).1
      = [.putReservation (current.lowered n)] := by
  have hheld : heldAfter current n = n := by
    rw [heldAfter]
    split
    · exact min_eq_right most
    · rfl
  refine (reserveChanges_of_active (activeFor?_of_listed sound listed active)).trans ?_
  simp only [hheld, Option.none_or, Reservation.lowered]

/-- So does a reservation whose need is lowered. -/
lemma changes_lower (active : current.isActive = true) (most : n ≤ current.allocated) :
    let r : ChangeRequest := { id, needed := some n, user }
    (changeWork r current (r.neededOf current) (r.transition ledger current)).changes
      = [.putReservation (current.lowered n)] := by
  intro r
  have hstatus : (r.transition ledger current).status = current.status := rfl
  have hquantity : (r.transition ledger current).quantity = n :=
    ChangeRequest.quantity_transition.trans (min_eq_right most)
  have hstays : current.status ≠ ReservationStatus.returned.text := of_decide_eq_true active
  rw [changeWork, hstatus, if_neg hstays, hquantity]
  rfl

/-- Nothing speaks against a lower need. -/
lemma allowed_lower (id : Int) (user : Option Int) (sound : ledger.IsSound)
    (listed : current ∈ ledger.reservations) (active : current.isActive = true) (least : 1 ≤ n)
    (most : n ≤ current.allocated) :
    ({ id, needed := some n, user } : ChangeRequest).Allowed ledger current := by
  have hquantity : ({ id, needed := some n, user } : ChangeRequest).quantityOf current = n :=
    min_eq_right most
  have hheld : current.held = current.allocated := if_pos active
  have hstore := sound.inStore_nonneg
  exact {
    needed := least
    known := (sound.reservations current listed).2.2.2
    final := fun hreturned => hreturned
    nonneg := by omega
    within := hquantity.le
    available := fun _ => by omega
    out := fun _ => by omega }

end Reservations

/-! ### Both ways at the desk -/

namespace Desk

open Reservations

variable {desk : Desk} {call : Call} {e id n : Int} {ledger : Snapshot} {current : Reservation}
  {user : Option Int}

/-- The numbers of a row whose need is lowered can be stored, since its own can. -/
lemma fits_lowered {row : ReservationRow} (stored : desk.store.fits = true)
    (found : desk.store.reservations.find? id = some row) (least : 1 ≤ n)
    (most : n ≤ row.allocated) :
    (Change.putReservation ((desk.store.reservationOf (id, row)).lowered n)).Fits := by
  have hfits := (Store.fits_iff.1 stored).2.2.1 _ (Table.find?_eq_some_iff.1 found)
  simp only [ReservationRow.fits, Bool.and_eq_true] at hfits
  have hneeded : fitsWord n = true := fitsWord_of_le (by omega) most hfits.1.2
  exact ⟨hfits.1.1.1.2, hneeded, hneeded⟩

/-- A request that nothing hinders and that puts the reservation with a lower need succeeds exactly
if it prepares that, and the user who asks and the next version can be stored. -/
lemma mutate_lower {request : Store → Except Failure (Mutation Answer)} {m : Mutation Answer}
    {prepare : Snapshot → Except Failure (Prepared Answer)} {row : ReservationRow}
    (requested : request desk.store = .ok m) (prepared : m.preparation = .fromLedger prepare)
    (orderly : Orderly m.equipment prepare) (proper : m.Proper) (lawful : m.Lawful)
    (read : desk.store.ledger? m.equipment = .ok ledger) (sound : ledger.IsSound)
    (found : desk.store.reservations.find? id = some row) (own : row.equipment = m.equipment)
    (wide : fitsWord id = true) (stored : desk.store.fits = true)
    (unhindered : desk.Unhindered call m.equipment) (least : 1 ≤ n) (most : n ≤ row.allocated)
    (puts : ∀ work, prepare ledger = .ok work →
      work.changes = [.putReservation ((desk.store.reservationOf (id, row)).lowered n)]) :
    let o := desk.mutate call request
    ((∃ answer, o.result = .ok answer)
        ↔ (∃ work, prepare ledger = .ok work) ∧ fitsWord? m.user = true
          ∧ fitsWord (ledger.version + 1) = true)
      ∧ ((∃ answer, o.result = .ok answer) →
        o.desk.store.Lowered m.equipment id n call.now ledger (desk.store.reservationOf (id, row))
          row) := by
  intro o
  have hrow := Store.reservation?_eq_ok.2 ⟨wide, found⟩
  obtain ⟨hiff, hmade, -⟩ := mutate_prepared unhindered requested prepared orderly proper stored
    read fun work hwork => by
      have hsound := lawful.of_readies read (Mutation.readies_of_prepare prepared hwork) sound
      rw [puts work hwork] at hsound ⊢
      refine ⟨_, _, rfl, hsound _ rfl, Worksheet.writeAll_putReservation rfl hrow own,
        fun c hc => ?_⟩
      rw [List.mem_singleton.1 hc]
      exact fits_lowered stored found least most
  refine ⟨hiff, fun hok => ?_⟩
  obtain ⟨work, after, w, t, committed, hwork, hcommits, hdesk⟩ := hmade hok
  rw [hdesk]
  exact hcommits.ledger_lowered (puts work hwork) found own

section Either

variable {row : ReservationRow} (read : desk.store.ledger? row.equipment = .ok ledger)
  (sound : ledger.IsSound) (found : desk.store.reservations.find? id = some row)
  (active : (desk.store.reservationOf (id, row)).isActive = true) (wide : fitsWord id = true)
  (stored : desk.store.fits = true) (unhindered : desk.Unhindered call row.equipment)
  (least : 1 ≤ n) (most : n ≤ row.allocated)

include read sound found active wide stored unhindered least most

/-- The need of a reservation is lowered. -/
lemma mutate_change_lower (user : Option Int) :
    let o := desk.mutate call (change { id, needed := some n, user })
    ((∃ answer, o.result = .ok answer)
        ↔ fitsWord? user = true ∧ fitsWord (ledger.version + 1) = true)
      ∧ ((∃ answer, o.result = .ok answer) →
        o.desk.store.Lowered row.equipment id n call.now ledger
          (desk.store.reservationOf (id, row)) row) := by
  intro o
  have hlisted := Store.mem_reservations_of_find? read found rfl
  obtain ⟨hfound, -⟩ := find_of_listed read hlisted rfl
  have hm := change_eq (r := { id, needed := some n, user })
    (Store.reservation?_eq_ok.2 ⟨wide, found⟩)
  obtain ⟨hneeded, hvalid⟩ := (ChangeRequest.allowed_iff sound hlisted).1
    (allowed_lower id user sound hlisted active least most)
  have hprepared := prepareChange_iff.2 ⟨rfl, _, hfound, hneeded, hvalid, rfl⟩
  obtain ⟨hiff, hlowered⟩ := mutate_lower hm rfl (orderly_prepareChange _ _) (proper_change hm)
    (lawful_change hm) read sound found rfl wide stored unhindered least most fun work hwork => by
      obtain ⟨-, other, hother, -, -, rfl⟩ := prepareChange_iff.1 hwork
      obtain rfl := Option.some.inj (hother.symm.trans hfound)
      exact changes_lower active most
  exact ⟨hiff.trans (and_iff_right ⟨_, hprepared⟩), hlowered⟩

/-- A show that is listed asks for fewer units than it holds. -/
lemma mutate_reserve_lower (user : Option Int) {dates : ShowRow}
    (shown : desk.store.show? row.showId = .ok dates) :
    let o := desk.mutate call
      (reserve { showId := row.showId, equipment := row.equipment, needed := n, user })
    ((∃ answer, o.result = .ok answer)
        ↔ fitsWord? user = true ∧ fitsWord (ledger.version + 1) = true)
      ∧ ((∃ answer, o.result = .ok answer) →
        o.desk.store.Lowered row.equipment id n call.now ledger
          (desk.store.reservationOf (id, row)) row) := by
  intro o
  let r : ReserveRequest :=
    { showId := row.showId, equipment := row.equipment, needed := n, user }
  have hlisted := Store.mem_reservations_of_find? read found rfl
  have hm : reserve r desk.store = .ok
      { equipment := row.equipment, user
        preparation := .fromLedger (prepareReserve r dates) } := by
    rw [reserve, if_neg (Int.not_lt.2 least), shown]
    rfl
  have hactive : ledger.activeFor? row.showId = some (desk.store.reservationOf (id, row)) :=
    activeFor?_of_listed sound hlisted active
  have henough : n ≤ ledger.inStore + ledger.heldFor row.showId := by
    rw [Snapshot.heldFor, hactive]
    exact most.trans (Int.le_add_of_nonneg_left sound.inStore_nonneg)
  have hprepare := prepareReserve_iff r dates sound
  obtain ⟨hiff, hlowered⟩ := mutate_lower hm rfl (orderly_prepareReserve r dates)
    (proper_reserve hm) (lawful_reserve hm) read sound found rfl wide stored unhindered least most
    fun work hwork => by
      rw [((hprepare work).1 hwork).2]
      exact reserveChanges_lower sound hlisted active most row.equipment dates
  exact ⟨hiff.trans (and_iff_right ⟨_, (hprepare _).2 ⟨henough, rfl⟩⟩), hlowered⟩

end Either

/-- A show that holds some units and that nothing hinders asks for fewer of them, or the need of its
reservation is lowered. The one succeeds exactly if the show is listed and the user who asks and the
next version of the ledger can be stored, and the other one exactly if these two can be stored.
Either way the ledger is the same but for the version and this reservation, which has the lower need
and holds all of it, and its row has the status and the notes that it had. The moment at which its
units went out stays as well; if none was noted for units that are checked out, it is noted now. -/
theorem lower_need (read : desk.store.ledger? e = .ok ledger) (lawful : ledger.violations = [])
    (listed : current ∈ ledger.reservations) (own : current.id = some id)
    (active : current.isActive = true) (least : 1 ≤ n) (most : n ≤ current.allocated)
    (wide : fitsWord id = true) (stored : desk.store.fits = true)
    (unhindered : desk.Unhindered call e) :
    let asks := desk.mutate call
      (reserve { showId := current.showId, equipment := e, needed := n, user })
    let lowers := desk.mutate call (change { id, needed := some n, user })
    ((∃ answer, asks.result = .ok answer)
        ↔ (∃ dates, desk.store.show? current.showId = .ok dates) ∧ fitsWord? user = true
          ∧ fitsWord (ledger.version + 1) = true)
      ∧ ((∃ answer, lowers.result = .ok answer)
        ↔ fitsWord? user = true ∧ fitsWord (ledger.version + 1) = true)
      ∧ ∃ row, desk.store.reservations.find? id = some row
        ∧ ((∃ answer, asks.result = .ok answer) →
          asks.desk.store.Lowered e id n call.now ledger current row)
        ∧ ((∃ answer, lowers.result = .ok answer) →
          lowers.desk.store.Lowered e id n call.now ledger current row) := by
  intro asks lowers
  have hsound := (Snapshot.violations_eq_nil_iff_isSound ledger).1 lawful
  obtain ⟨-, row, hrow, rfl, rfl⟩ := find_of_listed read listed own
  obtain ⟨hlowers, hlowered⟩ :=
    mutate_change_lower read hsound hrow active wide stored unhindered least most user
  have hasks (dates : ShowRow) (shown : desk.store.show? row.showId = .ok dates) :=
    mutate_reserve_lower read hsound hrow active wide stored unhindered least most user shown
  -- a show that is not listed is declined before anything is prepared
  have hshown : (∃ answer, asks.result = .ok answer) →
      ∃ dates, desk.store.show? row.showId = .ok dates := by
    rintro ⟨answer, hanswer⟩
    obtain ⟨m, -, -, -, -, -, -, hm, -⟩ :=
      commits_of_mutate_ok unhindered.alone answers_of_reserve hanswer
    obtain ⟨-, dates, hdates, -⟩ := reserve_eq_ok hm
    exact ⟨dates, hdates⟩
  refine ⟨⟨fun hok => ?_, ?_⟩, hlowers, row, hrow, fun hok => ?_, hlowered⟩
  · obtain ⟨dates, hdates⟩ := hshown hok
    exact ⟨⟨dates, hdates⟩, (hasks dates hdates).1.1 hok⟩
  · rintro ⟨⟨dates, hdates⟩, hstorable⟩
    exact (hasks dates hdates).1.2 hstorable
  · obtain ⟨dates, hdates⟩ := hshown hok
    exact (hasks dates hdates).2 hok

/-- The gala holds three lamps and needs only two: both ways leave it with these two, in the row
that it had. -/
theorem lower_need_gala :
    let desk : Desk := { store := .galaAndFair 7 }
    let asks := desk.mutate { now := default }
      (reserve { showId := 1, equipment := 1, needed := 2 })
    let lowers := desk.mutate { now := default } (change { id := 1, needed := some 2 })
    (∃ answer, asks.result = .ok answer) ∧ (∃ answer, lowers.result = .ok answer)
      ∧ asks.desk.store.ledger? 1 = lowers.desk.store.ledger? 1
      ∧ ∃ row, asks.desk.store.reservations.find? 1 = some row
        ∧ lowers.desk.store.reservations.find? 1 = some row
        ∧ row.needed = 2 ∧ row.allocated = 2 ∧ row.status = "requested" := by
  obtain ⟨hasks, hlowers, row, hrow, hasked, hlowered⟩ := @lower_need { store := .galaAndFair 7 }
    { now := default } 1 1 2 _ { id := some 1, showId := 1, needed := 3, allocated := 3 } none
    (Store.ledger?_eq_ok.2 ⟨_, by decide, rfl, rfl⟩) (by decide +kernel) (by decide +kernel) rfl
    rfl (by decide) (by decide) (by decide) (by decide +kernel) ⟨rfl, rfl, rfl⟩
  have hasked' := hasks.2 ⟨⟨_, rfl⟩, by decide, by decide +kernel⟩
  have hlowered' := hlowers.2 ⟨by decide, by decide +kernel⟩
  exact ⟨hasked', hlowered', (hasked hasked').read.trans (hlowered hlowered').read.symm, _,
    (hasked hasked').stored, (hlowered hlowered').stored, rfl, rfl, rfl⟩

/-- At the largest version that can be stored, neither way succeeds; and if the gala is not listed,
it cannot ask, although its reservation can be changed. -/
theorem not_lower_need_gala :
    let asks (s : Store) := ({ store := s } : Desk).mutate { now := default }
      (reserve { showId := 1, equipment := 1, needed := 2 })
    let lowers (s : Store) := ({ store := s } : Desk).mutate { now := default }
      (change { id := 1, needed := some 2 })
    let full := Store.galaAndFair 0x7FFFFFFFFFFFFFFF
    let unlisted : Store := { Store.galaAndFair 7 with shows := Table.empty }
    (∀ s ∈ [full, unlisted], ∃ ledger, s.ledger? 1 = .ok ledger ∧ ledger.violations = []
        ∧ ∃ current ∈ ledger.reservations, current.id = some 1 ∧ current.isActive = true
          ∧ 2 ≤ current.allocated)
      ∧ (asks full).result = .error .numberTooWide ∧ (lowers full).result = .error .numberTooWide
      ∧ (asks unlisted).result = .error (.noShow 1) ∧ (lowers unlisted).result.isOk = true := by
  intro asks lowers full unlisted
  refine ⟨?_, rfl, rfl, rfl, by decide +kernel⟩
  simp only [List.forall_mem_cons, List.not_mem_nil, false_implies, implies_true, and_true]
  exact ⟨⟨_, Store.ledger?_eq_ok.2 ⟨_, by decide, rfl, rfl⟩, by decide +kernel, by decide +kernel⟩,
    ⟨_, Store.ledger?_eq_ok.2 ⟨_, by decide, rfl, rfl⟩, by decide +kernel, by decide +kernel⟩⟩

end Desk

end StageStock
