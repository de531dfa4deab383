import Mathlib.Tactic.Lemma
import StageStock.Proofs.GivingBack
import StageStock.Proofs.Restating

/-!
What a show gets when it asks for units.

A show asks for the number of units that it needs in all, so that those which it holds already are
available to it; a reservation that has ended holds none. On a sound ledger that nobody else works
on, the show gets the units exactly if it asks for at least one and for no more than are available
to it, and the numbers that are written can be stored. It has one row then: a new one that holds all
the units, or the one that it had. Of units that are out, no more come than were out before.

* `Snapshot.heldFor`: the units that a show holds;
* `Store.reservationsFor`: the rows of a show for an equipment, of which a sound ledger has one at
  most (`Store.reservationsFor_eq_singleton`);
* `Reservations.ReserveRequest.RecordedIn`: what is recorded for a show that has asked for units;
* `Desk.reserve_succeeds_iff`: exactly when a show gets them, and what is recorded.
-/

namespace StageStock

/-! ### What a show holds -/

namespace Snapshot

/-- The reservation of a show, unless it has ended. -/
def activeFor? (s : Snapshot) (showId : Int) : Option Reservation :=
  (s.reservationFor? showId).filter Reservation.isActive

/-- The units that a show holds. -/
def heldFor (s : Snapshot) (showId : Int) : Int :=
  ((s.activeFor? showId).map Reservation.allocated).getD 0

variable {s : Snapshot} {showId : Int} {current : Reservation}

lemma activeFor?_eq_some_iff : s.activeFor? showId = some current
    ↔ s.reservationFor? showId = some current ∧ current.isActive = true := by
  rw [activeFor?, Option.filter_eq_some_iff]

lemma activeFor?_eq_none_iff : s.activeFor? showId = none
    ↔ ∀ current, s.reservationFor? showId = some current → current.isActive = false := by
  rw [activeFor?, Option.filter_eq_none_iff]
  simp only [Bool.not_eq_true]

namespace IsSound

lemma heldFor_bounds (h : s.IsSound) (showId : Int) :
    0 ≤ s.heldFor showId ∧ s.heldFor showId ≤ s.reserved := by
  rw [heldFor]
  cases hactive : s.activeFor? showId with
  | none => exact ⟨Int.le_refl 0, h.reserved_nonneg⟩
  | some current =>
      obtain ⟨hfound, hstays⟩ := activeFor?_eq_some_iff.1 hactive
      have hlisted := List.mem_of_find?_eq_some hfound
      have hheld : current.held = current.allocated := if_pos hstays
      rw [Option.map_some, Option.getD_some, reserved_eq, ← hheld]
      exact ⟨h.held_nonneg current hlisted, le_addUp_of_mem h.held_nonneg hlisted⟩

lemma inStoreWith_heldFor (h : s.IsSound) (showId : Int) :
    s.inStoreWith (s.heldFor showId) = s.inStore + s.heldFor showId := by
  have hnonneg := (h.heldFor_bounds showId).1
  rw [inStoreWith]
  omega

/-- No more units are available to a show than there are. -/
lemma available_bounds (h : s.IsSound) (showId : Int) :
    0 ≤ s.inStore + s.heldFor showId ∧ s.inStore + s.heldFor showId ≤ s.total := by
  have hstore := h.inStore_nonneg
  have hplaced := h.placed_nonneg
  have hinstalled := h.installed_nonneg
  obtain ⟨hnonneg, hle⟩ := h.heldFor_bounds showId
  rw [s.total_eq]
  omega

end IsSound

end Snapshot

/-- The id of a show that is found can be stored. -/
lemma Store.fitsWord_of_show? {s : Store} {id : Int} {row : ShowRow} (h : s.show? id = .ok row) :
    fitsWord id = true := by
  rw [show?] at h
  split at h
  · assumption
  · cases h

/-- The rows of a show for an equipment. -/
def Store.reservationsFor (s : Store) (showId e : Int) : List (Int × ReservationRow) :=
  s.reservations.select fun row => row.showId = showId && row.equipment = e

lemma Store.mem_reservationsFor {s : Store} {showId e : Int} {row : Int × ReservationRow} :
    row ∈ s.reservationsFor showId e
      ↔ row ∈ s.reservations.rows ∧ row.2.showId = showId ∧ row.2.equipment = e := by
  rw [reservationsFor, Table.mem_select, Bool.and_eq_true, decide_eq_true_iff, decide_eq_true_iff]

/-- If the ledger of the equipment is sound, a show has no other row than this one. -/
lemma Store.reservationsFor_eq_singleton {s : Store} {e id : Int} {ledger : Snapshot}
    {row : ReservationRow} (read : s.ledger? e = .ok ledger) (sound : ledger.IsSound)
    (found : s.reservations.find? id = some row) (own : row.equipment = e) :
    s.reservationsFor row.showId e = [(id, row)] := by
  have hlisted : ∀ other ∈ s.reservations.rows, other.2.equipment = e →
      s.reservationOf other ∈ ledger.reservations := fun other hother hown =>
    mem_reservations_of_ledger? read (mem_reservationsOf.2 ⟨hother, hown⟩)
  have hrow := Table.find?_eq_some_iff.1 found
  refine List.perm_singleton.1 (Table.perm_of_mem_iff (Table.nodup_select _ _)
    (List.nodup_singleton _) fun other => ?_)
  rw [List.mem_singleton]
  constructor
  · intro hother
    obtain ⟨hstored, hshow, hown⟩ := mem_reservationsFor.1 hother
    have hsame := List.inj_on_of_nodup_map sound.shows (hlisted other hstored hown)
      (hlisted (id, row) hrow own) hshow
    have hid : other.1 = id := Option.some.inj (congrArg Reservation.id hsame)
    exact Prod.ext hid (Table.eq_of_mem_of_find? hstored (hid ▸ found))
  · rintro rfl
    exact mem_reservationsFor.2 ⟨hrow, rfl, own⟩

/-! ### Writing what a show asks for -/

namespace Worksheet

variable {a : Author} {w v : Worksheet} {c : Change} {rest : List Change}

lemma writeAll_cons_of_writeAll (h : w.writeAll a [c] = .ok v) :
    w.writeAll a (c :: rest) = v.writeAll a rest := by
  rw [writeAll] at h ⊢
  cases hwrite : w.write a c with
  | error failure => simp [hwrite] at h
  | ok next =>
      rw [hwrite] at h
      obtain rfl : next = v := Except.ok.inj h
      rfl

lemma writeAll_newReservation {r : Reservation} (new : r.id = none) :
    w.writeAll a [.putReservation r]
      = .ok { w with newReservations := w.newReservations ++ [newReservationRow a r] } := by
  simp only [writeAll, write, putReservation, new]
  rfl

end Worksheet

/-- A new reservation is written in a new row. -/
lemma Store.Writes.exists_put_new {s u : Store} {a : Worksheet.Author} {b : Bucket}
    {cs : List Change} {q : Reservation} (h : s.Writes a b cs u) (put : .putReservation q ∈ cs)
    (new : q.id = none) :
    ∃ id, u.reservations.find? id = some (Worksheet.newReservationRow a q) := by
  cases h with
  | newReservation r _ =>
      obtain rfl := Change.putReservation.inj (List.mem_singleton.1 put)
      exact ⟨_, s.reservations.find?_insert_nextId _⟩
  | editReservation id row r stored own same =>
      obtain rfl := Change.putReservation.inj (List.mem_singleton.1 put)
      rw [new] at same
      cases same
  | renewReservation id showId row r stored own ended _ same =>
      obtain rfl : q = r := by simpa using put
      exact ⟨_, (s.reservations.erase id).find?_insert_nextId _⟩
  | _ => simp at put

namespace Reservations

variable {s : Store} {e : Int} {ledger : Snapshot} {r : ReserveRequest} {dates : ShowRow}
  {current : Reservation}

/-! ### What a show asks for -/

lemma held_reserveChanges (r : ReserveRequest) (dates : ShowRow) (ledger : Snapshot) :
    (reserveChanges r dates ledger).2 = ledger.heldFor r.showId := by
  rw [reserveChanges, Snapshot.heldFor, Snapshot.activeFor?]
  cases ledger.reservationFor? r.showId with
  | none => rfl
  | some current =>
      by_cases hactive : current.isActive = true <;> simp [Option.filter, hactive]

/-- What a show asks for is compared with what is available to it. -/
lemma prepareReserve_eq (r : ReserveRequest) (dates : ShowRow) (sound : ledger.IsSound) :
    prepareReserve r dates ledger
      = if ledger.inStore + ledger.heldFor r.showId < r.needed then
          .error (.tooManyRequested r.needed (ledger.inStore + ledger.heldFor r.showId))
        else .ok { action := "AllocateToShow", changes := (reserveChanges r dates ledger).1
                   answer := reserveAnswer r } := by
  rw [← sound.inStoreWith_heldFor, ← held_reserveChanges r dates]
  rfl

lemma prepareReserve_iff (r : ReserveRequest) (dates : ShowRow) (sound : ledger.IsSound)
    (work : Prepared Answer) :
    prepareReserve r dates ledger = .ok work
      ↔ r.needed ≤ ledger.inStore + ledger.heldFor r.showId
        ∧ work = { action := "AllocateToShow", changes := (reserveChanges r dates ledger).1
                   answer := reserveAnswer r } := by
  rw [prepareReserve_eq r dates sound, ← Int.not_lt]
  split
  · rename_i hmore
    exact ⟨(fun h => nomatch h), fun h => absurd hmore h.1⟩
  · rename_i henough
    exact ⟨fun h => ⟨henough, (Except.ok.inj h).symm⟩, fun h => h.2 ▸ rfl⟩

/-- A show that has asked for units before has its reservation changed. -/
lemma reserveChanges_of_active (h : ledger.activeFor? r.showId = some current) :
    (reserveChanges r dates ledger).1 = [.putReservation { current with
      needed := r.needed
      allocated := heldAfter current r.needed
      notes := r.notes.or current.notes }] := by
  obtain ⟨hfound, hactive⟩ := Snapshot.activeFor?_eq_some_iff.1 h
  simp only [reserveChanges, hfound, hactive, if_true]

/-- Any other show gets a new reservation. -/
lemma exists_fresh_of_inactive (dates : ShowRow) (h : ledger.activeFor? r.showId = none) :
    ∃ front, (reserveChanges r dates ledger).1 = front ++ [.putReservation (fresh r dates)] := by
  rw [reserveChanges]
  cases hfound : ledger.reservationFor? r.showId with
  | none => exact ⟨[], rfl⟩
  | some ended =>
      simp only [Snapshot.activeFor?_eq_none_iff.1 h ended hfound]
      exact ⟨[_], rfl⟩

/-- Whatever is recorded is for the show and the units that it needs. -/
lemma mem_reserveChanges {c : Change} (h : c ∈ (reserveChanges r dates ledger).1) :
    (∃ id showId, c = .dropReservation id showId)
      ∨ ∃ q, c = .putReservation q ∧ q.showId = r.showId ∧ q.needed = r.needed
        ∧ (q.allocated = r.needed
          ∨ ∃ current ∈ ledger.reservations, q.allocated = min current.allocated r.needed) := by
  rw [reserveChanges] at h
  split at h
  · exact Or.inr ⟨_, List.mem_singleton.1 h, rfl, rfl, Or.inl rfl⟩
  · rename_i current hfound
    split at h
    · refine Or.inr ⟨_, List.mem_singleton.1 h, of_decide_eq_true (List.find?_some hfound :), rfl,
        ?_⟩
      rw [heldAfter]
      split
      · exact Or.inr ⟨current, List.mem_of_find?_eq_some hfound, rfl⟩
      · exact Or.inl rfl
    · rcases List.mem_cons.1 h with hdrop | hput
      · exact Or.inl ⟨_, _, hdrop⟩
      · exact Or.inr ⟨_, List.mem_singleton.1 hput, rfl, rfl, Or.inl rfl⟩

/-- The numbers that are written can be stored, since there are so many units. -/
lemma fits_reserveChanges (stored : s.fits = true) (read : s.ledger? e = .ok ledger)
    (sound : ledger.IsSound) (shown : fitsWord r.showId = true) (one : 1 ≤ r.needed)
    (enough : r.needed ≤ ledger.inStore + ledger.heldFor r.showId) :
    ∀ c ∈ (reserveChanges r dates ledger).1, c.Fits := by
  have htotal := (Store.fits_of_ledger? stored read).1
  have hneeded : fitsWord r.needed = true :=
    fitsWord_of_le (by omega) (enough.trans (sound.available_bounds r.showId).2) htotal
  intro c hc
  rcases mem_reserveChanges hc with ⟨id, showId, rfl⟩ | ⟨q, rfl, hshow, hsame, hunits⟩
  · trivial
  · refine ⟨hshow ▸ shown, hsame ▸ hneeded, ?_⟩
    rcases hunits with hall | ⟨current, hlisted, hless⟩
    · rwa [hall]
    · have hnonneg := (sound.reservations current hlisted).2.1
      rw [hless]
      exact fitsWord_of_le (by omega) (min_le_right _ _) hneeded

/-- What a show asks for can be carried out and written. -/
lemma exists_written_reserve {a : Worksheet.Author} (dates : ShowRow) (stored : s.fits = true)
    (read : s.ledger? a.equipment = .ok ledger)
    (wide : ∀ row ∈ s.reservationsFor r.showId a.equipment, fitsWord row.1 = true) :
    ∃ after w, Change.applyAll ledger (reserveChanges r dates ledger).1 = .ok after
      ∧ Worksheet.writeAll { store := s } a (reserveChanges r dates ledger).1 = .ok w := by
  rw [reserveChanges]
  cases hfound : ledger.reservationFor? r.showId with
  | none => exact ⟨_, _, rfl, Worksheet.writeAll_newReservation rfl⟩
  | some current =>
      have hlisted := List.mem_of_find?_eq_some hfound
      have hshow : current.showId = r.showId := of_decide_eq_true (List.find?_some hfound :)
      obtain ⟨id, hid⟩ := exists_id_of_mem read hlisted
      obtain ⟨hfind, row, hrow, hown, rfl⟩ := find_of_listed read hlisted hid
      have hread : s.reservation? id = .ok row := Store.reservation?_eq_ok.2
        ⟨wide (id, row) (Store.mem_reservationsFor.2
          ⟨Table.find?_eq_some_iff.1 hrow, hshow, hown⟩), hrow⟩
      by_cases hactive : (s.reservationOf (id, row)).isActive = true
      · simp only [hactive, if_true]
        exact ⟨_, _, rfl, Worksheet.writeAll_putReservation hid hread hown⟩
      · simp only [hactive, Bool.false_eq_true, if_false, hid, Option.getD_some]
        have happlied : ∃ after, Change.applyAll ledger
            [.dropReservation id (some row.showId), .putReservation (fresh r dates)]
              = .ok after := by
          rw [Change.applyAll, Change.apply, hfind]
          exact ⟨_, rfl⟩
        obtain ⟨after, happlied⟩ := happlied
        exact ⟨after, _, happlied, (Worksheet.writeAll_cons_of_writeAll
          (Worksheet.writeAll_dropReservation hread stored _)).trans
            (Worksheet.writeAll_newReservation rfl)⟩

/-! ### What is recorded -/

/-- What is recorded for a show that has asked for units: it has this row and no other. -/
structure ReserveRequest.RecordedIn (r : ReserveRequest) (now : Moment) (ledger : Snapshot)
    (t : Store) (id : Int) (row : ReservationRow) : Prop where
  only : t.reservationsFor r.showId r.equipment = [(id, row)]
  /-- A show that had no reservation, or one that had ended, has a new row. -/
  new : ledger.activeFor? r.showId = none → row =
    { equipment := r.equipment, showId := r.showId, needed := r.needed, allocated := r.needed
      status := ReservationStatus.requested.text, notes := r.notes, checkedOutAt := none
      createdBy := r.user, created := some now, updated := some now }
  /-- Any other show has the row that it had, and in the same status. -/
  kept : ∀ current, ledger.activeFor? r.showId = some current →
    current.id = some id ∧ row.status = current.status ∧ row.needed = r.needed
  units : ∀ current, ledger.activeFor? r.showId = some current →
    row.status ∈ [ReservationStatus.requested.text, ReservationStatus.allocated.text]
        ∧ row.allocated = r.needed
      ∨ row.status ∈ [ReservationStatus.checkedOut.text, ReservationStatus.inUse.text]
        ∧ row.allocated = min current.allocated r.needed

/-- Units that are out stay out as far as they are needed, and others follow the need. -/
lemma heldAfter_cases (sound : Snapshot.ReservationSound current)
    (active : current.isActive = true) (needed : Int) :
    current.status ∈ [ReservationStatus.requested.text, ReservationStatus.allocated.text]
        ∧ heldAfter current needed = needed
      ∨ current.status ∈ [ReservationStatus.checkedOut.text, ReservationStatus.inUse.text]
        ∧ heldAfter current needed = min current.allocated needed := by
  obtain ⟨status, hstatus⟩ := (ReservationStatus.isKnown_iff current.status).1 sound.2.2.2
  have hstays : current.status ≠ ReservationStatus.returned.text := of_decide_eq_true active
  have hout : current.isOut = ReservationStatus.isOut status.text := by
    rw [Reservation.isOut, hstatus]
  rw [heldAfter, hout, ← hstatus]
  cases status with
  | requested | allocated => exact Or.inl ⟨by decide, rfl⟩
  | checkedOut | inUse => exact Or.inr ⟨by decide, rfl⟩
  | returned => exact absurd hstatus.symm hstays

section Commit

variable {t : Store} {p : Proposal} {now : Moment} {before after committed : Snapshot}
  {w : Worksheet}

/-- What a commit of what a show asks for has recorded. -/
lemma exists_recordedIn_of_commits (commits : s.Commits p now before after w t committed)
    (sound : before.IsSound) (changes : p.changes = (reserveChanges r dates before).1)
    (proper : Change.Proper before p.changes) (own : p.equipment = r.equipment)
    (user : p.user = r.user) : ∃ id row, r.RecordedIn now before t id row := by
  have hafter := commits.isSound_of_proper proper
  have htouches : Change.Touches before (.reservation r.showId) p.changes := by
    rw [changes]
    exact touches_reserveChanges commits.read r dates
  have hwrites := commits.writes htouches
  have hreread := commits.reread
  rw [own] at hreread
  cases hactive : before.activeFor? r.showId with
  | none =>
      obtain ⟨front, hfresh⟩ := exists_fresh_of_inactive dates hactive
      obtain ⟨id, hrow⟩ := hwrites.exists_put_new (q := fresh r dates) (by
        rw [changes, hfresh]
        exact List.mem_append_right _ (List.mem_singleton_self _)) rfl
      rw [← commits.tables_eq.2, Proposal.author, own, user] at hrow
      refine ⟨id, _, Store.reservationsFor_eq_singleton hreread hafter hrow rfl, fun _ => rfl,
        fun current hcurrent => ?_, fun current hcurrent => ?_⟩
      · rw [hactive] at hcurrent
        cases hcurrent
      · rw [hactive] at hcurrent
        cases hcurrent
  | some current =>
      obtain ⟨hfound, hstays⟩ := Snapshot.activeFor?_eq_some_iff.1 hactive
      have hlisted := List.mem_of_find?_eq_some hfound
      obtain ⟨known, hknown⟩ := exists_id_of_mem commits.read hlisted
      have hchanges := changes.trans (reserveChanges_of_active hactive)
      obtain ⟨id, row, hrow, hown, hbucket, hsame⟩ := hwrites.exists_put (by
        rw [hchanges]
        exact List.mem_singleton_self _)
      obtain rfl : id = known := hsame known hknown
      have hshow : r.showId = row.showId := Bucket.reservation.inj hbucket
      rw [← commits.tables_eq.2] at hrow
      have honly := Store.reservationsFor_eq_singleton hreread hafter hrow (hown.trans own)
      refine ⟨id, _, hshow ▸ honly, fun hnone => ?_, fun other hother => ?_, fun other hother => ?_⟩
      · rw [hactive] at hnone
        cases hnone
      · obtain rfl : current = other := Option.some.inj (hactive.symm.trans hother)
        exact ⟨hknown, rfl, rfl⟩
      · obtain rfl : current = other := Option.some.inj (hactive.symm.trans hother)
        exact heldAfter_cases (sound.reservations current hlisted) hstays r.needed

end Commit

end Reservations

/-! ### Shows that ask at the desk -/

namespace Desk

open Reservations

variable {desk : Desk} {call : Call} {ledger : Snapshot} {r : ReserveRequest} {dates : ShowRow}

lemma answers_of_reserve {s : Store} (m : Mutation Answer) (h : reserve r s = .ok m) :
    m.Answers := by
  obtain ⟨-, row, -, rfl⟩ := reserve_eq_ok h
  exact Mutation.answers_of_orderly rfl (orderly_prepareReserve r row)

/-- A show that nothing hinders and that asks for units gets them exactly if it asks for at least
one, for no more than are in the store or held by it already, and if the user who asks and the next
version of the ledger can be stored. Then it has one row: a new one with all these units, if it had
no reservation or one that had ended, and otherwise the one that it had, with the new need. A show
that asks for more is told how many it could have. Whenever a show does not get the units, nothing
changes. -/
theorem reserve_succeeds_iff (read : desk.store.ledger? r.equipment = .ok ledger)
    (lawful : ledger.violations = []) (shown : desk.store.show? r.showId = .ok dates)
    (wide : ∀ row ∈ desk.store.reservationsFor r.showId r.equipment, fitsWord row.1 = true)
    (stored : desk.store.fits = true) (unhindered : desk.Unhindered call r.equipment) :
    let bound := ledger.inStore + ledger.heldFor r.showId
    let o := desk.mutate call (reserve r)
    ((∃ answer, o.result = .ok answer)
        ↔ 1 ≤ r.needed ∧ r.needed ≤ bound ∧ fitsWord? r.user = true
          ∧ fitsWord (ledger.version + 1) = true)
      ∧ ((∃ answer, o.result = .ok answer) →
        ∃ id row, r.RecordedIn call.now ledger o.desk.store id row)
      ∧ (bound < r.needed → o.result = .error (.tooManyRequested r.needed bound))
      ∧ ∀ failure, o.result = .error failure → o = { result := .error failure, desk } := by
  have hsound := (Snapshot.violations_eq_nil_iff_isSound ledger).1 lawful
  have hbound := (hsound.available_bounds r.showId).1
  intro bound o
  have hfailed : ∀ failure, o.result = .error failure → o = { result := .error failure, desk } :=
    fun failure => mutate_of_error unhindered.alone answers_of_reserve
  by_cases hone : 1 ≤ r.needed
  · have hprepare := prepareReserve_iff r dates hsound
    have hm : reserve r desk.store = .ok
        { equipment := r.equipment, user := r.user
          preparation := .fromLedger (prepareReserve r dates) } := by
      rw [reserve, if_neg (by omega), shown]
      rfl
    obtain ⟨hiff, hmade, hdeclined⟩ := mutate_prepared unhindered hm rfl
      (orderly_prepareReserve r dates) (proper_reserve hm) stored read fun work hwork => by
        have hlawful := lawful_reserve hm _ _ _ read hwork hsound
        obtain ⟨henough, rfl⟩ := (hprepare _).1 hwork
        obtain ⟨after, w, happlied, hwritten⟩ := exists_written_reserve
          (a := ⟨r.equipment, r.user, call.now⟩) dates stored read wide
        exact ⟨after, w, happlied, hlawful after happlied, hwritten,
          fits_reserveChanges stored read hsound (Store.fitsWord_of_show? shown) hone henough⟩
    simp only [hprepare, exists_and_left, exists_eq, and_true] at hiff
    refine ⟨hiff.trans (and_iff_right hone).symm, fun hok => ?_, fun hmore => ?_, hfailed⟩
    · obtain ⟨work, after, w, t, committed, hwork, hcommits, hdesk⟩ := hmade hok
      obtain ⟨-, rfl⟩ := (hprepare _).1 hwork
      have hproper := (proper_reserve hm).of_readies read (Mutation.readies_of_prepare rfl hwork)
      rw [hdesk]
      exact exists_recordedIn_of_commits hcommits hsound rfl hproper rfl rfl
    · rw [show o = _ from hdeclined _ ((prepareReserve_eq r dates hsound).trans (if_pos hmore))]
  · -- without a unit nothing is prepared
    have hrefused : ¬ ∃ answer, o.result = .ok answer := by
      rintro ⟨answer, hanswer⟩
      obtain ⟨m, -, -, -, -, -, -, hm, -⟩ :=
        commits_of_mutate_ok unhindered.alone answers_of_reserve hanswer
      exact hone (reserve_eq_ok hm).1
    exact ⟨iff_of_false hrefused fun h => hone h.1, fun hok => absurd hok hrefused,
      fun hmore => by omega, hfailed⟩

/-- Three lamps are in the store and one is held for the fair. The fair gets four when it asks for
them, in the row that it has; when it asks for five, it is told that it could have four. -/
theorem reserve_succeeds_iff_fair :
    let desk : Desk := { store := .lampsBeforeGala 7 }
    let asks (needed : Int) : ReserveRequest := { showId := 2, equipment := 1, needed }
    (∃ answer, (desk.mutate { now := default } (reserve (asks 4))).result = .ok answer)
      ∧ (∃ row, (desk.mutate { now := default } (reserve (asks 4))).desk.store.reservationsFor 2 1
          = [(1, row)] ∧ row.status = "allocated" ∧ row.needed = 4)
      ∧ (desk.mutate { now := default } (reserve (asks 5))).result
        = .error (.tooManyRequested 5 4) := by
  intro desk asks
  have hread : desk.store.ledger? 1 = .ok (desk.store.snapshot 1
      { name := some "Lamp", total := 5, version := 7 }) :=
    Store.ledger?_eq_ok.2 ⟨_, by decide, rfl, rfl⟩
  have hlawful : (desk.store.snapshot 1
      { name := some "Lamp", total := 5, version := 7 }).violations = [] := by decide +kernel
  have hwide : ∀ row ∈ desk.store.reservationsFor 2 1, fitsWord row.1 = true := by decide +kernel
  have hasked (needed : Int) := @reserve_succeeds_iff desk { now := default } _ (asks needed)
    { name := "Fair" } hread hlawful rfl hwide (by decide +kernel) ⟨rfl, rfl, rfl⟩
  obtain ⟨hiff, hrecorded, -, -⟩ := hasked 4
  obtain ⟨-, -, hmore, -⟩ := hasked 5
  have hgranted := hiff.2 (by decide +kernel)
  obtain ⟨id, row, honly, -, hkept, -⟩ := hrecorded hgranted
  obtain ⟨hid, hstatus, hneeded⟩ := hkept
    { id := some 1, showId := 2, needed := 1, allocated := 1, status := "allocated" } rfl
  obtain rfl := Option.some.inj hid
  exact ⟨hgranted, ⟨row, honly, hstatus, hneeded⟩, hmore (by decide +kernel)⟩

/-- At the largest version that can be stored, four lamps are available to the fair as well, but it
does not get them. -/
theorem not_reserve_succeeds_fair :
    (∃ ledger, (Store.lampsBeforeGala 0x7FFFFFFFFFFFFFFF).ledger? 1 = .ok ledger
        ∧ ledger.violations = [] ∧ ledger.inStore + ledger.heldFor 2 = 4)
      ∧ (({ store := .lampsBeforeGala 0x7FFFFFFFFFFFFFFF } : Desk).mutate { now := default }
        (reserve { showId := 2, equipment := 1, needed := 4 })).result = .error .numberTooWide :=
  ⟨⟨_, Store.ledger?_eq_ok.2 ⟨_, by decide, rfl, rfl⟩, by decide +kernel, by decide +kernel⟩, rfl⟩

end Desk

end StageStock
