import Mathlib.Tactic.Lemma
import StageStock.Proofs.Restating
import StageStock.Proofs.ShowDays

/-!
When a change of a reservation succeeds.

A change may give the units that the show needs, the units that are allocated and a status, and each
of them stays as it is where it is not given; units that are no longer needed are given up. On a
sound ledger that nobody else works on, the change succeeds exactly if these three keep a few rules
and the numbers that are written can be stored. Days of shows are not among the rules, since a
conflict of days never comes alone.

* `ChangeRequest.Allowed`: the rules for need, units and status;
* `ChangeRequest.allowed_iff`: nothing speaks against the transition exactly if they are kept;
* `ChangeRequest.Storable`: the numbers that are written can be stored;
* `ChangeRequest.RecordedIn`: the row of the reservation says just what was asked for;
* `Desk.change_succeeds_iff`: exactly when a change succeeds, and what it leaves.
-/

namespace StageStock

namespace Snapshot

/-- The rules of a transition in which no days are looked at. -/
lemma conflictsBesideDays_eq_nil_iff {s : Snapshot} {r : Reservation} {status : String}
    {quantity : Int} : s.conflictsBesideDays r status quantity = []
      ↔ ReservationStatus.isKnown status = true
        ∧ (r.isActive = false → status = ReservationStatus.returned.text)
        ∧ 0 ≤ quantity ∧ quantity ≤ r.needed
        ∧ (status ≠ ReservationStatus.returned.text → quantity ≤ s.inStoreWith r.held)
        ∧ (ReservationStatus.isOut status = true → 0 < quantity) := by
  simp [conflictsBesideDays, conflictIf_eq_nil]

end Snapshot

namespace Reservations

/-! ### What a change asks for -/

namespace ChangeRequest

variable {r : ChangeRequest} {ledger : Snapshot} {current : Reservation}

/-- The status after a change. -/
def statusOf (r : ChangeRequest) (current : Reservation) : String :=
  match r.status with
  | none => current.status
  | some text => if text = "" then current.status else text

/-- The units that are allocated after a change: those given, or those allocated before as far as
they are still needed. -/
def quantityOf (r : ChangeRequest) (current : Reservation) : Int :=
  r.allocated.getD (min current.allocated (r.neededOf current))

lemma status_transition : (r.transition ledger current).status = r.statusOf current := rfl

lemma quantity_transition : (r.transition ledger current).quantity = r.quantityOf current := by
  show (r.allocatedOf current).getD current.allocated = _
  rw [allocatedOf, quantityOf]
  cases r.allocated with
  | some given => rfl
  | none =>
      by_cases hlowered : r.neededOf current < current.allocated
      · rw [if_pos ⟨rfl, hlowered⟩]
        exact (min_eq_right hlowered.le).symm
      · rw [if_neg fun h => hlowered h.2]
        exact (min_eq_left (not_lt.1 hlowered)).symm

/-- The rules for what a change asks for. -/
structure Allowed (r : ChangeRequest) (ledger : Snapshot) (current : Reservation) : Prop where
  needed : 1 ≤ r.neededOf current
  known : ReservationStatus.isKnown (r.statusOf current) = true
  /-- A reservation that was returned stays so. -/
  final : current.status = ReservationStatus.returned.text →
    r.statusOf current = ReservationStatus.returned.text
  nonneg : 0 ≤ r.quantityOf current
  within : r.quantityOf current ≤ r.neededOf current
  /-- The units are in the store, or held already. -/
  available : r.statusOf current ≠ ReservationStatus.returned.text →
    r.quantityOf current ≤ ledger.inStore + current.held
  /-- No units cannot be out. -/
  out : ReservationStatus.isOut (r.statusOf current) = true → 1 ≤ r.quantityOf current

/-- On a sound ledger, the rules are all that can speak against a transition. -/
lemma allowed_iff (sound : ledger.IsSound) (listed : current ∈ ledger.reservations) :
    r.Allowed ledger current
      ↔ 1 ≤ r.neededOf current ∧ (r.transition ledger current).conflicts = [] := by
  have hvalid : (r.transition ledger current).conflicts = []
      ↔ ledger.conflictsBesideDays { current with needed := r.neededOf current }
        (r.statusOf current) (r.quantityOf current) = [] := by
    rw [← @quantity_transition r ledger current, ← List.isEmpty_iff]
    exact sound.isValid_transition_iff listed rfl rfl rfl
  have hheld : ledger.inStoreWith current.held = ledger.inStore + current.held :=
    ledger.inStoreWith_held (sound.reservations current listed)
  have hactive : current.isActive = false
      ↔ current.status = ReservationStatus.returned.text := by
    simp [Reservation.isActive]
  rw [hvalid, Snapshot.conflictsBesideDays_eq_nil_iff]
  show _ ↔ _ ∧ _ ∧ (current.isActive = false → _) ∧ _ ∧ r.quantityOf current ≤ r.neededOf current
    ∧ (_ → _ ≤ ledger.inStoreWith current.held) ∧ _
  rw [hheld, hactive]
  constructor
  · intro h
    exact ⟨h.needed, h.known, h.final, h.nonneg, h.within, h.available, h.out⟩
  · rintro ⟨hneeded, hknown, hfinal, hnonneg, hwithin, havailable, hout⟩
    exact ⟨hneeded, hknown, hfinal, hnonneg, hwithin, havailable, hout⟩

/-- The numbers that a change writes can be stored: the need of a reservation that stays, the user
who asks, and the next version of the ledger. -/
structure Storable (r : ChangeRequest) (ledger : Snapshot) (current : Reservation) : Prop where
  needed : r.statusOf current ≠ ReservationStatus.returned.text →
    fitsWord (r.neededOf current) = true
  user : fitsWord? r.user = true
  version : fitsWord (ledger.version + 1) = true

/-- A returned reservation is gone, and any other one has the need, the units and the status that
were asked for, in the row that it had. -/
def RecordedIn (r : ChangeRequest) (e : Int) (current : Reservation) (s : Store) : Prop :=
  if r.statusOf current = ReservationStatus.returned.text then s.reservations.find? r.id = none
  else ∃ row, s.reservations.find? r.id = some row ∧ row.equipment = e
    ∧ row.showId = current.showId ∧ row.needed = r.neededOf current
    ∧ row.allocated = r.quantityOf current ∧ row.status = r.statusOf current

end ChangeRequest

/-! ### What a change leaves -/

section Commit

variable {r : ChangeRequest} {current : Reservation} {s t : Store} {p : Proposal} {now : Moment}
  {before after committed : Snapshot} {w : Worksheet}

/-- The commit of a change records what was asked for. -/
lemma recordedIn_of_commits (commits : s.Commits p now before after w t committed)
    (found : before.findReservation? r.id = some current)
    (changes : p.changes
      = (changeWork r current (r.neededOf current) (r.transition before current)).changes) :
    r.RecordedIn p.equipment current t := by
  have hid : current.id = some r.id := of_decide_eq_true (List.find?_some found :)
  have htouches : Change.Touches before (.reservation current.showId) p.changes := by
    rw [changes]
    exact touches_changeWork _ _ found
  rw [changeWork, ChangeRequest.status_transition] at changes
  rw [ChangeRequest.RecordedIn]
  by_cases hreturned : r.statusOf current = ReservationStatus.returned.text
  · rw [if_pos hreturned]
    rw [if_pos hreturned, hid] at changes
    exact commits.find?_of_drop htouches changes
  · rw [if_neg hreturned]
    rw [if_neg hreturned] at changes
    obtain ⟨id, row, hrow, hown, hbucket, hsame, hholds, -⟩ :=
      commits.exists_recorded htouches [] changes
    obtain rfl : r.id = id := (hsame r.id hid).symm
    obtain ⟨hneeded, hallocated⟩ := hholds.eq
    rw [ChangeRequest.quantity_transition] at hallocated
    have hstatus : r.statusOf current = row.status :=
      congrArg ReservationRow.status (hholds ⟨p.equipment, none, now⟩)
    exact ⟨row, hrow, hown, (Bucket.reservation.inj hbucket).symm, hneeded.symm, hallocated.symm,
      hstatus.symm⟩

/-- What was committed can be stored. -/
lemma storable_of_commits (commits : s.Commits p now before after w t committed)
    (user : p.user = r.user) (recorded : r.RecordedIn p.equipment current t) :
    r.Storable before current where
  needed stays := by
    rw [ChangeRequest.RecordedIn, if_neg stays] at recorded
    obtain ⟨row, hrow, -, -, hneeded, -⟩ := recorded
    have hfits := (Store.fits_iff.1 commits.fits).2.2.1 _ (Table.find?_eq_some_iff.1 hrow)
    simp only [ReservationRow.fits, Bool.and_eq_true] at hfits
    rw [← hneeded]
    exact hfits.1.1.2
  user := user ▸ commits.fitsWord_user
  version := commits.fitsWord_version

end Commit

end Reservations

/-! ### Changes at the desk -/

namespace Desk

open Reservations

variable {desk : Desk} {call : Call} {e : Int} {ledger : Snapshot} {current : Reservation}
  {r : ChangeRequest}

/-- A change that succeeds has asked for what the rules allow, and has recorded it. -/
lemma recordedIn_of_mutateWith_ok {retries : Int} {m : Mutation Answer} {answer : Answer}
    (request : change r desk.store = .ok m) (alone : call.rivals = [])
    (read : desk.store.ledger? m.equipment = .ok ledger) (sound : ledger.IsSound)
    (found : ledger.findReservation? r.id = some current)
    (succeeded : (desk.mutateWith call retries m).result = .ok answer) :
    r.Allowed ledger current ∧ r.Storable ledger current
      ∧ r.RecordedIn m.equipment current (desk.mutateWith call retries m).desk.store := by
  obtain ⟨row, -, rfl⟩ := change_eq_ok request
  obtain ⟨k, work, before, after, w, t, committed, -, hready, hcommits, houtcome⟩ :=
    mutateWith_ok (Mutation.answers_of_orderly rfl (orderly_prepareChange _ r)) succeeded
  rw [alone, List.take_nil] at hcommits
  obtain rfl : before = ledger := Except.ok.inj (hcommits.read.symm.trans read)
  obtain ⟨plain, hplain, rfl⟩ := hready
  obtain ⟨-, other, hother, hneeded, hvalid, rfl⟩ := prepareChange_iff.1 hplain
  obtain rfl : other = current := Option.some.inj (hother.symm.trans found)
  have hallowed : r.Allowed before other :=
    (ChangeRequest.allowed_iff sound (List.mem_of_find?_eq_some found)).2 ⟨hneeded, hvalid⟩
  have hrecorded : r.RecordedIn row.equipment other t := recordedIn_of_commits hcommits found rfl
  rw [houtcome]
  exact ⟨hallowed, storable_of_commits hcommits rfl hrecorded, hrecorded⟩

/-- A change of a reservation that nothing hinders succeeds exactly if it asks for what the rules
allow, and the numbers that it writes can be stored. Then the row of the reservation is gone if it
was returned, and says just what was asked for if it was not. A change that fails changes nothing,
and nobody is told of it. -/
theorem change_succeeds_iff (read : desk.store.ledger? e = .ok ledger)
    (lawful : ledger.violations = []) (listed : current ∈ ledger.reservations)
    (own : current.id = some r.id) (wide : fitsWord r.id = true) (stored : desk.store.fits = true)
    (unhindered : desk.Unhindered call e)
    (unstale : ∀ version, r.expected = some version → version = ledger.version) :
    let o := desk.mutate call (change r)
    ((∃ answer, o.result = .ok answer)
        ↔ r.Allowed ledger current ∧ r.Storable ledger current)
      ∧ ((∃ answer, o.result = .ok answer) → r.RecordedIn e current o.desk.store)
      ∧ ∀ failure, o.result = .error failure → o = { result := .error failure, desk } := by
  have hsound := (Snapshot.violations_eq_nil_iff_isSound ledger).1 lawful
  obtain ⟨hfound, row, hrow, rfl, -⟩ := find_of_listed read listed own
  have hrequest := change_eq (r := r) (Store.reservation?_eq_ok.2 ⟨wide, hrow⟩)
  intro o
  have ho : o = _ := mutate_of_request hrequest
  have hmade : (∃ answer, o.result = .ok answer) → r.Allowed ledger current
      ∧ r.Storable ledger current ∧ r.RecordedIn row.equipment current o.desk.store := by
    rintro ⟨answer, hanswer⟩
    rw [ho] at hanswer ⊢
    exact recordedIn_of_mutateWith_ok hrequest unhindered.alone read hsound hfound hanswer
  refine ⟨⟨fun h => ⟨(hmade h).1, (hmade h).2.1⟩, ?_⟩, fun h => (hmade h).2.2, ?_⟩
  · rintro ⟨hallowed, hstorable⟩
    obtain ⟨hneeded, hvalid⟩ := (ChangeRequest.allowed_iff hsound listed).1 hallowed
    have hexpected : checkExpected r.expected ledger.version = .ok () := by
      cases hversion : r.expected with
      | none => rfl
      | some version => exact if_pos (unstale version hversion)
    have hready : prepareChange r ledger = .ok _ :=
      prepareChange_iff.2 ⟨hexpected, current, hfound, hneeded, hvalid, rfl⟩
    have hquantity : (r.transition ledger current).quantity = r.quantityOf current :=
      ChangeRequest.quantity_transition
    obtain ⟨answer, hanswer, -⟩ := (mutateWith_of_ready desk.lockRetries hrequest unhindered read
      hsound listed own stored hstorable.user hready hstorable.needed
      (hquantity ▸ hallowed.nonneg) (hquantity ▸ hallowed.within)).1 hstorable.version
    exact ⟨answer, by rw [ho, hanswer]⟩
  · intro failure hfailed
    rw [ho] at hfailed ⊢
    obtain ⟨k, houtcome⟩ := mutateWith_error
      (Mutation.answers_of_orderly rfl (orderly_prepareChange _ r)) hfailed
    rw [houtcome, unhindered.alone, List.take_nil]
    rfl

/-- The gala needs only two of its lamps, and checks them out. -/
def galaChecksOut : ChangeRequest :=
  { id := 1, needed := some 2, status := some "checked-out" }

/-- The two lamps are out, and the third one is given up. -/
theorem change_succeeds_iff_gala :
    ∃ answer row,
      let o := ({ store := .galaAndFair 7 } : Desk).mutate { now := default } (change galaChecksOut)
      o.result = .ok answer ∧ o.desk.store.reservations.find? 1 = some row
        ∧ row.needed = 2 ∧ row.allocated = 2 ∧ row.status = "checked-out" := by
  obtain ⟨hiff, hrecorded, -⟩ := @change_succeeds_iff { store := .galaAndFair 7 }
    { now := default } 1 _ { id := some 1, showId := 1, needed := 3, allocated := 3 } galaChecksOut
    (Store.ledger?_eq_ok.2 ⟨_, by decide, rfl, rfl⟩) (by decide +kernel) (by decide +kernel) rfl
    (by decide) (by decide +kernel) ⟨rfl, rfl, rfl⟩ (fun _ hversion => nomatch hversion)
  obtain ⟨answer, hanswer⟩ := hiff.2 ⟨by constructor <;> decide +kernel,
    by constructor <;> decide +kernel⟩
  have hleft := hrecorded ⟨answer, hanswer⟩
  obtain ⟨row, hrow, -, -, hneeded, hallocated, hstatus⟩ := (if_neg (by decide)).mp hleft
  exact ⟨answer, row, hanswer, hrow, hneeded, hallocated, hstatus⟩

/-- At the largest version that can be stored, the same change is allowed, and its own numbers can
be stored, but it fails. -/
theorem not_change_succeeds_gala :
    (∃ ledger current, (Store.galaAndFair 0x7FFFFFFFFFFFFFFF).ledger? 1 = .ok ledger
        ∧ ledger.violations = [] ∧ current ∈ ledger.reservations ∧ current.id = some 1
        ∧ galaChecksOut.Allowed ledger current
        ∧ fitsWord (galaChecksOut.neededOf current) = true)
      ∧ (({ store := .galaAndFair 0x7FFFFFFFFFFFFFFF } : Desk).mutate { now := default }
        (change galaChecksOut)).result = .error .numberTooWide := by
  refine ⟨⟨_, { id := some 1, showId := 1, needed := 3, allocated := 3 },
    Store.ledger?_eq_ok.2 ⟨_, by decide, rfl, rfl⟩, by decide +kernel, by decide +kernel, rfl, ?_,
    by decide⟩, ?_⟩
  · constructor <;> decide +kernel
  · rfl

end Desk

end StageStock
