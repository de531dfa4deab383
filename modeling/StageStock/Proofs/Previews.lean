import Mathlib.Tactic.Lemma
import StageStock.Proofs.Committing

/-!
A preview foretells the change.

A preview of a change of a reservation and the change itself run the same check on the same ledger,
if nothing is committed between them and the change expects the version that the preview found. The
change does more: it checks the units that the show needs, drops the reservation or writes its row,
and passes the rules of the ledger once more. None of that can decline what the preview allowed, and
only the version may be too large to be raised.

* `Transition.LeftIn`, `Transition.ToldBy`: what the check promises of the stored reservation and of
  the notice to the caller;
* `Reservations.prepareChange_request`: on a sound ledger the change is prepared just as the preview
  says;
* `Desk.change_of_preview`: what becomes of the change.
-/

namespace StageStock

/-! ### What a transition promises -/

namespace Transition

/-- The reservation as the transition leaves it: a returned one is gone, any other has the status
and the units that were checked. -/
def LeftIn (t : Transition) (id : Int) (s : Store) : Prop :=
  if t.status = ReservationStatus.returned.text then s.reservations.find? id = none
  else ∃ row, s.reservations.find? id = some row ∧ row.status = t.status
    ∧ row.allocated = t.quantity

/-- The notice of a transition that is declined. Units that are out at other shows on the same days
make it a conflict. -/
structure ToldBy (t : Transition) (notice : Notice) : Prop where
  kind : notice.kind = if t.conflicts.any Conflict.isSameDays then .conflict else .validation
  conflicts : notice.conflicts = t.conflicts.map Conflict.toJson
  warnings : notice.warnings = t.warnings.map Warning.toJson

variable {t : Transition}

lemma isValid_iff : t.isValid = true ↔ t.check = .ok () := by
  rw [isValid, List.isEmpty_iff, check_eq_ok]

/-- A transition with conflicts is declined, and the caller is told of them. -/
lemma exists_toldBy (invalid : t.isValid = false) :
    ∃ failure notice, t.check = .error failure ∧ failure.notice? = some notice
      ∧ t.ToldBy notice := by
  obtain ⟨status, quantity, missing, conflicts, warnings, version⟩ := t
  cases conflicts with
  | nil => cases invalid
  | cons first others => exact ⟨_, _, rfl, rfl, rfl, rfl, rfl⟩

end Transition

/-! ### Writing one reservation -/

namespace Worksheet

variable {s : Store} {a : Author} {id : Int} {row : ReservationRow}

lemma writeAll_putReservation {r : Reservation} (old : r.id = some id)
    (read : s.reservation? id = .ok row) (own : row.equipment = a.equipment) :
    Worksheet.writeAll { store := s } a [.putReservation r]
      = .ok { store := { s with
          reservations := s.reservations.modify id (reservationRow a r) } } := by
  simp only [writeAll, write, putReservation, old, read, own, if_true]

lemma writeAll_dropReservation (read : s.reservation? id = .ok row) (stored : s.fits = true)
    (showId : Option Int) :
    Worksheet.writeAll { store := s } a [.dropReservation id showId]
      = .ok { store := { s with reservations := s.reservations.erase id } } := by
  have hflush : ({ store := s } : Worksheet).flush = .ok s :=
    (Enterable.flush_eq (Or.inl rfl)).trans (if_pos stored)
  simp only [writeAll, write, dropReservation, read, hflush]

end Worksheet

/-! ### The preparation of the change -/

namespace Reservations

variable {s : Store} {ledger : Snapshot} {current : Reservation} {e id : Int}
  {status : Option String} {quantity : Option Int}

/-- A reservation of a ledger is found under its id, and so is its row. -/
lemma find_of_listed (read : s.ledger? e = .ok ledger) (listed : current ∈ ledger.reservations)
    (own : current.id = some id) :
    ledger.findReservation? id = some current
      ∧ ∃ row, s.reservations.find? id = some row ∧ row.equipment = e
        ∧ current = s.reservationOf (id, row) := by
  obtain ⟨equipment, -, -, rfl⟩ := Store.ledger?_eq_ok.1 read
  obtain ⟨row, hrow, howned, rfl⟩ := Store.find?_of_mem_reservations listed own
  refine ⟨?_, row, hrow, howned, rfl⟩
  cases hfound : (s.snapshot e equipment).findReservation? id with
  | none =>
      exact absurd (decide_eq_true own) (List.find?_eq_none.1 hfound _ listed)
  | some other =>
      -- both are read from the one row with the id
      have hother : other.id = some id := of_decide_eq_true (List.find?_some hfound :)
      obtain ⟨row', hrow', -, rfl⟩ :=
        Store.find?_of_mem_reservations (List.mem_of_find?_eq_some hfound) hother
      rw [hrow] at hrow'
      rw [Option.some.inj hrow']

/-- A reservation of a ledger can be previewed. -/
lemma preview_eq (read : s.ledger? e = .ok ledger) (listed : current ∈ ledger.reservations)
    (own : current.id = some id) (wide : fitsWord id = true) :
    preview s id status quantity
      = .ok { transition := ledger.transition current status quantity, id
              equipment := ledger.equipment } := by
  obtain ⟨hfound, row, hrow, rfl, -⟩ := find_of_listed read listed own
  simp only [preview, Store.reservation?_eq_ok.2 ⟨wide, hrow⟩, read, hfound]

/-- The change that was previewed, with the version that the preview found. -/
def Preview.request (p : Preview) (status : Option String) (quantity : Option Int) :
    ChangeRequest :=
  { id := p.id, status, allocated := quantity, expected := some p.transition.version }

/-- On a sound ledger the change is checked just as the preview was, and nothing else declines it:
the need is at least one, and the units held do not exceed it. -/
lemma prepareChange_request (sound : ledger.IsSound)
    (found : ledger.findReservation? id = some current) {p : Preview} (same : p.id = id)
    (checked : p.transition = ledger.transition current status quantity) :
    prepareChange (p.request status quantity) ledger
      = p.transition.check.map fun _ =>
          changeWork (p.request status quantity) current current.needed p.transition := by
  obtain ⟨hneeded, -, hheld, -⟩ := sound.reservations current (List.mem_of_find?_eq_some found)
  have hunlowered : ¬ (quantity = none ∧ current.needed < current.allocated) :=
    fun h => absurd h.2 (by omega)
  have henough : ¬ current.needed < 1 := by omega
  have hversion : p.transition.version = ledger.version := by rw [checked]; rfl
  simp only [prepareChange, Preview.request, checkExpected, hversion, if_true, same, found,
    Option.getD_none, if_neg henough, if_neg hunlowered]
  rw [checked]
  cases (ledger.transition current status quantity).check <;> rfl

lemma change_eq {r : ChangeRequest} {row : ReservationRow} (found : s.reservation? r.id = .ok row) :
    change r s = .ok { equipment := row.equipment, user := r.user
                       preparation := .fromLedger (prepareChange r) } := by
  rw [change, found]

/-- The changes of a valid transition can be carried out and written, and leave the reservation as
the transition says. -/
lemma exists_written {t : Transition} {r : ChangeRequest} {a : Worksheet.Author}
    {needed : Int} (stored : s.fits = true) (read : s.ledger? a.equipment = .ok ledger)
    (listed : current ∈ ledger.reservations) (own : current.id = some r.id)
    (wide : fitsWord r.id = true) :
    ∃ after w, Change.applyAll ledger (changeWork r current needed t).changes = .ok after
      ∧ Worksheet.writeAll { store := s } a (changeWork r current needed t).changes = .ok w
      ∧ t.LeftIn r.id w.flushed := by
  obtain ⟨hfound, row, hrow, hown, -⟩ := find_of_listed read listed own
  have hread := Store.reservation?_eq_ok.2 ⟨wide, hrow⟩
  rw [changeWork]
  unfold Transition.LeftIn
  by_cases hreturned : t.status = ReservationStatus.returned.text
  · simp only [if_pos hreturned, own, Option.getD_some]
    refine ⟨{ ledger with
        reservations := ledger.reservations.filter fun other => other.id ≠ some r.id },
      _, ?_, Worksheet.writeAll_dropReservation hread stored _, ?_⟩
    · simp only [Change.applyAll, Change.apply, hfound]
    · exact (Table.find?_erase s.reservations r.id r.id).trans (if_pos rfl)
  · simp only [if_neg hreturned]
    have hmodified (f : ReservationRow → ReservationRow) :
        (s.reservations.modify r.id f).find? r.id = some (f row) := by
      rw [Table.find?_modify, if_pos rfl, hrow, Option.map_some]
    exact ⟨_, _, rfl, Worksheet.writeAll_putReservation own hread hown, _, hmodified _, rfl, rfl⟩

/-- The need of a reservation is stored already. -/
lemma fitsWord_needed (stored : s.fits = true) (read : s.ledger? e = .ok ledger)
    (listed : current ∈ ledger.reservations) (own : current.id = some id) :
    fitsWord current.needed = true := by
  obtain ⟨-, row, hrow, -, rfl⟩ := find_of_listed read listed own
  have hfits := (Store.fits_iff.1 stored).2.2.1 _ (Table.find?_eq_some_iff.1 hrow)
  simp only [ReservationRow.fits, Bool.and_eq_true] at hfits
  exact hfits.1.1.2

/-- The numbers of the changes can be stored, if the need of a reservation that stays can. -/
lemma fits_changeWork {t : Transition} {r : ChangeRequest} {needed : Int} (stored : s.fits = true)
    (read : s.ledger? e = .ok ledger) (listed : current ∈ ledger.reservations)
    (own : current.id = some r.id)
    (fits : t.status ≠ ReservationStatus.returned.text → fitsWord needed = true)
    (nonneg : 0 ≤ t.quantity) (le : t.quantity ≤ needed) :
    ∀ c ∈ (changeWork r current needed t).changes, c.Fits := by
  obtain ⟨-, row, hrow, -, rfl⟩ := find_of_listed read listed own
  have hfits := (Store.fits_iff.1 stored).2.2.1 _ (Table.find?_eq_some_iff.1 hrow)
  simp only [ReservationRow.fits, Bool.and_eq_true] at hfits
  obtain ⟨⟨⟨⟨-, hshow⟩, -⟩, -⟩, -⟩ := hfits
  intro c hc
  rw [changeWork] at hc
  split at hc
  · rw [List.mem_singleton.1 hc]
    trivial
  · rename_i hstays
    rw [List.mem_singleton.1 hc]
    exact ⟨hshow, fits hstays, fitsWord_of_le nonneg le (fits hstays)⟩

/-- The answer carries the warnings of the check. -/
lemma warnings_of_answer {t : Transition} {r : ChangeRequest} {needed : Int} {u : Store}
    {committed : Snapshot} {answer : Answer}
    (h : (changeWork r current needed t).answer u committed = .ok answer) :
    answer.warnings = some t.warnings := by
  have hanswer : changeAnswer r.id t.warnings u committed = .ok answer := by
    rw [changeWork] at h
    split at h <;> exact h
  rw [changeAnswer] at hanswer
  split at hanswer
  · cases hanswer
  · rw [← Except.ok.inj hanswer]

end Reservations

/-! ### The change -/

namespace Desk

open Reservations

variable {desk : Desk} {call : Call} {e id : Int} {ledger : Snapshot} {current : Reservation}
  {status : Option String} {quantity : Option Int}

/-- What becomes of a change that is ready. -/
lemma mutateWith_of_ready (retries : Int) {t : Transition} {m : Mutation Answer} {r : ChangeRequest}
    {needed : Int} (request : change r desk.store = .ok m)
    (unhindered : desk.Unhindered call m.equipment)
    (read : desk.store.ledger? m.equipment = .ok ledger) (sound : ledger.IsSound)
    (listed : current ∈ ledger.reservations) (own : current.id = some r.id)
    (stored : desk.store.fits = true) (user : fitsWord? m.user = true)
    (ready : prepareChange r ledger = .ok (changeWork r current needed t))
    (fits : t.status ≠ ReservationStatus.returned.text → fitsWord needed = true)
    (nonneg : 0 ≤ t.quantity) (le : t.quantity ≤ needed) :
    (fitsWord (ledger.version + 1) = true →
        ∃ answer, (desk.mutateWith call retries m).result = .ok answer
          ∧ answer.warnings = some t.warnings
          ∧ t.LeftIn r.id (desk.mutateWith call retries m).desk.store)
      ∧ (fitsWord (ledger.version + 1) = false →
        desk.mutateWith call retries m = { result := .error .numberTooWide, desk }) := by
  have hproper := proper_change request
  have hlawful := lawful_change request
  obtain ⟨row, hrow, rfl⟩ := change_eq_ok request
  obtain ⟨after, w, happlied, hwritten, hleft⟩ :=
    exists_written (t := t) (a := ⟨row.equipment, r.user, call.now⟩) stored read listed own
      (Store.reservation?_eq_ok.1 hrow).1
  have hcommitted := mutateWith_prepared retries unhindered rfl (orderly_prepareChange _ r) hproper
    hlawful stored read sound ready happlied hwritten
    (fits_changeWork stored read listed own fits nonneg le) user
  refine ⟨fun room => ?_, hcommitted.2⟩
  obtain ⟨t', committed, answer, hcommits, hanswer, hresult, hdesk⟩ := hcommitted.1 room
  refine ⟨answer, hresult, warnings_of_answer hanswer, ?_⟩
  rw [Transition.LeftIn, hdesk]
  show if _ then t'.reservations.find? r.id = none
    else ∃ row, t'.reservations.find? r.id = some row ∧ _
  rw [hcommits.tables_eq.2]
  exact hleft

/-- What becomes of a change that the check allows, if the need stays as it was. -/
lemma mutateWith_of_valid (retries : Int) {t : Transition} {m : Mutation Answer} {r : ChangeRequest}
    (request : change r desk.store = .ok m) (unhindered : desk.Unhindered call m.equipment)
    (read : desk.store.ledger? m.equipment = .ok ledger) (sound : ledger.IsSound)
    (listed : current ∈ ledger.reservations) (own : current.id = some r.id)
    (stored : desk.store.fits = true) (user : fitsWord? m.user = true)
    (ready : prepareChange r ledger = .ok (changeWork r current current.needed t))
    (nonneg : 0 ≤ t.quantity) (le : t.quantity ≤ current.needed) :
    (fitsWord (ledger.version + 1) = true →
        ∃ answer, (desk.mutateWith call retries m).result = .ok answer
          ∧ answer.warnings = some t.warnings
          ∧ t.LeftIn r.id (desk.mutateWith call retries m).desk.store)
      ∧ (fitsWord (ledger.version + 1) = false →
        desk.mutateWith call retries m = { result := .error .numberTooWide, desk }) :=
  mutateWith_of_ready retries request unhindered read sound listed own stored user ready
    (fun _ => fitsWord_needed stored read listed own) nonneg le

/-- A change of a reservation that nothing hinders, made as it was previewed, with the version that
the preview found. Where nothing spoke against it, it succeeds if the version can still be raised:
it answers the warnings of the preview, and leaves the reservation as the preview said. If the
version cannot be raised, it fails and changes nothing. Where something spoke against it, it is
declined with just the conflicts and warnings of the preview, and changes nothing. -/
theorem change_of_preview (read : desk.store.ledger? e = .ok ledger)
    (lawful : ledger.violations = []) (listed : current ∈ ledger.reservations)
    (own : current.id = some id) (wide : fitsWord id = true) (stored : desk.store.fits = true)
    (unhindered : desk.Unhindered call e) :
    ∃ p, preview desk.store id status quantity = .ok p ∧
      let o := desk.mutate call (change (p.request status quantity))
      (p.transition.isValid = true → fitsWord (p.transition.version + 1) = true →
        ∃ answer, o.result = .ok answer ∧ answer.warnings = some p.transition.warnings
          ∧ p.transition.LeftIn id o.desk.store)
      ∧ (p.transition.isValid = true → fitsWord (p.transition.version + 1) = false →
        o = { result := .error .numberTooWide, desk })
      ∧ (p.transition.isValid = false → ∃ failure notice, o = { result := .error failure, desk }
        ∧ failure.notice? = some notice ∧ p.transition.ToldBy notice) := by
  have hsound := (Snapshot.violations_eq_nil_iff_isSound ledger).1 lawful
  obtain ⟨hfound, row, hrow, rfl, -⟩ := find_of_listed read listed own
  refine ⟨_, preview_eq read listed own wide, ?_⟩
  generalize hp : Preview.mk (ledger.transition current status quantity) id ledger.equipment = p
  obtain rfl : p.id = id := by rw [← hp]
  have hchecked : p.transition = ledger.transition current status quantity := by rw [← hp]
  have hversion : p.transition.version = ledger.version := by rw [hchecked]; rfl
  have hrequest := change_eq (r := p.request status quantity)
    (Store.reservation?_eq_ok.2 ⟨wide, hrow⟩)
  have hprepare := prepareChange_request hsound hfound rfl hchecked
  intro o
  have ho : o = _ := mutate_of_request hrequest
  have hvalid (valid : p.transition.isValid = true) := by
    have hcheck := Transition.isValid_iff.1 valid
    obtain ⟨-, hnonneg, hle, -⟩ :=
      Snapshot.transition_allows hchecked (Transition.check_eq_ok.1 hcheck)
    rw [hcheck] at hprepare
    exact mutateWith_of_valid desk.lockRetries hrequest unhindered read hsound listed own stored rfl
      hprepare hnonneg hle
  rw [ho, hversion]
  refine ⟨fun valid => (hvalid valid).1, fun valid => (hvalid valid).2, fun invalid => ?_⟩
  obtain ⟨failure, notice, hcheck, hnotice, htold⟩ := Transition.exists_toldBy invalid
  rw [hcheck] at hprepare
  exact ⟨failure, notice, mutateWith_of_prepare_error unhindered rfl read hprepare, hnotice, htold⟩

end Desk

/-- Five lamps, at some version of their ledger. Three of them are requested for a gala, and two are
allocated to a fair. -/
def Store.galaAndFair (version : Int) : Store :=
  { equipments := Table.empty.insert { name := some "Lamp", total := 5, version }
    shows := (Table.empty.insert { name := "Gala" }).insert { name := "Fair" }
    reservations :=
      (Table.empty.insert { equipment := 1, showId := 1, needed := 3, allocated := 3 }).insert
        { equipment := 1, showId := 2, needed := 2, allocated := 2, status := "allocated" } }

namespace Desk

open Reservations

/-- The gala gets two of its lamps, with the warning that the third one is missing. -/
theorem change_of_preview_gala :
    ∃ p, preview (.galaAndFair 7) 1 (some "allocated") (some 2) = .ok p
      ∧ p.transition.isValid = true
      ∧ ∃ answer, (({ store := .galaAndFair 7 } : Desk).mutate { now := default }
          (change (p.request (some "allocated") (some 2)))).result = .ok answer
        ∧ answer.warnings = some [.unitsMissing 1 3 2] := by
  obtain ⟨p, hp, hvalid, -, -⟩ := @change_of_preview { store := .galaAndFair 7 } { now := default }
    1 1 _ { id := some 1, showId := 1, needed := 3, allocated := 3 } (some "allocated") (some 2)
    (Store.ledger?_eq_ok.2 ⟨_, by decide, rfl, rfl⟩) (by decide +kernel) (by decide +kernel) rfl
    (by decide) (by decide +kernel) ⟨rfl, rfl, rfl⟩
  have hpreview : (preview (.galaAndFair 7) 1 (some "allocated") (some 2)).map
      (fun p => (p.transition.isValid, p.transition.version, p.transition.warnings))
        = .ok (true, 7, [.unitsMissing 1 3 2]) := by rfl
  rw [hp] at hpreview
  obtain ⟨hallowed, hversion, hwarnings⟩ : p.transition.isValid = true ∧ p.transition.version = 7
      ∧ p.transition.warnings = [.unitsMissing 1 3 2] := by
    simpa [Except.map] using hpreview
  obtain ⟨answer, hanswer, hsame, -⟩ := hvalid hallowed (by rw [hversion]; decide)
  exact ⟨p, hp, hallowed, answer, hanswer, hsame.trans (congrArg some hwarnings)⟩

/-- At the largest version that can be stored, the same preview finds nothing against the change,
but the change fails. -/
theorem change_of_preview_full :
    (∃ ledger current, (Store.galaAndFair 0x7FFFFFFFFFFFFFFF).ledger? 1 = .ok ledger
        ∧ ledger.violations = [] ∧ current ∈ ledger.reservations ∧ current.id = some 1)
      ∧ ∃ p, preview (.galaAndFair 0x7FFFFFFFFFFFFFFF) 1 (some "allocated") (some 2) = .ok p
        ∧ p.transition.isValid = true
        ∧ (({ store := .galaAndFair 0x7FFFFFFFFFFFFFFF } : Desk).mutate { now := default }
          (change (p.request (some "allocated") (some 2)))).result = .error .numberTooWide := by
  refine ⟨⟨_, { id := some 1, showId := 1, needed := 3, allocated := 3 },
    Store.ledger?_eq_ok.2 ⟨_, by decide, rfl, rfl⟩, by decide +kernel, by decide +kernel, rfl⟩,
    _, rfl, rfl, ?_⟩
  rfl

end Desk

end StageStock
