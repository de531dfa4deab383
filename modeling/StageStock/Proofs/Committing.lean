import Mathlib.Tactic.Lemma
import StageStock.Proofs.Fulfilment
import StageStock.Proofs.Sufficiency
import StageStock.Proofs.Trail

/-!
When a commit succeeds.

Rows store numbers of 64 bits only, and every commit raises the version of the ledger by one. Where
the figures of the changes can be stored, a commit that the rules allow fails only if the raised
version cannot.

* `Change.Fits`, `Worksheet.Fits`: the numbers of a change and of a worksheet can be stored; writing
  such a change on such a worksheet leaves one (`Worksheet.Fits.write`);
* `Store.fits_replacePlacements`: where no more units are placed than there are, their numbers can
  be stored;
* `Store.Committable`: everything is in order for a commit but, perhaps, the room for its version;
  `Store.Committable.exists_commit` and `Store.Committable.commit_of_full` say what becomes of it;
* `Desk.Unhindered`: nothing stands in the way of a mutation, so that its one attempt decides
  (`Desk.mutateWith_of_committable`, `Desk.mutateWith_prepared`);
* `Desk.mutate_of_error`, `Desk.commits_of_mutate_ok`: without other workers, a request changes
  nothing or commits what it had ready;
* `Desk.mutate_prepared`: what becomes of a request that prepares its changes from the ledger.
-/

namespace StageStock

/-! ### Tables whose rows all have a property -/

namespace Table

variable {α : Type} {t : Table α} {P : α → Prop}

lemma forall_insert (h : ∀ row ∈ t.rows, P row.2) {a : α} (ha : P a) :
    ∀ row ∈ (t.insert a).rows, P row.2 := by
  intro row hrow
  rw [rows_insert] at hrow
  rcases List.mem_append.1 hrow with hrow | hrow
  · exact h row hrow
  · rw [List.mem_singleton.1 hrow]
    exact ha

lemma forall_insertAll (h : ∀ row ∈ t.rows, P row.2) {as : List α} (has : ∀ a ∈ as, P a) :
    ∀ row ∈ (as.foldl insert t).rows, P row.2 := by
  induction as generalizing t with
  | nil => exact h
  | cons a rest ih =>
      exact ih (forall_insert h (has a List.mem_cons_self))
        fun b hb => has b (List.mem_cons_of_mem _ hb)

lemma forall_modify (h : ∀ row ∈ t.rows, P row.2) {id : Int} {f : α → α}
    (hf : ∀ a, P a → P (f a)) : ∀ row ∈ (t.modify id f).rows, P row.2 := by
  intro row hrow
  rw [rows_modify] at hrow
  obtain ⟨old, hold, rfl⟩ := List.mem_map.1 hrow
  split
  · exact hf _ (h old hold)
  · exact h old hold

lemma forall_erase (h : ∀ row ∈ t.rows, P row.2) (id : Int) :
    ∀ row ∈ (t.erase id).rows, P row.2 :=
  fun row hrow => h row (List.mem_filter.1 hrow).1

lemma forall_eraseAll (h : ∀ row ∈ t.rows, P row.2) (ids : List Int) :
    ∀ row ∈ (ids.foldl erase t).rows, P row.2 := by
  induction ids generalizing t with
  | nil => exact h
  | cons id rest ih => exact ih (forall_erase h id)

end Table

/-! ### Numbers that can be stored -/

lemma Store.fits_iff {s : Store} :
    s.fits = true ↔ (∀ row ∈ s.equipments.rows, row.2.fits = true)
      ∧ (∀ row ∈ s.placements.rows, row.2.fits = true)
      ∧ (∀ row ∈ s.reservations.rows, row.2.fits = true)
      ∧ ∀ row ∈ s.audits.rows, row.2.fits = true := by
  simp only [fits, Bool.and_eq_true, List.all_eq_true, and_assoc]

/-- Less than a number that can be stored is also stored. -/
lemma fitsWord_of_le {n bound : Int} (nonneg : 0 ≤ n) (le : n ≤ bound)
    (fits : fitsWord bound = true) : fitsWord n = true := by
  rw [fitsWord, Bool.and_eq_true, decide_eq_true_iff, decide_eq_true_iff, wordLimit] at fits ⊢
  omega

/-- The numbers of a change can be stored. -/
def Change.Fits : Change → Prop
  | putReservation r =>
    fitsWord r.showId = true ∧ fitsWord r.needed = true ∧ fitsWord r.allocated = true
  | dropReservation _ _ => True
  | replacePlacements ps =>
    ∀ p ∈ ps, fitsWord? (Place.columns (some p.place)).1 = true ∧ fitsWord p.quantity = true
  | setInstallation i => fitsWord? (Place.columns i.place).1 = true ∧ fitsWord i.quantity = true
  | setTotal total => fitsWord total = true

namespace Store

variable {s : Store} {e : Int} {ledger : Snapshot}

/-- The figures of a ledger can be stored if everything in the store can. -/
lemma fits_of_ledger? (stored : s.fits = true) (read : s.ledger? e = .ok ledger) :
    fitsWord ledger.total = true ∧ fitsWord ledger.version = true := by
  obtain ⟨row, -, hrow, rfl⟩ := ledger?_eq_ok.1 read
  have hfits := (fits_iff.1 stored).1 _ (Table.find?_eq_some_iff.1 hrow)
  simp only [EquipmentRow.fits, Bool.and_eq_true] at hfits
  exact ⟨hfits.1.1.1, hfits.2⟩

/-- The id of a place that is found can be stored. -/
lemma fits_of_findPlace {input : Place.Input} {place : Place}
    (found : s.findPlace input = .ok (some place)) :
    fitsWord? (Place.columns (some place)).1 = true := by
  rcases findPlace_eq_ok found with ⟨id, row, rfl, hlisted⟩ | ⟨text, rfl, -⟩
  · exact (location?_eq_ok.1 hlisted).1
  · rfl

/-- The numbers of placements can be stored if no more units are placed than there are. -/
lemma fits_replacePlacements {ps : List Placement} (stored : s.fits = true)
    (read : s.ledger? e = .ok ledger) (each : ∀ p ∈ ps, Snapshot.PlacementSound p)
    (enough : addUp (ps.map Placement.quantity) ≤ ledger.total)
    (places : ∀ p ∈ ps, fitsWord? (Place.columns (some p.place)).1 = true) :
    (Change.replacePlacements ps).Fits := by
  have hnonneg : ∀ p ∈ ps, 0 ≤ p.quantity := fun p hp => Int.le_trans (by decide) (each p hp).1
  exact fun p hp => ⟨places p hp, fitsWord_of_le (hnonneg p hp)
    ((le_addUp_of_mem hnonneg hp).trans enough) (fits_of_ledger? stored read).1⟩

end Store

namespace Worksheet

/-- Who writes can be stored. -/
structure Author.Fits (a : Author) : Prop where
  equipment : fitsWord a.equipment = true
  user : fitsWord? a.user = true

/-- Every number on a worksheet can be stored. -/
structure Fits (w : Worksheet) : Prop where
  store : w.store.fits = true
  placements : ∀ row ∈ w.newPlacements, row.fits = true
  reservations : ∀ row ∈ w.newReservations, row.fits = true
  audits : ∀ row ∈ w.newAudits, row.fits = true

variable {w w' : Worksheet} {a : Author} {c : Change}

lemma fits_of_store {s : Store} (h : s.fits = true) : ({ store := s } : Worksheet).Fits :=
  ⟨h, by simp, by simp, by simp⟩

/-- What is written in a row fits if the figures do. -/
lemma fits_reservationRow {r : Reservation} (needed : fitsWord r.needed = true)
    (allocated : fitsWord r.allocated = true) (row : ReservationRow) (h : row.fits = true) :
    (reservationRow a r row).fits = true := by
  simp only [ReservationRow.fits, reservationRow, Bool.and_eq_true] at h ⊢
  exact ⟨⟨⟨⟨h.1.1.1.1, h.1.1.1.2⟩, needed⟩, allocated⟩, h.2⟩

lemma fits_placementRow {p : Placement} (place : fitsWord? (Place.columns (some p.place)).1 = true)
    (quantity : fitsWord p.quantity = true) (row : PlacementRow) (h : row.fits = true) :
    (placementRow a p row).fits = true := by
  simp only [PlacementRow.fits, placementRow, Bool.and_eq_true] at h ⊢
  exact ⟨⟨⟨h.1.1.1, place⟩, quantity⟩, h.2⟩

lemma fits_installationRow {i : Installation} (place : fitsWord? (Place.columns i.place).1 = true)
    (quantity : fitsWord i.quantity = true) (row : EquipmentRow) (h : row.fits = true) :
    (installationRow i row).fits = true := by
  simp only [EquipmentRow.fits, installationRow, Bool.and_eq_true] at h ⊢
  exact ⟨⟨⟨h.1.1.1, quantity⟩, place⟩, h.2⟩

namespace Fits

lemma flushed (h : w.Fits) : w.flushed.fits = true := by
  obtain ⟨hequipments, hplacements, hreservations, haudits⟩ := Store.fits_iff.1 h.store
  exact Store.fits_iff.2 ⟨hequipments,
    Table.forall_eraseAll (Table.forall_insertAll hplacements h.placements) _,
    Table.forall_insertAll hreservations h.reservations, Table.forall_insertAll haudits h.audits⟩

lemma editEquipment (h : w.Fits) {f : EquipmentRow → EquipmentRow}
    (hf : ∀ row : EquipmentRow, row.fits = true → (f row).fits = true) :
    (w.editEquipment a f).Fits := by
  obtain ⟨hequipments, hrest⟩ := Store.fits_iff.1 h.store
  exact ⟨Store.fits_iff.2 ⟨Table.forall_modify hequipments hf, hrest⟩, h.placements,
    h.reservations, h.audits⟩

lemma replacePlacements (h : w.Fits) (author : a.Fits) {ps : List Placement}
    (fits : (Change.replacePlacements ps).Fits) : (w.replacePlacements a ps).Fits := by
  have hput : (putPlacements a ps w (w.kept a.equipment)).1.Fits := by
    refine putPlacements_induction h (fun v q hq entry _ hv => ?_) fun v q hq hv => ?_
    · obtain ⟨hplace, hquantity⟩ := fits q hq
      obtain ⟨hequipments, hplacements, hrest⟩ := Store.fits_iff.1 hv.store
      exact ⟨Store.fits_iff.2 ⟨hequipments, Table.forall_modify hplacements
        (fits_placementRow hplace hquantity), hrest⟩, hv.placements, hv.reservations, hv.audits⟩
    · obtain ⟨hplace, hquantity⟩ := fits q hq
      refine ⟨hv.store, fun row hrow => ?_, hv.reservations, hv.audits⟩
      rcases List.mem_append.1 hrow with hrow | hrow
      · exact hv.placements row hrow
      · rw [List.mem_singleton.1 hrow]
        refine fits_placementRow hplace hquantity _ ?_
        simp only [PlacementRow.fits, author.equipment, author.user, Bool.true_and, Bool.and_true]
        decide
  rw [replacePlacements_eq]
  exact ⟨hput.store, hput.placements, hput.reservations, hput.audits⟩

/-- Writing a change whose numbers can be stored. -/
theorem write (h : w.Fits) (author : a.Fits) (fits : c.Fits) (wrote : Wrote a w c w') :
    w'.Fits := by
  cases wrote with
  | newReservation r new =>
      obtain ⟨hshow, hneeded, hallocated⟩ := fits
      refine ⟨h.store, h.placements, fun row hrow => ?_, h.audits⟩
      rcases List.mem_append.1 hrow with hrow | hrow
      · exact h.reservations row hrow
      · rw [List.mem_singleton.1 hrow]
        refine fits_reservationRow hneeded hallocated _ ?_
        simp only [ReservationRow.fits, author.equipment, author.user, hshow, Bool.true_and,
          Bool.and_true]
        decide
  | oldReservation r id row old stored own =>
      obtain ⟨hequipments, hplacements, hreservations, haudits⟩ := Store.fits_iff.1 h.store
      exact ⟨Store.fits_iff.2 ⟨hequipments, hplacements, Table.forall_modify hreservations
        (fits_reservationRow fits.2.1 fits.2.2), haudits⟩, h.placements, h.reservations, h.audits⟩
  | dropReservation id showId =>
      obtain ⟨hequipments, hplacements, hreservations, haudits⟩ := Store.fits_iff.1 h.flushed
      exact fits_of_store (Store.fits_iff.2
        ⟨hequipments, hplacements,
          Table.forall_erase (P := (ReservationRow.fits · = true)) hreservations id, haudits⟩)
  | replacePlacements ps => exact h.replacePlacements author fits
  | setInstallation i => exact h.editEquipment (fits_installationRow fits.1 fits.2)
  | setTotal total =>
      refine h.editEquipment fun row hrow => ?_
      simp only [EquipmentRow.fits, Bool.and_eq_true] at hrow ⊢
      exact ⟨⟨⟨fits, hrow.1.1.2⟩, hrow.1.2⟩, hrow.2⟩

/-- Writing changes whose numbers can be stored. -/
lemma writeAll (h : w.Fits) (author : a.Fits) {cs : List Change} (fits : ∀ c ∈ cs, c.Fits)
    (written : w.writeAll a cs = .ok w') : w'.Fits := by
  induction cs generalizing w with
  | nil => exact Except.ok.inj written ▸ h
  | cons c rest ih =>
      rw [Worksheet.writeAll] at written
      split at written
      · cases written
      · rename_i next hnext
        exact ih (h.write author (fits c List.mem_cons_self) (wrote_of_write hnext))
          (fun d hd => fits d (List.mem_cons_of_mem _ hd)) written

end Fits

end Worksheet

/-! ### Commits -/

namespace Store

/-- Once the changes are written and can be entered, a commit is decided by whether the finished
worksheet can be stored. -/
lemma commit_eq_of_written {s : Store} {p : Proposal} {now : Moment} {before after : Snapshot}
    {w : Worksheet} (prepared : s.prepare p = .ok (before, after))
    (written : Worksheet.writeAll { store := s } (p.author now) p.changes = .ok w)
    (enterable : w.Enterable) :
    s.commit p now
      = if (complete w (p.author now) p before after).flushed.fits then
          ((complete w (p.author now) p before after).flushed.ledger? p.equipment).map
            fun committed => ((complete w (p.author now) p before after).flushed, committed)
        else .error .numberTooWide := by
  have hflush : (complete w (p.author now) p before after).flush
      = if (complete w (p.author now) p before after).flushed.fits then
          .ok (complete w (p.author now) p before after).flushed
        else .error .numberTooWide :=
    Worksheet.Enterable.flush_eq enterable
  rw [Proposal.author] at written hflush ⊢
  simp only [commit, prepared, written, hflush]
  by_cases hfits : (complete w ⟨p.equipment, p.user, now⟩ p before after).flushed.fits = true
  · simp only [if_pos hfits]
    cases (complete w ⟨p.equipment, p.user, now⟩ p before after).flushed.ledger? p.equipment <;> rfl
  · simp only [if_neg hfits]

/-- The user that a commit notes can be stored. -/
lemma Commits.fitsWord_user {s t : Store} {p : Proposal} {now : Moment}
    {before after committed : Snapshot} {w : Worksheet}
    (h : s.Commits p now before after w t committed) : fitsWord? p.user = true := by
  have hnoted : (s.audits.nextId, p.entry now before after) ∈ t.audits.rows := by
    rw [h.audits_eq, Table.rows_insert]
    exact List.mem_append_right _ (List.mem_singleton_self _)
  have hentry := (fits_iff.1 h.fits).2.2.2 _ hnoted
  simp only [AuditRow.fits, Bool.and_eq_true] at hentry
  exact hentry.2

/-- Everything is in order for a commit but, perhaps, the room for the version that it raises. -/
structure Committable (s : Store) (p : Proposal) (now : Moment) (before after : Snapshot)
    (w : Worksheet) : Prop where
  read : s.ledger? p.equipment = .ok before
  expected : checkExpected p.expected before.version = .ok ()
  current : p.checkRead before.version = .ok ()
  applied : Change.applyAll before p.changes = .ok after
  lawful : after.violations = []
  written : Worksheet.writeAll { store := s } (p.author now) p.changes = .ok w
  enterable : w.Enterable
  fits : w.Fits
  user : fitsWord? p.user = true

namespace Committable

variable {s : Store} {p : Proposal} {now : Moment} {before after : Snapshot} {w : Worksheet}

lemma prepare_eq (h : s.Committable p now before after w) : s.prepare p = .ok (before, after) := by
  simp only [prepare, h.read, h.expected, h.current, h.applied, h.lawful]

/-- The commit is decided by whether the finished worksheet can be stored. -/
lemma commit_eq (h : s.Committable p now before after w) :
    s.commit p now
      = if (complete w (p.author now) p before after).flushed.fits then
          ((complete w (p.author now) p before after).flushed.ledger? p.equipment).map
            fun committed => ((complete w (p.author now) p before after).flushed, committed)
        else .error .numberTooWide :=
  commit_eq_of_written h.prepare_eq h.written h.enterable

/-- The row of the equipment on the finished worksheet. -/
lemma exists_row (h : s.Committable p now before after w) :
    ∃ row, (complete w (p.author now) p before after).flushed.equipments.find? p.equipment
        = some row ∧ row.version = before.version + 1 := by
  obtain ⟨audits, hflushed⟩ := flushed_complete w (p.author now) p before after
  have htracks := tracks_of_writeAll (a := p.author now) h.read h.applied h.written
  obtain ⟨row, hrow, -⟩ := htracks.figures
  refine ⟨{ row with
    version := before.version + 1, status := some after.status.text, updated := some now }, ?_, rfl⟩
  rw [hflushed]
  show (w.flushed.equipments.modify p.equipment _).find? p.equipment = _
  rw [Table.find?_modify, if_pos rfl, show w.flushed.equipments.find? p.equipment = some row from
    hrow]
  rfl

lemma fitsWord_equipment (h : s.Committable p now before after w) :
    fitsWord p.equipment = true := by
  obtain ⟨row, hfits, -, -⟩ := ledger?_eq_ok.1 h.read
  exact hfits

lemma fits_complete (h : s.Committable p now before after w)
    (room : fitsWord (before.version + 1) = true) :
    (complete w (p.author now) p before after).Fits := by
  have hedited : (w.editEquipment (p.author now) fun row =>
      { row with
        version := before.version + 1
        status := some after.status.text
        updated := some now }).Fits := by
    refine h.fits.editEquipment fun row hrow => ?_
    simp only [EquipmentRow.fits, Bool.and_eq_true] at hrow ⊢
    exact ⟨hrow.1, room⟩
  refine ⟨hedited.store, hedited.placements, hedited.reservations, fun row hrow => ?_⟩
  rcases List.mem_append.1 hrow with hrow | hrow
  · exact hedited.audits row hrow
  · rw [List.mem_singleton.1 hrow]
    simp only [AuditRow.fits, h.fitsWord_equipment, h.user, Bool.and_self]

/-- With room for the version the commit succeeds. -/
theorem exists_commit (h : s.Committable p now before after w)
    (room : fitsWord (before.version + 1) = true) :
    ∃ t committed, s.commit p now = .ok (t, committed)
      ∧ s.Commits p now before after w t committed := by
  obtain ⟨row, hrow, -⟩ := h.exists_row
  have hfits := (h.fits_complete room).flushed
  have hreread := ledger?_eq_ok.2 ⟨row, h.fitsWord_equipment, hrow, rfl⟩
  have hcommit := h.commit_eq
  rw [if_pos hfits, hreread] at hcommit
  exact ⟨_, _, hcommit, h.read, h.expected, h.current, h.applied, h.lawful, h.written, rfl, hfits,
    hreread⟩

/-- Without room for the version the commit fails. -/
theorem commit_of_full (h : s.Committable p now before after w)
    (full : fitsWord (before.version + 1) = false) : s.commit p now = .error .numberTooWide := by
  obtain ⟨row, hrow, hversion⟩ := h.exists_row
  rw [h.commit_eq, if_neg fun hfits => ?_]
  have hequipment := (fits_iff.1 hfits).1 _ (Table.find?_eq_some_iff.1 hrow)
  simp only [EquipmentRow.fits, hversion, full, Bool.and_false] at hequipment
  cases hequipment

/-- What a mutation has ready is committable if it leaves a sound ledger, its numbers can be stored
and it can be written. -/
lemma of_sound {α : Type} {m : Mutation α} {work : Prepared α} (proper : m.Proper)
    (ready : m.Readies before work) (expected : work.expected = none)
    (current : ∀ version, work.read = some version → version = before.version)
    (stored : s.fits = true) (read : s.ledger? m.equipment = .ok before)
    (applied : Change.applyAll before work.changes = .ok after) (sound : after.IsSound)
    (written : Worksheet.writeAll { store := s } ⟨m.equipment, m.user, now⟩ work.changes = .ok w)
    (fits : ∀ c ∈ work.changes, c.Fits) (user : fitsWord? m.user = true) :
    s.Committable (m.proposal work) now before after w := by
  have hproper := proper.of_readies read ready
  obtain ⟨row, hequipment, -, -⟩ := ledger?_eq_ok.1 read
  refine ⟨read, ?_, ?_, applied, (Snapshot.violations_eq_nil_iff_isSound after).2 sound, written,
    hproper.enterable read applied sound written,
    (Worksheet.fits_of_store stored).writeAll ⟨hequipment, user⟩ fits written, user⟩
  · show checkExpected work.expected before.version = .ok ()
    rw [expected]
    rfl
  · show Proposal.checkRead (m.proposal work) before.version = .ok ()
    rw [Proposal.checkRead]
    split
    · rename_i version hversion
      rw [if_pos (current version hversion)]
    · rfl

/-- A lawful mutation leaves a sound ledger if it finds one. -/
lemma of_readies {α : Type} {m : Mutation α} {work : Prepared α} (proper : m.Proper)
    (lawful : m.Lawful) (ready : m.Readies before work) (expected : work.expected = none)
    (current : ∀ version, work.read = some version → version = before.version)
    (stored : s.fits = true) (read : s.ledger? m.equipment = .ok before) (sound : before.IsSound)
    (applied : Change.applyAll before work.changes = .ok after)
    (written : Worksheet.writeAll { store := s } ⟨m.equipment, m.user, now⟩ work.changes = .ok w)
    (fits : ∀ c ∈ work.changes, c.Fits) (user : fitsWord? m.user = true) :
    s.Committable (m.proposal work) now before after w :=
  of_sound proper ready expected current stored read applied
    (lawful.of_readies read ready sound after applied) written fits user

end Committable

end Store

/-! ### Mutations that nothing hinders -/

namespace Desk

/-- Nothing hinders a call at an equipment: the lock is free, the caller has not given up, and no
other worker commits meanwhile. -/
structure Unhindered (desk : Desk) (call : Call) (e : Int) : Prop where
  free : desk.locks.isHeld e = false
  patient : call.cancelled = false
  alone : call.rivals = []

variable {α : Type} {desk : Desk} {call : Call} {retries : Int} {m : Mutation α}
  {prepare : Snapshot → Except Failure (Prepared α)} {before after : Snapshot}

lemma Unhindered.congr {desk' : Desk} {e : Int} (h : desk.Unhindered call e)
    (same : desk'.locks = desk.locks) : desk'.Unhindered call e :=
  ⟨same ▸ h.free, h.patient, h.alone⟩

lemma Unhindered.acquire_eq (h : desk.Unhindered call m.equipment) :
    desk.locks.acquire (desk.lockRequest call retries m.equipment)
      = .ok (desk.locks.take m.equipment) := by
  simp only [Locks.acquire, lockRequest, h.patient, h.free, Bool.false_eq_true, if_false]

/-- A mutation whose checks before the lock have passed. -/
lemma mutate_of_request {request : Store → Except Failure (Mutation α)}
    (h : request desk.store = .ok m) :
    desk.mutate call request = desk.mutateWith call desk.lockRetries m := by
  rw [mutate, h]

/-- The one attempt fails, and so does the mutation. -/
lemma mutateWith_of_attempt_error (h : desk.Unhindered call m.equipment) {failure : Failure}
    (failed : m.attempt call.now ⟨desk.store, []⟩ = (.error failure, ⟨desk.store, []⟩)) :
    desk.mutateWith call retries m = { result := .error failure, desk } := by
  have hattempt : Locks.attempt (desk.lockRequest call retries m.equipment)
      (fun _ scene => m.attempt call.now scene) desk.locks (⟨desk.store, []⟩ : Scene)
        = ⟨.error failure, desk.locks, ⟨desk.store, []⟩⟩ := by
    rw [Locks.attempt_of_acquire h.acquire_eq, failed]
  have hrun : desk.runFrom call retries m ⟨desk.store, call.rivals⟩
      = ⟨.error failure, desk.locks, ⟨desk.store, []⟩⟩ := by
    rw [runFrom_eq, h.alone]
    exact Locks.repeatAttempts_of_unchanged hattempt
  rw [mutateWith_eq, hrun]

/-- The one attempt succeeds, and so does the mutation. -/
lemma mutateWith_of_attempt_ok (h : desk.Unhindered call m.equipment) {answer : α} {event : Event}
    {t : Store} (succeeded : m.attempt call.now ⟨desk.store, []⟩
      = (.ok (answer, event), ⟨t, []⟩)) :
    desk.mutateWith call retries m
      = { result := .ok answer, desk := { desk with store := t }
          deliveries := [(desk.notifier.publish event, desk.locks.isHeld m.equipment)] } := by
  have hattempt : Locks.attempt (desk.lockRequest call retries m.equipment)
      (fun _ scene => m.attempt call.now scene) desk.locks (⟨desk.store, []⟩ : Scene)
        = ⟨.ok (answer, event), desk.locks, ⟨t, []⟩⟩ := by
    rw [Locks.attempt_of_acquire h.acquire_eq, succeeded]
  have hrun : desk.runFrom call retries m ⟨desk.store, call.rivals⟩
      = ⟨.ok (answer, event), desk.locks, ⟨t, []⟩⟩ := by
    rw [runFrom_eq, h.alone, Locks.repeatAttempts_of_ok (by rw [hattempt]), hattempt]
  rw [mutateWith_eq, hrun]

variable {work : Prepared α} {w : Worksheet}

/-- Without other workers, an attempt finishes with what the mutation has ready. -/
lemma attempt_of_readies {s : Store} {now : Moment} (read : s.ledger? m.equipment = .ok before)
    (ready : m.Readies before work) : m.attempt now ⟨s, []⟩ = m.finish work now ⟨s, []⟩ := by
  obtain ⟨e, user, preparation⟩ := m
  cases preparation with
  | known known =>
      obtain rfl : work = known := ready
      rfl
  | fromLedger prepare =>
      obtain ⟨plain, hplain, rfl⟩ := ready
      simp only [Mutation.attempt, read, Scene.advance, hplain]

/-- What becomes of a mutation that has changes ready which can be committed. -/
theorem mutateWith_of_committable (retries : Int) (h : desk.Unhindered call m.equipment)
    (answers : work.Answers m.equipment) (ready : m.Readies before work)
    (committable : desk.store.Committable (m.proposal work) call.now before after w) :
    (fitsWord (before.version + 1) = true → ∃ t committed answer,
      desk.store.Commits (m.proposal work) call.now before after w t committed
        ∧ work.answer t committed = .ok answer
        ∧ (desk.mutateWith call retries m).result = .ok answer
        ∧ (desk.mutateWith call retries m).desk = { desk with store := t })
      ∧ (fitsWord (before.version + 1) = false →
        desk.mutateWith call retries m = { result := .error .numberTooWide, desk }) := by
  have hattempt : m.attempt call.now ⟨desk.store, []⟩ = _ :=
    attempt_of_readies committable.read ready
  refine ⟨fun room => ?_, fun full => ?_⟩
  · obtain ⟨t, committed, hcommit, hcommits⟩ := committable.exists_commit room
    obtain ⟨answer, hanswer⟩ := answers t committed hcommits.reread hcommits.fitsWord_total
    rw [Mutation.finish_eq, hcommit] at hattempt
    simp only [hanswer] at hattempt
    rw [mutateWith_of_attempt_ok h hattempt]
    exact ⟨t, committed, answer, hcommits, hanswer, rfl, rfl⟩
  · rw [Mutation.finish_eq, committable.commit_of_full full] at hattempt
    exact mutateWith_of_attempt_error h hattempt

/-- What becomes of a mutation that has prepared changes which leave a sound ledger, if the changes
can be written and their numbers stored. -/
theorem mutateWith_of_sound (retries : Int) (h : desk.Unhindered call m.equipment)
    (prepared : m.preparation = .fromLedger prepare) (orderly : Orderly m.equipment prepare)
    (proper : m.Proper) (stored : desk.store.fits = true)
    (read : desk.store.ledger? m.equipment = .ok before) (ready : prepare before = .ok work)
    (applied : Change.applyAll before work.changes = .ok after) (sound : after.IsSound)
    (written : Worksheet.writeAll { store := desk.store } ⟨m.equipment, m.user, call.now⟩
      work.changes = .ok w)
    (fits : ∀ c ∈ work.changes, c.Fits) (user : fitsWord? m.user = true) :
    (fitsWord (before.version + 1) = true → ∃ t committed answer,
      desk.store.Commits (m.proposal { work with read := some before.version }) call.now before
          after w t committed
        ∧ work.answer t committed = .ok answer
        ∧ (desk.mutateWith call retries m).result = .ok answer
        ∧ (desk.mutateWith call retries m).desk = { desk with store := t })
      ∧ (fitsWord (before.version + 1) = false →
        desk.mutateWith call retries m = { result := .error .numberTooWide, desk }) := by
  have hready := Mutation.readies_of_prepare prepared ready
  exact mutateWith_of_committable retries h (orderly.answers _ before work read ready) hready
    (.of_sound proper hready (orderly.unexpected before work ready)
      (fun _ hversion => (Option.some.inj hversion).symm) stored read applied sound written fits
      user)

/-- What becomes of a lawful mutation that has prepared changes from a sound ledger. -/
theorem mutateWith_prepared (retries : Int) (h : desk.Unhindered call m.equipment)
    (prepared : m.preparation = .fromLedger prepare) (orderly : Orderly m.equipment prepare)
    (proper : m.Proper) (lawful : m.Lawful) (stored : desk.store.fits = true)
    (read : desk.store.ledger? m.equipment = .ok before) (sound : before.IsSound)
    (ready : prepare before = .ok work) (applied : Change.applyAll before work.changes = .ok after)
    (written : Worksheet.writeAll { store := desk.store } ⟨m.equipment, m.user, call.now⟩
      work.changes = .ok w)
    (fits : ∀ c ∈ work.changes, c.Fits) (user : fitsWord? m.user = true) :
    (fitsWord (before.version + 1) = true → ∃ t committed answer,
      desk.store.Commits (m.proposal { work with read := some before.version }) call.now before
          after w t committed
        ∧ work.answer t committed = .ok answer
        ∧ (desk.mutateWith call retries m).result = .ok answer
        ∧ (desk.mutateWith call retries m).desk = { desk with store := t })
      ∧ (fitsWord (before.version + 1) = false →
        desk.mutateWith call retries m = { result := .error .numberTooWide, desk }) :=
  mutateWith_of_sound retries h prepared orderly proper stored read ready applied
    (lawful.of_readies read (Mutation.readies_of_prepare prepared ready) sound after applied)
    written fits user

/-- A mutation that its ledger speaks against. -/
lemma mutateWith_of_prepare_error (h : desk.Unhindered call m.equipment)
    (prepared : m.preparation = .fromLedger prepare)
    (read : desk.store.ledger? m.equipment = .ok before) {failure : Failure}
    (declined : prepare before = .error failure) :
    desk.mutateWith call retries m = { result := .error failure, desk } :=
  mutateWith_of_attempt_error h (Mutation.attempt_alone_of_prepare_error prepared read declined)

/-! ### Requests beside which no other worker commits -/

section Alone

variable {request : Store → Except Failure (Mutation α)}

/-- A request that fails changes nothing, and nobody is told of it. -/
lemma mutate_of_error (alone : call.rivals = [])
    (answers : ∀ m, request desk.store = .ok m → m.Answers) {failure : Failure}
    (failed : (desk.mutate call request).result = .error failure) :
    desk.mutate call request = { result := .error failure, desk } := by
  rw [mutate] at failed ⊢
  cases hrequest : request desk.store with
  | error early =>
      simp only [hrequest, Except.error.injEq] at failed ⊢
      rw [failed]
  | ok m =>
      simp only [hrequest] at failed ⊢
      obtain ⟨k, houtcome⟩ := mutateWith_error (answers m hrequest) failed
      rw [houtcome, alone, List.take_nil]
      rfl

/-- A request that succeeds has committed what it had ready. -/
lemma commits_of_mutate_ok (alone : call.rivals = [])
    (answers : ∀ m, request desk.store = .ok m → m.Answers) {answer : α}
    (succeeded : (desk.mutate call request).result = .ok answer) :
    ∃ m work before after w t committed, request desk.store = .ok m ∧ m.Readies before work
      ∧ desk.store.Commits (m.proposal work) call.now before after w t committed
      ∧ (desk.mutate call request).desk = { desk with store := t } := by
  rw [mutate] at succeeded ⊢
  cases hrequest : request desk.store with
  | error early => simp [hrequest] at succeeded
  | ok m =>
      simp only [hrequest] at succeeded ⊢
      obtain ⟨k, work, before, after, w, t, committed, -, hready, hcommits, houtcome⟩ :=
        mutateWith_ok (answers m hrequest) succeeded
      rw [alone, List.take_nil] at hcommits
      exact ⟨m, work, before, after, w, t, committed, rfl, hready, hcommits, by rw [houtcome]⟩

/-- What becomes of a request for changes that are prepared from the ledger, if those leave a sound
ledger and can be written. It succeeds exactly if they are prepared, and if the user who asks and
the next version of the ledger can be stored, and then it has committed what was prepared. If none
are prepared, it is told why. -/
theorem mutate_prepared (h : desk.Unhindered call m.equipment)
    (requested : request desk.store = .ok m)
    (prepared : m.preparation = .fromLedger prepare) (orderly : Orderly m.equipment prepare)
    (proper : m.Proper) (stored : desk.store.fits = true)
    (read : desk.store.ledger? m.equipment = .ok before)
    (writable : ∀ work, prepare before = .ok work → ∃ after w,
      Change.applyAll before work.changes = .ok after ∧ after.IsSound
        ∧ Worksheet.writeAll { store := desk.store } ⟨m.equipment, m.user, call.now⟩ work.changes
          = .ok w
        ∧ ∀ c ∈ work.changes, c.Fits) :
    let o := desk.mutate call request
    ((∃ answer, o.result = .ok answer)
        ↔ (∃ work, prepare before = .ok work) ∧ fitsWord? m.user = true
          ∧ fitsWord (before.version + 1) = true)
      ∧ ((∃ answer, o.result = .ok answer) → ∃ work after w t committed,
        prepare before = .ok work
          ∧ desk.store.Commits (m.proposal { work with read := some before.version }) call.now
            before after w t committed
          ∧ o.desk = { desk with store := t })
      ∧ ∀ failure, prepare before = .error failure → o = { result := .error failure, desk } := by
  intro o
  have hmade : (∃ answer, o.result = .ok answer) → ∃ work after w t committed,
      prepare before = .ok work
        ∧ desk.store.Commits (m.proposal { work with read := some before.version }) call.now
          before after w t committed
        ∧ o.desk = { desk with store := t } := by
    rintro ⟨answer, hanswer⟩
    have hanswers : ∀ m', request desk.store = .ok m' → m'.Answers := fun m' hm' =>
      Except.ok.inj (requested.symm.trans hm') ▸ Mutation.answers_of_orderly prepared orderly
    obtain ⟨m', work, read', after, w, t, committed, hm', hready, hcommits, hdesk⟩ :=
      commits_of_mutate_ok h.alone hanswers hanswer
    obtain rfl := Except.ok.inj (requested.symm.trans hm')
    obtain rfl : before = read' := Except.ok.inj (read.symm.trans hcommits.read)
    rw [Mutation.Readies, prepared] at hready
    obtain ⟨plain, hplain, rfl⟩ := hready
    exact ⟨plain, after, w, t, committed, hplain, hcommits, hdesk⟩
  refine ⟨⟨fun hok => ?_, ?_⟩, hmade, fun failure hdeclined => ?_⟩
  · obtain ⟨work, after, w, t, committed, hwork, hcommits, -⟩ := hmade hok
    exact ⟨⟨work, hwork⟩, hcommits.fitsWord_user, hcommits.fitsWord_version⟩
  · rintro ⟨⟨work, hwork⟩, huser, hversion⟩
    obtain ⟨after, w, happlied, hsound, hwritten, hfits⟩ := writable work hwork
    obtain ⟨t, committed, answer, -, -, hresult, -⟩ := (mutateWith_of_sound desk.lockRetries h
      prepared orderly proper stored read hwork happlied hsound hwritten hfits huser).1 hversion
    exact ⟨answer, (congrArg Outcome.result (mutate_of_request requested)).trans hresult⟩
  · exact (mutate_of_request requested).trans
      (mutateWith_of_prepare_error h prepared read hdeclined)

end Alone

end Desk

end StageStock
