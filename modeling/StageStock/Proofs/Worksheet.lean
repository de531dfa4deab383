import Mathlib.Tactic.Lemma
import StageStock.Commit
import StageStock.Proofs.Table

/-!
What a worksheet amounts to once it is flushed.

`Worksheet.flushed` is the store that a flush leaves if it succeeds. Seen through it, every change
is a plain edit of one table, whether its rows wait or not.

* `Worksheet.flush_eq_ok`: a flush that succeeds gives the flushed store, in which all numbers fit;
* `Worksheet.Wrote`: what the writing of one change can do, case by case (`wrote_of_write`);
* `Worksheet.writeAll_induction`: what each change carries from the ledger in memory to the
  worksheet, all of them carry;
* `Store.Commits`: what a commit that succeeds has done (`commits_of_commit`).
-/

namespace StageStock

/-! ### Rows of an equipment -/

lemma Store.mem_placementsOf {s : Store} {e : Int} {row : Int × PlacementRow} :
    row ∈ s.placementsOf e ↔ row ∈ s.placements.rows ∧ row.2.equipment = e := by
  rw [placementsOf, Table.mem_select, decide_eq_true_iff]

lemma Store.mem_reservationsOf {s : Store} {e : Int} {row : Int × ReservationRow} :
    row ∈ s.reservationsOf e ↔ row ∈ s.reservations.rows ∧ row.2.equipment = e := by
  rw [reservationsOf, Table.mem_select, decide_eq_true_iff]

/-! ### Changes of a ledger in memory -/

namespace Change

variable {m m' : Snapshot} {c : Change} {cs : List Change}

/-- What is dropped is there, and it alone is taken out. -/
lemma dropped_of_apply {id : Int} {showId : Option Int}
    (h : apply m (.dropReservation id showId) = .ok m') :
    (∃ r ∈ m.reservations, r.id = some id) ∧
      m' = { m with reservations := m.reservations.filter fun other => other.id ≠ some id } := by
  simp only [apply] at h
  cases hfound : m.findReservation? id with
  | none => simp [hfound] at h
  | some current =>
      rw [hfound] at h
      have hid : current.id = some id := of_decide_eq_true (List.find?_some hfound :)
      exact ⟨⟨current, List.mem_of_find?_eq_some hfound, hid⟩, (Except.ok.inj h).symm⟩

/-- Changes are carried out if the first one is, and then the rest. -/
lemma exists_apply_of_applyAll (h : applyAll m (c :: cs) = .ok m') :
    ∃ next, apply m c = .ok next ∧ applyAll next cs = .ok m' := by
  rw [applyAll] at h
  cases hc : apply m c with
  | error e => simp [hc] at h
  | ok next =>
      rw [hc] at h
      exact ⟨next, rfl, h⟩

end Change

/-! ### Rows by their ids -/

namespace Store

lemma equipment?_eq_ok {s : Store} {e : Int} {row : EquipmentRow} :
    s.equipment? e = .ok row ↔ fitsWord e = true ∧ s.equipments.find? e = some row := by
  rw [equipment?]
  by_cases hfits : fitsWord e
  · cases s.equipments.find? e with
    | none => simp [hfits]
    | some found => simp [hfits]
  · simp [hfits]

lemma reservation?_eq_ok {s : Store} {id : Int} {row : ReservationRow} :
    s.reservation? id = .ok row ↔ fitsWord id = true ∧ s.reservations.find? id = some row := by
  rw [reservation?]
  by_cases hfits : fitsWord id
  · cases s.reservations.find? id with
    | none => simp [hfits]
    | some found => simp [hfits]
  · simp [hfits]

lemma location?_eq_ok {s : Store} {id : Int} {row : LocationRow} :
    s.location? id = .ok row ↔ fitsWord id = true ∧ s.locations.find? id = some row := by
  rw [location?]
  by_cases hfits : fitsWord id
  · cases s.locations.find? id with
    | none => simp [hfits]
    | some found => simp [hfits]
  · simp [hfits]

lemma placement?_eq_ok {s : Store} {id : Int} {row : PlacementRow} :
    s.placement? id = .ok row ↔ fitsWord id = true ∧ s.placements.find? id = some row := by
  rw [placement?]
  by_cases hfits : fitsWord id
  · cases s.placements.find? id with
    | none => simp [hfits]
    | some found => simp [hfits]
  · simp [hfits]

end Store

/-! ### Flushing -/

lemma Store.enterReservation_eq_ok {s t : Store} {r : ReservationRow}
    (h : s.enterReservation r = .ok t) :
    t = { s with reservations := s.reservations.insert r } := by
  simp only [enterReservation] at h
  split at h
  · cases h
  · exact (Except.ok.inj h).symm

lemma Store.enterReservations_eq_ok {rows : List ReservationRow} {s t : Store}
    (h : s.enterReservations rows = .ok t) :
    t = { s with reservations := rows.foldl Table.insert s.reservations } := by
  induction rows generalizing s with
  | nil => exact (Except.ok.inj h).symm
  | cons r rest ih =>
      rw [enterReservations] at h
      cases he : s.enterReservation r with
      | error e => simp [he] at h
      | ok entered =>
          rw [he] at h
          rw [ih h, enterReservation_eq_ok he]
          rfl

namespace Worksheet

/-- The store with everything written that waits. -/
def flushed (w : Worksheet) : Store :=
  { w.store with
    reservations := w.newReservations.foldl Table.insert w.store.reservations
    placements := w.droppedPlacements.foldl Table.erase
      (w.newPlacements.foldl Table.insert w.store.placements)
    audits := w.newAudits.foldl Table.insert w.store.audits }

lemma flush_eq_ok {w : Worksheet} {t : Store} (h : w.flush = .ok t) :
    t = w.flushed ∧ t.fits = true := by
  rw [flush] at h
  cases he : w.store.enterReservations w.newReservations with
  | error e => simp [he] at h
  | ok entered =>
      have hentered := Store.enterReservations_eq_ok he
      simp only [he] at h
      split at h
      · rename_i hfits
        have ht := Except.ok.inj h
        refine ⟨?_, ht ▸ hfits⟩
        rw [← ht, hentered]
        rfl
      · cases h

@[simp] lemma flushed_of_store (s : Store) : ({ store := s } : Worksheet).flushed = s :=
  rfl

/-! ### What each change does -/

/-- The row that a new reservation is written in. -/
def newReservationRow (a : Author) (r : Reservation) : ReservationRow :=
  reservationRow a r
    { equipment := a.equipment, showId := r.showId, createdBy := a.user, created := some a.now }

/-- What the writing of a change does to a worksheet. -/
inductive Wrote (a : Author) (w : Worksheet) : Change → Worksheet → Prop where
  /-- A new reservation waits. -/
  | newReservation (r : Reservation) (new : r.id = none) :
      Wrote a w (.putReservation r)
        { w with newReservations := w.newReservations ++ [newReservationRow a r] }
  /-- The row of a reservation is edited, which must be a row of the equipment. -/
  | oldReservation (r : Reservation) (id : Int) (row : ReservationRow) (old : r.id = some id)
      (stored : w.store.reservations.find? id = some row) (own : row.equipment = a.equipment) :
      Wrote a w (.putReservation r)
        { w with store := { w.store with
          reservations := w.store.reservations.modify id (reservationRow a r) } }
  /-- A reservation is dropped from the flushed store. -/
  | dropReservation (id : Int) (showId : Option Int) :
      Wrote a w (.dropReservation id showId)
        { store := { w.flushed with reservations := w.flushed.reservations.erase id } }
  | replacePlacements (placements : List Placement) :
      Wrote a w (.replacePlacements placements) (w.replacePlacements a placements)
  | setInstallation (i : Installation) :
      Wrote a w (.setInstallation i) (w.editEquipment a (installationRow i))
  | setTotal (total : Int) :
      Wrote a w (.setTotal total) (w.editEquipment a fun row => { row with total := total })

theorem wrote_of_write {w w' : Worksheet} {a : Author} {c : Change} (h : w.write a c = .ok w') :
    Wrote a w c w' := by
  cases c with
  | putReservation r =>
      simp only [write, putReservation] at h
      cases hid : r.id with
      | none =>
          simp only [hid] at h
          rw [← Except.ok.inj h]
          exact .newReservation r hid
      | some id =>
          simp only [hid] at h
          cases hrow : w.store.reservation? id with
          | error e => simp [hrow] at h
          | ok row =>
              simp only [hrow] at h
              split at h
              · rename_i hown
                rw [← Except.ok.inj h]
                exact .oldReservation r id row hid (Store.reservation?_eq_ok.1 hrow).2 hown
              · cases h
  | dropReservation id showId =>
      simp only [write, dropReservation] at h
      cases hrow : w.store.reservation? id with
      | error e => simp [hrow] at h
      | ok row =>
          cases hflush : w.flush with
          | error e => simp [hrow, hflush] at h
          | ok t =>
              simp only [hrow, hflush] at h
              rw [← Except.ok.inj h, (flush_eq_ok hflush).1]
              exact .dropReservation id showId
  | replacePlacements placements =>
      rw [← Except.ok.inj h]
      exact .replacePlacements placements
  | setInstallation i =>
      rw [← Except.ok.inj h]
      exact .setInstallation i
  | setTotal total =>
      rw [← Except.ok.inj h]
      exact .setTotal total

lemma wrote_of_writeAll {w w' : Worksheet} {a : Author} {c : Change}
    (h : w.writeAll a [c] = .ok w') : Wrote a w c w' := by
  rw [writeAll] at h
  split at h
  · cases h
  · rename_i next hnext
    rw [← Except.ok.inj h]
    exact wrote_of_write hnext

/-- What each change carries from a ledger and a worksheet to those after it, in view of the changes
that are still to come, all changes carry. -/
theorem writeAll_induction {a : Author} {I : List Change → Snapshot → Worksheet → Prop}
    {cs : List Change} {m m' : Snapshot} {w w' : Worksheet}
    (applied : Change.applyAll m cs = .ok m') (written : w.writeAll a cs = .ok w')
    (start : I cs m w)
    (step : ∀ c rest m m' w w', Change.apply m c = .ok m' → Wrote a w c w' → I (c :: rest) m w →
      I rest m' w') :
    I [] m' w' := by
  induction cs generalizing m w with
  | nil =>
      rw [← Except.ok.inj applied, ← Except.ok.inj written]
      exact start
  | cons c rest ih =>
      obtain ⟨next, happlied, hrest⟩ := Change.exists_apply_of_applyAll applied
      rw [writeAll] at written
      cases hw : w.write a c with
      | error e => simp [hw] at written
      | ok wrote =>
          rw [hw] at written
          exact ih hrest written (step c rest m next w wrote happlied (wrote_of_write hw) start)

/-! ### The flushed store after each change -/

lemma flushed_newReservation (w : Worksheet) (row : ReservationRow) :
    ({ w with newReservations := w.newReservations ++ [row] } : Worksheet).flushed
      = { w.flushed with reservations := w.flushed.reservations.insert row } := by
  simp [flushed, List.foldl_append]

/-- A row that can be found is older than the rows that wait. -/
lemma find?_flushed_of_find? {w : Worksheet} {id : Int} {row : ReservationRow}
    (h : w.store.reservations.find? id = some row) :
    w.flushed.reservations.find? id = some row :=
  Table.find?_insertAll_of_find? h

lemma flushed_editReservation {w : Worksheet} {id : Int} {row : ReservationRow}
    (h : w.store.reservations.find? id = some row) (f : ReservationRow → ReservationRow) :
    ({ w with store := { w.store with reservations := w.store.reservations.modify id f } } :
        Worksheet).flushed
      = { w.flushed with reservations := w.flushed.reservations.modify id f } := by
  simp only [flushed, Table.modify_insertAll w.newReservations (Table.lt_nextId_of_find? h) f]

lemma flushed_editEquipment (w : Worksheet) (a : Author) (f : EquipmentRow → EquipmentRow) :
    (w.editEquipment a f).flushed
      = { w.flushed with equipments := w.flushed.equipments.modify a.equipment f } :=
  rfl

end Worksheet

/-! ### The whole commit -/

/-- Who a proposal is written for. -/
def Proposal.author (p : Proposal) (now : Moment) : Worksheet.Author :=
  { equipment := p.equipment, user := p.user, now }

namespace Store

/-- What a commit that succeeds has done: the ledger was read, nothing spoke against the changes,
they were written, and everything that waited was flushed. -/
structure Commits (s : Store) (p : Proposal) (now : Moment) (before after : Snapshot)
    (w : Worksheet) (t : Store) (committed : Snapshot) : Prop where
  read : s.ledger? p.equipment = .ok before
  expected : checkExpected p.expected before.version = .ok ()
  current : p.checkRead before.version = .ok ()
  applied : Change.applyAll before p.changes = .ok after
  lawful : after.violations = []
  written : Worksheet.writeAll { store := s } (p.author now) p.changes = .ok w
  stored : t = (complete w (p.author now) p before after).flushed
  fits : t.fits = true
  reread : t.ledger? p.equipment = .ok committed

lemma prepare_eq_ok {s : Store} {p : Proposal} {before after : Snapshot}
    (h : s.prepare p = .ok (before, after)) :
    s.ledger? p.equipment = .ok before ∧ checkExpected p.expected before.version = .ok ()
      ∧ p.checkRead before.version = .ok () ∧ Change.applyAll before p.changes = .ok after
      ∧ after.violations = [] := by
  rw [prepare] at h
  split at h
  · cases h
  · rename_i read hread
    split at h
    · cases h
    · rename_i hexpected
      split at h
      · cases h
      · rename_i hcurrent
        split at h
        · cases h
        · rename_i changed happlied
          split at h
          · rename_i hlawful
            cases h
            exact ⟨hread, hexpected, hcurrent, happlied, hlawful⟩
          · cases h

/-- Changes that were prepared from a ledger are committed to the same version of it. -/
lemma Commits.version_eq_of_read {s t : Store} {p : Proposal} {now : Moment}
    {before after committed : Snapshot} {w : Worksheet} {version : Int}
    (h : s.Commits p now before after w t committed) (read : p.read = some version) :
    version = before.version := by
  have hcurrent := h.current
  simp only [Proposal.checkRead, read] at hcurrent
  split at hcurrent
  · assumption
  · cases hcurrent

theorem commits_of_commit {s t : Store} {p : Proposal} {now : Moment} {committed : Snapshot}
    (h : s.commit p now = .ok (t, committed)) :
    ∃ before after w, s.Commits p now before after w t committed := by
  rw [commit] at h
  split at h
  · cases h
  · rename_i before after hprepared
    obtain ⟨hread, hexpected, hcurrent, happlied, hlawful⟩ := prepare_eq_ok hprepared
    simp only at h
    split at h
    · cases h
    · rename_i w hwritten
      split at h
      · cases h
      · rename_i stored hflush
        obtain ⟨hstored, hfits⟩ := Worksheet.flush_eq_ok hflush
        split at h
        · cases h
        · rename_i reread hreread
          cases h
          exact ⟨before, after, w, hread, hexpected, hcurrent, happlied, hlawful, hwritten,
            hstored, hfits, hreread⟩

end Store

end StageStock
