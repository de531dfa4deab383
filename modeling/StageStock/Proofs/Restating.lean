import Mathlib.Tactic.Lemma
import StageStock.Proofs.Reseating
import StageStock.Proofs.States

/-!
Changes that say what is stored already.

Writing them changes nothing but times: those at which rows of placements and reservations were
changed last. A commit of such changes raises the version, notes itself in the audit trail, and
leaves the rest of the store as it was.

* `Store.untimed`: a store without the times at which rows of placements and reservations were
  changed last;
* `PlacementRow.Holds`, `ReservationRow.Holds`: writing a placement or a reservation in its row
  changes nothing but the time. The rows that a commit has written hold what was committed
  (`Store.Commits.exists_recorded`, `Store.Commits.holds_replaced`);
* `Change.Settled`: changes that say what is stored of an equipment already
  (`Change.Settled.exists_written`);
* `Store.Restates`: what a commit of such changes makes of a store (`Store.Commits.restates`).
-/

namespace StageStock

/-! ### Tables with all rows changed -/

namespace Table

variable {α β : Type} {t u : Table α} {id : Int}

/-- The table with all rows changed. -/
def map (f : α → β) (t : Table α) : Table β :=
  ⟨t.rows.map fun row => (row.1, f row.2), by
    rw [List.map_map]
    exact t.ascending⟩

lemma select_map (f : α → β) (t : Table α) (p : β → Bool) :
    (t.map f).select p = (t.select fun a => p (f a)).map fun row => (row.1, f row.2) := by
  simp only [select, map, List.filter_map]
  rfl

/-- An edit is known by what it makes of the row that is there. -/
lemma modify_congr {f g : α → α} (h : ∀ a, t.find? id = some a → f a = g a) :
    t.modify id f = t.modify id g := by
  refine ext_rows (List.map_congr_left fun row hrow => ?_)
  split
  · rename_i hid
    rw [h row.2 (hid ▸ find?_of_mem hrow)]
  · rfl

/-- An edit that keeps the row keeps the table. -/
lemma modify_eq_self {f : α → α} (h : ∀ a, t.find? id = some a → f a = a) :
    t.modify id f = t := by
  refine (modify_congr (g := fun a => a) h).trans (ext_rows ?_)
  rw [rows_modify]
  exact List.map_id'' (fun row => by split <;> rfl) _

/-- An edit that keeps what is left of the row keeps what is left of the table. -/
lemma map_modify_eq {f : α → α} {g : α → β} (h : ∀ a, t.find? id = some a → g (f a) = g a) :
    (t.modify id f).map g = t.map g := by
  refine ext_rows ?_
  simp only [map, rows_modify, List.map_map]
  refine List.map_congr_left fun row hrow => ?_
  simp only [Function.comp]
  split
  · rename_i hid
    rw [h row.2 (hid ▸ find?_of_mem hrow)]
  · rfl

/-- Tables are the same if all groups of their rows are. -/
lemma eq_of_select {γ : Type} [DecidableEq γ] {g : α → γ}
    (h : ∀ c, (t.select fun a => g a = c) = u.select fun a => g a = c) : t = u := by
  have hmem : ∀ row, row ∈ t.rows ↔ row ∈ u.rows := by
    intro row
    have hgroup : row ∈ (t.select fun a => g a = g row.2) ↔ row ∈ u.select fun a => g a = g row.2 :=
      by rw [h]
    simpa only [mem_select, decide_true, and_true] using hgroup
  have hperm : (t.rows.map Prod.fst).Perm (u.rows.map Prod.fst) :=
    (perm_of_mem_iff t.nodup_rows u.nodup_rows hmem).map _
  have hids : t.rows.map Prod.fst = u.rows.map Prod.fst :=
    hperm.eq_of_pairwise (fun a b _ _ hab hba => absurd (Int.lt_trans hab hba) (Int.lt_irrefl a))
      t.ascending u.ascending
  refine ext_rows ?_
  have hrows := rows_eq_map_of_find? (t := t) (u := u) (f := Prod.snd) hids.symm
    fun row hrow => find?_of_mem ((hmem row).1 hrow)
  rw [hrows]
  exact (List.map_id'' (fun _ => rfl) _).symm

end Table

/-! ### Stores without times -/

/-- The row without the time of its last change. -/
def PlacementRow.untimed (r : PlacementRow) : PlacementRow :=
  { r with updated := none }

/-- The row without the time of its last change. -/
def ReservationRow.untimed (r : ReservationRow) : ReservationRow :=
  { r with updated := none }

/-- The store without the times at which rows of placements and reservations were changed last. -/
def Store.untimed (s : Store) : Store :=
  { s with
    placements := s.placements.map PlacementRow.untimed
    reservations := s.reservations.map ReservationRow.untimed }

/-- Ledgers do not say when rows were changed. -/
@[simp] lemma Store.snapshot_untimed (s : Store) (e : Int) (row : EquipmentRow) :
    s.untimed.snapshot e row = s.snapshot e row := by
  have hplacements : s.untimed.placementsOf e
      = (s.placementsOf e).map fun r => (r.1, r.2.untimed) := Table.select_map _ _ _
  have hreservations : s.untimed.reservationsOf e
      = (s.reservationsOf e).map fun r => (r.1, r.2.untimed) := Table.select_map _ _ _
  simp only [snapshot, hplacements, hreservations, List.filterMap_map, List.map_map]
  rfl

/-! ### Rows that hold what is written -/

open Worksheet in
/-- Writing the placement in the row changes nothing but the time. -/
def PlacementRow.Holds (row : PlacementRow) (p : Placement) : Prop :=
  ∀ a : Author, (placementRow a p row).untimed = row.untimed

open Worksheet in
/-- Writing the reservation in the row changes nothing but the time. -/
def ReservationRow.Holds (row : ReservationRow) (r : Reservation) : Prop :=
  ∀ a : Author, (reservationRow a r row).untimed = row.untimed

namespace Worksheet

/-- A row holds the placement that was written in it. -/
lemma holds_placementRow (a : Author) (p : Placement) (row : PlacementRow) :
    (placementRow a p row).Holds p :=
  fun _ => rfl

/-- A row holds the reservation that was written in it: if the units are checked out, the time of
that is written already. -/
lemma holds_reservationRow (a : Author) (r : Reservation) (row : ReservationRow) :
    (reservationRow a r row).Holds r := by
  intro b
  by_cases hout : r.status = ReservationStatus.checkedOut.text
  · by_cases hnever : row.checkedOutAt = none
    · simp [reservationRow, ReservationRow.untimed, hout, hnever]
    · simp [reservationRow, ReservationRow.untimed, hout, hnever]
  · simp [reservationRow, ReservationRow.untimed, hout]

end Worksheet

namespace PlacementRow.Holds

variable {row : PlacementRow} {p q : Placement}

lemma eq (h : row.Holds p) : Place.columns (some p.place) = (row.placeId, row.placeText)
    ∧ p.quantity = row.quantity ∧ p.status = row.status ∧ p.notes = row.notes := by
  have hrow := h ⟨0, none, default⟩
  simp only [Worksheet.placementRow, untimed, mk.injEq] at hrow
  obtain ⟨-, hid, htext, hquantity, hstatus, hnotes, -⟩ := hrow
  exact ⟨Prod.ext hid htext, hquantity, hstatus, hnotes⟩

/-- The row is for the place of what it holds. -/
lemma exists_place (h : row.Holds p) (words : p.place.HasWords) :
    ∃ place, row.place? = some place ∧ place.key = p.place.key := by
  obtain ⟨hcolumns, -⟩ := h.eq
  refine ⟨p.place.normalised, ?_, Place.key_normalised p.place⟩
  have hread := Place.ofColumns_columns p.place
  rw [hcolumns, Place.reread, if_pos words] at hread
  exact hread

end PlacementRow.Holds

/-- Two reservations say the same of units, status and notes. -/
structure Reservation.Matches (q r : Reservation) : Prop where
  needed : q.needed = r.needed
  allocated : q.allocated = r.allocated
  status : q.status = r.status
  notes : q.notes = r.notes

namespace ReservationRow.Holds

variable {row : ReservationRow} {q r : Reservation}

lemma eq (h : row.Holds q) : q.needed = row.needed ∧ q.allocated = row.allocated := by
  have hrow := h ⟨0, none, default⟩
  simp only [Worksheet.reservationRow, untimed, mk.injEq] at hrow
  obtain ⟨-, -, hneeded, hallocated, -⟩ := hrow
  exact ⟨hneeded, hallocated⟩

lemma congr (h : row.Holds q) (same : r.Matches q) : row.Holds r := by
  intro a
  rw [← h a]
  simp only [Worksheet.reservationRow, untimed, same.needed, same.allocated, same.status,
    same.notes]

end ReservationRow.Holds

/-! ### What a commit has written -/

namespace Store

variable {s t u : Store} {a : Worksheet.Author} {b : Bucket} {cs : List Change}
  {q : Reservation} {p : Proposal} {now : Moment} {before after committed : Snapshot}
  {w : Worksheet} {ps : List Placement}

/-- A reservation is written in its row, or in a new one of its show. -/
lemma Writes.exists_put (h : s.Writes a b cs u) (put : .putReservation q ∈ cs) :
    ∃ id row, u.reservations.find? id = some (Worksheet.reservationRow a q row)
      ∧ row.equipment = a.equipment ∧ b = .reservation row.showId
      ∧ ∀ known, q.id = some known → id = known := by
  cases h with
  | newReservation r new =>
      obtain rfl := Change.putReservation.inj (List.mem_singleton.1 put)
      refine ⟨_, _, s.reservations.find?_insert_nextId _, rfl, rfl, fun known hknown => ?_⟩
      rw [new] at hknown
      cases hknown
  | editReservation id row r stored own same =>
      obtain rfl := Change.putReservation.inj (List.mem_singleton.1 put)
      refine ⟨id, row, ?_, own, rfl, fun known hknown => Option.some.inj (same.symm.trans hknown)⟩
      simp only [Table.find?_modify, if_true, stored, Option.map_some]
  | renewReservation id showId row r stored own ended new same =>
      obtain rfl : q = r := by simpa using put
      refine ⟨_, _, (s.reservations.erase id).find?_insert_nextId _, rfl, by rw [same],
        fun known hknown => ?_⟩
      rw [new] at hknown
      cases hknown
  | _ => simp at put

namespace Commits

/-- A reservation that was dropped is gone. -/
lemma find?_of_drop (h : s.Commits p now before after w t committed)
    (touches : Change.Touches before b p.changes) {id : Int} {showId : Option Int}
    (drops : p.changes = [.dropReservation id showId]) : t.reservations.find? id = none := by
  have hwrites := h.writes touches
  rw [drops] at hwrites
  rw [h.tables_eq.2]
  generalize w.flushed = u at hwrites
  cases hwrites with
  | dropReservation => exact (Table.find?_erase _ _ _).trans (if_pos rfl)

/-- The reservation that is recorded at last is read again as it was recorded. -/
lemma exists_recorded (h : s.Commits p now before after w t committed)
    (touches : Change.Touches before b p.changes) (front : List Change)
    (puts : p.changes = front ++ [.putReservation q]) :
    ∃ id row, t.reservations.find? id = some row ∧ row.equipment = p.equipment
      ∧ b = .reservation row.showId ∧ (∀ known, q.id = some known → id = known)
      ∧ row.Holds q ∧ (t.reservationOf (id, row)).Matches q := by
  have hput : .putReservation q ∈ p.changes := by
    rw [puts]
    exact List.mem_append_right _ (List.mem_singleton_self _)
  obtain ⟨id, row, hrow, hown, hbucket, hid⟩ := (h.writes touches).exists_put hput
  rw [← h.tables_eq.2] at hrow
  have hknown : q.status ≠ "" := by
    have happlied := h.applied
    rw [puts] at happlied
    obtain ⟨mid, -, hlast⟩ := Change.applyAll_append happlied
    have hlisted : q ∈ after.reservations := by
      rw [← Except.ok.inj hlast]
      exact List.mem_append_right _ (List.mem_singleton_self q)
    have hsound := (Snapshot.violations_eq_nil_iff_isSound after).1 h.lawful
    exact (hsound.reservations q hlisted).status_ne_empty
  exact ⟨id, _, hrow, hown, hbucket, hid, Worksheet.holds_reservationRow _ q row,
    rfl, rfl, if_neg hknown, rfl⟩

/-- After a replacement, the rows of the equipment hold just the new placements. -/
lemma holds_replaced (h : s.Commits p now before after w t committed)
    (replaced : p.changes = [.replacePlacements ps])
    (nodup : (ps.map fun q => q.place.key).Nodup) :
    (∀ q ∈ ps, ∃ row ∈ t.placementsOf p.equipment, row.2.Holds q)
      ∧ ∀ row ∈ t.placementsOf p.equipment, ∃ q ∈ ps, row.2.Holds q := by
  have hwritten := h.written
  rw [replaced] at hwritten
  obtain rfl := Except.ok.inj hwritten
  have hrows : t.placementsOf p.equipment = _ :=
    (congrArg (fun placements => placements.select fun r => r.equipment = p.equipment)
      h.tables_eq.1).trans (Worksheet.placementsOf_replacement (a := p.author now) nodup)
  rw [hrows]
  constructor
  · intro q hq
    cases hseat : ({ store := s } : Worksheet).seat? p.equipment q with
    | some id =>
        obtain ⟨old, hold, rfl, -⟩ := Worksheet.exists_row_of_seat? hseat
        have howner : s.owner? p.equipment ps old = some q :=
          Worksheet.find?_seat? (a := p.author now) nodup hq hseat
        exact ⟨_, List.mem_append_left _ (List.mem_filterMap.2 ⟨old, hold, by
          rw [show s.owner? (p.author now).equipment ps old = some q from howner,
            Option.map_some]⟩), Worksheet.holds_placementRow _ q _⟩
    | none =>
        have hnew : q ∈ s.newcomers p.equipment ps := List.mem_filter.2 ⟨hq, decide_eq_true hseat⟩
        obtain ⟨row, hrow, hsame⟩ : ∃ row ∈ numberFrom s.placements.nextId
            ((s.newcomers p.equipment ps).map (Worksheet.newPlacementRow (p.author now))),
            row.2 = Worksheet.newPlacementRow (p.author now) q :=
          List.mem_map.1 (by
            rw [map_snd_numberFrom]
            exact List.mem_map_of_mem hnew)
        refine ⟨row, List.mem_append_right _ hrow, ?_⟩
        rw [hsame]
        exact Worksheet.holds_placementRow _ q _
  · intro row hrow
    rcases List.mem_append.1 hrow with hrow | hrow
    · obtain ⟨old, -, hkept⟩ := List.mem_filterMap.1 hrow
      obtain ⟨q, howner, rfl⟩ := Option.map_eq_some_iff.1 hkept
      exact ⟨q, List.mem_of_find?_eq_some howner, Worksheet.holds_placementRow _ q _⟩
    · obtain ⟨q, hq, hsame⟩ := List.mem_map.1 (mem_of_mem_numberFrom hrow)
      rw [← hsame]
      exact ⟨q, (List.mem_filter.1 hq).1, Worksheet.holds_placementRow _ q _⟩

/-- After an installation was set, the row of the equipment says so. -/
lemma holds_installed {i : Installation} (h : s.Commits p now before after w t committed)
    (sets : p.changes = [.setInstallation i]) :
    ∃ row, t.equipments.find? p.equipment = some row
      ∧ Worksheet.installationRow i row = row := by
  have hwritten := h.written
  rw [sets] at hwritten
  obtain rfl := Except.ok.inj hwritten
  obtain ⟨written, hwritten, hstored⟩ := h.exists_written_row
  refine ⟨_, hstored, ?_⟩
  simp only [Worksheet.flushed_editEquipment, Table.find?_modify, Proposal.author, if_true]
    at hwritten
  obtain ⟨row, -, rfl⟩ := Option.map_eq_some_iff.1 hwritten
  rfl

/-- A commit of what orders prepare leaves the equipment with the state of its ledger. -/
lemma status_of_proper (h : s.Commits p now before after w t committed)
    (proper : Change.Proper before p.changes) :
    ∀ row, t.equipments.find? p.equipment = some row →
      row.status = some committed.status.text := by
  intro row hrow
  obtain ⟨written, -, hstored⟩ := h.exists_written_row
  obtain rfl := Option.some.inj (hstored.symm.trans hrow)
  rw [← (h.alike_of_proper proper).status_congr]

end Commits

end Store

/-! ### Settled changes -/

namespace Change

/-- Changes that say what is stored of an equipment already. -/
inductive Settled (s : Store) (e : Int) : List Change → Prop where
  | setTotal (row : EquipmentRow) (stored : s.equipments.find? e = some row) :
      Settled s e [.setTotal row.total]
  | setInstallation (i : Installation) (row : EquipmentRow)
      (stored : s.equipments.find? e = some row) (holds : Worksheet.installationRow i row = row) :
      Settled s e [.setInstallation i]
  | replacePlacements (ps : List Placement) (nodup : (ps.map fun p => p.place.key).Nodup)
      (words : ∀ p ∈ ps, p.place.HasWords)
      (stored : ∀ p ∈ ps, ∃ row ∈ s.placementsOf e, row.2.Holds p)
      (asked : ∀ row ∈ s.placementsOf e, ∃ p ∈ ps, row.2.Holds p) :
      Settled s e [.replacePlacements ps]
  | putReservation (r : Reservation) (id : Int) (row : ReservationRow) (old : r.id = some id)
      (stored : s.reservation? id = .ok row) (own : row.equipment = e)
      (asks : row.showId = r.showId) (holds : row.Holds r) : Settled s e [.putReservation r]

namespace Settled

variable {s : Store} {e : Int} {cs : List Change} {ledger : Snapshot}

lemma exists_applied (h : Settled s e cs) (m : Snapshot) : ∃ after, applyAll m cs = .ok after := by
  cases h <;> exact ⟨_, rfl⟩

/-- Numbers that are stored can be stored. -/
lemma fits (h : Settled s e cs) (stored : s.fits = true) : ∀ c ∈ cs, c.Fits := by
  obtain ⟨hequipments, hplacements, hreservations, -⟩ := Store.fits_iff.1 stored
  intro c hc
  cases h with
  | setTotal row found =>
      rw [List.mem_singleton.1 hc]
      exact EquipmentRow.fitsWord_total_of_fits
        (hequipments _ (Table.find?_eq_some_iff.1 found))
  | setInstallation i row found holds =>
      have hfits := hequipments _ (Table.find?_eq_some_iff.1 found)
      rw [← holds] at hfits
      simp only [EquipmentRow.fits, Worksheet.installationRow, Bool.and_eq_true] at hfits
      rw [List.mem_singleton.1 hc]
      exact ⟨hfits.1.2, hfits.1.1.2⟩
  | replacePlacements ps nodup words found asked =>
      rw [List.mem_singleton.1 hc]
      intro p hp
      obtain ⟨row, hrow, hholds⟩ := found p hp
      obtain ⟨hcolumns, hquantity, -⟩ := hholds.eq
      have hfits := hplacements _ (Store.mem_placementsOf.1 hrow).1
      simp only [PlacementRow.fits, Bool.and_eq_true] at hfits
      rw [hcolumns, hquantity]
      exact ⟨hfits.1.1.2, hfits.1.2⟩
  | putReservation r id row old found own asks holds =>
      obtain ⟨-, hrow⟩ := Store.reservation?_eq_ok.1 found
      have hfits := hreservations _ (Table.find?_eq_some_iff.1 hrow)
      obtain ⟨hneeded, hallocated⟩ := holds.eq
      simp only [ReservationRow.fits, Bool.and_eq_true] at hfits
      rw [List.mem_singleton.1 hc]
      refine ⟨asks ▸ hfits.1.1.1.2, ?_, ?_⟩
      · rw [hneeded]
        exact hfits.1.1.2
      · rw [hallocated]
        exact hfits.1.2

end Settled

end Change

/-! ### What settled changes write -/

namespace Worksheet

variable {s : Store} {a : Author} {ps : List Placement}

/-- Placements that have rows which hold them are written without effect. -/
lemma untimed_replacePlacements (nodup : (ps.map fun p => p.place.key).Nodup)
    (new : s.newcomers a.equipment ps = [])
    (owned : ∀ row ∈ s.placementsOf a.equipment,
      ∃ p, s.owner? a.equipment ps row = some p ∧ row.2.Holds p) :
    (({ store := s } : Worksheet).replacePlacements a ps).flushed.untimed = s.untimed := by
  obtain ⟨placements, hflushed⟩ := flushed_replacePlacements { store := s } a ps
  have hown : ({ store := s } : Worksheet).Owns a.equipment := ⟨by simp, by simp⟩
  have hmine := placementsOf_replacement (s := s) (a := a) nodup
  have hothers (e : Int) (apart : e ≠ a.equipment) :
      (({ store := s } : Worksheet).replacePlacements a ps).flushed.placementsOf e
        = s.placementsOf e := by
    rw [placementsOf_flushed_beside hown.replacePlacements apart,
      placementsOf_replacePlacements_beside apart]
  rw [hflushed] at hmine hothers ⊢
  have htable : placements.map PlacementRow.untimed = s.placements.map PlacementRow.untimed := by
    refine Table.eq_of_select (g := PlacementRow.equipment) fun e => ?_
    rw [Table.select_map, Table.select_map]
    show (placements.select fun r => r.equipment = e).map _ = (s.placementsOf e).map _
    by_cases he : e = a.equipment
    · rw [he]
      refine (congrArg _ hmine).trans ?_
      rw [new, List.map_nil, numberFrom, List.append_nil, List.map_filterMap,
        ← List.filterMap_eq_map]
      refine List.filterMap_congr fun row hrow => ?_
      obtain ⟨p, howner, hholds⟩ := owned row hrow
      rw [howner, Option.map_some, Option.map_some, hholds a]
      rfl
    · exact congrArg _ (hothers e he)
  show ({ s.untimed with placements := placements.map PlacementRow.untimed } : Store) = _
  rw [htable]
  rfl

end Worksheet

namespace Change.Settled

variable {s : Store} {e : Int} {cs : List Change} {ledger : Snapshot} {a : Worksheet.Author}

/-- Settled changes can be written, which changes nothing but times. -/
theorem exists_written (h : Settled s a.equipment cs) (read : s.ledger? a.equipment = .ok ledger)
    (sound : ledger.IsSound) :
    ∃ w, Worksheet.writeAll { store := s } a cs = .ok w ∧ w.flushed.untimed = s.untimed := by
  cases h with
  | setTotal row stored =>
      refine ⟨_, rfl, ?_⟩
      rw [Worksheet.flushed_editEquipment, Table.modify_eq_self fun found hfound => ?_]
      · rfl
      · rw [Option.some.inj (stored.symm.trans hfound)]
  | setInstallation i row stored holds =>
      refine ⟨_, rfl, ?_⟩
      rw [Worksheet.flushed_editEquipment, Table.modify_eq_self fun found hfound => ?_]
      · rfl
      · rw [← Option.some.inj (stored.symm.trans hfound)]
        exact holds
  | replacePlacements ps nodup words stored asked =>
      obtain ⟨equipment, -, -, rfl⟩ := Store.ledger?_eq_ok.1 read
      have hseat {p : Placement} (hp : p ∈ ps) {row : Int × PlacementRow}
          (hrow : row ∈ s.placementsOf a.equipment) (holds : row.2.Holds p) :
          ({ store := s } : Worksheet).seat? a.equipment p = some row.1 := by
        obtain ⟨place, hplace, hkey⟩ := holds.exists_place (words p hp)
        exact (Store.seat?_eq_some_iff sound.places hrow).2 ⟨place, hplace, hkey.symm⟩
      refine ⟨_, rfl, Worksheet.untimed_replacePlacements nodup ?_ fun row hrow => ?_⟩
      · refine List.filter_eq_nil_iff.2 fun p hp => ?_
        obtain ⟨row, hrow, holds⟩ := stored p hp
        rw [hseat hp hrow holds]
        simp
      · obtain ⟨p, hp, holds⟩ := asked row hrow
        exact ⟨p, Worksheet.find?_seat? nodup hp (hseat hp hrow holds), holds⟩
  | putReservation r id row old stored own asks holds =>
      refine ⟨_, Worksheet.writeAll_putReservation old stored own, ?_⟩
      obtain ⟨-, hrow⟩ := Store.reservation?_eq_ok.1 stored
      show ({ s.untimed with reservations :=
        (s.reservations.modify id _).map ReservationRow.untimed } : Store) = _
      rw [Table.map_modify_eq fun found hfound => ?_]
      · rfl
      · rw [← Option.some.inj (hrow.symm.trans hfound)]
        exact holds a

end Change.Settled

/-! ### Commits of settled changes -/

namespace Store

/-- `t` is the store `s` with the version of an equipment raised by one and one more entry in the
audit trail; besides, only times of last changes differ. -/
def Restates (e : Int) (s t : Store) : Prop :=
  ∃ updated entry, t.untimed = { s.untimed with
    equipments := s.equipments.modify e fun row => { row with version := row.version + 1, updated }
    audits := s.audits.insert entry }

variable {s t : Store} {p : Proposal} {now : Moment} {before after committed : Snapshot}
  {w : Worksheet}

namespace Commits

/-- What settled changes leave is what was there, but for what every commit writes. -/
lemma untimed_eq (h : s.Commits p now before after w t committed)
    (same : w.flushed.untimed = s.untimed) :
    t.untimed = { s.untimed with
      equipments := s.equipments.modify p.equipment fun row =>
        { row with
          version := before.version + 1, status := some after.status.text, updated := some now }
      audits := s.audits.insert (p.entry now before after) } := by
  obtain ⟨audits, hflushed⟩ := flushed_complete w (p.author now) p before after
  have htables : t.untimed = { w.flushed.untimed with
      equipments := w.flushed.untimed.equipments.modify p.equipment fun row =>
        { row with
          version := before.version + 1, status := some after.status.text, updated := some now }
      audits := t.audits } := by
    rw [h.stored, hflushed]
    rfl
  rw [htables, same, h.audits_eq]
  rfl

/-- The ledger is the same as well, but for the version. -/
lemma committed_eq_of_untimed (h : s.Commits p now before after w t committed)
    (same : w.flushed.untimed = s.untimed) :
    committed = { before with version := before.version + 1 } := by
  obtain ⟨row, -, hrow, rfl⟩ := ledger?_eq_ok.1 h.read
  obtain ⟨stored, hstored, hcommitted, -⟩ := h.committed_eq
  have hequipments : t.untimed.equipments = _ := congrArg equipments (h.untimed_eq same)
  have hwritten : some stored = _ :=
    hstored.symm.trans (congrArg (Table.find? · p.equipment) hequipments)
  simp only [Table.find?_modify, if_true, hrow, Option.map_some, Option.some.injEq] at hwritten
  rw [hcommitted, ← snapshot_untimed t, h.untimed_eq same, hwritten]
  exact (snapshot_untimed s p.equipment _ :)

/-- A commit of settled changes restates what is stored, if the state of the equipment was the one
of its ledger. -/
theorem restates (h : s.Commits p now before after w t committed)
    (proper : Change.Proper before p.changes) (same : w.flushed.untimed = s.untimed)
    (labelled : ∀ row, s.equipments.find? p.equipment = some row →
      row.status = some before.status.text) :
    s.Restates p.equipment t := by
  obtain ⟨row, -, hrow, hbefore⟩ := ledger?_eq_ok.1 h.read
  have hstatus : after.status = before.status := by
    rw [(h.alike_of_proper proper).status_congr, h.committed_eq_of_untimed same]
    rfl
  refine ⟨some now, p.entry now before after, ?_⟩
  rw [h.untimed_eq same, Table.modify_congr fun found hfound => ?_]
  obtain rfl := Option.some.inj (hrow.symm.trans hfound)
  rw [hstatus, ← labelled row hrow, hbefore]
  rfl

end Commits

end Store

end StageStock
