import Mathlib.Tactic.Lemma
import StageStock.Proofs.Replacement
import StageStock.Proofs.StoredPlace

/-!
What a commit leaves alone, and what it writes in the row of its equipment.

* `Store.AgreesBeside`: a store that differs from another in the ledger of one equipment only;
* `Worksheet.Tracks`: while changes are written, the worksheet differs from the store in that ledger
  only, its row holds the figures of the ledger in memory, and reservations in memory that have a
  row have one there (`Worksheet.Tracks.write`);
* `Store.Commits.agreesBeside`, `Store.Commits.version_eq`: the same of a whole commit, which raises
  the version by one.
-/

namespace StageStock

/-! ### Stores that differ in one ledger -/

/-- `t` differs from `s` in the ledger of one equipment only, and has that equipment if `s` has
it. -/
structure Store.AgreesBeside (e : Int) (s t : Store) : Prop where
  shows : t.shows = s.shows
  locations : t.locations = s.locations
  equipments : ∀ e', e' ≠ e → t.equipments.find? e' = s.equipments.find? e'
  registered : (t.equipments.find? e).isSome = (s.equipments.find? e).isSome
  placements : ∀ e', e' ≠ e → t.placementsOf e' = s.placementsOf e'
  reservations : ∀ e', e' ≠ e → t.reservationsOf e' = s.reservationsOf e'

namespace Store.AgreesBeside

variable {e : Int} {s t u : Store}

lemma refl (e : Int) (s : Store) : s.AgreesBeside e s :=
  ⟨rfl, rfl, fun _ _ => rfl, rfl, fun _ _ => rfl, fun _ _ => rfl⟩

lemma trans (h : s.AgreesBeside e t) (h' : t.AgreesBeside e u) : s.AgreesBeside e u where
  shows := h'.shows.trans h.shows
  locations := h'.locations.trans h.locations
  equipments e' hne := (h'.equipments e' hne).trans (h.equipments e' hne)
  registered := h'.registered.trans h.registered
  placements e' hne := (h'.placements e' hne).trans (h.placements e' hne)
  reservations e' hne := (h'.reservations e' hne).trans (h.reservations e' hne)

lemma isSome_find? (h : s.AgreesBeside e t) (e' : Int) :
    (t.equipments.find? e').isSome = (s.equipments.find? e').isSome := by
  by_cases he : e' = e
  · exact he ▸ h.registered
  · rw [h.equipments e' he]

/-- The ledgers of others are the same. -/
lemma snapshot_eq (h : s.AgreesBeside e t) {e' : Int} (hne : e' ≠ e) (row : EquipmentRow) :
    t.snapshot e' row = s.snapshot e' row := by
  simp only [snapshot, h.placements e' hne, h.reservations e' hne]
  congr 1
  exact List.map_congr_left fun r _ => by simp only [reservationOf, h.shows]

end Store.AgreesBeside

/-! ### The row of the equipment -/

namespace EquipmentRow

lemma recorded_installation (row : EquipmentRow) :
    row.installation.recorded = row.installation := by
  rw [Installation.recorded, installation]
  congr 1
  · by_cases h : row.installationKind = ""
    · simp only [h, if_true]
      decide
    · simp only [h, if_false]
  · cases h : Place.ofColumns row.placeId row.placeText with
    | none => rfl
    | some p => exact Place.reread_of_ofColumns h

lemma installation_installationRow (i : Installation) (row : EquipmentRow) :
    (Worksheet.installationRow i row).installation = i.recorded := by
  rw [Worksheet.installationRow, installation, Installation.recorded]
  cases h : i.place with
  | none => simp [Place.ofColumns_columns_none]
  | some p => simp [Place.ofColumns_columns]

lemma fitsWord_total_of_fits {row : EquipmentRow} (h : row.fits = true) :
    fitsWord row.total = true := by
  simp only [fits, Bool.and_eq_true] at h
  exact h.1.1.1

end EquipmentRow

namespace Worksheet

/-- While changes are written, the worksheet differs from the store in the ledger of the equipment
only. The row of the equipment holds the figures of the ledger in memory, and the reservations in
memory that have a row have one of the equipment. -/
structure Tracks (e : Int) (s : Store) (m : Snapshot) (w : Worksheet) : Prop where
  owns : w.Owns e
  beside : s.AgreesBeside e w.flushed
  named : ∀ r ∈ m.reservations, ∀ id, r.id = some id →
    ∃ row, w.flushed.reservations.find? id = some row ∧ row.equipment = e
  figures : ∃ row, w.flushed.equipments.find? e = some row ∧ row.total = m.total
    ∧ row.installation = m.installation.recorded

/-! ### Each change -/

/-- A replacement edits the table of placements. -/
lemma flushed_replacePlacements (w : Worksheet) (a : Author) (ps : List Placement) :
    ∃ placements, (w.replacePlacements a ps).flushed = { w.flushed with placements } := by
  obtain ⟨placements, new, h⟩ := putPlacements_eq a ps w (w.kept a.equipment)
  rw [replacePlacements_eq, h]
  exact ⟨_, rfl⟩

section Tables

variable {e : Int} {s t : Store}

/-- An edit of the table of reservations that leaves those of others alone. -/
lemma agreesBeside_reservations (h : s.AgreesBeside e t) {table : Table ReservationRow}
    (same : ∀ e', e' ≠ e → (table.select fun r => r.equipment = e') = t.reservationsOf e') :
    s.AgreesBeside e { t with reservations := table } where
  shows := h.shows
  locations := h.locations
  equipments := h.equipments
  registered := h.registered
  placements := h.placements
  reservations e' hne := (same e' hne).trans (h.reservations e' hne)

/-- An edit of the table of placements that leaves those of others alone. -/
lemma agreesBeside_placements (h : s.AgreesBeside e t) {table : Table PlacementRow}
    (same : ∀ e', e' ≠ e → (table.select fun r => r.equipment = e') = t.placementsOf e') :
    s.AgreesBeside e { t with placements := table } where
  shows := h.shows
  locations := h.locations
  equipments := h.equipments
  registered := h.registered
  placements e' hne := (same e' hne).trans (h.placements e' hne)
  reservations := h.reservations

lemma agreesBeside_editEquipment (h : s.AgreesBeside e t) (f : EquipmentRow → EquipmentRow) :
    s.AgreesBeside e { t with equipments := t.equipments.modify e f } where
  shows := h.shows
  locations := h.locations
  equipments e' hne := by
    rw [Table.find?_modify, if_neg hne]
    exact h.equipments e' hne
  registered := by
    rw [Table.find?_modify, if_pos rfl, Option.isSome_map]
    exact h.registered
  placements := h.placements
  reservations := h.reservations

end Tables

namespace Tracks

variable {a : Author} {s : Store} {m m' : Snapshot} {w w' : Worksheet} {c : Change}

lemma newReservation (h : w.Tracks a.equipment s m) {r : Reservation} (new : r.id = none)
    (applied : Change.apply m (.putReservation r) = .ok m') :
    ({ w with newReservations := w.newReservations ++ [newReservationRow a r] } :
      Worksheet).Tracks a.equipment s m' := by
  rw [← Except.ok.inj applied]
  refine ⟨⟨h.owns.new, h.owns.dropped⟩, ?_, ?_, ?_⟩
  · rw [flushed_newReservation]
    refine agreesBeside_reservations h.beside fun e' hne => ?_
    rw [Table.select_insert, if_neg, List.append_nil]
    · rfl
    · exact fun he => hne (of_decide_eq_true he).symm
  · intro r' hr' id hid
    rw [flushed_newReservation]
    rcases List.mem_append.1 hr' with hr' | hr'
    · obtain ⟨row, hrow, hown⟩ := h.named r' (List.mem_filter.1 hr').1 id hid
      exact ⟨row, Table.find?_insert_of_find? _ hrow, hown⟩
    · rw [List.mem_singleton.1 hr', new] at hid
      cases hid
  · rw [flushed_newReservation]
    exact h.figures

lemma oldReservation (h : w.Tracks a.equipment s m) {r : Reservation} {id : Int}
    {row : ReservationRow} (old : r.id = some id)
    (stored : w.store.reservations.find? id = some row) (own : row.equipment = a.equipment)
    (applied : Change.apply m (.putReservation r) = .ok m') :
    ({ w with store := { w.store with
        reservations := w.store.reservations.modify id (reservationRow a r) } } :
      Worksheet).Tracks a.equipment s m' := by
  rw [← Except.ok.inj applied]
  have hstored := find?_flushed_of_find? stored
  refine ⟨⟨h.owns.new, h.owns.dropped⟩, ?_, ?_, ?_⟩
  · rw [flushed_editReservation stored]
    refine agreesBeside_reservations h.beside fun e' hne =>
      Table.select_modify_eq fun row' hrow => ?_
    rw [hstored] at hrow
    have hne' : row'.equipment ≠ e' := fun he =>
      hne (he.symm.trans ((Option.some.inj hrow) ▸ own))
    exact ⟨decide_eq_false hne', decide_eq_false hne'⟩
  · intro r' hr' id' hid'
    rw [flushed_editReservation stored]
    have hrow' : ∃ row', w.flushed.reservations.find? id' = some row'
        ∧ row'.equipment = a.equipment := by
      rcases List.mem_append.1 hr' with hr' | hr'
      · exact h.named r' (List.mem_filter.1 hr').1 id' hid'
      · rw [List.mem_singleton.1 hr', old] at hid'
        exact ⟨row, Option.some.inj hid' ▸ hstored, own⟩
    obtain ⟨row', hfind, hown⟩ := hrow'
    rw [Table.find?_modify, hfind]
    by_cases he : id' = id
    · exact ⟨reservationRow a r row', by simp [he], hown⟩
    · exact ⟨row', by simp [he], hown⟩
  · rw [flushed_editReservation stored]
    exact h.figures

lemma dropReservation (h : w.Tracks a.equipment s m) {id : Int} {showId : Option Int}
    (applied : Change.apply m (.dropReservation id showId) = .ok m') :
    ({ store := { w.flushed with reservations := w.flushed.reservations.erase id } } :
      Worksheet).Tracks a.equipment s m' := by
  obtain ⟨⟨current, hcurrent, hid⟩, rfl⟩ := Change.dropped_of_apply applied
  obtain ⟨row, hrow, hown⟩ := h.named current hcurrent id hid
  refine ⟨⟨by simp, by simp⟩, ?_, ?_, ?_⟩
  · rw [flushed_of_store]
    refine agreesBeside_reservations h.beside fun e' hne =>
      Table.select_erase_eq fun row' hrow' => decide_eq_false fun he => hne ?_
    rw [hrow] at hrow'
    exact he.symm.trans ((Option.some.inj hrow') ▸ hown)
  · intro r hr id' hid'
    obtain ⟨hmem, hne⟩ := List.mem_filter.1 hr
    obtain ⟨row', hrow', hown'⟩ := h.named r hmem id' hid'
    have hother : id' ≠ id := fun he => of_decide_eq_true hne (he ▸ hid')
    rw [flushed_of_store]
    exact ⟨row', by rw [Table.find?_erase, if_neg hother, hrow'], hown'⟩
  · rw [flushed_of_store]
    exact h.figures

lemma replacePlacements (h : w.Tracks a.equipment s m) (ps : List Placement) :
    (w.replacePlacements a ps).Tracks a.equipment s { m with placements := ps } := by
  have howns : (w.replacePlacements a ps).Owns a.equipment := h.owns.replacePlacements
  have hrows : ∀ e', e' ≠ a.equipment →
      (w.replacePlacements a ps).flushed.placementsOf e' = w.flushed.placementsOf e' := by
    intro e' hne
    rw [placementsOf_flushed_beside howns hne, placementsOf_flushed_beside h.owns hne,
      placementsOf_replacePlacements_beside hne]
  obtain ⟨placements, hflushed⟩ := flushed_replacePlacements w a ps
  rw [hflushed] at hrows
  refine ⟨howns, ?_, ?_, ?_⟩
  · rw [hflushed]
    exact agreesBeside_placements h.beside hrows
  · rw [hflushed]
    exact h.named
  · rw [hflushed]
    exact h.figures

/-- An edit of the row of the equipment, after which it holds the figures of another ledger with the
same reservations. -/
lemma editEquipment (h : w.Tracks a.equipment s m) {f : EquipmentRow → EquipmentRow}
    (same : m'.reservations = m.reservations)
    (figures : ∀ row : EquipmentRow, row.total = m.total →
      row.installation = m.installation.recorded →
      (f row).total = m'.total ∧ (f row).installation = m'.installation.recorded) :
    (w.editEquipment a f).Tracks a.equipment s m' := by
  obtain ⟨row, hrow, htotal, hinstallation⟩ := h.figures
  refine ⟨⟨h.owns.new, h.owns.dropped⟩, ?_, ?_, f row, ?_, figures row htotal hinstallation⟩
  · rw [flushed_editEquipment]
    exact agreesBeside_editEquipment h.beside f
  · rw [same, flushed_editEquipment]
    exact h.named
  · rw [flushed_editEquipment, Table.find?_modify, if_pos rfl, hrow, Option.map_some]

/-- What a change carries from a ledger in memory to its worksheet. -/
theorem write (h : w.Tracks a.equipment s m) (applied : Change.apply m c = .ok m')
    (wrote : Wrote a w c w') : w'.Tracks a.equipment s m' := by
  cases wrote with
  | newReservation r new => exact h.newReservation new applied
  | oldReservation r id row old stored own => exact h.oldReservation old stored own applied
  | dropReservation id showId => exact h.dropReservation applied
  | replacePlacements ps =>
      rw [← Except.ok.inj applied]
      exact h.replacePlacements ps
  | setInstallation i =>
      rw [← Except.ok.inj applied]
      exact h.editEquipment rfl fun row htotal _ =>
        ⟨htotal, EquipmentRow.installation_installationRow i row⟩
  | setTotal total =>
      rw [← Except.ok.inj applied]
      exact h.editEquipment rfl fun row _ hinstallation => ⟨rfl, hinstallation⟩

end Tracks

end Worksheet

/-! ### The whole commit -/

namespace Store

lemma ledger?_eq_ok {s : Store} {e : Int} {m : Snapshot} :
    s.ledger? e = .ok m
      ↔ ∃ row, fitsWord e = true ∧ s.equipments.find? e = some row ∧ m = s.snapshot e row := by
  rw [ledger?]
  cases h : s.equipment? e with
  | error error =>
      simp only [reduceCtorEq, false_iff]
      rintro ⟨row, hfits, hrow, -⟩
      rw [equipment?_eq_ok.2 ⟨hfits, hrow⟩] at h
      cases h
  | ok found =>
      obtain ⟨hfits, hfound⟩ := equipment?_eq_ok.1 h
      simp only [Except.ok.injEq]
      constructor
      · rintro rfl
        exact ⟨found, hfits, hfound, rfl⟩
      · rintro ⟨row, -, hrow, rfl⟩
        rw [hfound] at hrow
        rw [Option.some.inj hrow]

lemma fitsWord_total_of_fits {s : Store} {row : Int × EquipmentRow} (h : s.fits = true)
    (hrow : row ∈ s.equipments.rows) : fitsWord row.2.total = true := by
  simp only [fits, Bool.and_eq_true, List.all_eq_true] at h
  exact EquipmentRow.fitsWord_total_of_fits (h.1.1.1 row hrow)

/-- A row is read as a reservation that has ended only if it says so. -/
lemma isActive_reservationOf (s : Store) (row : Int × ReservationRow) :
    (s.reservationOf row).isActive = decide (row.2.status ≠ ReservationStatus.returned.text) := by
  by_cases hempty : row.2.status = ""
  · rw [Reservation.isActive, reservationOf, hempty]
    rfl
  · simp only [Reservation.isActive, reservationOf, if_neg hempty]

/-- A reservation that is read has a row of the equipment. -/
lemma find?_of_mem_reservations {s : Store} {e : Int} {equipment : EquipmentRow} {r : Reservation}
    (h : r ∈ (s.snapshot e equipment).reservations) {id : Int} (hid : r.id = some id) :
    ∃ row, s.reservations.find? id = some row ∧ row.equipment = e
      ∧ r = s.reservationOf (id, row) := by
  obtain ⟨row, hr, rfl⟩ := List.mem_map.1 h
  obtain ⟨hrow, hown⟩ := mem_reservationsOf.1 hr
  obtain rfl : row.1 = id := Option.some.inj hid
  exact ⟨row.2, Table.find?_of_mem hrow, hown, rfl⟩

/-- Before the first change the worksheet is the store. -/
lemma tracks_start {s : Store} {e : Int} {before : Snapshot} (read : s.ledger? e = .ok before) :
    ({ store := s } : Worksheet).Tracks e s before := by
  obtain ⟨equipment, -, hequipment, rfl⟩ := ledger?_eq_ok.1 read
  refine ⟨⟨by simp, by simp⟩, AgreesBeside.refl e s, fun r hr id hid => ?_, equipment, hequipment,
    rfl, (EquipmentRow.recorded_installation equipment).symm⟩
  obtain ⟨row, hrow, hown, -⟩ := find?_of_mem_reservations hr hid
  exact ⟨row, hrow, hown⟩

/-- After all changes the worksheet still differs from the store in that one ledger only. -/
lemma tracks_of_writeAll {s : Store} {a : Worksheet.Author} {before after : Snapshot}
    {cs : List Change} {w : Worksheet} (read : s.ledger? a.equipment = .ok before)
    (applied : Change.applyAll before cs = .ok after)
    (written : Worksheet.writeAll { store := s } a cs = .ok w) : w.Tracks a.equipment s after :=
  Worksheet.writeAll_induction (I := fun _ m w => w.Tracks a.equipment s m) applied written
    (tracks_start read) fun _ _ _ _ _ _ applied wrote tracks => tracks.write applied wrote

lemma flushed_complete (w : Worksheet) (a : Worksheet.Author) (p : Proposal)
    (before after : Snapshot) :
    ∃ audits, (complete w a p before after).flushed
      = { w.flushed with
          audits
          equipments := w.flushed.equipments.modify a.equipment fun row =>
            { row with
              version := before.version + 1
              status := some after.status.text
              updated := some a.now } } :=
  ⟨_, rfl⟩

/-- The finished worksheet differs from the store in that one ledger only, too. -/
lemma agreesBeside_complete {s : Store} {p : Proposal} {now : Moment} {before after : Snapshot}
    {w : Worksheet} (read : s.ledger? p.equipment = .ok before)
    (applied : Change.applyAll before p.changes = .ok after)
    (written : Worksheet.writeAll { store := s } (p.author now) p.changes = .ok w) :
    s.AgreesBeside p.equipment (complete w (p.author now) p before after).flushed := by
  obtain ⟨audits, hflushed⟩ := flushed_complete w (p.author now) p before after
  have htracks : w.Tracks p.equipment s after :=
    tracks_of_writeAll (a := p.author now) read applied written
  have hedited := Worksheet.agreesBeside_editEquipment htracks.beside fun row =>
    { row with
      version := before.version + 1, status := some after.status.text, updated := some now }
  rw [hflushed]
  exact ⟨hedited.shows, hedited.locations, hedited.equipments, hedited.registered,
    hedited.placements, hedited.reservations⟩

namespace Commits

variable {s t : Store} {p : Proposal} {now : Moment} {before after committed : Snapshot}
  {w : Worksheet}

theorem tracks (h : s.Commits p now before after w t committed) :
    w.Tracks p.equipment s after :=
  tracks_of_writeAll (a := p.author now) h.read h.applied h.written

/-- A commit leaves the ledgers of other equipments alone. -/
theorem agreesBeside (h : s.Commits p now before after w t committed) :
    s.AgreesBeside p.equipment t := by
  rw [h.stored]
  exact agreesBeside_complete h.read h.applied h.written

/-- What a commit writes besides its changes concerns no row of a placement or a reservation. -/
lemma tables_eq (h : s.Commits p now before after w t committed) :
    t.placements = w.flushed.placements ∧ t.reservations = w.flushed.reservations := by
  obtain ⟨audits, hflushed⟩ := flushed_complete w (p.author now) p before after
  rw [h.stored, hflushed]
  exact ⟨rfl, rfl⟩

/-- The row of the equipment after a commit. -/
theorem committed_eq (h : s.Commits p now before after w t committed) :
    ∃ row, t.equipments.find? p.equipment = some row ∧ committed = t.snapshot p.equipment row
      ∧ row.version = before.version + 1 ∧ row.total = after.total
      ∧ row.installation = after.installation.recorded := by
  obtain ⟨audits, hflushed⟩ := flushed_complete w (p.author now) p before after
  obtain ⟨row, hrow, htotal, hinstallation⟩ := h.tracks.figures
  obtain ⟨stored, -, hstored, hcommitted⟩ := ledger?_eq_ok.1 h.reread
  refine ⟨stored, hstored, hcommitted, ?_⟩
  rw [h.stored, hflushed] at hstored
  simp only [Table.find?_modify, Proposal.author, if_true, hrow, Option.map_some,
    Option.some.injEq] at hstored
  rw [← hstored]
  exact ⟨rfl, htotal, hinstallation⟩

theorem version_eq (h : s.Commits p now before after w t committed) :
    committed.version = before.version + 1 := by
  obtain ⟨row, -, hcommitted, hversion, -⟩ := h.committed_eq
  rw [hcommitted, ← hversion]
  rfl

/-- The version that a commit raises can be stored. -/
lemma fitsWord_version (h : s.Commits p now before after w t committed) :
    fitsWord (before.version + 1) = true := by
  obtain ⟨row, hrow, -, hversion, -⟩ := h.committed_eq
  have hfits := h.fits
  simp only [Store.fits, Bool.and_eq_true, List.all_eq_true] at hfits
  have hstored := hfits.1.1.1 _ (Table.find?_eq_some_iff.1 hrow)
  rw [EquipmentRow.fits, Bool.and_eq_true, hversion] at hstored
  exact hstored.2

/-- The total that a commit leaves can be stored. -/
theorem fitsWord_total (h : s.Commits p now before after w t committed) :
    fitsWord committed.total = true := by
  obtain ⟨row, hrow, hcommitted, -⟩ := h.committed_eq
  rw [hcommitted]
  exact fitsWord_total_of_fits h.fits (Table.find?_eq_some_iff.1 hrow)

end Commits

end Store

end StageStock
