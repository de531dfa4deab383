import Mathlib.Tactic.Lemma
import StageStock.Proofs.Previews
import StageStock.Proofs.Trail

/-!
Each order changes one bucket of one ledger.

Units of an equipment are recorded for shows, at places and in an installation, and all of them are
counted in the total. An order changes what is recorded in one of these buckets, of shows that of
one show, and leaves all others alone; what it takes from its bucket or adds to it is made up for in
the store.

* `Order.bucket?`: the bucket of an order;
* `Change.Touches`: the changes of one bucket, and `Order.Makes.touches`: those of an order are;
* `Store.Writes`: what becomes of the tables when such changes are written
  (`Store.Commits.writes`);
* `Store.DiffersIn`, `Store.ChangesOnly`: a store that differs from another in one bucket of an
  equipment;
* `Desk.fulfil_changesOnly`: what an order that succeeds has changed.
-/

namespace StageStock

/-! ### Buckets -/

/-- Where units of an equipment are recorded: for a show, at places, in an installation, or in the
total of them all. -/
inductive Bucket where
  | reservation (showId : Int)
  | placements
  | installation
  | total
  deriving DecidableEq, Repr

namespace Bucket

/-- The units that a ledger records in a bucket, those for all shows taken together. -/
def units (m : Snapshot) : Bucket → Int
  | reservation _ => m.reserved
  | placements => m.placed
  | installation => m.installed
  | total => 0

/-- The row of an equipment before and after a change of a bucket. Besides the figures of the
bucket, only the version, the state and the time of the last change differ. -/
def Edits : Bucket → EquipmentRow → EquipmentRow → Prop
  | total, row, row' => row' = { row with
      total := row'.total
      version := row'.version, status := row'.status, updated := row'.updated }
  | installation, row, row' => row' = { row with
      installationKind := row'.installationKind, installed := row'.installed
      placeId := row'.placeId, placeText := row'.placeText
      installedSince := row'.installedSince, installationNotes := row'.installationNotes
      version := row'.version, status := row'.status, updated := row'.updated }
  | _, row, row' => row' = { row with
      version := row'.version, status := row'.status, updated := row'.updated }

end Bucket

/-- The bucket that an order changes; for orders that name the row of a reservation its show is read
off the row. -/
def Order.bucket? (s : Store) : Order → Option Bucket
  | .register _ | .addShow _ | .addLocation _ => none
  | .setTotal .. => some .total
  | .reserve r => some (.reservation r.showId)
  | .changeReservation r => (s.reservations.find? r.id).map fun row => .reservation row.showId
  | .removeReservation id _ => (s.reservations.find? id).map fun row => .reservation row.showId
  | .replacePlacements _ | .placeUnits _ | .moveUnits _ => some .placements
  | .install _ | .bringBack .. => some .installation

/-! ### Changes of one bucket -/

/-- Changes of one bucket of a ledger. -/
inductive Change.Touches (before : Snapshot) : Bucket → List Change → Prop where
  | setTotal (total : Int) : Touches before .total [.setTotal total]
  | setInstallation (i : Installation) : Touches before .installation [.setInstallation i]
  | replacePlacements (ps : List Placement) : Touches before .placements [.replacePlacements ps]
  /-- The first reservation of a show is made. -/
  | newReservation (r : Reservation) (new : r.id = none) (active : r.isActive = true)
      (first : before.reservationFor? r.showId = none) :
      Touches before (.reservation r.showId) [.putReservation r]
  | editReservation (current r : Reservation) (id : Int) (listed : current ∈ before.reservations)
      (own : current.id = some id) (same : r.id = some id) (showId : r.showId = current.showId) :
      Touches before (.reservation current.showId) [.putReservation r]
  | dropReservation (current : Reservation) (id : Int) (showId : Option Int)
      (listed : current ∈ before.reservations) (own : current.id = some id) :
      Touches before (.reservation current.showId) [.dropReservation id showId]
  /-- A reservation that has ended makes room for a new one of its show. -/
  | renewReservation (current r : Reservation) (id : Int) (listed : current ∈ before.reservations)
      (own : current.id = some id) (ended : current.isActive = false) (new : r.id = none)
      (active : r.isActive = true) (showId : r.showId = current.showId) :
      Touches before (.reservation current.showId)
        [.dropReservation id (some current.showId), .putReservation r]

namespace Reservations

variable {u : Store} {e : Int} {read : Snapshot}

/-- What a show asks for touches its reservation only. -/
lemma touches_reserveChanges (hread : u.ledger? e = .ok read) (r : ReserveRequest) (row : ShowRow) :
    Change.Touches read (.reservation r.showId) (reserveChanges r row read).1 := by
  have hactive : (fresh r row).isActive = true := rfl
  rw [reserveChanges]
  split
  · rename_i hnone
    exact .newReservation (fresh r row) rfl hactive hnone
  · rename_i current hcurrent
    have hlisted := List.mem_of_find?_eq_some hcurrent
    have hshow : current.showId = r.showId := of_decide_eq_true (List.find?_some hcurrent :)
    obtain ⟨id, hid⟩ := exists_id_of_mem hread hlisted
    rw [← hshow]
    split
    · exact .editReservation current _ id hlisted hid hid rfl
    · rename_i hended
      simp only [hid, Option.getD_some]
      exact .renewReservation current _ id hlisted hid (by simpa using hended) rfl hactive
        hshow.symm

/-- What is changed of a reservation is in the bucket of its show. -/
lemma touches_changeWork {r : ChangeRequest} {current : Reservation} (needed : Int) (t : Transition)
    (found : read.findReservation? r.id = some current) :
    Change.Touches read (.reservation current.showId) (changeWork r current needed t).changes := by
  have hlisted := List.mem_of_find?_eq_some found
  have hid : current.id = some r.id := of_decide_eq_true (List.find?_some found :)
  rw [changeWork]
  split
  · simp only [hid, Option.getD_some]
    exact .dropReservation current r.id _ hlisted hid
  · exact .editReservation current _ r.id hlisted hid hid rfl

end Reservations

/-- What an order has ready for a ledger, and what can be carried out on it, touches its bucket
only. -/
theorem Order.Makes.touches {o : Order} {today : Date} {s u : Store} {m : Mutation Json}
    {read after : Snapshot} {work : Prepared Json} (h : o.Makes today s m)
    (ready : m.Readies read work) (hread : u.ledger? m.equipment = .ok read)
    (applied : Change.applyAll read work.changes = .ok after) :
    ∃ b, o.bucket? u = some b ∧ Change.Touches read b work.changes := by
  cases h with
  | setTotal made =>
      obtain ⟨plain, hready, rfl⟩ := ready.of_map
      rw [(Equipments.setTotal_eq_ok made).2] at hready
      obtain ⟨plain, hplain, rfl⟩ := hready
      rw [(Equipments.prepareTotal_eq_ok hplain).2]
      exact ⟨_, rfl, .setTotal _⟩
  | reserve made =>
      obtain ⟨plain, hready, rfl⟩ := ready.of_map
      obtain ⟨-, row, -, rfl⟩ := Reservations.reserve_eq_ok made
      obtain ⟨plain, hplain, rfl⟩ := hready
      rw [(Reservations.prepareReserve_eq_ok hplain).2]
      exact ⟨_, rfl, Reservations.touches_reserveChanges hread _ row⟩
  | @changeReservation r _ made =>
      obtain ⟨plain, hready, rfl⟩ := ready.of_map
      obtain ⟨row, -, rfl⟩ := Reservations.change_eq_ok made
      obtain ⟨plain, hplain, rfl⟩ := hready
      obtain ⟨current, needed, t, allocated, hcurrent, -, -, -, rfl⟩ :=
        Reservations.prepareChange_eq_ok hplain
      obtain ⟨-, stored, hstored, -, hsame⟩ := Reservations.find_of_listed hread
        (List.mem_of_find?_eq_some hcurrent) (of_decide_eq_true (List.find?_some hcurrent :))
      have hshow : current.showId = stored.showId := by rw [hsame]; rfl
      refine ⟨.reservation current.showId, ?_, Reservations.touches_changeWork needed t hcurrent⟩
      rw [bucket?, hstored, hshow]
      rfl
  | @removeReservation id user _ made =>
      obtain ⟨plain, hready, rfl⟩ := ready.of_map
      obtain ⟨row, answer, hrow, rfl, -⟩ := Reservations.remove_eq_ok made
      obtain rfl := hready
      -- the row may be that of another show by now, but it is one of the ledger
      obtain ⟨next, hdrop, -⟩ := Change.exists_apply_of_applyAll applied
      obtain ⟨⟨current, hlisted, hid⟩, -⟩ := Change.dropped_of_apply hdrop
      obtain ⟨-, stored, hstored, -, hsame⟩ := Reservations.find_of_listed hread hlisted hid
      have hshow : current.showId = stored.showId := by rw [hsame]; rfl
      refine ⟨.reservation current.showId, ?_, .dropReservation current id _ hlisted hid⟩
      rw [bucket?, hstored, hshow]
      rfl
  | replacePlacements made =>
      obtain ⟨plain, hready, rfl⟩ := ready.of_map
      obtain ⟨row, placements, -, -, rfl⟩ := Placements.replace_eq_ok made
      obtain ⟨plain, hplain, rfl⟩ := hready
      rw [(Placements.prepareReplace_eq_ok hplain).2]
      exact ⟨_, rfl, .replacePlacements _⟩
  | placeUnits made =>
      obtain ⟨plain, hready, rfl⟩ := ready.of_map
      obtain ⟨-, -, row, target, -, -, rfl⟩ := Placements.place_eq_ok made
      obtain ⟨plain, hplain, rfl⟩ := hready
      rw [(Placements.preparePlace_eq_ok hplain).2]
      exact ⟨_, rfl, .replacePlacements _⟩
  | moveUnits made =>
      obtain ⟨plain, hready, rfl⟩ := ready.of_map
      obtain ⟨row, target, -, -, rfl⟩ := Placements.move_eq_ok made
      obtain ⟨plain, hplain, rfl⟩ := hready
      obtain ⟨source, moved, -, -, -, -, rfl⟩ := Placements.prepareMove_eq_ok hplain
      exact ⟨_, rfl, .replacePlacements _⟩
  | install made =>
      obtain ⟨plain, hready, rfl⟩ := ready.of_map
      obtain ⟨-, row, i, -, -, rfl⟩ := Installations.install_eq_ok made
      obtain ⟨plain, hplain, rfl⟩ := hready
      rw [(Installations.prepareInstall_eq_ok hplain).2]
      exact ⟨_, rfl, .setInstallation _⟩
  | bringBack made =>
      obtain ⟨plain, hready, rfl⟩ := ready.of_map
      obtain ⟨row, -, rfl⟩ := Installations.bringBack_eq_ok made
      obtain ⟨plain, hplain, rfl⟩ := hready
      obtain ⟨i, -, rfl⟩ := Installations.prepareReturn_eq_ok hplain
      exact ⟨_, rfl, .setInstallation _⟩

/-! ### What is written -/

namespace Worksheet

variable {a : Author} {w w' : Worksheet} {c d : Change}

lemma exists_wrote_of_writeAll (h : w.writeAll a [c, d] = .ok w') :
    ∃ v, Wrote a w c v ∧ Wrote a v d w' := by
  rw [writeAll] at h
  split at h
  · cases h
  · rename_i next hnext
    exact ⟨next, wrote_of_write hnext, wrote_of_writeAll h⟩

end Worksheet

namespace Store

open Worksheet

/-- What becomes of the tables when changes of one bucket are written. -/
inductive Writes (s : Store) (a : Author) : Bucket → List Change → Store → Prop where
  | setTotal (total : Int) : s.Writes a .total [.setTotal total]
      { s with
        equipments := s.equipments.modify a.equipment fun row => { row with total := total } }
  | setInstallation (i : Installation) : s.Writes a .installation [.setInstallation i]
      { s with equipments := s.equipments.modify a.equipment (installationRow i) }
  | replacePlacements (ps : List Placement) : s.Writes a .placements [.replacePlacements ps]
      (({ store := s } : Worksheet).replacePlacements a ps).flushed
  | newReservation (r : Reservation) (new : r.id = none) :
      s.Writes a (.reservation r.showId) [.putReservation r]
        { s with reservations := s.reservations.insert (newReservationRow a r) }
  | editReservation (id : Int) (row : ReservationRow) (r : Reservation)
      (stored : s.reservations.find? id = some row) (own : row.equipment = a.equipment)
      (same : r.id = some id) : s.Writes a (.reservation row.showId) [.putReservation r]
        { s with reservations := s.reservations.modify id (reservationRow a r) }
  | dropReservation (id : Int) (showId : Option Int) (row : ReservationRow)
      (stored : s.reservations.find? id = some row) (own : row.equipment = a.equipment) :
      s.Writes a (.reservation row.showId) [.dropReservation id showId]
        { s with reservations := s.reservations.erase id }
  | renewReservation (id : Int) (showId : Option Int) (row : ReservationRow) (r : Reservation)
      (stored : s.reservations.find? id = some row) (own : row.equipment = a.equipment)
      (ended : (s.reservationOf (id, row)).isActive = false) (new : r.id = none)
      (same : r.showId = row.showId) :
      s.Writes a (.reservation row.showId) [.dropReservation id showId, .putReservation r]
        { s with reservations := (s.reservations.erase id).insert (newReservationRow a r) }

end Store

/-- What the changes of one bucket write. -/
lemma Change.Touches.writes {s : Store} {a : Worksheet.Author} {before : Snapshot} {b : Bucket}
    {cs : List Change} {w : Worksheet} (h : Change.Touches before b cs)
    (read : s.ledger? a.equipment = .ok before)
    (written : Worksheet.writeAll { store := s } a cs = .ok w) : s.Writes a b cs w.flushed := by
  cases h with
  | setTotal total =>
      cases Worksheet.wrote_of_writeAll written with
      | setTotal => exact .setTotal total
  | setInstallation i =>
      cases Worksheet.wrote_of_writeAll written with
      | setInstallation => exact .setInstallation i
  | replacePlacements ps =>
      cases Worksheet.wrote_of_writeAll written with
      | replacePlacements => exact .replacePlacements ps
  | newReservation r new active first =>
      cases Worksheet.wrote_of_writeAll written with
      | newReservation => exact .newReservation r new
      | oldReservation _ id row old stored own =>
          rw [new] at old
          cases old
  | editReservation current r id listed own same showId =>
      obtain ⟨-, row, hrow, hown, rfl⟩ := Reservations.find_of_listed read listed own
      cases Worksheet.wrote_of_writeAll written with
      | newReservation _ new =>
          rw [new] at same
          cases same
      | oldReservation _ id' row' old stored own' =>
          obtain rfl : id = id' := Option.some.inj (same.symm.trans old)
          exact .editReservation id row r hrow hown same
  | dropReservation current id showId listed own =>
      obtain ⟨-, row, hrow, hown, rfl⟩ := Reservations.find_of_listed read listed own
      cases Worksheet.wrote_of_writeAll written with
      | dropReservation => exact .dropReservation id showId row hrow hown
  | renewReservation current r id listed own ended new active showId =>
      obtain ⟨-, row, hrow, hown, rfl⟩ := Reservations.find_of_listed read listed own
      obtain ⟨v, hdrop, hput⟩ := Worksheet.exists_wrote_of_writeAll written
      cases hdrop with
      | dropReservation =>
          cases hput with
          | newReservation =>
              exact .renewReservation id _ row r hrow hown ended new showId
          | oldReservation _ id' row' old stored own' =>
              rw [new] at old
              cases old

namespace Store

namespace Commits

variable {s t : Store} {p : Proposal} {now : Moment} {before after committed : Snapshot}
  {w : Worksheet} {b : Bucket}

/-- What a commit of changes of one bucket writes. -/
lemma writes (h : s.Commits p now before after w t committed)
    (touches : Change.Touches before b p.changes) :
    s.Writes (p.author now) b p.changes w.flushed :=
  touches.writes h.read h.written

/-- The row of the equipment on the worksheet, and as a commit leaves it. -/
lemma exists_written_row (h : s.Commits p now before after w t committed) :
    ∃ row, w.flushed.equipments.find? p.equipment = some row
      ∧ t.equipments.find? p.equipment = some
        { row with
          version := before.version + 1
          status := some after.status.text
          updated := some now } := by
  obtain ⟨audits, hflushed⟩ := flushed_complete w (p.author now) p before after
  obtain ⟨row, hrow, -⟩ := h.tracks.figures
  refine ⟨row, hrow, ?_⟩
  rw [h.stored, hflushed]
  simp only [Table.find?_modify, Proposal.author, if_true, hrow, Option.map_some]

end Commits

/-! ### Stores that differ in one bucket -/

/-- The rows of reservations of an equipment that are not in a bucket. -/
def reservationsOutside (s : Store) (e : Int) (b : Bucket) : List (Int × ReservationRow) :=
  s.reservations.select fun row => row.equipment = e && b ≠ .reservation row.showId

/-- `t` differs from `s` in one bucket of an equipment, in the version, the state and the time of
the last change of that equipment, and perhaps in the audit trail. -/
structure DiffersIn (e : Int) (b : Bucket) (s t : Store) : Prop where
  beside : s.AgreesBeside e t
  placements : b ≠ .placements → t.placementsOf e = s.placementsOf e
  reservations : t.reservationsOutside e b = s.reservationsOutside e b
  figures : ∀ row, s.equipments.find? e = some row →
    ∃ row', t.equipments.find? e = some row' ∧ b.Edits row row'

/-- `t` has one more entry in the audit trail than `s`, and differs from it besides in one bucket of
an equipment only. -/
structure ChangesOnly (e : Int) (b : Bucket) (s t : Store) : Prop extends s.DiffersIn e b t where
  audits : ∃ entry, t.audits = s.audits.insert entry

end Store

namespace Bucket.Edits

variable {b : Bucket} {row row' : EquipmentRow}

/-- A row that did not change. -/
lemma refl (b : Bucket) (row : EquipmentRow) : b.Edits row row := by
  cases b <;> rfl

lemma trans {row'' : EquipmentRow} (h : b.Edits row row') (h' : b.Edits row' row'') :
    b.Edits row row'' := by
  cases b <;> (simp only [Edits] at h h' ⊢; rw [h', h])

/-- Another version, state and time of the last change. -/
lemma complete (h : b.Edits row row') (version : Int) (status : Option String)
    (updated : Option Moment) : b.Edits row { row' with version, status, updated } := by
  cases b <;> (simp only [Edits] at h ⊢; rw [h])

lemma total_eq (h : b.Edits row row') (outside : b ≠ .total) : row'.total = row.total := by
  cases b with
  | total => exact absurd rfl outside
  | _ =>
      simp only [Edits] at h
      rw [h]

lemma installation_eq (h : b.Edits row row') (outside : b ≠ .installation) :
    row'.installation = row.installation := by
  cases b with
  | installation => exact absurd rfl outside
  | _ =>
      simp only [Edits] at h
      rw [h]
      rfl

end Bucket.Edits

namespace Store

namespace Writes

variable {s u : Store} {a : Worksheet.Author} {b : Bucket} {cs : List Change}

lemma placementsOf_eq (h : s.Writes a b cs u) (outside : b ≠ .placements) (e : Int) :
    u.placementsOf e = s.placementsOf e := by
  cases h with
  | replacePlacements ps => exact absurd rfl outside
  | _ => rfl

/-- A row of a reservation keeps its show, so that no edit takes it out of a bucket or puts it in
one. -/
lemma reservationsOutside_eq (h : s.Writes a b cs u) :
    u.reservationsOutside a.equipment b = s.reservationsOutside a.equipment b := by
  have hinside (showId : Int) (row : ReservationRow) (same : row.showId = showId) :
      (decide (row.equipment = a.equipment)
        && decide (Bucket.reservation showId ≠ .reservation row.showId)) = false := by
    simp [same]
  cases h with
  | setTotal total => rfl
  | setInstallation i => rfl
  | replacePlacements ps =>
      obtain ⟨placements, hflushed⟩ := Worksheet.flushed_replacePlacements { store := s } a ps
      rw [hflushed]
      rfl
  | newReservation r new =>
      rw [reservationsOutside, Table.select_insert,
        hinside r.showId (Worksheet.newReservationRow a r) rfl, if_neg Bool.false_ne_true]
      exact List.append_nil _
  | editReservation id row r stored own same =>
      refine Table.select_modify_eq fun row' hrow' => ?_
      obtain rfl : row = row' := Option.some.inj (stored.symm.trans hrow')
      exact ⟨hinside _ _ rfl, hinside _ _ rfl⟩
  | dropReservation id showId row stored own =>
      refine Table.select_erase_eq fun row' hrow' => ?_
      obtain rfl : row = row' := Option.some.inj (stored.symm.trans hrow')
      exact hinside _ _ rfl
  | renewReservation id showId row r stored own ended new same =>
      rw [reservationsOutside, Table.select_insert,
        hinside row.showId (Worksheet.newReservationRow a r) same, if_neg Bool.false_ne_true,
        List.append_nil]
      refine Table.select_erase_eq fun row' hrow' => ?_
      obtain rfl : row = row' := Option.some.inj (stored.symm.trans hrow')
      exact hinside _ _ rfl

/-- The row of the equipment is edited within the bucket. -/
lemma edits (h : s.Writes a b cs u) {row row' : EquipmentRow}
    (stored : s.equipments.find? a.equipment = some row)
    (written : u.equipments.find? a.equipment = some row') : b.Edits row row' := by
  cases h with
  | setTotal total =>
      rw [Table.find?_modify, if_pos rfl, stored] at written
      obtain rfl := Option.some.inj written
      rfl
  | setInstallation i =>
      rw [Table.find?_modify, if_pos rfl, stored] at written
      obtain rfl := Option.some.inj written
      rfl
  | replacePlacements ps =>
      obtain ⟨placements, hflushed⟩ := Worksheet.flushed_replacePlacements { store := s } a ps
      rw [hflushed] at written
      obtain rfl := Option.some.inj (stored.symm.trans written)
      exact .refl _ _
  | _ =>
      obtain rfl := Option.some.inj (stored.symm.trans written)
      exact .refl _ _

end Writes

/-- A commit of changes of one bucket changes this bucket only. -/
theorem Commits.changesOnly {s t : Store} {p : Proposal} {now : Moment}
    {before after committed : Snapshot} {w : Worksheet} {b : Bucket}
    (h : s.Commits p now before after w t committed)
    (touches : Change.Touches before b p.changes) : s.ChangesOnly p.equipment b t := by
  have hwrites := h.writes touches
  obtain ⟨hplacements, hreservations⟩ := h.tables_eq
  obtain ⟨written, hwritten, hstored⟩ := h.exists_written_row
  refine ⟨⟨h.agreesBeside, fun outside => ?_, ?_, fun found hfound => ?_⟩, _, h.audits_eq⟩
  · rw [placementsOf, hplacements]
    exact hwrites.placementsOf_eq outside p.equipment
  · rw [reservationsOutside, hreservations]
    exact hwrites.reservationsOutside_eq
  · exact ⟨_, hstored, (hwrites.edits (a := p.author now) hfound hwritten).complete _ _ _⟩

namespace DiffersIn

variable {s t u : Store} {e : Int} {b : Bucket} {before after : Snapshot}

lemma refl (e : Int) (b : Bucket) (s : Store) : s.DiffersIn e b s :=
  ⟨.refl _ _, fun _ => rfl, rfl, fun row hrow => ⟨row, hrow, .refl _ _⟩⟩

lemma trans (h : s.DiffersIn e b t) (h' : t.DiffersIn e b u) : s.DiffersIn e b u where
  beside := h.beside.trans h'.beside
  placements outside := (h'.placements outside).trans (h.placements outside)
  reservations := h'.reservations.trans h.reservations
  figures row hrow := by
    obtain ⟨row', hrow', hedits⟩ := h.figures row hrow
    obtain ⟨row'', hrow'', hedits'⟩ := h'.figures row' hrow'
    exact ⟨row'', hrow'', hedits.trans hedits'⟩

/-- Outside the bucket of a show, all rows of reservations are the same. -/
lemma reservationsOf_eq (h : s.DiffersIn e b t) (outside : ∀ showId, b ≠ .reservation showId) :
    t.reservationsOf e = s.reservationsOf e := by
  have hall (u : Store) : u.reservationsOutside e b = u.reservationsOf e := by
    simp only [reservationsOutside, reservationsOf, outside, ne_eq, not_false_eq_true, decide_true,
      Bool.and_true]
  rw [← hall, h.reservations, hall]

/-- What a ledger records outside the bucket is the same. -/
lemma outside_eq (h : s.DiffersIn e b t) (read : s.ledger? e = .ok before)
    (reread : t.ledger? e = .ok after) :
    (b ≠ .placements → after.placements = before.placements)
      ∧ ((∀ showId, b ≠ .reservation showId) → after.reservations = before.reservations)
      ∧ (b ≠ .installation → after.installation = before.installation)
      ∧ (b ≠ .total → after.total = before.total) := by
  obtain ⟨row, -, hrow, rfl⟩ := ledger?_eq_ok.1 read
  obtain ⟨row', -, hrow', rfl⟩ := ledger?_eq_ok.1 reread
  obtain ⟨found, hfound, hedits⟩ := h.figures row hrow
  obtain rfl := Option.some.inj (hfound.symm.trans hrow')
  refine ⟨fun outside => ?_, fun outside => ?_, hedits.installation_eq, hedits.total_eq⟩
  · simp only [snapshot, h.placements outside]
  · simp only [snapshot, h.reservationsOf_eq outside]
    exact List.map_congr_left fun r _ => by simp only [reservationOf, h.beside.shows]

/-- The store makes up for what changes in the bucket. -/
lemma inStore_sub (h : s.DiffersIn e b t) (read : s.ledger? e = .ok before)
    (reread : t.ledger? e = .ok after) :
    after.inStore - before.inStore
      = (after.total - before.total) - (b.units after - b.units before) := by
  obtain ⟨hplacements, hreservations, hinstallation, htotal⟩ := h.outside_eq read reread
  have hplaced (outside : b ≠ .placements) : after.placed = before.placed := by
    rw [Snapshot.placed, Snapshot.placed, hplacements outside]
  have hreserved (outside : ∀ showId, b ≠ .reservation showId) :
      after.reserved = before.reserved := by
    rw [Snapshot.reserved, Snapshot.reserved, hreservations outside]
  have hinstalled (outside : b ≠ .installation) : after.installed = before.installed := by
    rw [Snapshot.installed, Snapshot.installed, hinstallation outside]
  simp only [Snapshot.inStore, Snapshot.committed]
  cases b with
  | reservation showId =>
      simp only [Bucket.units, hplaced (by simp), hinstalled (by simp)]
      omega
  | placements =>
      simp only [Bucket.units, hreserved (by simp), hinstalled (by simp)]
      omega
  | installation =>
      simp only [Bucket.units, hreserved (by simp), hplaced (by simp)]
      omega
  | total =>
      simp only [Bucket.units, hreserved (by simp), hplaced (by simp), hinstalled (by simp)]
      omega

end DiffersIn

end Store

/-! ### Orders -/

namespace Desk

variable {desk : Desk} {call : Call} {o : Order} {answer : Json}

/-- An order under a lock that succeeds, on whatever store, has changed one bucket of its
equipment, after some commits of other workers to it. The rows of other equipments, the shows, the
locations and the entries of the audit trail so far are as they were; of its own equipment a
reservation has changed rows of its show only, and an order of another kind has left all rows and
figures alone that are not in its bucket. The units in the store have changed by as much as the
total, less what has been added to the bucket. -/
theorem fulfil_changesOnly (locked : o.isLocked = true)
    (succeeded : (desk.fulfil call o).result = .ok answer) :
    ∃ k e b before after, o.equipment? desk.store = some e
      ∧ o.bucket? (o.afterRivals desk.store call.now (call.rivals.take k)) = some b
      ∧ (o.afterRivals desk.store call.now (call.rivals.take k)).ChangesOnly e b
          (desk.fulfil call o).desk.store
      ∧ (o.afterRivals desk.store call.now (call.rivals.take k)).ledger? e = .ok before
      ∧ (desk.fulfil call o).desk.store.ledger? e = .ok after
      ∧ after.inStore - before.inStore
        = (after.total - before.total) - (b.units after - b.units before) := by
  obtain ⟨m, k, work, before, after, w, t, committed, hmakes, -, hready, hcommits, houtcome⟩ :=
    fulfil_ok locked succeeded
  obtain ⟨b, hbucket, htouches⟩ := hmakes.touches hready hcommits.read hcommits.applied
  have honly := hcommits.changesOnly htouches
  refine ⟨k, m.equipment, b, before, committed, hmakes.equipment?_eq, hbucket, ?_, hcommits.read,
    ?_, ?_⟩
  · rw [houtcome]
    exact honly
  · rw [houtcome]
    exact hcommits.reread
  · exact honly.inStore_sub hcommits.read hcommits.reread

/-- Of the ten lamps, of which the gala has two checked out, three are put on a bench: the rows of
reservations are the same, and three lamps less are in the store. -/
theorem fulfil_changesOnly_bench :
    let o : Order :=
      .placeUnits { equipment := 1, target := { name := some "Bench" }, quantity := 3 }
    let placed := ({ store := Store.galaStore } : Desk).fulfil { now := default } o
    ∃ answer before after, placed.result = .ok answer
      ∧ Store.galaStore.ChangesOnly 1 .placements placed.desk.store
      ∧ Store.galaStore.ledger? 1 = .ok before ∧ placed.desk.store.ledger? 1 = .ok after
      ∧ placed.desk.store.reservations.rows = Store.galaStore.reservations.rows
      ∧ before.inStore = 8 ∧ after.placed = 3 ∧ after.inStore = 5 := by
  intro o placed
  have hsucceeded : placed.result.isOk = true := by decide +kernel
  obtain ⟨answer, hanswer⟩ := Outcome.exists_answer hsucceeded
  obtain ⟨k, e, b, before, after, he, hb, honly, hbefore, hafter, hunits⟩ :=
    fulfil_changesOnly rfl hanswer
  rw [List.take_nil, o.afterRivals_nil] at hb honly hbefore
  obtain rfl : 1 = e := Option.some.inj he
  obtain rfl : Bucket.placements = b := Option.some.inj hb
  have hstart : (Store.galaStore.ledger? 1).toOption.map Snapshot.inStore = some 8 := by
    decide +kernel
  have hend : (placed.desk.store.ledger? 1).toOption.map (fun m => (m.placed, m.inStore))
      = some (3, 5) := by decide +kernel
  rw [hbefore] at hstart
  rw [hafter] at hend
  obtain ⟨hplaced, hstore⟩ := Prod.mk.inj (Option.some.inj hend)
  exact ⟨answer, before, after, hanswer, honly, hbefore, hafter, by decide +kernel,
    Option.some.inj hstart, hplaced, hstore⟩

end Desk

end StageStock
