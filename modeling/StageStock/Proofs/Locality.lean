import Mathlib.Data.List.Forall2
import Mathlib.Tactic.Lemma
import StageStock.Proofs.Buckets
import StageStock.Proofs.Reseating

/-!
A commit depends on the ledger of its equipment only.

All equipments share the tables of rows, and new rows are numbered across them. On two stores with
the same ledger of an equipment, one commit to it has the same verdict, and the two ledgers that it
leaves differ in nothing but the ids of rows that it has entered.

* `SameVerdict`: two outcomes that fail in the same way, or succeed both;
* `Snapshot.Renumbered`: ledgers that are the same, but for the ids of what is new in them;
* `Store.Resembles`: stores that hold the same rows of an equipment, but for the ids of new ones
  (`Store.Writes.resembles`);
* `Store.FitsAt`: whether the numbers of a ledger can be stored;
* `Store.sameVerdict_commit`: one commit on two stores.
-/

namespace StageStock

/-! ### Verdicts -/

/-- Two outcomes have the same verdict: they are one failure, or two successes that are related. -/
inductive SameVerdict {α β : Type} (R : α → β → Prop) :
    Except Failure α → Except Failure β → Prop where
  | failed (failure : Failure) : SameVerdict R (.error failure) (.error failure)
  | passed {a : α} {b : β} (related : R a b) : SameVerdict R (.ok a) (.ok b)

namespace SameVerdict

variable {α β : Type} {R S : α → β → Prop} {x : Except Failure α} {y : Except Failure β}

lemma outcomes (h : SameVerdict R x y) :
    (∃ failure, x = .error failure ∧ y = .error failure)
      ∨ ∃ a b, x = .ok a ∧ y = .ok b ∧ R a b := by
  cases h with
  | failed failure => exact Or.inl ⟨failure, rfl, rfl⟩
  | passed related => exact Or.inr ⟨_, _, rfl, rfl, related⟩

end SameVerdict

/-! ### Ledgers up to new ids -/

namespace Snapshot

/-- No placement is at the place. -/
def Lacks (s : Snapshot) (k : PlaceKey) : Prop :=
  ∀ q ∈ s.placements, q.place.key ≠ k

/-- No reservation of the show holds units. -/
def AllEnded (s : Snapshot) (showId : Int) : Prop :=
  ∀ q ∈ s.reservations, q.showId = showId → q.isActive = false

/-- Two ledgers are the same, but for the ids of placements and reservations that are new since
`start`: of placements where it has none at their place, and of active reservations where it has
none of their show. -/
structure Renumbered (start m m' : Snapshot) : Prop where
  rest : m' = { m with placements := m'.placements, reservations := m'.reservations }
  placements : List.Forall₂ (fun p p' : Placement =>
    p' = p ∨ p' = { p with id := p'.id } ∧ start.Lacks p.place.key) m.placements m'.placements
  reservations : List.Forall₂ (fun r r' : Reservation =>
    r' = r ∨ r' = { r with id := r'.id } ∧ r.isActive = true ∧ start.AllEnded r.showId)
    m.reservations m'.reservations

namespace Renumbered

variable {start m m' : Snapshot}

lemma refl (start m : Snapshot) : start.Renumbered m m :=
  ⟨rfl, List.forall₂_same.2 fun _ _ => Or.inl rfl, List.forall₂_same.2 fun _ _ => Or.inl rfl⟩

lemma symm (h : start.Renumbered m m') : start.Renumbered m' m where
  rest := by rw [h.rest]
  placements := by
    refine h.placements.flip.imp fun p' p hp => ?_
    rcases hp with rfl | ⟨hsame, hnew⟩
    · exact Or.inl rfl
    · rw [hsame]
      exact Or.inr ⟨rfl, hnew⟩
  reservations := by
    refine h.reservations.flip.imp fun r' r hr => ?_
    rcases hr with rfl | ⟨hsame, hnew⟩
    · exact Or.inl rfl
    · rw [hsame]
      exact Or.inr ⟨rfl, hnew⟩

end Renumbered

end Snapshot

/-! ### Rows up to new ids -/

/-- Rows that are the same, but for the ids of new ones. -/
def RowsAlike {α : Type} (new : α → Prop) (rows rows' : List (Int × α)) : Prop :=
  List.Forall₂ (fun row row' => row' = row ∨ row'.2 = row.2 ∧ new row.2) rows rows'

namespace RowsAlike

variable {α : Type} {new : α → Prop} {rows rows' : List (Int × α)}

lemma of_eq (h : rows' = rows) : RowsAlike new rows rows' :=
  h ▸ List.forall₂_same.2 fun _ _ => Or.inl rfl

lemma numberFrom {as : List α} (h : ∀ a ∈ as, new a) (n n' : Int) :
    RowsAlike new (numberFrom n as) (StageStock.numberFrom n' as) := by
  induction as generalizing n n' with
  | nil => exact .nil
  | cons a rest ih =>
      exact .cons (Or.inr ⟨rfl, h a List.mem_cons_self⟩)
        (ih (fun b hb => h b (List.mem_cons_of_mem _ hb)) _ _)

lemma append_new {kept : List (Int × α)} {as : List α} (h : ∀ a ∈ as, new a) (n n' : Int) :
    RowsAlike new (kept ++ StageStock.numberFrom n as) (kept ++ StageStock.numberFrom n' as) :=
  List.rel_append (of_eq rfl) (numberFrom h n n')

lemma map_snd (h : RowsAlike new rows rows') : rows'.map Prod.snd = rows.map Prod.snd := by
  induction h with
  | nil => rfl
  | cons hrow _ ih =>
      rw [List.map_cons, List.map_cons, ih]
      rcases hrow with rfl | ⟨hsame, -⟩
      · rfl
      · rw [hsame]

end RowsAlike

namespace Store

/-- Two stores hold the same rows of an equipment, but for the ids of rows that are new since a
ledger. -/
structure Resembles (start : Snapshot) (e : Int) (t t' : Store) : Prop where
  shows : t'.shows = t.shows
  equipment : t'.equipments.find? e = t.equipments.find? e
  placements : RowsAlike (fun row : PlacementRow =>
    ∀ place, row.place? = some place → start.Lacks place.key) (t.placementsOf e) (t'.placementsOf e)
  reservations : RowsAlike (fun row : ReservationRow =>
    row.status ≠ ReservationStatus.returned.text ∧ start.AllEnded row.showId)
    (t.reservationsOf e) (t'.reservationsOf e)

section Resembles

variable {start : Snapshot} {e : Int} {s s' t t' : Store}

lemma AgreesBeside.resembles {e' : Int} (h : s.AgreesBeside e' s') (apart : e ≠ e')
    (start : Snapshot) : Resembles start e s s' :=
  ⟨h.shows, h.equipments e apart, .of_eq (h.placements e apart), .of_eq (h.reservations e apart)⟩

/-- The ledgers that such stores hold. -/
theorem Resembles.renumbered (h : Resembles start e t t') (row : EquipmentRow) :
    start.Renumbered (t.snapshot e row) (t'.snapshot e row) where
  rest := rfl
  placements := by
    refine List.rel_filterMap (fun row row' hrow => ?_) h.placements
    rcases hrow with rfl | ⟨hsame, hnew⟩
    · cases placementOf? row' with
      | none => exact .none
      | some p => exact .some (Or.inl rfl)
    · simp only [placementOf?, hsame]
      cases hplace : row.2.place? with
      | none => exact .none
      | some place => exact .some (Or.inr ⟨rfl, hnew place hplace⟩)
  reservations := by
    refine List.rel_map (fun row row' hrow => ?_) h.reservations
    rcases hrow with rfl | ⟨hsame, hactive, hended⟩
    · exact Or.inl (by simp only [reservationOf, h.shows])
    · refine Or.inr ⟨by simp only [reservationOf, hsame, h.shows], decide_eq_true ?_, hended⟩
      show (if row.2.status = "" then _ else row.2.status) ≠ _
      split
      · decide
      · exact hactive

/-! ### What is written -/

/-- A row that a new placement is written in is at its place. -/
lemma key_of_newPlacementRow {a : Worksheet.Author} {p : Placement} {place : Place}
    (h : (Worksheet.newPlacementRow a p).place? = some place) : place.key = p.place.key := by
  have hreread : p.place.reread = some place := by
    rw [← h, PlacementRow.place?, Worksheet.newPlacementRow, Worksheet.placementRow]
    exact (Place.ofColumns_columns p.place).symm
  exact Place.key_of_reread hreread

/-- New placements whose places have no row are at places that the ledger lacks. -/
lemma lacks_of_newcomers {ps : List Placement} {p : Placement} (read : s.ledger? e = .ok start)
    (hp : p ∈ s.newcomers e ps) : start.Lacks p.place.key := by
  obtain ⟨row, -, -, rfl⟩ := ledger?_eq_ok.1 read
  exact seat?_eq_none_iff.1 (of_decide_eq_true (List.mem_filter.1 hp).2)

end Resembles

namespace Writes

variable {s s' u u' : Store} {a : Worksheet.Author} {b b' : Bucket} {cs : List Change} {e : Int}
  {start : Snapshot}

/-- The same changes, written on two stores with the same ledger, leave the same rows but for the
ids of new ones. -/
theorem resembles (h : s.Writes a b cs u) (h' : s'.Writes a b' cs u')
    (beside : s.AgreesBeside e s') (apart : a.equipment ≠ e)
    (read : s.ledger? a.equipment = .ok start)
    (places : ∀ ps, cs = [.replacePlacements ps] → (ps.map fun p => p.place.key).Nodup)
    (ended : ∀ r, .putReservation r ∈ cs → r.id = none →
      r.isActive = true ∧ start.AllEnded r.showId) : Resembles start a.equipment u u' := by
  have hsame := beside.resembles apart start
  have hnew (r : Reservation) (hr : .putReservation r ∈ cs) (hid : r.id = none) :
      ∀ row ∈ [Worksheet.newReservationRow a r],
        row.status ≠ ReservationStatus.returned.text ∧ start.AllEnded row.showId := by
    intro row hrow
    obtain ⟨hactive, hended⟩ := ended r hr hid
    rw [List.mem_singleton.1 hrow]
    exact ⟨of_decide_eq_true hactive, hended⟩
  have hreservations : (s'.reservations.select fun row => row.equipment = a.equipment)
      = s.reservations.select fun row => row.equipment = a.equipment :=
    beside.reservations _ apart
  have hown (r : Reservation) :
      decide ((Worksheet.newReservationRow a r).equipment = a.equipment) = true :=
    decide_eq_true rfl
  cases h with
  | setTotal total =>
      cases h' with
      | setTotal =>
          refine ⟨hsame.shows, ?_, hsame.placements, hsame.reservations⟩
          simp only [Table.find?_modify, hsame.equipment]
  | setInstallation i =>
      cases h' with
      | setInstallation =>
          refine ⟨hsame.shows, ?_, hsame.placements, hsame.reservations⟩
          simp only [Table.find?_modify, hsame.equipment]
  | replacePlacements ps =>
      cases h' with
      | replacePlacements =>
          have hnodup := places ps rfl
          have hrows (v : Store) := Worksheet.placementsOf_replacement (s := v) (a := a) hnodup
          obtain ⟨placements, hflushed⟩ := Worksheet.flushed_replacePlacements { store := s } a ps
          obtain ⟨placements', hflushed'⟩ :=
            Worksheet.flushed_replacePlacements { store := s' } a ps
          refine ⟨by rw [hflushed, hflushed']; exact hsame.shows,
            by rw [hflushed, hflushed']; exact hsame.equipment, ?_,
            by rw [hflushed, hflushed']; exact hsame.reservations⟩
          -- the rows to use again are found among those of the equipment
          have hseat : ({ store := s' } : Worksheet).seat? a.equipment
              = ({ store := s } : Worksheet).seat? a.equipment := by
            funext p
            simp only [Worksheet.seat?, Worksheet.kept, beside.placements _ apart]
          have howner : s'.owner? a.equipment ps = s.owner? a.equipment ps := by
            funext row
            rw [owner?, owner?, hseat]
          have hnewcomers : s'.newcomers a.equipment ps = s.newcomers a.equipment ps := by
            rw [newcomers, newcomers, hseat]
          rw [hrows s, hrows s', howner, hnewcomers, beside.placements _ apart]
          refine .append_new (fun row hrow place hplace => ?_) _ _
          obtain ⟨p, hp, rfl⟩ := List.mem_map.1 hrow
          rw [key_of_newPlacementRow hplace]
          exact lacks_of_newcomers read hp
  | newReservation r new =>
      cases h' with
      | newReservation =>
          refine ⟨hsame.shows, hsame.equipment, hsame.placements, ?_⟩
          simp only [reservationsOf, Table.select_insert, hown, if_true]
          rw [hreservations]
          exact .append_new (hnew r List.mem_cons_self new) _ _
      | editReservation _ _ _ _ _ same =>
          rw [new] at same
          cases same
  | editReservation id row r stored own same =>
      cases h' with
      | newReservation _ new =>
          rw [new] at same
          cases same
      | editReservation id' row' _ stored' own' same' =>
          obtain rfl : id = id' := Option.some.inj (same.symm.trans same')
          refine ⟨hsame.shows, hsame.equipment, hsame.placements, .of_eq ?_⟩
          simp only [reservationsOf]
          rw [Table.select_modify (f := Worksheet.reservationRow a r) fun _ _ => rfl,
            Table.select_modify (f := Worksheet.reservationRow a r) fun _ _ => rfl, hreservations]
  | dropReservation id showId row stored own =>
      cases h' with
      | dropReservation =>
          refine ⟨hsame.shows, hsame.equipment, hsame.placements, .of_eq ?_⟩
          simp only [reservationsOf]
          rw [Table.select_erase, Table.select_erase, hreservations]
  | renewReservation id showId row r stored own hended new same =>
      cases h' with
      | renewReservation =>
          refine ⟨hsame.shows, hsame.equipment, hsame.placements, ?_⟩
          simp only [reservationsOf, Table.select_insert, hown, if_true, Table.select_erase]
          rw [hreservations]
          exact .append_new (hnew r (List.mem_cons_of_mem _ List.mem_cons_self) new) _ _

end Writes

/-! ### Numbers of one ledger -/

/-- The numbers in the rows of an equipment can be stored. -/
structure FitsAt (t : Store) (e : Int) : Prop where
  equipment : ∀ row, t.equipments.find? e = some row → row.fits = true
  placements : ∀ row ∈ (t.placementsOf e).map Prod.snd, row.fits = true
  reservations : ∀ row ∈ (t.reservationsOf e).map Prod.snd, row.fits = true

section FitsAt

variable {s t t' : Store} {e : Int}

/-- Where one ledger and one entry of the audit trail are new, the other numbers are stored
already. -/
lemma fits_iff_fitsAt (stored : s.fits = true) (beside : s.AgreesBeside e t) {entry : AuditRow}
    (audits : t.audits = s.audits.insert entry) :
    t.fits = true ↔ t.FitsAt e ∧ entry.fits = true := by
  obtain ⟨hequipments, hplacements, hreservations, haudits⟩ := fits_iff.1 stored
  rw [fits_iff]
  constructor
  · rintro ⟨hequipments', hplacements', hreservations', haudits'⟩
    refine ⟨⟨fun row hrow => ?_, fun row hrow => ?_, fun row hrow => ?_⟩, ?_⟩
    · exact hequipments' _ (Table.find?_eq_some_iff.1 hrow)
    · obtain ⟨found, hfound, rfl⟩ := List.mem_map.1 hrow
      exact hplacements' found (mem_placementsOf.1 hfound).1
    · obtain ⟨found, hfound, rfl⟩ := List.mem_map.1 hrow
      exact hreservations' found (mem_reservationsOf.1 hfound).1
    · refine haudits' (s.audits.nextId, entry) ?_
      rw [audits, Table.rows_insert]
      exact List.mem_append_right _ (List.mem_singleton.2 rfl)
  · rintro ⟨⟨hequipment, hplaced, hreserved⟩, hentry⟩
    refine ⟨fun row hrow => ?_, fun row hrow => ?_, fun row hrow => ?_, ?_⟩
    · by_cases he : row.1 = e
      · exact hequipment _ (he ▸ Table.find?_of_mem hrow)
      · have hold := beside.equipments row.1 he
        rw [Table.find?_of_mem hrow] at hold
        exact hequipments _ (Table.find?_eq_some_iff.1 hold.symm)
    · by_cases he : row.2.equipment = e
      · exact hplaced _ (List.mem_map_of_mem (mem_placementsOf.2 ⟨hrow, he⟩))
      · have hold := mem_placementsOf.2 ⟨hrow, rfl⟩
        rw [beside.placements _ he] at hold
        exact hplacements row (mem_placementsOf.1 hold).1
    · by_cases he : row.2.equipment = e
      · exact hreserved _ (List.mem_map_of_mem (mem_reservationsOf.2 ⟨hrow, he⟩))
      · have hold := mem_reservationsOf.2 ⟨hrow, rfl⟩
        rw [beside.reservations _ he] at hold
        exact hreservations row (mem_reservationsOf.1 hold).1
    · rw [audits]
      exact Table.forall_insert (P := (AuditRow.fits · = true)) haudits hentry

/-- Rows that are the same but for some ids can both be stored or both not. -/
lemma Resembles.fitsAt_iff {start : Snapshot} (h : Resembles start e t t') :
    t'.FitsAt e ↔ t.FitsAt e := by
  have hplacements := h.placements.map_snd
  have hreservations := h.reservations.map_snd
  constructor
  · rintro ⟨hequipment, hplaced, hreserved⟩
    exact ⟨h.equipment ▸ hequipment, hplacements ▸ hplaced, hreservations ▸ hreserved⟩
  · rintro ⟨hequipment, hplaced, hreserved⟩
    exact ⟨h.equipment ▸ hequipment, hplacements ▸ hplaced, hreservations ▸ hreserved⟩

end FitsAt

end Store

/-! ### One commit on two stores -/

namespace Change.Touches

variable {before after : Snapshot} {b : Bucket} {cs : List Change} {s s' : Store}
  {a : Worksheet.Author}

/-- A new reservation holds units, and no other one of its show does. -/
lemma ended_of_new (h : Touches before b cs) (read : s.ledger? a.equipment = .ok before)
    (applied : applyAll before cs = .ok after) (sound : after.IsSound) (r : Reservation)
    (put : .putReservation r ∈ cs) (new : r.id = none) :
    r.isActive = true ∧ before.AllEnded r.showId := by
  cases h with
  | newReservation _ _ active first =>
      obtain rfl := Change.putReservation.inj (List.mem_singleton.1 put)
      refine ⟨active, fun q hq hshow => absurd (decide_eq_true hshow) ?_⟩
      exact List.find?_eq_none.1 first q hq
  | renewReservation current r' id listed own ended _ active showId =>
      obtain rfl : r = r' := by simpa using put
      refine ⟨active, fun q hq hshow => ?_⟩
      obtain ⟨next, hdrop, hrest⟩ := exists_apply_of_applyAll applied
      obtain ⟨-, rfl⟩ := dropped_of_apply hdrop
      obtain ⟨last, hput, hlast⟩ := exists_apply_of_applyAll hrest
      obtain rfl := Except.ok.inj hlast
      -- any other one of the show would stand in the way of the new one
      by_cases hid : q.id = some id
      · have hfound := (Reservations.find_of_listed read listed own).1
        rw [(Reservations.find_of_listed read hq hid).1] at hfound
        rw [Option.some.inj hfound]
        exact ended
      · have hkept : q ∈ before.reservations.filter fun other => other.id ≠ some id :=
          List.mem_filter.2 ⟨hq, decide_eq_true hid⟩
        exact absurd hshow (Proper.showId_ne_of_put hput sound new q hkept)
  | editReservation _ r' id _ _ same =>
      obtain rfl := Change.putReservation.inj (List.mem_singleton.1 put)
      rw [new] at same
      cases same
  | _ => simp at put

/-- The row of a reservation of the ledger is found on both stores, or looked up in vain. -/
lemma sameVerdict_reservation? {current : Reservation} {e id : Int}
    (read : s.ledger? e = .ok before) (read' : s'.ledger? e = .ok before)
    (listed : current ∈ before.reservations) (own : current.id = some id) :
    SameVerdict (fun row row' : ReservationRow => row.equipment = e ∧ row'.equipment = e)
      (s.reservation? id) (s'.reservation? id) := by
  obtain ⟨-, row, hrow, hown, -⟩ := Reservations.find_of_listed read listed own
  obtain ⟨-, row', hrow', hown', -⟩ := Reservations.find_of_listed read' listed own
  by_cases hfits : fitsWord id = true
  · rw [Store.reservation?_eq_ok.2 ⟨hfits, hrow⟩, Store.reservation?_eq_ok.2 ⟨hfits, hrow'⟩]
    exact .passed ⟨hown, hown'⟩
  · simp only [Store.reservation?, if_neg hfits]
    exact .failed _

/-- The changes are written on both stores, or cannot be written. -/
lemma sameVerdict_writeAll (h : Touches before b cs) (read : s.ledger? a.equipment = .ok before)
    (read' : s'.ledger? a.equipment = .ok before) (stored : s.fits = true)
    (stored' : s'.fits = true) :
    SameVerdict (fun _ _ => True) (Worksheet.writeAll { store := s } a cs)
      (Worksheet.writeAll { store := s' } a cs) := by
  cases h with
  | setTotal total => exact .passed trivial
  | setInstallation i => exact .passed trivial
  | replacePlacements ps => exact .passed trivial
  | newReservation r new =>
      simp only [Worksheet.writeAll, Worksheet.write, Worksheet.putReservation, new]
      exact .passed trivial
  | editReservation current r id listed own same =>
      rcases (sameVerdict_reservation? read read' listed own).outcomes with
        ⟨failure, hs, hs'⟩ | ⟨row, row', hs, hs', hown, hown'⟩
      · simp only [Worksheet.writeAll, Worksheet.write, Worksheet.putReservation, same, hs, hs']
        exact .failed failure
      · rw [Worksheet.writeAll_putReservation same hs hown,
          Worksheet.writeAll_putReservation same hs' hown']
        exact .passed trivial
  | dropReservation current id showId listed own =>
      rcases (sameVerdict_reservation? read read' listed own).outcomes with
        ⟨failure, hs, hs'⟩ | ⟨row, row', hs, hs', hown, hown'⟩
      · simp only [Worksheet.writeAll, Worksheet.write, Worksheet.dropReservation, hs, hs']
        exact .failed failure
      · rw [Worksheet.writeAll_dropReservation hs stored,
          Worksheet.writeAll_dropReservation hs' stored']
        exact .passed trivial
  | renewReservation current r id listed own ended new =>
      rcases (sameVerdict_reservation? read read' listed own).outcomes with
        ⟨failure, hs, hs'⟩ | ⟨row, row', hs, hs', hown, hown'⟩
      · simp only [Worksheet.writeAll, Worksheet.write, Worksheet.dropReservation, hs, hs']
        exact .failed failure
      · have hflush {v : Store} (hv : v.fits = true) : ({ store := v } : Worksheet).flush = .ok v :=
          (Worksheet.Enterable.flush_eq (Or.inl rfl)).trans (if_pos hv)
        simp only [Worksheet.writeAll, Worksheet.write, Worksheet.dropReservation,
          Worksheet.putReservation, hs, hs', hflush stored, hflush stored', new]
        exact .passed trivial

end Change.Touches

namespace Store

variable {s s' : Store} {e : Int} {p : Proposal} {now : Moment}

lemma AgreesBeside.ledger?_eq (h : s.AgreesBeside e s') {e' : Int} (apart : e' ≠ e) :
    s'.ledger? e' = s.ledger? e' := by
  simp only [ledger?, equipment?, h.equipments e' apart, h.snapshot_eq apart]

/-- What every commit writes besides its changes is the same on both. -/
lemma Resembles.complete {start before after : Snapshot} {w w' : Worksheet}
    (h : Resembles start p.equipment w.flushed w'.flushed) :
    Resembles start p.equipment (Store.complete w (p.author now) p before after).flushed
      (Store.complete w' (p.author now) p before after).flushed := by
  obtain ⟨audits, hflushed⟩ := flushed_complete w (p.author now) p before after
  obtain ⟨audits', hflushed'⟩ := flushed_complete w' (p.author now) p before after
  rw [hflushed, hflushed']
  refine ⟨h.shows, ?_, h.placements, h.reservations⟩
  simp only [Table.find?_modify, h.equipment]

/-- One commit of changes of one bucket, on two stores with the same ledger: it fails on both in the
same way, or it succeeds on both and leaves ledgers that are the same but for the ids of what is
new. -/
theorem sameVerdict_commit (p : Proposal) (now : Moment) (beside : s.AgreesBeside e s')
    (apart : p.equipment ≠ e) (stored : s.fits = true) (stored' : s'.fits = true)
    (orderly : ∀ before after, s.ledger? p.equipment = .ok before →
      Change.applyAll before p.changes = .ok after →
      Change.Proper before p.changes ∧ ∃ b, Change.Touches before b p.changes) :
    SameVerdict (fun c c' => ∃ start, s.ledger? p.equipment = .ok start
        ∧ c.1.ledger? p.equipment = .ok c.2 ∧ c'.1.ledger? p.equipment = .ok c'.2
        ∧ start.Renumbered c.2 c'.2) (s.commit p now) (s'.commit p now) := by
  have hprepare : s'.prepare p = s.prepare p := by
    simp only [prepare, beside.ledger?_eq apart]
  cases hprepared : s.prepare p with
  | error failure =>
      simp only [commit, hprepare, hprepared]
      exact .failed failure
  | ok ledgers =>
      obtain ⟨before, after⟩ := ledgers
      obtain ⟨hread, -, -, happlied, hlawful⟩ := prepare_eq_ok hprepared
      have hread' := (beside.ledger?_eq apart).trans hread
      have hsound := (Snapshot.violations_eq_nil_iff_isSound after).1 hlawful
      obtain ⟨hproper, b, htouches⟩ := orderly before after hread happlied
      rcases (htouches.sameVerdict_writeAll (a := p.author now) hread hread' stored
        stored').outcomes with ⟨failure, hw, hw'⟩ | ⟨w, w', hw, hw', -⟩
      · rw [Proposal.author] at hw hw'
        simp only [commit, hprepare, hprepared, hw, hw']
        exact .failed failure
      · have hcommit := commit_eq_of_written hprepared hw
          (hproper.enterable hread happlied hsound hw)
        have hcommit' := commit_eq_of_written (hprepare.trans hprepared) hw'
          (hproper.enterable hread' happlied hsound hw')
        have hwrites : s.Writes (p.author now) b p.changes w.flushed := htouches.writes hread hw
        have hwrites' : s'.Writes (p.author now) b p.changes w'.flushed :=
          htouches.writes hread' hw'
        have hresembles : Resembles before p.equipment
            (complete w (p.author now) p before after).flushed
            (complete w' (p.author now) p before after).flushed := by
          refine Resembles.complete (hwrites.resembles hwrites' beside apart hread
            (fun ps hps => ?_) (htouches.ended_of_new (a := p.author now) hread happlied hsound))
          rw [hps] at happlied
          obtain rfl := Except.ok.inj happlied
          exact hsound.places
        have hbeside := agreesBeside_complete hread happlied hw
        have hfits := fits_iff_fitsAt stored hbeside (audits_complete happlied hw p now)
        have hfits' := fits_iff_fitsAt stored' (agreesBeside_complete hread' happlied hw')
          (audits_complete happlied hw' p now)
        rw [hresembles.fitsAt_iff, ← hfits] at hfits'
        obtain ⟨row, hwide, hrow, -⟩ := ledger?_eq_ok.1 hread
        obtain ⟨row', hrow'⟩ := hbeside.exists_equipment (equipment?_eq_ok.2 ⟨hwide, hrow⟩)
        have hfound := (equipment?_eq_ok.1 hrow').2
        have hledger := ledger?_eq_ok.2 ⟨row', hwide, hfound, rfl⟩
        have hledger' := ledger?_eq_ok.2 ⟨row', hwide, hresembles.equipment.trans hfound, rfl⟩
        rw [hcommit, hcommit', hledger, hledger']
        by_cases hroom : (complete w (p.author now) p before after).flushed.fits = true
        · rw [if_pos hroom, if_pos (hfits'.2 hroom)]
          exact .passed ⟨before, hread, hledger, hledger', hresembles.renumbered row'⟩
        · rw [if_neg hroom, if_neg fun h => hroom (hfits'.1 h)]
          exact .failed _

end Store

end StageStock
