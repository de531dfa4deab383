import Mathlib.Tactic.Lemma
import StageStock.Proofs.Frame

/-!
Reservations in memory and their rows.

Changes are carried out twice, on the ledger in memory and on the worksheet. A reservation that
names a row is meant to take the place of the one that has the row; one that names a row which the
ledger does not have is a stray: it is added in memory, while the row is written over.

* `Change.strays`: how many strays the changes hold;
* `Worksheet.Counts`: the ledger in memory has just as many reservations more than there are rows;
* `Worksheet.Aligned`: without strays, reservations and rows stand for each other, a row keeping the
  show that it was made for;
* `Store.Commits.counts`, `Store.Commits.aligned`: both after a whole commit.
-/

namespace StageStock

/-! ### Strays -/

namespace Change

/-- Whether a change records a reservation under the id of a row that the ledger does not have. -/
def isStray (m : Snapshot) : Change → Bool
  | putReservation r => r.id.any fun id => !(m.reservations.any fun other => other.id = some id)
  | _ => false

/-- How many strays there are among changes that are carried out one after the other. -/
def strays (m : Snapshot) : List Change → Nat
  | [] => 0
  | c :: rest =>
    (if c.isStray m then 1 else 0) + match apply m c with
      | .ok m' => strays m' rest
      | .error _ => 0

lemma strays_cons {m m' : Snapshot} {c : Change} (h : apply m c = .ok m') (rest : List Change) :
    strays m (c :: rest) = (if c.isStray m then 1 else 0) + strays m' rest := by
  rw [strays, h]

lemma isStray_of_new {m : Snapshot} {r : Reservation} (h : r.id = none) :
    (putReservation r).isStray m = false := by
  simp [isStray, h]

lemma isStray_of_old {m : Snapshot} {r : Reservation} {id : Int} (h : r.id = some id) :
    (putReservation r).isStray m = true ↔ ∀ other ∈ m.reservations, other.id ≠ some id := by
  simp [isStray, h]

end Change

/-! ### The rows after each change -/

namespace Worksheet

variable {a : Author} {w : Worksheet}

lemma reservationsOf_newReservation (r : Reservation) :
    ({ w with newReservations := w.newReservations ++ [newReservationRow a r] } :
        Worksheet).flushed.reservationsOf a.equipment
      = w.flushed.reservationsOf a.equipment
        ++ [(w.flushed.reservations.nextId, newReservationRow a r)] := by
  have hown : decide ((newReservationRow a r).equipment = a.equipment) = true :=
    decide_eq_true rfl
  rw [flushed_newReservation]
  show (w.flushed.reservations.insert _).select _ = _
  rw [Table.select_insert, if_pos hown]
  rfl

lemma reservationsOf_editReservation {r : Reservation} {id : Int} {row : ReservationRow}
    (stored : w.store.reservations.find? id = some row) :
    ({ w with store := { w.store with
        reservations := w.store.reservations.modify id (reservationRow a r) } } :
        Worksheet).flushed.reservationsOf a.equipment
      = (w.flushed.reservationsOf a.equipment).map fun row =>
        if row.1 = id then (row.1, reservationRow a r row.2) else row := by
  rw [flushed_editReservation stored]
  exact Table.select_modify fun _ _ => rfl

lemma reservationsOf_dropReservation (id : Int) :
    ({ store := { w.flushed with reservations := w.flushed.reservations.erase id } } :
        Worksheet).flushed.reservationsOf a.equipment
      = (w.flushed.reservationsOf a.equipment).filter fun row => row.1 ≠ id :=
  Table.select_erase _ _ _

lemma reservationsOf_replacePlacements (ps : List Placement) :
    (w.replacePlacements a ps).flushed.reservationsOf a.equipment
      = w.flushed.reservationsOf a.equipment := by
  obtain ⟨placements, h⟩ := flushed_replacePlacements w a ps
  rw [h]
  rfl

/-- The rows of reservations have different ids. -/
lemma nodup_ids_reservationsOf (s : Store) (e : Int) : ((s.reservationsOf e).map Prod.fst).Nodup :=
  Table.nodup_ids_select _ _

/-- The row of a reservation in memory, once everything is written. -/
lemma Tracks.exists_row {e : Int} {s : Store} {m : Snapshot} (h : w.Tracks e s m) {r : Reservation}
    (hr : r ∈ m.reservations) {id : Int} (hid : r.id = some id) :
    ∃ row, (id, row) ∈ w.flushed.reservationsOf e := by
  obtain ⟨row, hrow, hown⟩ := h.named r hr id hid
  exact ⟨row, Store.mem_reservationsOf.2 ⟨Table.find?_eq_some_iff.1 hrow, hown⟩⟩

end Worksheet

/-! ### Reservations in memory after each change -/

namespace Change

variable {m m' : Snapshot} {r : Reservation} {id : Int}

lemma reservations_of_new (h : apply m (.putReservation r) = .ok m') (new : r.id = none) :
    m'.reservations = m.reservations ++ [r] := by
  rw [← Except.ok.inj h]
  simp [new]

lemma reservations_of_old (h : apply m (.putReservation r) = .ok m') (old : r.id = some id) :
    m'.reservations = (m.reservations.filter fun other => other.id ≠ some id) ++ [r] := by
  rw [← Except.ok.inj h]
  simp [old]

end Change

/-! ### Counting -/

section Counting

/-- Among reservations whose ids do not repeat, at most one has a given id. -/
lemma length_filter_id {rs : List Reservation} (nodup : (rs.filterMap Reservation.id).Nodup)
    {r : Reservation} (hr : r ∈ rs) {id : Int} (hid : r.id = some id) :
    (rs.filter fun other => other.id ≠ some id).length + 1 = rs.length := by
  induction rs with
  | nil => cases hr
  | cons other rest ih =>
      have hrest : (rest.filterMap Reservation.id).Nodup :=
        nodup.sublist ((List.sublist_cons_self other rest).filterMap _)
      by_cases hother : other.id = some id
      · have hnone : ∀ r' ∈ rest, r'.id ≠ some id := by
          intro r' hr' hid'
          rw [List.filterMap_cons_some hother, List.nodup_cons] at nodup
          exact nodup.1 (List.mem_filterMap.2 ⟨r', hr', hid'⟩)
        rw [List.filter_cons_of_neg (by simp [hother]),
          List.filter_eq_self.2 fun r' hr' => decide_eq_true (hnone r' hr'), List.length_cons]
      · have hmem : r ∈ rest := by
          rcases List.mem_cons.1 hr with rfl | hmem
          · exact absurd hid hother
          · exact hmem
        rw [List.filter_cons_of_pos (by simpa using hother), List.length_cons, ih hrest hmem,
          List.length_cons]

/-- One row has a given id. -/
lemma length_filter_row {rows : List (Int × ReservationRow)} (nodup : (rows.map Prod.fst).Nodup)
    {row : Int × ReservationRow} (h : row ∈ rows) :
    (rows.filter fun other => other.1 ≠ row.1).length + 1 = rows.length :=
  (perm_cons_filter_ne nodup h).length_eq.symm

/-- The ids in memory still do not repeat once one of them was taken out and put back. -/
lemma nodup_ids_put {rs : List Reservation} (nodup : (rs.filterMap Reservation.id).Nodup)
    {r : Reservation} {id : Int} (hid : r.id = some id) :
    (((rs.filter fun other => other.id ≠ some id) ++ [r]).filterMap Reservation.id).Nodup := by
  rw [List.filterMap_append, List.filterMap_cons_some hid, List.filterMap_nil, List.nodup_append]
  refine ⟨nodup.sublist (List.filter_sublist.filterMap _), List.nodup_singleton _, ?_⟩
  intro i hi j hj
  obtain ⟨other, hother, hother_id⟩ := List.mem_filterMap.1 hi
  rw [List.mem_singleton.1 hj]
  rintro rfl
  exact of_decide_eq_true (List.mem_filter.1 hother).2 hother_id

end Counting

namespace Worksheet

/-- The ledger in memory has as many reservations more than there are rows as strays were carried
out. -/
structure Counts (e : Int) (strays : Nat) (rest : List Change) (m : Snapshot) (w : Worksheet) :
    Prop where
  nodup : (m.reservations.filterMap Reservation.id).Nodup
  count : m.reservations.length + Change.strays m rest
    = (w.flushed.reservationsOf e).length + strays

namespace Counts

variable {a : Author} {s : Store} {m m' : Snapshot} {w w' : Worksheet} {c : Change} {n : Nat}
  {rest : List Change} {r : Reservation} {id : Int} {showId : Option Int}

lemma newReservation (h : w.Counts a.equipment n (.putReservation r :: rest) m)
    (new : r.id = none) (applied : Change.apply m (.putReservation r) = .ok m') :
    ({ w with newReservations := w.newReservations ++ [newReservationRow a r] } :
      Worksheet).Counts a.equipment n rest m' := by
  obtain ⟨hnodup, hcount⟩ := h
  rw [Change.strays_cons applied, Change.isStray_of_new new] at hcount
  refine ⟨?_, ?_⟩
  · rw [Change.reservations_of_new applied new, List.filterMap_append]
    simpa [new] using hnodup
  · rw [Change.reservations_of_new applied new, reservationsOf_newReservation,
      List.length_append, List.length_append, List.length_singleton, List.length_singleton]
    simp at hcount
    omega

lemma oldReservation (h : w.Counts a.equipment n (.putReservation r :: rest) m)
    {row : ReservationRow} (old : r.id = some id)
    (stored : w.store.reservations.find? id = some row)
    (applied : Change.apply m (.putReservation r) = .ok m') :
    ({ w with store := { w.store with
        reservations := w.store.reservations.modify id (reservationRow a r) } } :
      Worksheet).Counts a.equipment n rest m' := by
  obtain ⟨hnodup, hcount⟩ := h
  have hafter := Change.reservations_of_old applied old
  rw [Change.strays_cons applied] at hcount
  refine ⟨by rw [hafter]; exact nodup_ids_put hnodup old, ?_⟩
  rw [reservationsOf_editReservation stored, hafter, List.length_map, List.length_append,
    List.length_singleton]
  by_cases hstray : (Change.putReservation r).isStray m = true
  · -- nothing in memory has the id, so a reservation is added for the row that is written over
    have hall := List.filter_eq_self.2 fun other hother =>
      decide_eq_true ((Change.isStray_of_old old).1 hstray other hother)
    rw [if_pos hstray] at hcount
    rw [hall]
    omega
  · have hsome : ∃ other ∈ m.reservations, other.id = some id := by
      simpa [Change.isStray_of_old old] using hstray
    obtain ⟨other, hother, hid⟩ := hsome
    have hone := length_filter_id hnodup hother hid
    rw [if_neg hstray] at hcount
    omega

lemma dropReservation (h : w.Counts a.equipment n (.dropReservation id showId :: rest) m)
    (tracks : w.Tracks a.equipment s m)
    (applied : Change.apply m (.dropReservation id showId) = .ok m') :
    ({ store := { w.flushed with reservations := w.flushed.reservations.erase id } } :
      Worksheet).Counts a.equipment n rest m' := by
  obtain ⟨hnodup, hcount⟩ := h
  obtain ⟨⟨r, hr, hid⟩, hdropped⟩ := Change.dropped_of_apply applied
  have hafter : m'.reservations = m.reservations.filter fun other => other.id ≠ some id :=
    congrArg Snapshot.reservations hdropped
  obtain ⟨row, hrow⟩ := tracks.exists_row hr hid
  have hone := length_filter_id hnodup hr hid
  have hone' : ((w.flushed.reservationsOf a.equipment).filter fun row => row.1 ≠ id).length + 1
      = (w.flushed.reservationsOf a.equipment).length :=
    length_filter_row (nodup_ids_reservationsOf _ _) hrow
  rw [Change.strays_cons applied] at hcount
  refine ⟨?_, ?_⟩
  · rw [hafter]
    exact hnodup.sublist (List.filter_sublist.filterMap _)
  · rw [reservationsOf_dropReservation, hafter]
    simp only [Change.isStray, Bool.false_eq_true, if_false] at hcount
    omega

/-- What a change carries on: the ledger in memory and the rows grow and shrink together, but for a
stray. -/
theorem write (h : w.Counts a.equipment n (c :: rest) m) (tracks : w.Tracks a.equipment s m)
    (applied : Change.apply m c = .ok m') (wrote : Wrote a w c w') :
    w'.Counts a.equipment n rest m' := by
  have hcount := h.count
  rw [Change.strays_cons applied] at hcount
  cases wrote with
  | newReservation r new => exact h.newReservation new applied
  | oldReservation r id row old stored own => exact h.oldReservation old stored applied
  | dropReservation id showId => exact h.dropReservation tracks applied
  | replacePlacements ps =>
      simp only [Change.isStray, Bool.false_eq_true, if_false, Nat.zero_add] at hcount
      rw [← Except.ok.inj applied] at hcount ⊢
      refine ⟨h.nodup, ?_⟩
      rw [reservationsOf_replacePlacements]
      exact hcount
  | setInstallation i =>
      simp only [Change.isStray, Bool.false_eq_true, if_false, Nat.zero_add] at hcount
      rw [← Except.ok.inj applied] at hcount ⊢
      exact ⟨h.nodup, hcount⟩
  | setTotal total =>
      simp only [Change.isStray, Bool.false_eq_true, if_false, Nat.zero_add] at hcount
      rw [← Except.ok.inj applied] at hcount ⊢
      exact ⟨h.nodup, hcount⟩

end Counts

/-! ### Reservations and the rows that record them -/

/-- What the row of a reservation holds. A row that has an id in memory is the one that had this id
before, and keeps the show that it had then. -/
structure Records (before : Snapshot) (r : Reservation) (row : Int × ReservationRow) : Prop where
  old : ∀ id, r.id = some id → row.1 = id
    ∧ ∃ b ∈ before.reservations, b.id = some id ∧ b.showId = row.2.showId
  new : r.id = none → row.2.showId = r.showId
  needed : row.2.needed = r.needed
  allocated : row.2.allocated = r.allocated
  status : row.2.status = r.status ∨ row.2.status = "" ∧ r.status = ReservationStatus.requested.text
  notes : row.2.notes = r.notes

/-- Reservations in memory and rows stand for each other. -/
def Aligned (e : Int) (before m : Snapshot) (w : Worksheet) : Prop :=
  Matched (Records before) m.reservations (w.flushed.reservationsOf e)

namespace Aligned

variable {a : Author} {s : Store} {before m m' : Snapshot} {w w' : Worksheet} {c : Change}
  {rest : List Change} {r : Reservation} {id : Int} {showId : Option Int}

lemma newReservation (h : w.Aligned a.equipment before m) (new : r.id = none)
    (applied : Change.apply m (.putReservation r) = .ok m') :
    ({ w with newReservations := w.newReservations ++ [newReservationRow a r] } :
      Worksheet).Aligned a.equipment before m' := by
  rw [Aligned, Change.reservations_of_new applied new, reservationsOf_newReservation]
  refine h.append (Matched.singleton ⟨fun id hid => ?_, fun _ => rfl, rfl, rfl, Or.inl rfl, rfl⟩)
  rw [new] at hid
  cases hid

lemma oldReservation (h : w.Aligned a.equipment before m) {row : ReservationRow}
    (old : r.id = some id) (stored : w.store.reservations.find? id = some row)
    (known : ∃ other ∈ m.reservations, other.id = some id)
    (applied : Change.apply m (.putReservation r) = .ok m') :
    ({ w with store := { w.store with
        reservations := w.store.reservations.modify id (reservationRow a r) } } :
      Worksheet).Aligned a.equipment before m' := by
  have hnodup := nodup_ids_reservationsOf w.flushed a.equipment
  obtain ⟨other, hother, hid⟩ := known
  obtain ⟨⟨id', old'⟩, hmem, hrecords⟩ := h.exists_right hother
  obtain ⟨rfl, hshow⟩ := hrecords.old id hid
  rw [Aligned, Change.reservations_of_old applied old, reservationsOf_editReservation stored]
  refine Matched.perm_right (Matched.append (h.filter_key
    (fun x y hxy i hi => (hxy.old i hi).1) hnodup ⟨other, hother, hid⟩)
    (Matched.singleton ?_)) (map_modify_perm hnodup hmem).symm
  refine ⟨fun i hi => ?_, fun hnone => ?_, rfl, rfl, Or.inl rfl, rfl⟩
  · rw [old] at hi
    cases hi
    exact ⟨rfl, hshow⟩
  · rw [old] at hnone
    cases hnone

lemma dropReservation (h : w.Aligned a.equipment before m)
    (applied : Change.apply m (.dropReservation id showId) = .ok m') :
    ({ store := { w.flushed with reservations := w.flushed.reservations.erase id } } :
      Worksheet).Aligned a.equipment before m' := by
  obtain ⟨hfound, rfl⟩ := Change.dropped_of_apply applied
  rw [Aligned, reservationsOf_dropReservation]
  exact h.filter_key (fun x y hxy i hi => (hxy.old i hi).1)
    (nodup_ids_reservationsOf w.flushed a.equipment) hfound

/-- What a change carries on, unless it puts a stray. -/
theorem write (h : w.Aligned a.equipment before m) (known : c.isStray m = false)
    (applied : Change.apply m c = .ok m') (wrote : Wrote a w c w') :
    w'.Aligned a.equipment before m' := by
  cases wrote with
  | newReservation r new => exact h.newReservation new applied
  | oldReservation r id row old stored own =>
      have hsome : ∃ other ∈ m.reservations, other.id = some id := by
        by_contra hnone
        push Not at hnone
        rw [(Change.isStray_of_old old).2 hnone] at known
        cases known
      exact h.oldReservation old stored hsome applied
  | dropReservation id showId => exact h.dropReservation applied
  | replacePlacements ps =>
      rw [Aligned, ← Except.ok.inj applied, reservationsOf_replacePlacements]
      exact h
  | setInstallation i =>
      rw [← Except.ok.inj applied]
      exact h
  | setTotal total =>
      rw [← Except.ok.inj applied]
      exact h

end Aligned

end Worksheet

/-! ### The whole commit -/

namespace Store

variable {s t : Store} {p : Proposal} {now : Moment} {before after committed : Snapshot}
  {w : Worksheet}

lemma reservations_of_ledger? {e : Int} (read : s.ledger? e = .ok before) :
    before.reservations = (s.reservationsOf e).map s.reservationOf := by
  obtain ⟨row, -, -, rfl⟩ := ledger?_eq_ok.1 read
  rfl

/-- Every row of the equipment is read. -/
lemma mem_reservations_of_ledger? {e : Int} (read : s.ledger? e = .ok before)
    {row : Int × ReservationRow} (listed : row ∈ s.reservationsOf e) :
    s.reservationOf row ∈ before.reservations := by
  rw [reservations_of_ledger? read]
  exact List.mem_map_of_mem listed

lemma mem_reservations_of_find? {e id : Int} (read : s.ledger? e = .ok before)
    {row : ReservationRow} (stored : s.reservations.find? id = some row)
    (own : row.equipment = e) : s.reservationOf (id, row) ∈ before.reservations :=
  mem_reservations_of_ledger? read
    (mem_reservationsOf.2 ⟨Table.find?_eq_some_iff.1 stored, own⟩)

lemma counts_start {e : Int} (read : s.ledger? e = .ok before) (cs : List Change) :
    ({ store := s } : Worksheet).Counts e (Change.strays before cs) cs before := by
  have hids : ((s.reservationsOf e).map s.reservationOf).filterMap Reservation.id
      = (s.reservationsOf e).map Prod.fst := by
    rw [List.filterMap_map, ← List.filterMap_eq_map]
    rfl
  refine ⟨?_, ?_⟩
  · rw [reservations_of_ledger? read, hids]
    exact Worksheet.nodup_ids_reservationsOf s e
  · rw [reservations_of_ledger? read, List.length_map, Worksheet.flushed_of_store]

/-- Before the first change every reservation in memory was read from its row. -/
lemma aligned_start {e : Int} (read : s.ledger? e = .ok before) :
    ({ store := s } : Worksheet).Aligned e before before := by
  rw [Worksheet.Aligned, Worksheet.flushed_of_store]
  conv => arg 2; rw [reservations_of_ledger? read]
  refine Matched.map_left fun row hrow => ⟨fun id hid => ?_, fun hnone => ?_, rfl, rfl, ?_, rfl⟩
  · exact ⟨Option.some.inj hid, s.reservationOf row, mem_reservations_of_ledger? read hrow, hid,
      rfl⟩
  · cases hnone
  · by_cases h : row.2.status = ""
    · exact Or.inr ⟨h, if_pos h⟩
    · exact Or.inl (if_neg h).symm

namespace Commits

/-- The ledger in memory has as many reservations more than there are rows as the changes hold
strays. -/
theorem counts (h : s.Commits p now before after w t committed) :
    after.reservations.length
      = (w.flushed.reservationsOf p.equipment).length + Change.strays before p.changes := by
  have hcount := Worksheet.writeAll_induction (a := p.author now)
    (I := fun rest m w => w.Tracks p.equipment s m
      ∧ w.Counts p.equipment (Change.strays before p.changes) rest m)
    h.applied h.written ⟨tracks_start h.read, counts_start h.read p.changes⟩
    fun _ _ _ _ _ _ applied wrote ⟨tracks, counts⟩ =>
      ⟨tracks.write applied wrote, counts.write tracks applied wrote⟩
  exact hcount.2.count

/-- Without strays, reservations in memory and rows stand for each other. -/
theorem aligned (h : s.Commits p now before after w t committed)
    (known : Change.strays before p.changes = 0) : w.Aligned p.equipment before after := by
  refine (Worksheet.writeAll_induction (a := p.author now)
    (I := fun rest m w => Change.strays m rest = 0 ∧ w.Aligned p.equipment before m)
    h.applied h.written ⟨known, aligned_start h.read⟩ ?_).2
  rintro c rest m m' w w' applied wrote ⟨hknown, haligned⟩
  rw [Change.strays_cons applied, Nat.add_eq_zero_iff] at hknown
  have hstray : c.isStray m = false := by
    by_contra hstray
    simp [hstray] at hknown
  exact ⟨hknown.2, haligned.write hstray applied wrote⟩

end Commits

end Store

end StageStock
