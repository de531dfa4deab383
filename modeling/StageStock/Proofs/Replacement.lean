import Mathlib.Data.List.Nodup
import Mathlib.Tactic.Lemma
import StageStock.Proofs.Matching
import StageStock.Proofs.Worksheet

/-!
How placements take over the rows of the placements before them.

* `Worksheet.reusableRows_perm`: a row is either kept for its place or dropped;
* `Worksheet.find?_putPlacements`: a row that is kept is written once, by the placement of its
  place;
* `Worksheet.Owns`: what waits belongs to the equipment, so that the rows of others stay as they are
  (`Owns.replacePlacements`, `placementsOf_flushed_beside`);
* `Worksheet.placementsOf_replacePlacements`: the rows of the equipment after a replacement. Those
  that wait are not among the rows to use again, and they are entered in addition.
-/

namespace StageStock

namespace Worksheet

/-! ### Rows to use again -/

/-- A row is either kept for its place or dropped. -/
lemma reusableRows_perm (rows : List (Int × PlacementRow)) (found : List (PlaceKey × Int))
    (dropped : List Int) :
    ((reusableRows rows found dropped).1.map Prod.snd ++ (reusableRows rows found dropped).2).Perm
      (found.map Prod.snd ++ dropped ++ rows.map Prod.fst) := by
  induction rows generalizing found dropped with
  | nil => simp [reusableRows]
  | cons row rest ih =>
      have hdrop : (found.map Prod.snd ++ (dropped ++ [row.1]) ++ rest.map Prod.fst).Perm
          (found.map Prod.snd ++ dropped ++ (row :: rest).map Prod.fst) := by simp
      rw [reusableRows]
      split
      · exact (ih found (dropped ++ [row.1])).trans hdrop
      · split
        · exact (ih found (dropped ++ [row.1])).trans hdrop
        · refine (ih _ dropped).trans ?_
          simp only [List.map_append, List.map_cons, List.map_nil, List.append_assoc,
            List.singleton_append]
          exact List.perm_middle.symm.append_left _

lemma nodup_keys_reusableRows {rows : List (Int × PlacementRow)} {found : List (PlaceKey × Int)}
    (dropped : List Int) (nodup : (found.map Prod.fst).Nodup) :
    ((reusableRows rows found dropped).1.map Prod.fst).Nodup := by
  induction rows generalizing found dropped with
  | nil => exact nodup
  | cons row rest ih =>
      rw [reusableRows]
      split
      · exact ih _ nodup
      · split
        · exact ih _ nodup
        · rename_i place _ hnew
          refine ih _ ?_
          rw [List.map_append, List.nodup_append]
          refine ⟨nodup, List.nodup_singleton _, fun k hk k' hk' => ?_⟩
          obtain ⟨entry, he, rfl⟩ := List.mem_map.1 hk
          have hnone : found.lookup place.key = none := Option.not_isSome_iff_eq_none.1 hnew
          have hne : place.key ≠ entry.1 := by
            simpa using List.lookup_eq_none_iff.1 hnone entry he
          rw [List.mem_singleton.1 hk']
          exact hne.symm

/-- The rows of an equipment that are kept for their places. -/
def kept (w : Worksheet) (equipment : Int) : List (PlaceKey × Int) :=
  (reusableRows (w.store.placementsOf equipment) [] []).1

/-- The rows of an equipment that cannot be used again. -/
def surplus (w : Worksheet) (equipment : Int) : List Int :=
  (reusableRows (w.store.placementsOf equipment) [] []).2

/-- The row that is kept for the place of a placement. -/
def seat? (w : Worksheet) (equipment : Int) (p : Placement) : Option Int :=
  (w.kept equipment).lookup p.place.key

section Kept

variable (w : Worksheet) (e : Int)

lemma kept_surplus_perm : ((w.kept e).map Prod.snd ++ w.surplus e).Perm
    ((w.store.placementsOf e).map Prod.fst) :=
  (reusableRows_perm _ [] []).trans (by simp)

lemma nodup_kept_surplus : ((w.kept e).map Prod.snd ++ w.surplus e).Nodup :=
  (kept_surplus_perm w e).nodup_iff.2 (Table.nodup_ids_select _ _)

lemma nodup_ids_kept : ((w.kept e).map Prod.snd).Nodup :=
  (List.nodup_append.1 (nodup_kept_surplus w e)).1

lemma nodup_keys_kept : ((w.kept e).map Prod.fst).Nodup :=
  nodup_keys_reusableRows [] List.nodup_nil

variable {w e}

/-- A row that is kept or cannot be used again is stored for the equipment. -/
lemma find?_of_mem_kept_surplus {id : Int} (h : id ∈ (w.kept e).map Prod.snd ++ w.surplus e) :
    ∃ row, w.store.placements.find? id = some row ∧ row.equipment = e := by
  obtain ⟨row, hr, rfl⟩ := List.mem_map.1 ((kept_surplus_perm w e).mem_iff.1 h)
  obtain ⟨hrows, hown⟩ := Store.mem_placementsOf.1 hr
  exact ⟨row.2, Table.find?_of_mem hrows, hown⟩

lemma find?_of_seat? {p : Placement} {id : Int} (h : w.seat? e p = some id) :
    ∃ row, w.store.placements.find? id = some row ∧ row.equipment = e :=
  find?_of_mem_kept_surplus
    (List.mem_append_left _ (List.mem_map_of_mem (mem_of_lookup_eq_some h)))

end Kept

/-! ### Writing placements one by one -/

/-- The row that a new placement is written in. -/
def newPlacementRow (a : Author) (p : Placement) : PlacementRow :=
  placementRow a p { equipment := a.equipment, placedBy := a.user, placedAt := some a.now }

section Put

variable {a : Author} {ps : List Placement} {w : Worksheet} {found : List (PlaceKey × Int)}

/-- What every edit of a kept row and every new row preserves, the writing of placements
preserves. -/
lemma putPlacements_induction {I : Worksheet → Prop} (start : I w)
    (edit : ∀ w, ∀ p ∈ ps, ∀ entry ∈ found, I w → I { w with store := { w.store with
      placements := w.store.placements.modify entry.2 (placementRow a p) } })
    (new : ∀ w, ∀ p ∈ ps, I w →
      I { w with newPlacements := w.newPlacements ++ [newPlacementRow a p] }) :
    I (putPlacements a ps w found).1 := by
  induction ps generalizing w found with
  | nil => exact start
  | cons p rest ih =>
      have hnew : ∀ w, ∀ q ∈ rest, I w →
          I { w with newPlacements := w.newPlacements ++ [newPlacementRow a q] } :=
        fun w q hq => new w q (List.mem_cons_of_mem _ hq)
      rw [putPlacements]
      split
      · rename_i id hid
        refine ih (edit w p List.mem_cons_self _ (mem_of_lookup_eq_some hid) start)
          (fun w q hq entry he => ?_) hnew
        exact edit w q (List.mem_cons_of_mem _ hq) entry (List.mem_filter.1 he).1
      · exact ih (new w p List.mem_cons_self start)
          (fun w q hq => edit w q (List.mem_cons_of_mem _ hq)) hnew

lemma unused_putPlacements : (putPlacements a ps w found).2
    = found.filter fun entry => entry.1 ∉ ps.map fun p => p.place.key := by
  induction ps generalizing w found with
  | nil => simp [putPlacements]
  | cons p rest ih =>
      rw [putPlacements]
      split
      · rw [ih, List.filter_filter]
        refine List.filter_congr fun entry _ => ?_
        simp [not_or, Bool.and_comm]
      · rename_i hnone
        rw [ih]
        refine List.filter_congr fun entry he => ?_
        have hne : p.place.key ≠ entry.1 := by
          simpa using List.lookup_eq_none_iff.1 hnone entry he
        simp [hne.symm]

lemma droppedPlacements_putPlacements :
    (putPlacements a ps w found).1.droppedPlacements = w.droppedPlacements :=
  putPlacements_induction (I := fun v => v.droppedPlacements = w.droppedPlacements) rfl
    (fun _ _ _ _ _ h => h) fun _ _ _ h => h

lemma nextId_putPlacements : (putPlacements a ps w found).1.store.placements.nextId
    = w.store.placements.nextId :=
  putPlacements_induction
    (I := fun v => v.store.placements.nextId = w.store.placements.nextId) rfl
    (fun _ _ _ _ _ h => (Table.nextId_modify _ _ _).trans h) fun _ _ _ h => h

/-- Only placements are written. -/
lemma putPlacements_eq (a : Author) (ps : List Placement) (w : Worksheet)
    (found : List (PlaceKey × Int)) : ∃ placements new, (putPlacements a ps w found).1
    = { w with store := { w.store with placements }, newPlacements := new } := by
  refine putPlacements_induction (I := fun v => ∃ placements new, v
    = { w with store := { w.store with placements }, newPlacements := new }) ⟨_, _, rfl⟩ ?_ ?_
  · rintro v p - entry - ⟨placements, new, rfl⟩
    exact ⟨_, _, rfl⟩
  · rintro v p - ⟨placements, new, rfl⟩
    exact ⟨_, _, rfl⟩

/-- Only placements whose place has no row are entered anew. -/
lemma newPlacements_putPlacements (nodup : (ps.map fun p => p.place.key).Nodup) :
    (putPlacements a ps w found).1.newPlacements = w.newPlacements
      ++ (ps.filter fun p => found.lookup p.place.key = none).map (newPlacementRow a) := by
  induction ps generalizing w found with
  | nil => simp [putPlacements]
  | cons p rest ih =>
      rw [List.map_cons, List.nodup_cons] at nodup
      rw [putPlacements]
      split
      · rename_i id hid
        have hsame : rest.filter (fun q => (found.filter fun entry => entry.1 ≠ p.place.key).lookup
            q.place.key = none) = rest.filter fun q => found.lookup q.place.key = none := by
          refine List.filter_congr fun q hq => ?_
          have hne : q.place.key ≠ p.place.key := fun h => nodup.1 (h ▸ List.mem_map_of_mem hq)
          rw [lookup_filter_ne found hne]
        rw [ih nodup.2, hsame, List.filter_cons_of_neg (by simp [hid])]
      · rename_i hnone
        rw [ih nodup.2, List.filter_cons_of_pos (by simp [hnone]), List.map_cons,
          List.append_assoc, List.singleton_append]
        rfl

/-- A row that is kept is written once, by the placement of its place. -/
lemma find?_putPlacements (nodup : (ps.map fun p => p.place.key).Nodup)
    (ids : (found.map Prod.snd).Nodup) (id : Int) :
    (putPlacements a ps w found).1.store.placements.find? id
      = match ps.find? fun p => found.lookup p.place.key = some id with
        | some p => (w.store.placements.find? id).map (placementRow a p)
        | none => w.store.placements.find? id := by
  induction ps generalizing w found with
  | nil => rfl
  | cons p rest ih =>
      rw [List.map_cons, List.nodup_cons] at nodup
      have hne : ∀ q ∈ rest, q.place.key ≠ p.place.key :=
        fun q hq h => nodup.1 (h ▸ List.mem_map_of_mem hq)
      rw [putPlacements]
      split
      · rename_i kept hkept
        have hlater : rest.find? (fun q => (found.filter fun entry => entry.1 ≠ p.place.key).lookup
            q.place.key = some id) = rest.find? fun q => found.lookup q.place.key = some id := by
          rw [← List.head?_filter, ← List.head?_filter]
          refine congrArg List.head? (List.filter_congr fun q hq => ?_)
          rw [lookup_filter_ne found (hne q hq)]
        rw [ih nodup.2 (ids.sublist (List.filter_sublist.map _)), hlater]
        by_cases h : id = kept
        · -- the row of `p` is not written again, since its place is not named again
          have hnone : rest.find? (fun q => found.lookup q.place.key = some id) = none := by
            refine List.find?_eq_none.2 fun q hq hlook => hne q hq ?_
            exact key_eq_of_lookup ids (of_decide_eq_true hlook) (h ▸ hkept)
          rw [hnone, List.find?_cons_of_pos (by simp [hkept, h])]
          simp only [Table.find?_modify, if_pos h]
        · rw [List.find?_cons_of_neg (by simpa [hkept] using Ne.symm h)]
          simp only [Table.find?_modify, if_neg h]
      · rename_i hnone
        rw [ih nodup.2 ids, List.find?_cons_of_neg (by simp [hnone])]

end Put

/-! ### What waits for an equipment -/

/-- All placements that wait are of one equipment: new ones by their rows, dropped ones by the rows
that are still stored. -/
structure Owns (w : Worksheet) (equipment : Int) : Prop where
  new : ∀ row ∈ w.newPlacements, row.equipment = equipment
  dropped : ∀ id ∈ w.droppedPlacements,
    ∃ row, w.store.placements.find? id = some row ∧ row.equipment = equipment

section Flushed

variable {w : Worksheet} {e : Int}

/-- The rows of the equipment once everything is written. -/
lemma placementsOf_flushed (own : w.Owns e) :
    w.flushed.placementsOf e
      = ((w.store.placementsOf e).filter fun row => row.1 ∉ w.droppedPlacements)
        ++ numberFrom w.store.placements.nextId w.newPlacements := by
  have hkept : (numberFrom w.store.placements.nextId w.newPlacements).filter
      (fun row => row.1 ∉ w.droppedPlacements)
        = numberFrom w.store.placements.nextId w.newPlacements := by
    refine List.filter_eq_self.2 fun row hr => decide_eq_true fun hd => ?_
    obtain ⟨old, hold, -⟩ := own.dropped _ hd
    have := Table.lt_nextId_of_find? hold
    have := le_of_mem_numberFrom hr
    omega
  have hown : (numberFrom w.store.placements.nextId w.newPlacements).filter
      (fun row => row.2.equipment = e)
        = numberFrom w.store.placements.nextId w.newPlacements :=
    List.filter_eq_self.2 fun row hr => decide_eq_true (own.new _ (mem_of_mem_numberFrom hr))
  simp only [Store.placementsOf, Table.select, flushed]
  rw [Table.rows_eraseAll, Table.rows_insertAll, List.filter_append, hkept, List.filter_append,
    hown, List.filter_filter, List.filter_filter]
  congr 1
  exact List.filter_congr fun row _ => Bool.and_comm _ _

/-- Nothing waits for the rows of others. -/
lemma placementsOf_flushed_beside (own : w.Owns e) {e' : Int} (h : e' ≠ e) :
    w.flushed.placementsOf e' = w.store.placementsOf e' := by
  simp only [Store.placementsOf, Table.select, flushed]
  rw [Table.rows_eraseAll, Table.rows_insertAll, List.filter_filter, List.filter_append]
  have hold : w.store.placements.rows.filter (fun row =>
      decide (row.2.equipment = e') && decide (row.1 ∉ w.droppedPlacements))
        = w.store.placements.rows.filter fun row => row.2.equipment = e' := by
    refine List.filter_congr fun row hr => ?_
    by_cases he : row.2.equipment = e'
    · have hkept : row.1 ∉ w.droppedPlacements := fun hd => by
        obtain ⟨old, hold, hown⟩ := own.dropped _ hd
        rw [← Table.eq_of_mem_of_find? hr hold] at hown
        exact h (he.symm.trans hown)
      simp [hkept]
    · simp [he]
  have hlate : (numberFrom w.store.placements.nextId w.newPlacements).filter (fun row =>
      decide (row.2.equipment = e') && decide (row.1 ∉ w.droppedPlacements)) = [] := by
    refine List.filter_eq_nil_iff.2 fun row hr he => ?_
    have hown := of_decide_eq_true ((Bool.and_eq_true _ _).mp he).1
    exact h (hown.symm.trans (own.new _ (mem_of_mem_numberFrom hr)))
  rw [hold, hlate, List.append_nil]

end Flushed

/-! ### The replacement -/

section Replace

variable {w : Worksheet} {a : Author} {ps : List Placement}

lemma replacePlacements_eq (w : Worksheet) (a : Author) (ps : List Placement) :
    w.replacePlacements a ps
      = { (putPlacements a ps w (w.kept a.equipment)).1 with
          droppedPlacements := w.droppedPlacements ++ w.surplus a.equipment
            ++ (putPlacements a ps w (w.kept a.equipment)).2.map Prod.snd } := by
  have hdropped : (putPlacements a ps w (w.kept a.equipment)).1.droppedPlacements
      = w.droppedPlacements := droppedPlacements_putPlacements
  rw [← hdropped]
  rfl

lemma Owns.putPlacements (own : w.Owns a.equipment) {found : List (PlaceKey × Int)} :
    (putPlacements a ps w found).1.Owns a.equipment := by
  refine putPlacements_induction (I := fun v => v.Owns a.equipment) own ?_ ?_
  · intro v p _ entry _ hv
    refine ⟨hv.new, fun id hid => ?_⟩
    obtain ⟨row, hrow, hown⟩ := hv.dropped id hid
    rw [Table.find?_modify, hrow]
    by_cases h : id = entry.2
    · exact ⟨placementRow a p row, by simp [h], hown⟩
    · exact ⟨row, by simp [h], hown⟩
  · intro v p _ hv
    refine ⟨fun row hr => ?_, hv.dropped⟩
    rcases List.mem_append.1 hr with hr | hr
    · exact hv.new row hr
    · rw [List.mem_singleton.1 hr]
      rfl

/-- An edit keeps rows where they are, and keeps whose they are. -/
lemma find?_putPlacements_of_find? {found : List (PlaceKey × Int)} {id : Int} {row : PlacementRow}
    (h : w.store.placements.find? id = some row) :
    ∃ row', (Worksheet.putPlacements a ps w found).1.store.placements.find? id = some row'
      ∧ row'.equipment = row.equipment := by
  refine putPlacements_induction (I := fun v => ∃ row', v.store.placements.find? id = some row'
      ∧ row'.equipment = row.equipment) ⟨row, h, rfl⟩ ?_ fun _ _ _ h => h
  rintro v p - entry - ⟨row', hrow, hown⟩
  rw [Table.find?_modify, hrow]
  by_cases h : id = entry.2
  · exact ⟨placementRow a p row', by simp [h], hown⟩
  · exact ⟨row', by simp [h], hown⟩

lemma Owns.replacePlacements (own : w.Owns a.equipment) :
    (w.replacePlacements a ps).Owns a.equipment := by
  rw [replacePlacements_eq]
  refine ⟨own.putPlacements.new, fun id hid => ?_⟩
  have hold : ∃ row, w.store.placements.find? id = some row ∧ row.equipment = a.equipment := by
    rcases List.mem_append.1 hid with hid | hid
    · rcases List.mem_append.1 hid with hid | hid
      · exact own.dropped id hid
      · exact find?_of_mem_kept_surplus (List.mem_append_right _ hid)
    · rw [unused_putPlacements] at hid
      exact find?_of_mem_kept_surplus
        (List.mem_append_left _ ((List.filter_sublist.map _).subset hid))
  obtain ⟨row, hrow, hown⟩ := hold
  obtain ⟨row', hrow', hown'⟩ := find?_putPlacements_of_find? hrow
  exact ⟨row', hrow', hown'.trans hown⟩

/-- A replacement leaves the rows of others alone. -/
lemma placementsOf_replacePlacements_beside {e' : Int} (h : e' ≠ a.equipment) :
    (w.replacePlacements a ps).store.placementsOf e' = w.store.placementsOf e' := by
  rw [replacePlacements_eq]
  -- rows that are kept stay rows of the equipment, so no edit concerns a row of another
  have start : ∀ entry ∈ w.kept a.equipment, ∀ row,
      w.store.placements.find? entry.2 = some row → row.equipment = a.equipment := by
    intro entry he row hrow
    obtain ⟨old, hold, hown⟩ := find?_of_mem_kept_surplus
      (List.mem_append_left _ (List.mem_map_of_mem he))
    rw [hold] at hrow
    exact Option.some.inj hrow ▸ hown
  refine (putPlacements_induction (I := fun v => v.store.placementsOf e' = w.store.placementsOf e'
    ∧ ∀ entry ∈ w.kept a.equipment, ∀ row,
      v.store.placements.find? entry.2 = some row → row.equipment = a.equipment)
    ⟨rfl, start⟩ ?_ fun _ _ _ hv => hv).1
  rintro v p - entry he ⟨hsame, hown⟩
  refine ⟨(Table.select_modify_eq fun row hrow => ?_).trans hsame, fun other ho row hrow => ?_⟩
  · have hne : row.equipment ≠ e' := hown entry he row hrow ▸ h.symm
    exact ⟨decide_eq_false hne, decide_eq_false hne⟩
  · rw [Table.find?_modify] at hrow
    split at hrow
    · obtain ⟨old, hold, rfl⟩ := Option.map_eq_some_iff.1 hrow
      exact hown other ho old hold
    · exact hown other ho row hrow

/-- The row in which a placement is written again, unless it waits to be dropped. -/
def rewritten? (w : Worksheet) (a : Author) (p : Placement) : Option (Int × PlacementRow) :=
  (w.seat? a.equipment p).bind fun id =>
    if id ∈ w.droppedPlacements then none
    else (w.store.placements.find? id).map fun row => (id, placementRow a p row)

lemma rewritten?_eq_some {p : Placement} {row : Int × PlacementRow} :
    w.rewritten? a p = some row ↔ w.seat? a.equipment p = some row.1
      ∧ row.1 ∉ w.droppedPlacements
      ∧ ∃ old, w.store.placements.find? row.1 = some old ∧ row.2 = placementRow a p old := by
  rw [rewritten?, Option.bind_eq_some_iff]
  constructor
  · rintro ⟨id, hseat, h⟩
    split at h
    · cases h
    · rename_i hkept
      obtain ⟨old, hold, rfl⟩ := Option.map_eq_some_iff.1 h
      exact ⟨hseat, hkept, old, hold, rfl⟩
  · rintro ⟨hseat, hkept, old, hold, hrow⟩
    exact ⟨row.1, hseat, by rw [if_neg hkept, hold, Option.map_some, ← hrow]⟩

lemma nodup_rewritten (nodup : (ps.map fun p => p.place.key).Nodup) :
    (ps.filterMap (w.rewritten? a)).Nodup := by
  refine List.Pairwise.filterMap _ (fun p q hne row hrow row' hrow' heq => hne ?_)
    (List.pairwise_map.1 nodup)
  obtain ⟨hseat, -⟩ := rewritten?_eq_some.1 hrow
  obtain ⟨hseat', -⟩ := rewritten?_eq_some.1 hrow'
  exact key_eq_of_lookup (nodup_ids_kept w a.equipment) hseat (heq ▸ hseat')

/-- The placement that writes a row is the only one whose place the row is kept for. -/
lemma find?_seat? (nodup : (ps.map fun p => p.place.key).Nodup) {p : Placement} (hp : p ∈ ps)
    {id : Int} (hseat : w.seat? a.equipment p = some id) :
    ps.find? (fun q => w.seat? a.equipment q = some id) = some p :=
  find?_eq_some_of_unique hp (decide_eq_true hseat) fun _ hq hseat' =>
    List.inj_on_of_nodup_map nodup hq hp
      (key_eq_of_lookup (nodup_ids_kept w a.equipment) (of_decide_eq_true hseat') hseat)

lemma find?_putPlacements_kept (nodup : (ps.map fun p => p.place.key).Nodup) (id : Int) :
    (putPlacements a ps w (w.kept a.equipment)).1.store.placements.find? id
      = match ps.find? fun p => w.seat? a.equipment p = some id with
        | some p => (w.store.placements.find? id).map (placementRow a p)
        | none => w.store.placements.find? id :=
  find?_putPlacements nodup (nodup_ids_kept w a.equipment) id

/-- A row that a placement is written in is not dropped by the replacement. -/
lemma not_dropped_of_seat? {p : Placement} {id : Int} (hp : p ∈ ps)
    (hseat : w.seat? a.equipment p = some id) (hwaits : id ∉ w.droppedPlacements) :
    id ∉ (w.replacePlacements a ps).droppedPlacements := by
  have hkept : (p.place.key, id) ∈ w.kept a.equipment := mem_of_lookup_eq_some hseat
  have hdisjoint := List.disjoint_of_nodup_append (nodup_kept_surplus w a.equipment)
  rw [replacePlacements_eq, unused_putPlacements]
  intro hdropped
  rcases List.mem_append.1 hdropped with hdropped | hunused
  · rcases List.mem_append.1 hdropped with hdropped | hsurplus
    · exact hwaits hdropped
    · exact hdisjoint (List.mem_map_of_mem hkept) hsurplus
  · obtain ⟨entry, he, hid⟩ := List.mem_map.1 hunused
    obtain ⟨hmem, hkey⟩ := List.mem_filter.1 he
    have hsame := List.inj_on_of_nodup_map (nodup_ids_kept w a.equipment) hmem hkept hid
    exact of_decide_eq_true hkey (hsame ▸ List.mem_map_of_mem hp)

/-- A row of the equipment that no placement is written in is dropped by the replacement. -/
lemma dropped_of_no_seat {row : Int × PlacementRow} (hrow : row ∈ w.store.placementsOf a.equipment)
    (unseated : ∀ p ∈ ps, w.seat? a.equipment p ≠ some row.1) :
    row.1 ∈ (w.replacePlacements a ps).droppedPlacements := by
  rw [replacePlacements_eq, unused_putPlacements]
  have hmem : row.1 ∈ (w.kept a.equipment).map Prod.snd ++ w.surplus a.equipment :=
    (kept_surplus_perm w a.equipment).mem_iff.2 (List.mem_map_of_mem hrow)
  rcases List.mem_append.1 hmem with hkept | hsurplus
  · obtain ⟨entry, he, hid⟩ := List.mem_map.1 hkept
    refine List.mem_append_right _ (List.mem_map.2
      ⟨entry, List.mem_filter.2 ⟨he, decide_eq_true ?_⟩, hid⟩)
    intro hkey
    obtain ⟨p, hp, hpkey⟩ := List.mem_map.1 hkey
    refine unseated p hp ?_
    rw [seat?, hpkey, lookup_eq_some_of_mem (nodup_keys_kept w a.equipment) he, hid]
  · exact List.mem_append_left _ (List.mem_append_right _ hsurplus)

/-- A row of the equipment that neither waited to be dropped nor is dropped by the replacement is
written again by a placement, and every row written again is such a row. -/
lemma mem_rewritten_iff (nodup : (ps.map fun p => p.place.key).Nodup) {row : Int × PlacementRow} :
    row ∈ ps.filterMap (w.rewritten? a)
      ↔ row ∈ (w.replacePlacements a ps).store.placementsOf a.equipment
        ∧ row.1 ∉ (w.replacePlacements a ps).droppedPlacements := by
  have hfind := find?_putPlacements_kept (a := a) (w := w) nodup row.1
  rw [List.mem_filterMap]
  constructor
  · rintro ⟨p, hp, hrow⟩
    obtain ⟨hseat, hwaits, old, hold, hnew⟩ := rewritten?_eq_some.1 hrow
    rw [find?_seat? nodup hp hseat, hold] at hfind
    obtain ⟨old', hold', hown⟩ := find?_of_seat? hseat
    rw [hold] at hold'
    have hequipment : row.2.equipment = a.equipment := by
      rw [hnew]
      exact Option.some.inj hold' ▸ hown
    refine ⟨Store.mem_placementsOf.2 ⟨Table.find?_eq_some_iff.1 ?_, hequipment⟩,
      not_dropped_of_seat? hp hseat hwaits⟩
    rw [hnew]
    exact hfind
  · rintro ⟨hrow, hkept⟩
    obtain ⟨hstored, hown⟩ := Store.mem_placementsOf.1 hrow
    rw [replacePlacements_eq] at hstored
    rw [Table.find?_of_mem hstored] at hfind
    split at hfind
    · rename_i p hp
      obtain ⟨old, hold, hnew⟩ := Option.map_eq_some_iff.1 hfind.symm
      have hwaits : row.1 ∉ w.droppedPlacements := by
        rw [replacePlacements_eq] at hkept
        exact fun hwaits => hkept (List.mem_append_left _ (List.mem_append_left _ hwaits))
      exact ⟨p, List.mem_of_find?_eq_some hp, rewritten?_eq_some.2
        ⟨of_decide_eq_true (List.find?_some hp :), hwaits, old, hold, hnew.symm⟩⟩
    · rename_i hnone
      refine absurd (dropped_of_no_seat (Store.mem_placementsOf.2
        ⟨Table.find?_eq_some_iff.1 hfind.symm, hown⟩) fun p hp hseat => ?_) hkept
      exact List.find?_eq_none.1 hnone p hp (decide_eq_true hseat)

/-- The rows of the equipment after a replacement: those written again, those that waited to be
entered, and the new ones. -/
theorem placementsOf_replacePlacements (own : w.Owns a.equipment)
    (nodup : (ps.map fun p => p.place.key).Nodup) :
    ((w.replacePlacements a ps).flushed.placementsOf a.equipment).Perm
      (ps.filterMap (w.rewritten? a) ++ numberFrom w.store.placements.nextId
        (w.newPlacements ++ (ps.filter fun p => w.seat? a.equipment p = none).map
          (newPlacementRow a))) := by
  rw [placementsOf_flushed own.replacePlacements]
  refine List.Perm.append ?_ (List.Perm.of_eq ?_)
  · refine Table.perm_of_mem_iff ((Table.nodup_select _ _).filter _) (nodup_rewritten nodup) ?_
    intro row
    rw [mem_rewritten_iff nodup, List.mem_filter, decide_eq_true_iff]
  · rw [replacePlacements_eq]
    show numberFrom (putPlacements a ps w (w.kept a.equipment)).1.store.placements.nextId
      (putPlacements a ps w (w.kept a.equipment)).1.newPlacements = _
    rw [nextId_putPlacements, newPlacements_putPlacements nodup]
    rfl

end Replace

end Worksheet

end StageStock
