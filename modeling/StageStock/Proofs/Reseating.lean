import Mathlib.Data.List.Find
import Mathlib.Tactic.Lemma
import StageStock.Proofs.Seating

/-!
The rows of an equipment after a replacement of its placements, in their order.

A row stays where it is if its place is among the new ones, and is dropped if it is not. New places
get new rows behind them.

* `Table.rows_eq_map_of_find?`: a table is known by its ids and by what is found under them;
* `Worksheet.seat?_eq`: the first row for a place is used again for it;
* `Store.owner?`: the new placement of a row;
* `Worksheet.placementsOf_replacement`: the rows after a replacement;
* `Store.Commits.placementsOf_replaced`: the rows after a commit that replaced the placements, of
  which `Store.Commits.find?_of_owner?` and `Store.Commits.find?_of_no_owner?` find one;
* `Store.Commits.placements_replaced`: the placements that are read back after a commit that
  replaced them;
* `Store.Commits.placements_elsewhere`: if only one place is concerned, those at all other places
  are as they were;
* `Store.Commits.placements_edited`: what is read back of placements that are edited where they are.
-/

namespace StageStock

namespace Table

variable {α : Type} {t u : Table α} {f : Int × α → α}

lemma rows_eq_map_of_find? (ids : u.rows.map Prod.fst = t.rows.map Prod.fst)
    (found : ∀ row ∈ t.rows, u.find? row.1 = some (f row)) :
    u.rows = t.rows.map fun row => (row.1, f row) := by
  have hlength : u.rows.length = t.rows.length := by simpa using congrArg List.length ids
  refine List.ext_getElem (by simpa using hlength) fun i hu ht => ?_
  have ht' : i < t.rows.length := hlength ▸ hu
  have hid : u.rows[i].1 = t.rows[i].1 := by
    have hget := congrArg (fun l => l[i]?) ids
    simpa [hu, ht'] using hget
  have hfound := found t.rows[i] (List.getElem_mem ht')
  rw [← hid, find?_of_mem (List.getElem_mem hu)] at hfound
  rw [List.getElem_map]
  exact Prod.ext hid (Option.some.inj hfound)

end Table

namespace Worksheet

/-! ### Rows to use again -/

/-- The row that is found for a place is the first one that is for it. -/
lemma lookup_reusableRows (rows : List (Int × PlacementRow)) (found : List (PlaceKey × Int))
    (dropped : List Int) (k : PlaceKey) :
    (reusableRows rows found dropped).1.lookup k = (found.lookup k).or
      ((rows.find? fun row => row.2.place?.map Place.key = some k).map Prod.fst) := by
  induction rows generalizing found dropped with
  | nil => exact (Option.or_none ..).symm
  | cons row rest ih =>
      rw [reusableRows, List.find?_cons]
      cases hplace : row.2.place? with
      | none => simp only [ih, Option.map_none, reduceCtorEq, decide_false]
      | some place =>
          by_cases hkey : place.key = k
          · subst hkey
            cases hfound : found.lookup place.key with
            | some id => simp [ih, hfound]
            | none => simp [ih, hfound, List.lookup_append]
          · have hother : [(place.key, row.1)].lookup k = none := by
              rw [List.lookup_cons, beq_false_of_ne (Ne.symm hkey), List.lookup_nil]
            simp only [Option.map_some, Option.some.injEq, hkey, decide_false]
            split
            · exact ih _ _
            · rw [ih, List.lookup_append, hother, Option.or_none]

variable {w : Worksheet} {e : Int}

lemma seat?_eq (w : Worksheet) (e : Int) (p : Placement) :
    w.seat? e p = ((w.store.placementsOf e).find? fun row =>
      row.2.place?.map Place.key = some p.place.key).map Prod.fst :=
  (lookup_reusableRows _ [] [] p.place.key).trans (Option.none_or ..)

/-- The row that a placement is written in is for its place. -/
lemma exists_row_of_seat? {p : Placement} {id : Int} (h : w.seat? e p = some id) :
    ∃ row ∈ w.store.placementsOf e, row.1 = id
      ∧ ∃ place, row.2.place? = some place ∧ place.key = p.place.key := by
  rw [seat?_eq] at h
  obtain ⟨row, hfound, rfl⟩ := Option.map_eq_some_iff.1 h
  exact ⟨row, List.mem_of_find?_eq_some hfound, rfl,
    Option.map_eq_some_iff.1 (of_decide_eq_true (List.find?_some hfound :))⟩

lemma exists_seat?_iff {p : Placement} :
    (∃ id, w.seat? e p = some id) ↔ ∃ row ∈ w.store.placementsOf e,
      ∃ place, row.2.place? = some place ∧ place.key = p.place.key := by
  rw [← Option.isSome_iff_exists, seat?_eq, Option.isSome_map, List.find?_isSome]
  simp only [decide_eq_true_eq, Option.map_eq_some_iff]

end Worksheet

/-! ### The rows after a replacement -/

/-- The new placement of a row, if there is one for its place. -/
def Store.owner? (s : Store) (e : Int) (ps : List Placement) (row : Int × PlacementRow) :
    Option Placement :=
  ps.find? fun p => ({ store := s } : Worksheet).seat? e p = some row.1

/-- The new placements whose places have no row. -/
def Store.newcomers (s : Store) (e : Int) (ps : List Placement) : List Placement :=
  ps.filter fun p => ({ store := s } : Worksheet).seat? e p = none

namespace Worksheet

variable {s : Store} {a : Author} {ps : List Placement}

/-- The writing of placements edits some rows and moves none. -/
lemma rows_putPlacements (w : Worksheet) (nodup : (ps.map fun p => p.place.key).Nodup) :
    (putPlacements a ps w (w.kept a.equipment)).1.store.placements.rows
      = w.store.placements.rows.map fun row => (row.1,
        match ps.find? fun p => w.seat? a.equipment p = some row.1 with
        | some p => placementRow a p row.2
        | none => row.2) := by
  refine Table.rows_eq_map_of_find? ?_ fun row hrow => ?_
  · refine putPlacements_induction (I := fun v => v.store.placements.rows.map Prod.fst
      = w.store.placements.rows.map Prod.fst) rfl (fun v p _ entry _ hv => ?_) fun _ _ _ hv => hv
    rw [← hv, Table.rows_modify, List.map_map]
    exact List.map_congr_left fun row _ => by simp only [Function.comp]; split <;> rfl
  · rw [find?_putPlacements_kept nodup, Table.find?_of_mem hrow]
    cases ps.find? fun p => w.seat? a.equipment p = some row.1 <;> rfl

/-- The rows of the equipment after a replacement, if nothing waited before it. -/
theorem placementsOf_replacement (nodup : (ps.map fun p => p.place.key).Nodup) :
    (({ store := s } : Worksheet).replacePlacements a ps).flushed.placementsOf a.equipment
      = (s.placementsOf a.equipment).filterMap (fun row =>
          (s.owner? a.equipment ps row).map fun p => (row.1, placementRow a p row.2))
        ++ numberFrom s.placements.nextId
          ((s.newcomers a.equipment ps).map (newPlacementRow a)) := by
  have hown : ({ store := s } : Worksheet).Owns a.equipment := ⟨by simp, by simp⟩
  rw [placementsOf_flushed hown.replacePlacements]
  congr 1
  · have hstored : (({ store := s } : Worksheet).replacePlacements a ps).store.placementsOf
        a.equipment = (s.placementsOf a.equipment).map fun row => (row.1,
          match s.owner? a.equipment ps row with
          | some p => placementRow a p row.2
          | none => row.2) := by
      rw [replacePlacements_eq, Store.placementsOf, Table.select,
        rows_putPlacements { store := s } nodup, List.filter_map]
      refine congrArg _ (List.filter_congr fun row _ => ?_)
      refine decide_eq_decide.2 ?_
      cases hp : ps.find? fun p => ({ store := s } : Worksheet).seat? a.equipment p = some row.1 <;>
        simp [hp, placementRow]
    rw [hstored, List.filter_map, ← List.filterMap_eq_map, List.filterMap_filter]
    refine List.filterMap_congr fun row hrow => ?_
    cases howner : s.owner? a.equipment ps row with
    | some p =>
        have hseat : ({ store := s } : Worksheet).seat? a.equipment p = some row.1 :=
          of_decide_eq_true (List.find?_some howner :)
        have hkept := not_dropped_of_seat? (List.mem_of_find?_eq_some howner) hseat
          List.not_mem_nil
        simp [howner, hkept]
    | none =>
        have hdropped := dropped_of_no_seat (a := a) (w := { store := s }) hrow fun p hp hseat =>
          List.find?_eq_none.1 howner p hp (decide_eq_true hseat)
        simp [hdropped]
  · rw [replacePlacements_eq]
    show numberFrom (putPlacements a ps { store := s } _).1.store.placements.nextId
      (putPlacements a ps { store := s } _).1.newPlacements = _
    rw [nextId_putPlacements, newPlacements_putPlacements nodup]
    rfl

end Worksheet

/-! ### The placements that are read back -/

lemma Place.key_of_reread {p place : Place} (h : p.reread = some place) : place.key = p.key := by
  rw [reread] at h
  split at h
  · rw [← Option.some.inj h]
    exact key_normalised p
  · cases h

namespace Placement

variable {p q : Placement} {id : Int}

lemma key_of_readBack (h : p.readBack id = some q) : q.place.key = p.place.key := by
  obtain ⟨place, hplace, rfl⟩ := Option.map_eq_some_iff.1 h
  exact Place.key_of_reread hplace

/-- A placement of a ledger is read again as it is. -/
lemma readBack_of_ledger? {s : Store} {e : Int} {ledger : Snapshot}
    (read : s.ledger? e = .ok ledger) (listed : q ∈ ledger.placements) :
    q.id.bind q.readBack = some q := by
  obtain ⟨equipment, -, -, rfl⟩ := Store.ledger?_eq_ok.1 read
  obtain ⟨row, -, hrow⟩ := List.mem_filterMap.1 listed
  obtain ⟨hwords, hnormal⟩ := hasWords_of_placementOf? hrow
  obtain ⟨place, -, rfl⟩ := Option.map_eq_some_iff.1 hrow
  rw [Option.bind_some, readBack_of_hasWords hwords, hnormal]

end Placement

namespace Store

section Read

variable {s : Store} {e : Int} {ps : List Placement} {row row' : Int × PlacementRow}

/-- A row of an equipment is known by its id. -/
lemma eq_of_listed (listed : row ∈ s.placementsOf e) (listed' : row' ∈ s.placementsOf e)
    (same : row.1 = row'.1) : row = row' := by
  have hrow := Table.find?_of_mem (mem_placementsOf.1 listed).1
  have hrow' := Table.find?_of_mem (mem_placementsOf.1 listed').1
  rw [same, hrow'] at hrow
  exact Prod.ext same (Option.some.inj hrow).symm

/-- A row with a place is read as a placement there. -/
lemma exists_placement_of_place (listed : row ∈ s.placementsOf e) {place : Place}
    (h : row.2.place? = some place) :
    ∃ q ∈ (s.placementsOf e).filterMap placementOf?, q.id = some row.1 ∧ q.place = place :=
  ⟨_, List.mem_filterMap.2 ⟨row, listed, by rw [placementOf?, h, Option.map_some]⟩, rfl, rfl⟩

/-- A placement has no row exactly if none is read that is at its place. -/
lemma seat?_eq_none_iff {p : Placement} :
    ({ store := s } : Worksheet).seat? e p = none
      ↔ ∀ q ∈ (s.placementsOf e).filterMap placementOf?, q.place.key ≠ p.place.key := by
  have hseat : (∃ id, ({ store := s } : Worksheet).seat? e p = some id) ↔
      ∃ row ∈ s.placementsOf e, ∃ place, row.2.place? = some place ∧ place.key = p.place.key :=
    Worksheet.exists_seat?_iff
  rw [← Option.not_isSome_iff_eq_none, Option.isSome_iff_exists, hseat]
  constructor
  · intro hnone q hq hkey
    obtain ⟨row, hrow, hread⟩ := List.mem_filterMap.1 hq
    obtain ⟨place, hplace, rfl⟩ := Option.map_eq_some_iff.1 hread
    exact hnone ⟨row, hrow, place, hplace, hkey⟩
  · rintro hother ⟨row, hrow, place, hplace, hkey⟩
    obtain ⟨q, hq, -, rfl⟩ := exists_placement_of_place hrow hplace
    exact hother q hq hkey

variable (nodup : (((s.placementsOf e).filterMap placementOf?).map fun q => q.place.key).Nodup)

include nodup

/-- Where no two placements are at one place, a row is known by its place. -/
lemma eq_of_place (listed : row ∈ s.placementsOf e) (listed' : row' ∈ s.placementsOf e)
    {place place' : Place} (hplace : row.2.place? = some place)
    (hplace' : row'.2.place? = some place') (same : place.key = place'.key) : row = row' := by
  obtain ⟨q, hq, hid, rfl⟩ := exists_placement_of_place listed hplace
  obtain ⟨q', hq', hid', rfl⟩ := exists_placement_of_place listed' hplace'
  obtain rfl : q = q' := List.inj_on_of_nodup_map nodup hq hq' same
  exact eq_of_listed listed listed' (Option.some.inj (hid.symm.trans hid'))

/-- A placement is written in the row that is for its place. -/
lemma seat?_eq_some_iff (listed : row ∈ s.placementsOf e) {p : Placement} :
    ({ store := s } : Worksheet).seat? e p = some row.1
      ↔ ∃ place, row.2.place? = some place ∧ p.place.key = place.key := by
  constructor
  · intro hseat
    obtain ⟨found, hfound, hid, place, hplace, hkey⟩ := Worksheet.exists_row_of_seat? hseat
    obtain rfl := eq_of_listed hfound listed hid
    exact ⟨place, hplace, hkey.symm⟩
  · rintro ⟨place, hplace, hkey⟩
    obtain ⟨id, hseat⟩ : ∃ id, ({ store := s } : Worksheet).seat? e p = some id :=
      Worksheet.exists_seat?_iff.2 ⟨row, listed, place, hplace, hkey.symm⟩
    obtain ⟨found, hfound, rfl, place', hplace', hkey'⟩ := Worksheet.exists_row_of_seat? hseat
    rw [hseat, eq_of_place nodup hfound listed hplace' hplace (hkey'.trans hkey)]

/-- What is read back of the rows that were there. -/
lemma filterMap_owner? (known : ∀ p ∈ ps, p.status ≠ "") (a : Worksheet.Author) :
    ((s.placementsOf e).filterMap fun row =>
        (s.owner? e ps row).map fun p => (row.1, Worksheet.placementRow a p row.2)).filterMap
      placementOf?
      = ((s.placementsOf e).filterMap placementOf?).filterMap fun q =>
          (ps.find? fun p => p.place.key = q.place.key).bind fun p => q.id.bind p.readBack := by
  rw [List.filterMap_filterMap, List.filterMap_filterMap]
  refine List.filterMap_congr fun row hrow => ?_
  have hwritten : ((s.owner? e ps row).map fun p =>
      (row.1, Worksheet.placementRow a p row.2)).bind placementOf?
        = (s.owner? e ps row).bind fun p => p.readBack row.1 := by
    cases howner : s.owner? e ps row with
    | none => rfl
    | some p =>
        exact Placement.placementOf?_placementRow (known p (List.mem_of_find?_eq_some howner)) a
          row.1 row.2
  rw [hwritten]
  cases hplace : row.2.place? with
  | none =>
      have howner : s.owner? e ps row = none := by
        refine List.find?_eq_none.2 fun p _ hseat => ?_
        obtain ⟨place, hsome, -⟩ := (seat?_eq_some_iff nodup hrow).1 (of_decide_eq_true hseat)
        rw [hplace] at hsome
        cases hsome
      rw [howner, placementOf?, hplace]
      rfl
  | some place =>
      have howner : s.owner? e ps row = ps.find? fun p => p.place.key = place.key := by
        refine List.find?_congr fun p _ => decide_eq_decide.2 ?_
        rw [seat?_eq_some_iff nodup hrow]
        simp [hplace]
      rw [howner, placementOf?, hplace]
      rfl

end Read

namespace Commits

variable {s t : Store} {p : Proposal} {now : Moment} {before after committed : Snapshot}
  {w : Worksheet} {ps : List Placement}

/-- No place is among the new ones twice. -/
lemma nodup_replaced (h : s.Commits p now before after w t committed)
    (replaced : p.changes = [.replacePlacements ps]) : (ps.map fun q => q.place.key).Nodup := by
  have happlied := h.applied
  rw [replaced] at happlied
  obtain rfl := Except.ok.inj happlied
  exact ((Snapshot.violations_eq_nil_iff_isSound _).1 h.lawful).places

/-- The rows of the equipment after a commit that replaced its placements. -/
lemma placementsOf_replaced (h : s.Commits p now before after w t committed)
    (replaced : p.changes = [.replacePlacements ps]) :
    t.placementsOf p.equipment
      = (s.placementsOf p.equipment).filterMap (fun row =>
          (s.owner? p.equipment ps row).map fun q =>
            (row.1, Worksheet.placementRow (p.author now) q row.2))
        ++ numberFrom s.placements.nextId
          ((s.newcomers p.equipment ps).map (Worksheet.newPlacementRow (p.author now))) := by
  have hwritten := h.written
  rw [replaced] at hwritten
  obtain rfl := Except.ok.inj hwritten
  rw [placementsOf, h.tables_eq.1]
  exact Worksheet.placementsOf_replacement (a := p.author now) (h.nodup_replaced replaced)

/-- A row that a new placement is written in is found with it. -/
lemma find?_of_owner? (h : s.Commits p now before after w t committed)
    (replaced : p.changes = [.replacePlacements ps]) {row : Int × PlacementRow} {q : Placement}
    (listed : row ∈ s.placementsOf p.equipment) (owner : s.owner? p.equipment ps row = some q) :
    t.placements.find? row.1 = some (Worksheet.placementRow (p.author now) q row.2) := by
  have hmem : (row.1, Worksheet.placementRow (p.author now) q row.2)
      ∈ t.placementsOf p.equipment := by
    rw [h.placementsOf_replaced replaced]
    exact List.mem_append_left _
      (List.mem_filterMap.2 ⟨row, listed, Option.map_eq_some_iff.2 ⟨q, owner, rfl⟩⟩)
  exact Table.find?_eq_some_iff.2 (mem_placementsOf.1 hmem).1

/-- A row that no new placement is written in is gone. -/
lemma find?_of_no_owner? (h : s.Commits p now before after w t committed)
    (replaced : p.changes = [.replacePlacements ps]) {row : Int × PlacementRow}
    (listed : row ∈ s.placementsOf p.equipment) (owner : s.owner? p.equipment ps row = none) :
    t.placements.find? row.1 = none := by
  obtain ⟨hlisted, hown⟩ := mem_placementsOf.1 listed
  by_contra hthere
  obtain ⟨found, hfound⟩ := Option.ne_none_iff_exists'.1 hthere
  have hmem : (row.1, found) ∈ t.placementsOf found.equipment :=
    mem_placementsOf.2 ⟨Table.find?_eq_some_iff.1 hfound, rfl⟩
  by_cases hother : found.equipment = p.equipment
  · rw [hother, h.placementsOf_replaced replaced] at hmem
    rcases List.mem_append.1 hmem with hkept | hnew
    · obtain ⟨kept, hrow, hkept⟩ := List.mem_filterMap.1 hkept
      obtain ⟨q, hq, heq⟩ := Option.map_eq_some_iff.1 hkept
      obtain rfl := eq_of_listed hrow listed (Prod.mk.inj heq).1
      rw [owner] at hq
      cases hq
    · have hbound := le_of_mem_numberFrom hnew
      have hless := Table.lt_nextId hlisted
      omega
  · -- a row of another equipment has been there before
    rw [h.agreesBeside.placements _ hother] at hmem
    have hsame : row.2 = found :=
      Table.eq_of_mem_of_find? hlisted (Table.find?_eq_some_iff.2 (mem_placementsOf.1 hmem).1)
    exact hother (hsame ▸ hown)

/-- The placements that are read back after a commit that replaced them: each of those before is
what the new one at its place says of it, and those at other places follow under new ids. -/
theorem placements_replaced (h : s.Commits p now before after w t committed)
    (places : (before.placements.map fun q => q.place.key).Nodup)
    (replaced : p.changes = [.replacePlacements ps]) :
    committed.placements
      = before.placements.filterMap (fun q =>
          (ps.find? fun p => p.place.key = q.place.key).bind fun p => q.id.bind p.readBack)
        ++ (numberFrom s.placements.nextId (ps.filter fun p =>
            ∀ q ∈ before.placements, q.place.key ≠ p.place.key)).filterMap fun row =>
          row.2.readBack row.1 := by
  obtain ⟨row, -, -, rfl⟩ := ledger?_eq_ok.1 h.read
  have happlied := h.applied
  rw [replaced] at happlied
  obtain rfl := Except.ok.inj happlied
  have hsound := (Snapshot.violations_eq_nil_iff_isSound _).1 h.lawful
  have hknown : ∀ q ∈ ps, q.status ≠ "" := fun q hq => (hsound.placements q hq).status_ne_empty
  have hnew : (s.newcomers p.equipment ps)
      = ps.filter fun q => ∀ q' ∈ (s.placementsOf p.equipment).filterMap placementOf?,
          q'.place.key ≠ q.place.key :=
    List.filter_congr fun q _ => decide_eq_decide.2 seat?_eq_none_iff
  have hread : committed.placements = (t.placementsOf p.equipment).filterMap placementOf? := by
    rw [h.placements_read, placementsOf, placementsOf, h.tables_eq.1]
  rw [hread, h.placementsOf_replaced replaced, List.filterMap_append]
  congr 1
  · exact filterMap_owner? places hknown (p.author now)
  · show (numberFrom _ ((s.newcomers p.equipment ps).map _)).filterMap placementOf? = _
    rw [hnew, numberFrom_map, List.filterMap_map]
    refine List.filterMap_congr fun row hrow => ?_
    have hmem := (List.mem_filter.1 (mem_of_mem_numberFrom hrow)).1
    exact Placement.placementOf?_placementRow (hknown _ hmem) (p.author now) row.1 _

/-- Whatever is read back is at the place of a new placement. -/
lemma exists_key_of_replaced (h : s.Commits p now before after w t committed)
    (places : (before.placements.map fun q => q.place.key).Nodup)
    (replaced : p.changes = [.replacePlacements ps]) :
    ∀ q ∈ committed.placements, ∃ p ∈ ps, q.place.key = p.place.key := by
  intro q hq
  rw [h.placements_replaced places replaced] at hq
  rcases List.mem_append.1 hq with hq | hq
  · obtain ⟨old, -, hread⟩ := List.mem_filterMap.1 hq
    obtain ⟨new, hnew, hread⟩ := Option.bind_eq_some_iff.1 hread
    obtain ⟨id, -, hread⟩ := Option.bind_eq_some_iff.1 hread
    exact ⟨new, List.mem_of_find?_eq_some hnew, Placement.key_of_readBack hread⟩
  · obtain ⟨row, hrow, hread⟩ := List.mem_filterMap.1 hq
    exact ⟨row.2, (List.mem_filter.1 (mem_of_mem_numberFrom hrow)).1,
      Placement.key_of_readBack hread⟩

/-- A replacement that changes what is at one place only leaves all placements at other places as
they were. -/
theorem placements_elsewhere (h : s.Commits p now before after w t committed)
    (places : (before.placements.map fun q => q.place.key).Nodup)
    (replaced : p.changes = [.replacePlacements ps]) {key : PlaceKey}
    (kept : ∀ q : Placement, q.place.key ≠ key → (q ∈ ps ↔ q ∈ before.placements)) :
    (committed.placements.filter fun q => q.place.key ≠ key)
      = before.placements.filter fun q => q.place.key ≠ key := by
  have hnodup := h.nodup_replaced replaced
  -- a new placement at another place would have been there before
  have hnew : ∀ q ∈ (numberFrom s.placements.nextId (ps.filter fun p =>
      ∀ q ∈ before.placements, q.place.key ≠ p.place.key)).filterMap fun entry =>
        entry.2.readBack entry.1, ¬ decide (q.place.key ≠ key) = true := by
    intro q hq hkey
    obtain ⟨entry, hentry, hread⟩ := List.mem_filterMap.1 hq
    obtain ⟨hmem, hother⟩ := List.mem_filter.1 (mem_of_mem_numberFrom hentry)
    have hplace : entry.2.place.key ≠ key :=
      Placement.key_of_readBack hread ▸ of_decide_eq_true hkey
    exact of_decide_eq_true hother _ ((kept _ hplace).1 hmem) rfl
  rw [h.placements_replaced places replaced, List.filter_append, List.filter_eq_nil_iff.2 hnew,
    List.append_nil, List.filter_filterMap, ← List.filterMap_eq_filter]
  refine List.filterMap_congr fun q hq => ?_
  by_cases hkey : q.place.key = key
  · -- what is read back in its stead is at the same place
    rw [Option.guard, if_neg (by simpa using hkey), Option.filter_eq_none_iff]
    intro q' hq' hother
    obtain ⟨new, hfound, hq'⟩ := Option.bind_eq_some_iff.1 hq'
    obtain ⟨id, -, hread⟩ := Option.bind_eq_some_iff.1 hq'
    refine of_decide_eq_true hother ?_
    rw [Placement.key_of_readBack hread, of_decide_eq_true (List.find?_some hfound :), hkey]
  · have hthere : q ∈ ps := (kept q hkey).2 hq
    have hfound : (ps.find? fun p => p.place.key = q.place.key) = some q :=
      find?_eq_some_of_unique hthere (decide_eq_true rfl) fun _ hp hsame =>
        List.inj_on_of_nodup_map hnodup hp hthere (of_decide_eq_true hsame)
    rw [hfound, Option.bind_some, Placement.readBack_of_ledger? h.read hq]
    rfl

/-- A replacement that edits placements without moving them, and brings new ones to other places,
leaves just the edited ones and the new ones, under the next ids. -/
theorem placements_edited (h : s.Commits p now before after w t committed)
    (places : (before.placements.map fun q => q.place.key).Nodup)
    (f : Placement → Option Placement) (new : List Placement)
    (replaced : p.changes = [.replacePlacements (before.placements.filterMap f ++ new)])
    (stays : ∀ q ∈ before.placements, ∀ q', f q = some q' → q'.id = q.id ∧ q'.place = q.place)
    (elsewhere : ∀ p ∈ new, ∀ q ∈ before.placements, q.place.key ≠ p.place.key)
    (plain : ∀ p ∈ new, p.place.reread = some p.place) :
    committed.placements = before.placements.filterMap f
      ++ (numberFrom s.placements.nextId new).map fun row => { row.2 with id := some row.1 } := by
  have hnodup := h.nodup_replaced replaced
  have hplace {q q' : Placement} (hq : q ∈ before.placements) (hq' : f q = some q') :
      q'.place.key = q.place.key := congrArg Place.key (stays q hq q' hq').2
  rw [h.placements_replaced places replaced]
  congr 1
  · refine List.filterMap_congr fun q hq => ?_
    cases hedit : f q with
    | some q' =>
        obtain ⟨hid, hsame⟩ := stays q hq q' hedit
        have hthere : q' ∈ before.placements.filterMap f ++ new :=
          List.mem_append_left _ (List.mem_filterMap.2 ⟨q, hq, hedit⟩)
        have hfound : ((before.placements.filterMap f ++ new).find? fun p =>
            p.place.key = q.place.key) = some q' :=
          find?_eq_some_of_unique hthere (decide_eq_true (hplace hq hedit)) fun _ hp hkey =>
            List.inj_on_of_nodup_map hnodup hp hthere
              ((of_decide_eq_true hkey).trans (hplace hq hedit).symm)
        obtain ⟨id, hown, hread⟩ := Option.bind_eq_some_iff.1
          (Placement.readBack_of_ledger? h.read hq)
        obtain ⟨place, hreread, hq⟩ := Option.map_eq_some_iff.1 hread
        obtain rfl : place = q.place := congrArg Placement.place hq
        rw [hfound, Option.bind_some, hown, Option.bind_some, Placement.readBack, hsame, hreread,
          Option.map_some, ← hown, ← hid, ← hsame]
    | none =>
        -- what is at the place of a placement that is given up was at another one
        have hnone : ((before.placements.filterMap f ++ new).find? fun p =>
            p.place.key = q.place.key) = none := by
          refine List.find?_eq_none.2 fun p hp hkey => ?_
          have hkey := of_decide_eq_true hkey
          rcases List.mem_append.1 hp with hp | hp
          · obtain ⟨old, hold, hedited⟩ := List.mem_filterMap.1 hp
            obtain rfl : old = q := List.inj_on_of_nodup_map places hold hq
              ((hplace hold hedited).symm.trans hkey)
            rw [hedit] at hedited
            cases hedited
          · exact elsewhere p hp q hq hkey.symm
        rw [hnone, Option.bind_none]
  · have hnew : ((before.placements.filterMap f ++ new).filter fun p =>
        ∀ q ∈ before.placements, q.place.key ≠ p.place.key) = new := by
      rw [List.filter_append, List.filter_eq_nil_iff.2 fun p hp hother => ?_, List.nil_append,
        List.filter_eq_self.2 fun p hp => decide_eq_true (elsewhere p hp)]
      obtain ⟨old, hold, hedited⟩ := List.mem_filterMap.1 hp
      exact of_decide_eq_true hother old hold (hplace hold hedited).symm
    rw [hnew, ← List.filterMap_eq_map]
    refine List.filterMap_congr fun row hrow => ?_
    rw [Placement.readBack, plain _ (mem_of_mem_numberFrom hrow), Option.map_some]
    rfl

end Commits

end Store

end StageStock
