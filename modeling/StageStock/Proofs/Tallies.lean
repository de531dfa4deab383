import Mathlib.Data.List.Induction
import Mathlib.Tactic.Lemma
import StageStock.Proofs.Table
import StageStock.Snapshot.Availability

/-!
What a tally says of the rows that it was made of.

* `Snapshot.tally_concat`: the last row is added to the tally of those before it, so that all else
  is by induction from the last row on;
* `Snapshot.unitsOf_tally`: the units of a status are those of the rows that have it, and so
  requests are counted once each (`Snapshot.requestedUnits_eq`);
* `Snapshot.Tallied`: entries that list each status of some rows once, with its units;
* `Snapshot.tallied_tally`: a tally does;
* `Snapshot.addUp_tally`: and the entries of some of the statuses have the units of their rows.
-/

namespace StageStock

namespace Snapshot

variable {status : String}

lemma tally_concat (rows : List (String × Int)) (row : String × Int) :
    tally (rows ++ [row]) = tally.add row.1 row.2 (tally rows) := by
  rw [tally, List.foldl_concat, tally]

/-! ### The units of a status -/

/-- One more row adds its units to those of its status, and to no others. -/
lemma unitsOf_add (added : String) (units : Int) (entries : List (String × Int)) :
    unitsOf (tally.add added units entries) status
      = unitsOf entries status + if status = added then units else 0 := by
  induction entries with
  | nil =>
      by_cases hstatus : status = added
      · simp [tally.add, unitsOf, hstatus]
      · have hne : (status == added) = false := beq_false_of_ne hstatus
        simp [tally.add, unitsOf, List.lookup_cons, hne, hstatus]
  | cons entry rest ih =>
      obtain ⟨name, held⟩ := entry
      rw [tally.add]
      by_cases hname : name = added
      · subst hname
        by_cases hstatus : status = name
        · simp [unitsOf, hstatus]
        · have hne : (status == name) = false := beq_false_of_ne hstatus
          simp [unitsOf, List.lookup_cons, hne, hstatus]
      · rw [if_neg hname]
        by_cases hstatus : status = name
        · simp [unitsOf, hstatus, hname]
        · have hne : (status == name) = false := beq_false_of_ne hstatus
          simpa [unitsOf, List.lookup_cons, hne] using ih

/-- The units of a status are those of all rows that have it. -/
theorem unitsOf_tally (rows : List (String × Int)) :
    unitsOf (tally rows) status
      = addUp ((rows.filter fun row => row.1 = status).map Prod.snd) := by
  induction rows using List.reverseRecOn with
  | nil => rfl
  | append_singleton rows row ih =>
      rw [tally_concat, unitsOf_add, ih, List.filter_append, List.map_append, addUp_append]
      by_cases hrow : row.1 = status
      · simp [hrow, addUp]
      · simp [hrow, Ne.symm hrow, addUp]

/-- The units that shows have requested are those of all reservations that are requests. -/
lemma requestedUnits_eq (s : Snapshot) :
    s.requestedUnits = addUp ((s.reservations.filter fun r =>
      r.status = ReservationStatus.requested.text).map Reservation.allocated) := by
  rw [requestedUnits, reservationsByStatus, unitsOf_tally, List.filter_map, List.map_map]
  rfl

/-! ### The entries -/

/-- One more row leaves the statuses as they are, or puts its own behind them if it is new. -/
lemma map_fst_add (added : String) (units : Int) (entries : List (String × Int)) :
    (tally.add added units entries).map Prod.fst
      = if added ∈ entries.map Prod.fst then entries.map Prod.fst
        else entries.map Prod.fst ++ [added] := by
  induction entries with
  | nil => rfl
  | cons entry rest ih =>
      rw [tally.add]
      by_cases hname : entry.1 = added
      · simp [hname]
      · have hmem : added ∈ (entry :: rest).map Prod.fst ↔ added ∈ rest.map Prod.fst := by
          simp [Ne.symm hname]
        rw [if_neg hname, List.map_cons, ih]
        by_cases hrest : added ∈ rest.map Prod.fst
        · rw [if_pos hrest, if_pos (hmem.2 hrest), List.map_cons]
        · rw [if_neg hrest, if_neg (mt hmem.1 hrest), List.map_cons, List.cons_append]

/-- Entries that list each status of some rows once, with the units of all rows that have it. -/
structure Tallied (rows entries : List (String × Int)) : Prop where
  nodup : (entries.map Prod.fst).Nodup
  mem_iff : ∀ status, status ∈ entries.map Prod.fst ↔ status ∈ rows.map Prod.fst
  units : ∀ entry ∈ entries,
    entry.2 = addUp ((rows.filter fun row => row.1 = entry.1).map Prod.snd)

/-- No status is listed twice. -/
lemma nodup_tally (rows : List (String × Int)) : ((tally rows).map Prod.fst).Nodup := by
  induction rows using List.reverseRecOn with
  | nil => exact List.nodup_nil
  | append_singleton rows row ih =>
      rw [tally_concat, map_fst_add]
      split
      · exact ih
      · rename_i hnew
        exact List.concat_eq_append ▸ ih.concat hnew

/-- The statuses that are listed are those of the rows. -/
lemma mem_map_fst_tally (rows : List (String × Int)) :
    status ∈ (tally rows).map Prod.fst ↔ status ∈ rows.map Prod.fst := by
  induction rows using List.reverseRecOn with
  | nil => rfl
  | append_singleton rows row ih =>
      rw [tally_concat, map_fst_add, List.map_append, List.mem_append, ← ih]
      split
      · rename_i hold
        constructor
        · exact Or.inl
        · rintro (hmem | hmem)
          · exact hmem
          · rwa [List.mem_singleton.1 hmem]
      · exact List.mem_append

theorem tallied_tally (rows : List (String × Int)) : Tallied rows (tally rows) where
  nodup := nodup_tally rows
  mem_iff _ := mem_map_fst_tally rows
  units entry hentry := by
    have hfound := lookup_eq_some_of_mem (nodup_tally rows) hentry
    rw [← unitsOf_tally, unitsOf, hfound, Option.getD_some]

/-! ### Several statuses together -/

variable {p : String → Bool}

lemma addUp_add (added : String) (units : Int) (entries : List (String × Int)) :
    addUp (((tally.add added units entries).filter fun entry => p entry.1).map Prod.snd)
      = addUp ((entries.filter fun entry => p entry.1).map Prod.snd)
        + if p added then units else 0 := by
  induction entries with
  | nil => by_cases hp : p added <;> simp [tally.add, hp, addUp]
  | cons entry rest ih =>
      rw [tally.add]
      by_cases hname : entry.1 = added
      · rw [if_pos hname, ← hname]
        by_cases hp : p entry.1
        · simp only [List.filter_cons, hp, if_true, List.map_cons, addUp]
          omega
        · simp [hp]
      · rw [if_neg hname]
        by_cases hp : p entry.1
        · simp only [List.filter_cons, hp, if_true, List.map_cons, addUp, ih, Int.add_assoc]
        · simpa [List.filter_cons, hp] using ih

/-- The entries of some of the statuses have the units of all rows that are in one of them. -/
theorem addUp_tally (rows : List (String × Int)) :
    addUp (((tally rows).filter fun entry => p entry.1).map Prod.snd)
      = addUp ((rows.filter fun row => p row.1).map Prod.snd) := by
  induction rows using List.reverseRecOn with
  | nil => rfl
  | append_singleton rows row ih =>
      rw [tally_concat, addUp_add, ih, List.filter_append, List.map_append, addUp_append]
      by_cases hp : p row.1 <;> simp [hp, addUp]

end Snapshot

end StageStock
