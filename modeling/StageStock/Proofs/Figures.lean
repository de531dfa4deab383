import Mathlib.Tactic.Lemma
import StageStock.Overview.Checks
import StageStock.Proofs.Lawful
import StageStock.Proofs.Rounding

/-!
What the rows of an equipment sum up to, and what its ledger does.

The overview adds up rows as they are stored, and goes on with rounded numbers where a sum leaves 64
bits. The ledger adds up what the rows are read as, exactly.

* `Overview.Amount.whole_add_add`: three numbers that are not negative are added exactly, or both
  their sum and what comes of it leave 64 bits;
* `Overview.placed_le`, `Overview.reserved_eq`, `Overview.installed_eq`: how the parts compare;
* `Overview.committed_eq_of_isSound`, `Overview.committed_le_of_le`: how the sums compare.
-/

namespace StageStock

namespace Overview

/-! ### Amounts -/

namespace Amount

lemma add_exact {n m : Int} (h : fitsWord (n + m) = true) :
    (exact n).add (exact m) = exact (n + m) := by
  rw [add, if_pos h]

/-- Two numbers that are not negative reach the limit of 64 bits if their sum cannot be stored. -/
lemma wordLimit_le_of_not_fits {n m : Int} (hn : 0 ≤ n) (hm : 0 ≤ m)
    (h : ¬ fitsWord (n + m) = true) : wordLimit ≤ n + m := by
  by_contra hless
  refine h ?_
  rw [fitsWord, Bool.and_eq_true, decide_eq_true_iff, decide_eq_true_iff]
  rw [wordLimit] at hless ⊢
  omega

/-- Such a sum goes on as a number that reaches the limit as well. -/
lemma add_exact_of_beyond {n m : Int} (hn : 0 ≤ n) (hm : 0 ≤ m)
    (h : ¬ fitsWord (n + m) = true) : ∃ x, (exact n).add (exact m) = rounded x ∧ 2 ^ 63 ≤ x := by
  refine ⟨_, if_neg h, Rounding.limit_le_nearest_add hn hm ?_⟩
  have hlimit := wordLimit_le_of_not_fits hn hm h
  rw [wordLimit] at hlimit
  omega

/-- What is added to it does not lead back below the limit. -/
lemma add_rounded_of_beyond {x : Rat} {m : Int} (hx : 2 ^ 63 ≤ x) (hm : 0 ≤ m) :
    ∃ y, (rounded x).add (exact m) = rounded y ∧ 2 ^ 63 ≤ y := by
  refine ⟨_, rfl, Rounding.two_pow_le_nearest ?_⟩
  have hnonneg : 0 ≤ Rounding.nearest m := Rounding.nearest_nonneg (by exact_mod_cast hm)
  show 2 ^ 63 ≤ x + Rounding.nearest m
  linarith

lemma wordLimit_le_whole {x : Rat} (hx : 2 ^ 63 ≤ x) : wordLimit ≤ (rounded x).whole := by
  have hpos : ¬ x < 0 := not_lt.2 (le_trans (by norm_num) hx)
  rw [whole, Rounding.truncate, if_neg hpos, Rat.le_floor_iff]
  exact le_trans (by norm_num [wordLimit]) hx

/-- Three numbers that are not negative are added exactly, or both their sum and what comes of it
leave 64 bits. -/
theorem whole_add_add {n m k : Int} (hn : 0 ≤ n) (hm : 0 ≤ m) (hk : 0 ≤ k) :
    (((exact n).add (exact m)).add (exact k)).whole = n + m + k
      ∨ wordLimit ≤ n + m + k
        ∧ wordLimit ≤ (((exact n).add (exact m)).add (exact k)).whole := by
  by_cases hfirst : fitsWord (n + m) = true
  · rw [add_exact hfirst]
    by_cases hsecond : fitsWord (n + m + k) = true
    · exact Or.inl (whole_add_exact hsecond)
    · obtain ⟨x, hx, hbeyond⟩ := add_exact_of_beyond (by omega) hk hsecond
      rw [hx]
      exact Or.inr ⟨wordLimit_le_of_not_fits (by omega) hk hsecond, wordLimit_le_whole hbeyond⟩
  · have hlimit := wordLimit_le_of_not_fits hn hm hfirst
    obtain ⟨x, hx, hbeyond⟩ := add_exact_of_beyond hn hm hfirst
    obtain ⟨y, hy, hbeyond'⟩ := add_rounded_of_beyond hbeyond hk
    rw [hx, hy]
    exact Or.inr ⟨by omega, wordLimit_le_whole hbeyond'⟩

end Amount

/-! ### The parts -/

/-- The units of all rows of placements of an equipment. -/
def placedUnits (s : Store) (e : Int) : Int :=
  addUp ((s.placementsOf e).map fun r => r.2.quantity)

/-- The units of the rows of reservations that are not returned. -/
def reservedUnits (s : Store) (e : Int) : Int :=
  addUp ((s.reservations.select fun r =>
    r.equipment = e && r.status ≠ ReservationStatus.returned.text).map fun r => r.2.allocated)

/-- The units that the row of an equipment says are installed, if it is not portable. -/
def installedUnits (row : EquipmentRow) : Int :=
  if row.installationKind = InstallationKind.portable.text then 0 else row.installed

lemma committed_eq (s : Store) (e : Int) (row : EquipmentRow) :
    committed s e row = (((Amount.exact (placedUnits s e)).add (.exact (reservedUnits s e))).add
      (.exact (installedUnits row))).whole :=
  rfl

variable {s : Store} {e : Int} {row : EquipmentRow}

/-- A ledger leaves out the rows of placements that have no place. -/
lemma placed_le (nonneg : ∀ r ∈ s.placementsOf e, 0 ≤ r.2.quantity) :
    (s.snapshot e row).placed ≤ placedUnits s e := by
  rw [Snapshot.placed, placedUnits]
  show addUp (((s.placementsOf e).filterMap Store.placementOf?).map Placement.quantity) ≤ _
  generalize s.placementsOf e = rows at nonneg ⊢
  induction rows with
  | nil => exact Int.le_refl 0
  | cons r rest ih =>
      have hrest := ih fun q hq => nonneg q (List.mem_cons_of_mem _ hq)
      have hr := nonneg r List.mem_cons_self
      rw [List.map_cons, addUp]
      cases hplace : r.2.place? with
      | none =>
          rw [List.filterMap_cons_none (by rw [Store.placementOf?, hplace]; rfl)]
          omega
      | some place =>
          rw [List.filterMap_cons_some (by rw [Store.placementOf?, hplace]; rfl), List.map_cons,
            addUp]
          exact Int.add_le_add_left hrest _

/-- If all rows have places, none is left out. -/
lemma placed_eq (placed : ∀ r ∈ s.placementsOf e, ∃ place, r.2.place? = some place) :
    (s.snapshot e row).placed = placedUnits s e := by
  rw [Snapshot.placed, placedUnits]
  show addUp (((s.placementsOf e).filterMap Store.placementOf?).map Placement.quantity) = _
  rw [List.map_filterMap, ← List.filterMap_eq_map]
  congr 1
  refine List.filterMap_congr fun r hr => ?_
  obtain ⟨place, hplace⟩ := placed r hr
  rw [Store.placementOf?, hplace]
  rfl

/-- A reservation without a status is not returned. -/
lemma reserved_eq : (s.snapshot e row).reserved = reservedUnits s e := by
  rw [Snapshot.reserved, reservedUnits]
  show addUp ((((s.reservationsOf e).map s.reservationOf).filter Reservation.isActive).map
    Reservation.allocated) = _
  rw [List.filter_map, List.map_map, Store.reservationsOf, Table.select, List.filter_filter,
    Table.select]
  congr 1
  refine congrArg _ (List.filter_congr fun r _ => ?_)
  rw [Function.comp_apply, Store.isActive_reservationOf, Bool.and_comm]

/-- An equipment without a kind is portable to its ledger. -/
lemma installed_of_no_kind (h : row.installationKind = "") : (s.snapshot e row).installed = 0 := by
  have hkind : row.installation.kind = InstallationKind.portable.text := by
    rw [EquipmentRow.installation, if_pos h]
  show row.installation.units = 0
  rw [Installation.units_eq, if_pos hkind]

lemma installed_eq (h : row.installationKind ≠ "") :
    (s.snapshot e row).installed = installedUnits row := by
  have hkind : row.installation.kind = row.installationKind := by
    rw [EquipmentRow.installation, if_neg h]
  show row.installation.units = _
  rw [Installation.units_eq, hkind, installedUnits]
  rfl

/-! ### The sums -/

/-- Where no row is left out and the ledger is sound, the rows sum up to what the ledger has
committed, as its total can be stored. -/
theorem committed_eq_of_isSound (sound : (s.snapshot e row).IsSound)
    (fits : fitsWord row.total = true) (kind : row.installationKind ≠ "")
    (placed : ∀ r ∈ s.placementsOf e, ∃ place, r.2.place? = some place) :
    committed s e row = (s.snapshot e row).committed := by
  have hstore := sound.inStore_nonneg
  have hsum : (s.snapshot e row).committed
      = placedUnits s e + reservedUnits s e + installedUnits row := by
    rw [Snapshot.committed, placed_eq placed, reserved_eq, installed_eq kind]
  have hplaced : 0 ≤ placedUnits s e :=
    calc 0 ≤ (s.snapshot e row).placed := sound.placed_nonneg
      _ = placedUnits s e := placed_eq placed
  have hreserved : 0 ≤ reservedUnits s e :=
    calc 0 ≤ (s.snapshot e row).reserved := sound.reserved_nonneg
      _ = reservedUnits s e := reserved_eq
  have hinstalled : 0 ≤ installedUnits row :=
    calc 0 ≤ (s.snapshot e row).installed := sound.installed_nonneg
      _ = installedUnits row := installed_eq kind
  rw [committed_eq, hsum]
  refine (Amount.whole_add_add hplaced hreserved hinstalled).resolve_right fun hbeyond => ?_
  have htotal : (s.snapshot e row).total = row.total := rfl
  rw [fitsWord, Bool.and_eq_true, decide_eq_true_iff, decide_eq_true_iff] at fits
  rw [Snapshot.inStore] at hstore
  omega

/-- Where the rows sum up to no more than a total that can be stored, neither has the ledger more
committed, if no row has a negative number of units. -/
theorem committed_le_of_le (fits : fitsWord row.total = true)
    (quantities : ∀ r ∈ s.placementsOf e, 0 ≤ r.2.quantity)
    (allocated : ∀ r ∈ s.reservations.rows, 0 ≤ r.2.allocated) (installed : 0 ≤ row.installed)
    (h : committed s e row ≤ row.total) : (s.snapshot e row).committed ≤ row.total := by
  have hplaced : 0 ≤ placedUnits s e := addUp_nonneg quantities
  have hreserved : 0 ≤ reservedUnits s e :=
    addUp_nonneg fun r hr => allocated r (Table.mem_select.1 hr).1
  have hunits : 0 ≤ installedUnits row := by
    rw [installedUnits]
    split <;> omega
  have hsum : placedUnits s e + reservedUnits s e + installedUnits row ≤ row.total := by
    rw [committed_eq] at h
    rw [fitsWord, Bool.and_eq_true, decide_eq_true_iff, decide_eq_true_iff] at fits
    rcases Amount.whole_add_add hplaced hreserved hunits with hexact | ⟨-, hbeyond⟩ <;> omega
  have hless : (s.snapshot e row).placed ≤ placedUnits s e := placed_le quantities
  have hinstalled : (s.snapshot e row).installed ≤ installedUnits row := by
    by_cases hkind : row.installationKind = ""
    · rw [installed_of_no_kind hkind]
      exact hunits
    · rw [installed_eq hkind]
  rw [Snapshot.committed, reserved_eq]
  omega

end Overview

end StageStock
