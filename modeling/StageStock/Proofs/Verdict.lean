import Mathlib.Data.List.Nodup
import Mathlib.Tactic.Lemma
import StageStock.Proofs.Soundness

/-!
What a ledger must be like for the list of broken rules to be empty.

The list is made in one pass over the rows, with what was seen so far at hand, and `Snapshot.IsSound`
says the same with the functions that the list is made of. Here the rules are written down in the
words of the rows alone, with the known words for states, and the verdict is theirs.

* `Snapshot.ObeysRules`: the rules, one field for each;
* `Snapshot.isSound_iff_obeysRules`: they are those of a sound ledger;
* `Snapshot.SameRows`: the same rows in any order, which the rules do not tell apart
  (`Snapshot.SameRows.alike`);
* `Snapshot.lawful_iff`: the verdict.
-/

namespace StageStock

namespace Snapshot

variable {s t : Snapshot}

/-! ### The rules -/

/-- The rules of a ledger, said of its rows. -/
structure ObeysRules (s : Snapshot) : Prop where
  total : 1 ≤ s.total
  placements : ∀ p ∈ s.placements, 1 ≤ p.quantity
    ∧ p.status ∈ ["allocated", "in-use", "maintenance", "reserved"]
  /-- No two placements are at one place. -/
  places : s.placements.Pairwise fun p q => p.place.key ≠ q.place.key
  reservations : ∀ r ∈ s.reservations, 1 ≤ r.needed ∧ 0 ≤ r.allocated ∧ r.allocated ≤ r.needed
    ∧ r.status ∈ ["requested", "allocated", "checked-out", "in-use", "returned"]
  /-- No two reservations are for one show. -/
  shows : s.reservations.Pairwise fun r q => r.showId ≠ q.showId
  installation : s.installation.kind ∈ ["portable", "semi-permanent", "fixed"]
    ∧ 0 ≤ s.installation.quantity
    ∧ (s.installation.kind ≠ "portable" → s.installation.place ≠ none)
    ∧ (s.installation.kind = "portable" → s.installation.quantity = 0)
  /-- The places, the shows that have not returned their units, and the installation of an equipment
  that is not portable have no more units than there are. -/
  enough : 0 ≤ s.total - (addUp (s.placements.map Placement.quantity)
    + addUp ((s.reservations.filter fun r => r.status ≠ "returned").map Reservation.allocated)
    + if s.installation.kind = "portable" then 0 else s.installation.quantity)

lemma placementSound_iff {p : Placement} : PlacementSound p
    ↔ 1 ≤ p.quantity ∧ p.status ∈ ["allocated", "in-use", "maintenance", "reserved"] :=
  and_congr_right' any_text_iff

lemma reservationSound_iff {r : Reservation} : ReservationSound r
    ↔ 1 ≤ r.needed ∧ 0 ≤ r.allocated ∧ r.allocated ≤ r.needed
      ∧ r.status ∈ ["requested", "allocated", "checked-out", "in-use", "returned"] :=
  and_congr_right' (and_congr_right' (and_congr_right' any_text_iff))

lemma installationSound_iff {i : Installation} : InstallationSound i
    ↔ i.kind ∈ ["portable", "semi-permanent", "fixed"] ∧ 0 ≤ i.quantity
      ∧ (i.kind ≠ "portable" → i.place ≠ none) ∧ (i.kind = "portable" → i.quantity = 0) := by
  have hportable : i.isActive = false ↔ i.kind = "portable" := Installation.isActive_eq_false_iff
  have hactive : i.isActive = true ↔ i.kind ≠ "portable" := by
    rw [← Bool.not_eq_false, hportable]
  rw [InstallationSound, hportable, hactive, Option.isSome_iff_ne_none]
  exact and_congr_left' any_text_iff

/-- The units in the store, as they are counted from the rows. -/
lemma inStore_eq : s.inStore = s.total - (addUp (s.placements.map Placement.quantity)
    + addUp ((s.reservations.filter fun r => r.status ≠ "returned").map Reservation.allocated)
    + if s.installation.kind = "portable" then 0 else s.installation.quantity) := by
  rw [inStore, committed, installed, Installation.units_eq]
  rfl

/-- A ledger is sound exactly if it obeys the rules. -/
theorem isSound_iff_obeysRules : s.IsSound ↔ s.ObeysRules := by
  constructor
  · intro h
    exact
      { total := h.one_le_total
        placements := fun p hp => placementSound_iff.1 (h.placements p hp)
        places := List.pairwise_map.1 h.places
        reservations := fun r hr => reservationSound_iff.1 (h.reservations r hr)
        shows := List.pairwise_map.1 h.shows
        installation := installationSound_iff.1 h.installation
        enough := inStore_eq ▸ h.inStore_nonneg }
  · intro h
    exact
      { one_le_total := h.total
        placements := fun p hp => placementSound_iff.2 (h.placements p hp)
        places := List.pairwise_map.2 h.places
        reservations := fun r hr => reservationSound_iff.2 (h.reservations r hr)
        shows := List.pairwise_map.2 h.shows
        installation := installationSound_iff.2 h.installation
        inStore_nonneg := inStore_eq ▸ h.enough }

/-! ### The order of the rows -/

/-- Two ledgers have the same rows, in any order. -/
structure SameRows (s t : Snapshot) : Prop where
  total : s.total = t.total
  placements : s.placements.Perm t.placements
  reservations : s.reservations.Perm t.reservations
  installation : s.installation = t.installation

lemma SameRows.symm (h : s.SameRows t) : t.SameRows s :=
  ⟨h.total.symm, h.placements.symm, h.reservations.symm, h.installation.symm⟩

/-- The rules do not tell them apart. -/
lemma SameRows.alike (h : s.SameRows t) : s.Alike t where
  total := h.total
  placements := ((Matched.refl s.placements).perm_right h.placements).mono
    fun _ _ _ _ he => by simp [he]
  reservations := ((Matched.refl s.reservations).perm_right h.reservations).mono
    fun _ _ _ _ he => by simp [he]
  kind := by rw [h.installation]
  quantity := by rw [h.installation]
  place := by rw [h.installation]

/-! ### The verdict -/

/-- The list of broken rules is empty exactly for the ledgers that obey the rules, and whether it is
does not depend on the order of the rows. -/
theorem lawful_iff (s : Snapshot) : (s.violations = [] ↔ s.ObeysRules)
    ∧ ∀ t : Snapshot, t.SameRows s → (t.violations = [] ↔ s.violations = []) := by
  constructor
  · rw [violations_eq_nil_iff_isSound, isSound_iff_obeysRules]
  · intro t hrows
    rw [violations_eq_nil_iff_isSound, violations_eq_nil_iff_isSound]
    exact ⟨hrows.alike.isSound, hrows.symm.alike.isSound⟩

/-- Ten units, each of which is somewhere, under all the rules. -/
def fullStage : Snapshot :=
  { equipment := 1, total := 10
    placements := [{ id := some 1, place := .named 1, quantity := 3, status := "in-use" },
      { id := some 2, place := .custom "Stage  Left", quantity := 2, status := "maintenance" }]
    reservations := [{ id := some 1, showId := 1, needed := 4, allocated := 2, status := "in-use" },
      { id := some 2, showId := 2, needed := 1, allocated := 1, status := "returned" }]
    installation := { kind := "fixed", place := some (.named 2), quantity := 3 } }

/-- The same with the rows the other way round. -/
def fullStageReversed : Snapshot :=
  { fullStage with
    placements := fullStage.placements.reverse
    reservations := fullStage.reservations.reverse }

/-- The list is empty, so the rules are obeyed, and it is empty in the other order as well. -/
theorem lawful_iff_fullStage :
    (fullStage.violations = [] ∧ fullStage.ObeysRules)
      ∧ fullStageReversed.SameRows fullStage ∧ fullStageReversed.violations = [] := by
  have hlawful : fullStage.violations = [] := by decide +kernel
  have hrows : fullStageReversed.SameRows fullStage :=
    ⟨rfl, List.reverse_perm _, List.reverse_perm _, rfl⟩
  exact ⟨⟨hlawful, (lawful_iff fullStage).1.1 hlawful⟩, hrows,
    ((lawful_iff fullStage).2 fullStageReversed hrows).2 hlawful⟩

/-- A place in two spellings, a show that has more than it needs, and too few units for both. -/
example : violations
    { equipment := 1, total := 5
      placements := [{ id := some 1, place := .custom "Stage  Left", quantity := 3 },
        { id := some 2, place := .custom "stage left", quantity := 3 }]
      reservations := [{ id := some 1, showId := 100, needed := 2, allocated := 3 }] }
    = [.placeTwice (.custom "stage left") 0 1, .allocatedExceedsNeeded 100 3 2,
      .overcommitted (-4) 9 5] := by
  decide +kernel

end Snapshot

end StageStock
