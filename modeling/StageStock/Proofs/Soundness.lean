import Mathlib.Data.List.Nodup
import Mathlib.Tactic.Lemma
import StageStock.Proofs.Matching
import StageStock.Violation

/-!
The rules of a ledger, listed and said at once.

* `Snapshot.violations_eq_nil_iff_isSound`: the list of broken rules is empty exactly for the
  ledgers that `Snapshot.IsSound` describes;
* `Snapshot.Alike`: two ledgers whose rows agree, in any order, in everything that the rules look
  at; with the one the other is sound (`Snapshot.Alike.isSound`).
-/

namespace StageStock

lemma violationIf_eq_nil {broken : Bool} {v : Violation} :
    violationIf broken v = [] ↔ broken = false := by
  cases broken <;> simp [violationIf]

namespace Placement

lemma violations_eq_nil_iff {p : Placement} {index : Nat} {seen : List (PlaceKey × Nat)} :
    p.violations index seen = []
      ↔ Snapshot.PlacementSound p ∧ seen.lookup p.place.key = none := by
  rw [violations, Snapshot.PlacementSound]
  rw [List.append_eq_nil_iff, List.append_eq_nil_iff, violationIf_eq_nil, violationIf_eq_nil]
  cases seen.lookup p.place.key with
  | none => simp
  | some first => simp

/-- Placements break no rule if each is sound, no two are at one place, and none is at a place seen
before. -/
lemma listViolations_eq_nil_iff {ps : List Placement} {index : Nat}
    {seen : List (PlaceKey × Nat)} :
    listViolations ps index seen = []
      ↔ (∀ p ∈ ps, Snapshot.PlacementSound p) ∧ (ps.map fun p => p.place.key).Nodup
        ∧ ∀ p ∈ ps, seen.lookup p.place.key = none := by
  induction ps generalizing index seen with
  | nil => simp [listViolations]
  | cons p rest ih =>
      rw [listViolations, List.append_eq_nil_iff, violations_eq_nil_iff, ih]
      by_cases hs : seen.lookup p.place.key = none
      · -- the place of `p` is new, so it is put before the places seen
        simp only [hs, Option.isSome_none, Bool.false_eq_true, if_false, List.mem_cons,
          forall_eq_or_imp, List.map_cons, List.nodup_cons, List.mem_map, not_exists, not_and,
          and_true, true_and]
        have hlook : ∀ q : Placement, ((p.place.key, index) :: seen).lookup q.place.key = none
            ↔ q.place.key ≠ p.place.key ∧ seen.lookup q.place.key = none := by
          intro q
          rw [List.lookup_cons]
          by_cases hk : q.place.key = p.place.key
          · simp [hk]
          · have hb : (q.place.key == p.place.key) = false := by simpa using hk
            simp [hb, hk]
        simp only [hlook]
        constructor
        · rintro ⟨hp, hrest, hnd, hnew⟩
          exact ⟨⟨hp, hrest⟩, ⟨fun q hq => (hnew q hq).1, hnd⟩, fun q hq => (hnew q hq).2⟩
        · rintro ⟨⟨hp, hrest⟩, ⟨hne, hnd⟩, hold⟩
          exact ⟨hp, hrest, hnd, fun q hq => ⟨hne q hq, hold q hq⟩⟩
      · constructor
        · rintro ⟨⟨-, h⟩, -⟩
          exact absurd h hs
        · rintro ⟨-, -, h⟩
          exact absurd (h p (by simp)) hs

end Placement

namespace Reservation

lemma violations_eq_nil_iff {r : Reservation} {seen : List Int} :
    r.violations seen = [] ↔ Snapshot.ReservationSound r ∧ r.showId ∉ seen := by
  rw [violations, Snapshot.ReservationSound]
  simp only [List.append_eq_nil_iff, violationIf_eq_nil, decide_eq_false_iff_not, Int.not_lt,
    Bool.not_eq_false', List.contains_eq_mem]
  constructor
  · rintro ⟨⟨⟨⟨hseen, hneeded⟩, hneg⟩, hle⟩, hk⟩
    exact ⟨⟨hneeded, hneg, hle, hk⟩, hseen⟩
  · rintro ⟨⟨hneeded, hneg, hle, hk⟩, hseen⟩
    exact ⟨⟨⟨⟨hseen, hneeded⟩, hneg⟩, hle⟩, hk⟩

/-- Reservations break no rule if each is sound, no two are of one show, and none is of a show seen
before. -/
lemma listViolations_eq_nil_iff {rs : List Reservation} {seen : List Int} :
    listViolations rs seen = []
      ↔ (∀ r ∈ rs, Snapshot.ReservationSound r) ∧ (rs.map Reservation.showId).Nodup
        ∧ ∀ r ∈ rs, r.showId ∉ seen := by
  induction rs generalizing seen with
  | nil => simp [listViolations]
  | cons r rest ih =>
      rw [listViolations, List.append_eq_nil_iff, violations_eq_nil_iff, ih]
      simp only [List.mem_cons, forall_eq_or_imp, List.map_cons, List.nodup_cons, List.mem_map,
        not_exists, not_and, not_or]
      constructor
      · rintro ⟨⟨hr, hseen⟩, hrest, hnd, hnew⟩
        exact ⟨⟨hr, hrest⟩, ⟨fun q hq => (hnew q hq).1, hnd⟩, hseen, fun q hq => (hnew q hq).2⟩
      · rintro ⟨⟨hr, hrest⟩, ⟨hne, hnd⟩, hseen, hold⟩
        exact ⟨⟨hr, hseen⟩, hrest, hnd, fun q hq => ⟨hne q hq, hold q hq⟩⟩

end Reservation

namespace Installation

lemma violations_eq_nil_iff {i : Installation} :
    i.violations = [] ↔ Snapshot.InstallationSound i := by
  rw [violations, Snapshot.InstallationSound]
  simp only [List.append_eq_nil_iff, violationIf_eq_nil, Bool.not_eq_false',
    decide_eq_false_iff_not, Int.not_lt, Bool.and_eq_false_imp, Bool.not_eq_true',
    Option.isNone_eq_false_iff, ne_eq, Decidable.not_not]
  constructor
  · rintro ⟨⟨⟨hk, hq⟩, hplace⟩, hzero⟩
    exact ⟨hk, hq, hplace, hzero⟩
  · rintro ⟨hk, hq, hplace, hzero⟩
    exact ⟨⟨⟨hk, hq⟩, hplace⟩, hzero⟩

end Installation

namespace Snapshot

/-- A ledger breaks no rule exactly if it is sound. -/
theorem violations_eq_nil_iff_isSound (s : Snapshot) : s.violations = [] ↔ s.IsSound := by
  rw [violations]
  simp only [List.append_eq_nil_iff, violationIf_eq_nil, decide_eq_false_iff_not, Int.not_lt,
    Placement.listViolations_eq_nil_iff, Reservation.listViolations_eq_nil_iff,
    Installation.violations_eq_nil_iff]
  constructor
  · rintro ⟨⟨⟨⟨htotal, hp, hplaces, -⟩, hr, hshows, -⟩, hi⟩, hstore⟩
    exact ⟨htotal, hp, hplaces, hr, hshows, hi, hstore⟩
  · rintro ⟨htotal, hp, hplaces, hr, hshows, hi, hstore⟩
    exact ⟨⟨⟨⟨htotal, hp, hplaces, by simp⟩, hr, hshows, by simp⟩, hi⟩, hstore⟩

lemma PlacementSound.status_ne_empty {p : Placement} (h : PlacementSound p) : p.status ≠ "" := by
  rintro he
  rw [PlacementSound, he] at h
  exact absurd h.2 (by decide)

lemma ReservationSound.status_ne_empty {r : Reservation} (h : ReservationSound r) :
    r.status ≠ "" := by
  rintro he
  rw [ReservationSound, he] at h
  exact absurd h.2.2.2 (by decide)

lemma InstallationSound.kind_ne_empty {i : Installation} (h : InstallationSound i) :
    i.kind ≠ "" := by
  rintro he
  rw [InstallationSound, he] at h
  exact absurd h.1 (by decide)

/-! ### Ledgers that the rules do not tell apart -/

/-- Two ledgers agree in everything that the rules look at. -/
structure Alike (s t : Snapshot) : Prop where
  total : s.total = t.total
  placements : Matched (fun p q : Placement =>
    p.place.key = q.place.key ∧ p.quantity = q.quantity ∧ p.status = q.status)
    s.placements t.placements
  reservations : Matched (fun r q : Reservation =>
    r.showId = q.showId ∧ r.needed = q.needed ∧ r.allocated = q.allocated ∧ r.status = q.status)
    s.reservations t.reservations
  kind : s.installation.kind = t.installation.kind
  quantity : s.installation.quantity = t.installation.quantity
  place : s.installation.place.isSome = t.installation.place.isSome

namespace Alike

variable {s t : Snapshot}

lemma placed_eq (h : s.Alike t) : s.placed = t.placed :=
  h.placements.addUp_eq fun _ _ _ _ hr => hr.2.1

lemma reserved_eq (h : s.Alike t) : s.reserved = t.reserved := by
  have hactive := h.reservations.filter (p := Reservation.isActive) (q := Reservation.isActive)
    fun _ _ _ _ hr => by simp only [Reservation.isActive, hr.2.2.2]
  exact hactive.addUp_eq fun _ _ _ _ hr => hr.2.2.1

lemma isActive_eq (h : s.Alike t) : s.installation.isActive = t.installation.isActive := by
  simp only [Installation.isActive, h.kind]

lemma installed_eq (h : s.Alike t) : s.installed = t.installed := by
  simp only [installed, Installation.units, h.isActive_eq, h.quantity]

lemma inStore_eq (h : s.Alike t) : s.inStore = t.inStore := by
  simp only [inStore, committed, h.total, h.placed_eq, h.reserved_eq, h.installed_eq]

/-- A ledger is sound if one is that agrees with it. -/
theorem isSound (h : s.Alike t) (hs : s.IsSound) : t.IsSound where
  one_le_total := h.total ▸ hs.one_le_total
  placements q hq := by
    obtain ⟨p, hp, -, hquantity, hstatus⟩ := h.placements.exists_left hq
    obtain ⟨h1, hk⟩ := hs.placements p hp
    exact ⟨hquantity ▸ h1, hstatus ▸ hk⟩
  places := h.placements.nodup_map (fun _ _ _ _ hr => hr.1) hs.places
  reservations q hq := by
    obtain ⟨r, hr, -, hneeded, hallocated, hstatus⟩ := h.reservations.exists_left hq
    obtain ⟨h1, h2, h3, hk⟩ := hs.reservations r hr
    exact ⟨hneeded ▸ h1, hallocated ▸ h2, hneeded ▸ hallocated ▸ h3, hstatus ▸ hk⟩
  shows := h.reservations.nodup_map (fun _ _ _ _ hr => hr.1) hs.shows
  installation := by
    obtain ⟨hk, hq, hplace, hzero⟩ := hs.installation
    refine ⟨h.kind ▸ hk, h.quantity ▸ hq, fun ha => ?_, fun ha => ?_⟩
    · rw [← h.place]
      exact hplace (h.isActive_eq ▸ ha)
    · rw [← h.quantity]
      exact hzero (h.isActive_eq ▸ ha)
  inStore_nonneg := h.inStore_eq ▸ hs.inStore_nonneg

end Alike

end Snapshot

end StageStock
