import Mathlib.Tactic.Lemma
import StageStock.Proofs.Figures
import StageStock.Proofs.PlaceRows

/-!
What the overview does not see.

The overview is to tell whether the invariants hold of the ledgers of a store, whose rows may be
anything. Its checks are made over rows, and two kinds of rows get past them. An installation that
is not portable may have a negative number of units, which also hides as many units that are
committed beyond the total. And two descriptions may be one place to a ledger, though they differ in
more than the case of Basic Latin letters.

* `Snapshot.KeepsInvariants`: the invariants of a ledger;
* `Overview.keepsInvariants_iff`: where the overview ends with code 0, they hold exactly of the
  ledgers whose rows are of neither kind.
-/

namespace StageStock

/-- The invariants of a ledger: no more units are committed than there are, no number of units is
negative, no two placements are at one place, and no reservation holds more than it needs. -/
structure Snapshot.KeepsInvariants (m : Snapshot) : Prop where
  committed_le : m.committed ≤ m.total
  placements_nonneg : ∀ p ∈ m.placements, 0 ≤ p.quantity
  reservations_nonneg : ∀ r ∈ m.reservations, 0 ≤ r.allocated
  installed_nonneg : 0 ≤ m.installed
  nodup_places : (m.placements.map fun p => p.place.key).Nodup
  within_need : ∀ r ∈ m.reservations, r.allocated ≤ r.needed

/-- Descriptions of places of an equipment that are the same place differ in the case of Basic Latin
letters at most. -/
def Store.SpelledAlike (s : Store) (e : Int) : Prop :=
  ∀ r ∈ s.placementsOf e, ∀ q ∈ s.placementsOf e, r.2.placeId = none → q.2.placeId = none →
    ∀ t u, r.2.placeText = some t → q.2.placeText = some u →
      Text.normalise t ≠ "" → Text.normalise u ≠ "" → foldName t = foldName u →
        Text.lowerBasicLatin t = Text.lowerBasicLatin u

namespace Overview

variable {s : Store} {e : Int} {row : EquipmentRow}

/-! ### Places -/

/-- Rows that the overview tells apart are different places, if descriptions are spelled alike. -/
lemma Accepts.nodup_placeKeys (h : Accepts s) (spelled : s.SpelledAlike e) :
    (s.placeKeys e).Nodup := by
  have hapart := ((nodup_namedPlaces_iff.1 h.nodup_named).and
    (nodup_customPlaces_iff.1 h.nodup_custom)).filter fun row => row.2.equipment = e
  refine (Store.nodup_placeKeys e).2 (hapart.imp_of_mem ?_)
  rintro r q hr hq ⟨hnamed, hcustom⟩ k hk hk'
  have hequipment : r.2.equipment = q.2.equipment :=
    (Store.mem_placementsOf.1 hr).2.trans (Store.mem_placementsOf.1 hq).2.symm
  rcases PlacementRow.key?_eq_some hk with ⟨id, hid, rfl⟩ | ⟨t, hid, ht, hwords, rfl⟩
  · rcases PlacementRow.key?_eq_some hk' with ⟨id', hid', hsame⟩ | ⟨u, -, -, -, hsame⟩
    · rw [← PlaceKey.named.inj hsame] at hid'
      exact hnamed hequipment id hid hid'
    · cases hsame
  · rcases PlacementRow.key?_eq_some hk' with ⟨id', -, hsame⟩ | ⟨u, hid', hu, hwords', hsame⟩
    · cases hsame
    · refine hcustom hequipment hid hid' ?_
      rw [ht, hu, Option.map_some, Option.map_some,
        spelled r hr q hq hid hid' t u ht hu hwords hwords' (PlaceKey.custom.inj hsame)]

/-- Where places are different, descriptions of the same place are of one row. -/
lemma spelledAlike_of_nodup (h : (s.placeKeys e).Nodup) : s.SpelledAlike e := by
  intro r hr q hq hid hid' t u ht hu hwords hwords' hname
  have hkey : r.2.key? = some (.custom (foldName u)) :=
    hname ▸ PlacementRow.key?_of_text hid ht hwords
  have hkey' : q.2.key? = some (.custom (foldName u)) :=
    PlacementRow.key?_of_text hid' hu hwords'
  have hsame : r = q := Store.eq_of_key? h hr hq hkey hkey'
  rw [hsame, hu] at ht
  rw [Option.some.inj ht]

/-! ### Units -/

/-- Where the number of installed units is not negative, or the equipment has no kind, none of its
ledger's is. -/
lemma Accepts.quantities_nonneg (h : Accepts s)
    (installed : 0 ≤ row.installed ∨ row.installationKind = "") :
    (∀ p ∈ (s.snapshot e row).placements, 0 ≤ p.quantity)
      ∧ (∀ r ∈ (s.snapshot e row).reservations, 0 ≤ r.allocated ∧ r.allocated ≤ r.needed)
      ∧ 0 ≤ (s.snapshot e row).installed := by
  refine ⟨fun p hp => ?_, fun r hr => ?_, ?_⟩
  · obtain ⟨stored, hstored, hread⟩ := List.mem_filterMap.1 hp
    obtain ⟨place, -, rfl⟩ := Option.map_eq_some_iff.1 hread
    have hone := h.one_le_quantity stored (Store.mem_placementsOf.1 hstored).1
    show 0 ≤ stored.2.quantity
    omega
  · obtain ⟨stored, hstored, rfl⟩ := List.mem_map.1 hr
    exact h.within_need stored (Store.mem_reservationsOf.1 hstored).1
  · by_cases hkind : row.installationKind = ""
    · exact Int.le_of_eq (installed_of_no_kind hkind).symm
    · rw [installed_eq hkind, installedUnits]
      have hnonneg := installed.resolve_right hkind
      split <;> omega

/-- A negative number of installed units is negative to the ledger as well, unless the equipment has
no kind. -/
lemma Accepts.no_kind_of_negative (h : Accepts s) (registered : s.equipments.find? e = some row)
    (negative : row.installed < 0) (nonneg : 0 ≤ (s.snapshot e row).installed) :
    row.installationKind = "" := by
  by_contra hkind
  have hfixed : row.installationKind ≠ InstallationKind.portable.text := by
    intro hportable
    have hzero := h.portable (e, row) (Table.find?_eq_some_iff.1 registered) hportable
    simp only at hzero
    omega
  rw [installed_eq hkind, installedUnits, if_neg hfixed] at nonneg
  omega

/-! ### The overview -/

/-- Where the overview ends with code 0, the invariants hold of a ledger exactly if a negative
number of installed units is of no kind and hides nothing, and descriptions of one place are spelled
alike up to the case of Basic Latin letters. -/
theorem keepsInvariants_iff {missing : List TableName} {usual output : String} {words : List String}
    (stored : s.fits = true) (passed : run s missing usual words = .finished 0 output)
    (registered : s.equipments.find? e = some row) :
    (s.snapshot e row).KeepsInvariants
      ↔ (row.installed < 0 →
          row.installationKind = "" ∧ (s.snapshot e row).committed ≤ row.total)
        ∧ s.SpelledAlike e := by
  have haccepts : Accepts s := passes_iff.1 (passes_of_run passed)
  have hrow : (e, row) ∈ s.equipments.rows := Table.find?_eq_some_iff.1 registered
  constructor
  · intro h
    refine ⟨fun hnegative => ⟨?_, h.committed_le⟩, ?_⟩
    · exact haccepts.no_kind_of_negative registered hnegative h.installed_nonneg
    · refine spelledAlike_of_nodup ?_
      rw [Store.placeKeys_eq s e row]
      exact h.nodup_places
  · rintro ⟨hinstalled, hspelled⟩
    have hnonneg : 0 ≤ row.installed ∨ row.installationKind = "" := by
      by_cases hnegative : row.installed < 0
      · exact Or.inr (hinstalled hnegative).1
      · exact Or.inl (Int.not_lt.1 hnegative)
    obtain ⟨hplacements, hreservations, hunits⟩ := haccepts.quantities_nonneg (e := e) hnonneg
    have hcommitted : (s.snapshot e row).committed ≤ row.total := by
      by_cases hnegative : row.installed < 0
      · exact (hinstalled hnegative).2
      · refine committed_le_of_le (Store.fitsWord_total_of_fits stored hrow) (fun r hr => ?_)
          (fun r hr => (haccepts.within_need r hr).1) (Int.not_lt.1 hnegative)
          (haccepts.committed_le (e, row) hrow)
        have hone := haccepts.one_le_quantity r (Store.mem_placementsOf.1 hr).1
        omega
    refine ⟨hcommitted, hplacements, fun r hr => (hreservations r hr).1, hunits, ?_,
      fun r hr => (hreservations r hr).2⟩
    rw [← Store.placeKeys_eq]
    exact haccepts.nodup_placeKeys hspelled

end Overview

namespace Store

/-- Ten lamps are registered, and a rack and a gala are listed. Two lamps are at the rack, one is in
a café, two are fixed in the foyer, and three of four are checked out for the gala. -/
def hallStore : Store :=
  { equipments := Table.empty.insert
      { name := some "Lamp", total := 10, installationKind := "fixed", installed := 2
        placeText := some "Foyer" }
    locations := Table.empty.insert { name := "Rack A" }
    shows := Table.empty.insert { name := "Gala" }
    placements :=
      (Table.empty.insert { equipment := 1, placeId := some 1, quantity := 2 }).insert
        { equipment := 1, placeText := some "Café" }
    reservations := Table.empty.insert
      { equipment := 1, showId := 1, needed := 4, allocated := 3, status := "checked-out" } }

end Store

namespace Overview

/-- The overview lets the hall pass, and its ledger keeps the invariants. -/
theorem keepsInvariants_hallStore :
    Store.hallStore.fits = true
      ∧ (∃ output, run Store.hallStore [] "" ["--db-url", "sqlite:///hall.db"]
        = .finished 0 output)
      ∧ ∃ row, Store.hallStore.equipments.find? 1 = some row
        ∧ (Store.hallStore.snapshot 1 row).KeepsInvariants := by
  obtain ⟨output, hpassed⟩ : ∃ output,
      run Store.hallStore [] "" ["--db-url", "sqlite:///hall.db"] = .finished 0 output :=
    ⟨_, run_of_passes (Arguments.parse_address (by decide)) (by decide +kernel) rfl
      (by decide +kernel)⟩
  have hspelled : Store.hallStore.SpelledAlike 1 := spelledAlike_of_nodup (by decide +kernel)
  refine ⟨by decide +kernel, ⟨output, hpassed⟩, _, rfl, ?_⟩
  refine (keepsInvariants_iff (by decide +kernel) hpassed rfl).2 ⟨fun hnegative => ?_, hspelled⟩
  exact absurd hnegative (by decide +kernel)

end Overview

/-- Ten lamps are registered, and one is at each of two places whose names differ in the case of a
letter that is not Basic Latin. -/
def Store.cafeStore : Store :=
  { equipments := Table.empty.insert { name := some "Lamp", total := 10 }
    placements :=
      (Table.empty.insert { equipment := 1, placeText := some "Éclair" }).insert
        { equipment := 1, placeText := some "éclair" } }

/-- Four cables are registered, and six are placed, which an installation of less than nothing makes
up for. -/
def Store.debtStore : Store :=
  { equipments := Table.empty.insert
      { name := some "Cable", total := 4, installationKind := "fixed", installed := -2
        placeText := some "Foyer" }
    placements := Table.empty.insert { equipment := 1, placeText := some "Shelf", quantity := 6 } }

namespace Overview

/-- The overview lets both stores pass. To the ledger the two places are one, and the number of
installed units is negative. -/
theorem not_keepsInvariants_cafeStore_debtStore :
    ((∃ output, run Store.cafeStore [] "" ["--db-url", "sqlite:///stage.db"]
        = .finished 0 output)
      ∧ ∃ row, Store.cafeStore.equipments.find? 1 = some row
        ∧ ((Store.cafeStore.snapshot 1 row).placements.map fun p => p.place.key)
          = [.custom "éclair", .custom "éclair"]
        ∧ ¬ (Store.cafeStore.snapshot 1 row).KeepsInvariants)
      ∧ (∃ output, run Store.debtStore [] "" ["--db-url", "sqlite:///stage.db"]
        = .finished 0 output)
      ∧ ∃ row, Store.debtStore.equipments.find? 1 = some row
        ∧ (Store.debtStore.snapshot 1 row).installed = -2
        ∧ ¬ (Store.debtStore.snapshot 1 row).KeepsInvariants := by
  have hasked : Arguments.parse "" ["--db-url", "sqlite:///stage.db"]
      = .show { address := "sqlite:///stage.db" } :=
    Arguments.parse_address (by decide)
  have haddress : Text.trim "sqlite:///stage.db" ≠ "" := by decide +kernel
  refine ⟨⟨⟨_, run_of_passes hasked haddress rfl (by decide +kernel)⟩, _, rfl, by decide +kernel,
    fun h => ?_⟩, ⟨_, run_of_passes hasked haddress rfl (by decide +kernel)⟩, _, rfl,
    by decide +kernel, fun h => ?_⟩
  · exact absurd h.nodup_places (by decide +kernel)
  · exact absurd h.installed_nonneg (by decide +kernel)

end Overview

end StageStock
