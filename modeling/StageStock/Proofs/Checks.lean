import Mathlib.Data.List.Nodup
import Mathlib.Tactic.Lemma
import StageStock.Overview.Report

/-!
What the overview asks of the rows of a store.

* `Overview.repeatedCount_eq_zero_iff`: no value is counted as repeated exactly if none is;
* `Overview.Accepts`: what the checks look for, said of the rows at once;
* `Overview.passes_iff`: all checks pass exactly for the stores that they accept;
* `Overview.Arguments.parse_address`: a command line that gives an address asks for the overview;
* `Overview.run_of_passes`, `Overview.passes_of_run`: and the overview ends with code 0 if the
  checks pass, and only then.
-/

namespace StageStock

namespace Overview

/-! ### Counts -/

/-- No value is counted as repeated exactly if none is. -/
theorem repeatedCount_eq_zero_iff {α : Type} [BEq α] [LawfulBEq α] {values : List α} :
    repeatedCount values = 0 ↔ values.Nodup := by
  rw [repeatedCount, List.length_eq_zero_iff, List.filter_eq_nil_iff, List.nodup_iff_count_le_one]
  constructor
  · intro h v
    by_cases hv : v ∈ values
    · have honce := h v (List.mem_eraseDups.2 hv)
      simpa using honce
    · rw [List.count_eq_zero.2 hv]
      exact Nat.zero_le 1
  · intro h v _
    have honce := h v
    simpa using honce

/-- A check that counts rows passes if there is none of the kind that it counts. -/
lemma countCheck_ok_iff {α : Type} {name : String} {t : Table α} {p : α → Bool} :
    (countCheck name (t.select p).length).ok = true ↔ ∀ row ∈ t.rows, p row.2 = false := by
  simp only [countCheck, decide_eq_true_eq, List.length_eq_zero_iff, Table.select,
    List.filter_eq_nil_iff, Bool.not_eq_true]

/-! ### The checks -/

variable {s : Store}

/-- What the checks ask of the rows of a store. -/
structure Accepts (s : Store) : Prop where
  committed_le : ∀ row ∈ s.equipments.rows, committed s row.1 row.2 ≤ row.2.total
  nodup_named : (namedPlaces s).Nodup
  nodup_custom : (customPlaces s).Nodup
  exclusive : ∀ row ∈ s.placements.rows, row.2.placeId.isSome ≠ row.2.placeText.isSome
  one_le_quantity : ∀ row ∈ s.placements.rows, 1 ≤ row.2.quantity
  within_need : ∀ row ∈ s.reservations.rows,
    0 ≤ row.2.allocated ∧ row.2.allocated ≤ row.2.needed
  exists_show : ∀ row ∈ s.reservations.rows, (s.shows.find? row.2.showId).isSome = true
  portable : ∀ row ∈ s.equipments.rows,
    row.2.installationKind = InstallationKind.portable.text → row.2.installed = 0
  installed : ∀ row ∈ s.equipments.rows,
    row.2.installationKind ≠ InstallationKind.portable.text →
      row.2.placeId.isSome = true ∨ row.2.placeText.isSome = true

lemma overCommitted_ok_iff : (overCommitted s).ok = true
    ↔ ∀ row ∈ s.equipments.rows, committed s row.1 row.2 ≤ row.2.total := by
  simp only [overCommitted, figures, List.isEmpty_iff, List.filter_eq_nil_iff, List.mem_map,
    forall_exists_index, and_imp, forall_apply_eq_imp_iff₂, decide_eq_true_eq, Int.not_lt]

lemma duplicatePlaces_ok_iff : (duplicatePlaces s).ok = true
    ↔ (namedPlaces s).Nodup ∧ (customPlaces s).Nodup := by
  rw [← repeatedCount_eq_zero_iff, ← repeatedCount_eq_zero_iff]
  simp only [duplicatePlaces, decide_eq_true_eq]
  exact Nat.add_eq_zero_iff

lemma placeExclusive_ok_iff : (placeExclusive s).ok = true
    ↔ ∀ row ∈ s.placements.rows, row.2.placeId.isSome ≠ row.2.placeText.isSome := by
  simp only [placeExclusive, countCheck_ok_iff, beq_eq_false_iff_ne]

lemma placementsPositive_ok_iff : (placementsPositive s).ok = true
    ↔ ∀ row ∈ s.placements.rows, 1 ≤ row.2.quantity := by
  simp only [placementsPositive, countCheck_ok_iff, decide_eq_false_iff_not, Int.not_lt]

lemma reservationsWithinNeed_ok_iff : (reservationsWithinNeed s).ok = true
    ↔ ∀ row ∈ s.reservations.rows, 0 ≤ row.2.allocated ∧ row.2.allocated ≤ row.2.needed := by
  simp only [reservationsWithinNeed, countCheck_ok_iff, Bool.or_eq_false_iff,
    decide_eq_false_iff_not, Int.not_lt, and_comm]

lemma reservationsOfShows_ok_iff : (reservationsOfShows s).ok = true
    ↔ ∀ row ∈ s.reservations.rows, (s.shows.find? row.2.showId).isSome = true := by
  simp only [reservationsOfShows, countCheck_ok_iff, Option.isNone_eq_false_iff]

lemma installationsConsistent_ok_iff : (installationsConsistent s).ok = true
    ↔ ∀ row ∈ s.equipments.rows,
      (row.2.installationKind = InstallationKind.portable.text → row.2.installed = 0)
        ∧ (row.2.installationKind ≠ InstallationKind.portable.text →
          row.2.placeId.isSome = true ∨ row.2.placeText.isSome = true) := by
  simp only [installationsConsistent, countCheck_ok_iff]
  refine forall₂_congr fun row _ => ?_
  by_cases hkind : row.2.installationKind = InstallationKind.portable.text
  · simp [hkind]
  · simp only [hkind, if_false, Bool.and_eq_false_imp, Option.isNone_iff_eq_none,
      Option.isNone_eq_false_iff, false_implies, not_false_eq_true, true_implies, true_and,
      Option.isSome_iff_ne_none, ne_eq]
    exact imp_iff_not_or

/-- All checks pass exactly if they accept the rows. -/
theorem passes_iff : passes s = true ↔ Accepts s := by
  simp only [passes, checks, List.all_cons, List.all_nil, Bool.and_true, Bool.and_eq_true,
    overCommitted_ok_iff, duplicatePlaces_ok_iff, placeExclusive_ok_iff, placementsPositive_ok_iff,
    reservationsWithinNeed_ok_iff, reservationsOfShows_ok_iff, installationsConsistent_ok_iff]
  constructor
  · rintro ⟨hcommitted, ⟨hnamed, hcustom⟩, hexclusive, hquantity, hneed, hshow, hinstallation⟩
    exact ⟨hcommitted, hnamed, hcustom, hexclusive, hquantity, hneed, hshow,
      fun row hrow => (hinstallation row hrow).1, fun row hrow => (hinstallation row hrow).2⟩
  · intro h
    exact ⟨h.committed_le, ⟨h.nodup_named, h.nodup_custom⟩, h.exclusive, h.one_le_quantity,
      h.within_need, h.exists_show, fun row hrow => ⟨h.portable row hrow, h.installed row hrow⟩⟩

/-! ### The overview -/

/-- The command line that gives an address asks for the overview. -/
lemma Arguments.parse_address {usual address : String}
    (h : address.toList.head? ≠ some '-') :
    Arguments.parse usual ["--db-url", address] = .show { address } := by
  have hoption : Word.classify "--db-url" = .option .address none := by decide
  have hvalue : Word.classify address = .plain address := by
    rw [Word.classify]
    exact if_pos (Or.inl h)
  have hwords : Word.classifyAll ["--db-url", address]
      = [.option .address none, .plain address] := by
    simp only [Word.classifyAll, hoption, hvalue]
  have hgiven : address ≠ "--" := by
    rintro rfl
    exact h (by decide)
  rw [parse, hwords]
  simp [read, takeValue, set, hgiven]

variable {missing : List TableName} {usual output : String} {words : List String}

/-- The overview ends with code 0 only if all checks pass. -/
theorem passes_of_run (h : run s missing usual words = .finished 0 output) : passes s = true := by
  simp only [run] at h
  split at h
  · cases h
  · cases h
  · simp only [answer] at h
    split at h
    · cases h
    · simp only [report] at h
      split at h
      · split at h
        · split at h
          · assumption
          · cases h
        · cases h
      · cases h

/-- Where no table is missing and all checks pass, the overview ends with code 0. -/
theorem run_of_passes {a : Arguments} {n : Int} (asked : Arguments.parse usual words = .show a)
    (address : Text.trim a.address ≠ "") (samples : a.samples = some n) (h : passes s = true) :
    run s [] usual words = .finished 0 (joinLines
      (sectionLines "Table Existence" ((TableName.all.map (tableCheck [])).map Check.line)
        ++ contentLines s n)) := by
  have hpresent : (TableName.all.map (tableCheck [])).all Check.ok = true := by decide
  simp only [run, asked, answer, if_neg address, report, hpresent, samples, h, if_true]

end Overview

end StageStock
