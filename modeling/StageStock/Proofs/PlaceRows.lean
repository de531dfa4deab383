import Mathlib.Tactic.Lemma
import StageStock.Proofs.Checks
import StageStock.Proofs.Resolution
import StageStock.Proofs.Spelling

/-!
How rows of placements are told apart.

A ledger compares the places that rows are read as. The overview compares the columns: listed
locations by id, and other rows by their text with small Basic Latin letters.

* `PlacementRow.key?`: what a ledger compares of a row;
* `Store.nodup_placeKeys_iff`: the ledgers of all equipments have different places exactly if no two
  rows of one equipment are read as the same place;
* `Overview.nodup_namedPlaces_iff`, `Overview.nodup_customPlaces_iff`: the same of what the overview
  compares.
-/

namespace StageStock

/-! ### What a ledger compares -/

namespace PlacementRow

variable {r : PlacementRow}

/-- What tells the place of a row from others, if it has a place. -/
def key? (r : PlacementRow) : Option PlaceKey :=
  r.place?.map Place.key

lemma key?_of_placeId {id : Int} (h : r.placeId = some id) : r.key? = some (.named id) := by
  rw [key?, place?, h]
  rfl

lemma key?_of_text {text : String} (unlisted : r.placeId = none) (h : r.placeText = some text)
    (words : Text.normalise text ≠ "") : r.key? = some (.custom (foldName text)) := by
  rw [key?, place?, unlisted, h, Place.ofColumns, Text.normalise?, Option.getD_some, if_neg words,
    Option.map_some, Place.key, foldName_normalise]

/-- A row has a place if it is at a listed location, or if its text has words. -/
lemma key?_eq_some {k : PlaceKey} (h : r.key? = some k) :
    (∃ id, r.placeId = some id ∧ k = .named id) ∨ ∃ text, r.placeId = none
      ∧ r.placeText = some text ∧ Text.normalise text ≠ "" ∧ k = .custom (foldName text) := by
  cases hid : r.placeId with
  | some id =>
      rw [key?_of_placeId hid] at h
      exact Or.inl ⟨id, rfl, (Option.some.inj h).symm⟩
  | none =>
      cases htext : r.placeText with
      | none =>
          rw [key?, place?, hid, htext] at h
          exact absurd h (by decide +revert)
      | some text =>
          by_cases hwords : Text.normalise text = ""
          · rw [key?, place?, hid, htext, Place.ofColumns, Text.normalise?, Option.getD_some,
              if_pos hwords] at h
            cases h
          · rw [key?_of_text hid htext hwords] at h
            exact Or.inr ⟨text, rfl, rfl, hwords, (Option.some.inj h).symm⟩

end PlacementRow

namespace Store

variable {s : Store}

lemma nodup_placeKeys (e : Int) : (s.placeKeys e).Nodup
    ↔ (s.placementsOf e).Pairwise fun r q => ∀ k, r.2.key? = some k → q.2.key? ≠ some k := by
  rw [placeKeys, List.Nodup, List.pairwise_filterMap]
  constructor
  · intro h
    exact h.imp fun hapart k hk hk' => hapart k hk k hk' rfl
  · intro h
    refine h.imp fun hapart k hk k' hk' hsame => ?_
    subst hsame
    exact hapart k hk hk'

/-- Where the places of a ledger are different, a place is that of one row. -/
lemma eq_of_key? {e : Int} {r q : Int × PlacementRow} {k : PlaceKey} (h : (s.placeKeys e).Nodup)
    (hr : r ∈ s.placementsOf e) (hq : q ∈ s.placementsOf e) (hk : r.2.key? = some k)
    (hk' : q.2.key? = some k) : r = q := by
  by_contra hdiffer
  have hsymm : Std.Symm fun r q : Int × PlacementRow =>
      ∀ k, r.2.key? = some k → q.2.key? ≠ some k :=
    ⟨fun _ _ hapart k hk hk' => hapart k hk' hk⟩
  exact ((nodup_placeKeys e).1 h).forall hr hq hdiffer k hk hk'

/-- The ledgers of all equipments have different places exactly if no two rows of one equipment are
read as the same place. -/
theorem nodup_placeKeys_iff : (∀ e, (s.placeKeys e).Nodup)
    ↔ s.placements.rows.Pairwise fun r q => r.2.equipment = q.2.equipment →
      ∀ k, r.2.key? = some k → q.2.key? ≠ some k := by
  rw [← pairwise_groups_iff]
  exact forall_congr' nodup_placeKeys

end Store

/-! ### What the overview compares -/

namespace Overview

variable {s : Store}

theorem nodup_namedPlaces_iff : (namedPlaces s).Nodup
    ↔ s.placements.rows.Pairwise fun r q => r.2.equipment = q.2.equipment →
      ∀ id, r.2.placeId = some id → q.2.placeId ≠ some id := by
  rw [namedPlaces, List.Nodup, List.pairwise_filterMap]
  constructor
  · intro h
    refine h.imp fun {r q} hapart hequipment id hr hq => ?_
    exact hapart (r.2.equipment, id) (by rw [hr]; rfl) (q.2.equipment, id) (by rw [hq]; rfl)
      (by rw [hequipment])
  · intro h
    refine h.imp fun {r q} hapart pair hr pair' hq hsame => ?_
    obtain ⟨id, hid, rfl⟩ := Option.map_eq_some_iff.1 hr
    obtain ⟨id', hid', rfl⟩ := Option.map_eq_some_iff.1 hq
    obtain ⟨hequipment, rfl⟩ := Prod.mk.inj hsame
    exact hapart hequipment id hid hid'

theorem nodup_customPlaces_iff : (customPlaces s).Nodup
    ↔ s.placements.rows.Pairwise fun r q => r.2.equipment = q.2.equipment →
      r.2.placeId = none → q.2.placeId = none →
        r.2.placeText.map Text.lowerBasicLatin ≠ q.2.placeText.map Text.lowerBasicLatin := by
  rw [customPlaces, List.Nodup, List.pairwise_map, Table.select, List.pairwise_filter]
  simp only [Option.isNone_iff_eq_none, ne_eq, Prod.mk.injEq, not_and]
  exact ⟨fun h => h.imp fun hapart hequipment hr hq => hapart hr hq hequipment,
    fun h => h.imp fun hapart hr hq hequipment => hapart hequipment hr hq⟩

end Overview

end StageStock
