import Mathlib.Tactic.Lemma
import StageStock.Proofs.Figures
import StageStock.Proofs.Lifecycle
import StageStock.Proofs.PlaceRows
import StageStock.Proofs.RowForms

/-!
The overview accepts whatever orders leave.

The overview looks at rows as they are stored, and orders keep the ledgers sound that are read from
these rows. As orders write rows in one form only, the rows hide nothing that the ledgers do not
have, and the sums and the comparisons over rows come out as those over ledgers.

* `Store.Reached.nodup_namedPlaces`, `Store.Reached.nodup_customPlaces`: no place is met twice;
* `Store.Reached.committed_eq`: rows sum up to what the ledger has committed;
* `Store.Reached.accepts`: so the checks accept the rows;
* `Store.Reached.overview`: and the overview ends with code 0 and shows the figures of the ledgers.
-/

namespace StageStock

/-! ### Rows that orders write -/

namespace PlacementRow.IsWritten

variable {r : PlacementRow}

/-- A row that is written has a listed location and no text, or words and no location. -/
lemma cases (h : r.IsWritten) :
    (∃ id, r.placeId = some id ∧ r.placeText = none) ∨ ∃ text, r.placeId = none
      ∧ r.placeText = some text ∧ Text.normalise text ≠ "" := by
  obtain ⟨place, hwords, hcolumns⟩ := h
  cases place with
  | named id =>
      obtain ⟨hid, htext⟩ := Prod.mk.inj hcolumns
      exact Or.inl ⟨id, hid, htext⟩
  | custom text =>
      obtain ⟨hid, htext⟩ := Prod.mk.inj hcolumns
      refine Or.inr ⟨_, hid, htext, ?_⟩
      rw [Text.normalise_normalise]
      exact hwords

lemma exists_place (h : r.IsWritten) : ∃ place, r.place? = some place := by
  obtain ⟨place, hwords, hcolumns⟩ := h
  exact ⟨_, place?_of_columns hwords hcolumns⟩

lemma isSome_ne (h : r.IsWritten) : r.placeId.isSome ≠ r.placeText.isSome := by
  rcases h.cases with ⟨id, hid, htext⟩ | ⟨text, hid, htext, -⟩ <;> simp [hid, htext]

end PlacementRow.IsWritten

namespace Store

variable {s : Store}

/-! ### Places -/

/-- No two rows of an equipment are read as the same place. -/
lemma Reached.pairwise_keys (h : s.Reached) :
    s.placements.rows.Pairwise fun r q => r.2.equipment = q.2.equipment →
      ∀ k, r.2.key? = some k → q.2.key? ≠ some k :=
  nodup_placeKeys_iff.1 h.sound.nodup_placeKeys

lemma Reached.nodup_namedPlaces (h : s.Reached) : (Overview.namedPlaces s).Nodup := by
  refine Overview.nodup_namedPlaces_iff.2 (h.pairwise_keys.imp fun hapart hequipment id hr hq => ?_)
  exact hapart hequipment (.named id) (PlacementRow.key?_of_placeId hr)
    (PlacementRow.key?_of_placeId hq)

/-- Spellings that the overview takes for the same are the same place to a ledger. -/
lemma Reached.nodup_customPlaces (h : s.Reached) : (Overview.customPlaces s).Nodup := by
  refine Overview.nodup_customPlaces_iff.2 (h.pairwise_keys.imp_of_mem ?_)
  intro r q hr hq hapart hequipment hrId hqId hsame
  rcases (h.tidy.places r hr).cases with ⟨id, hid, -⟩ | ⟨text, -, htext, hwords⟩
  · rw [hrId] at hid
    cases hid
  · rcases (h.tidy.places q hq).cases with ⟨id, hid, -⟩ | ⟨text', -, htext', hwords'⟩
    · rw [hqId] at hid
      cases hid
    · rw [htext, htext', Option.map_some, Option.map_some] at hsame
      have hname : foldName text = foldName text' :=
        foldName_eq_of_lowerBasicLatin_eq (Option.some.inj hsame)
      refine hapart hequipment _ (PlacementRow.key?_of_text hrId htext hwords) ?_
      rw [PlacementRow.key?_of_text hqId htext' hwords', hname]

/-! ### Sums -/

lemma Reached.isSound (h : s.Reached) {row : Int × EquipmentRow} (hrow : row ∈ s.equipments.rows) :
    (s.snapshot row.1 row.2).IsSound :=
  h.sound.ledgers row.1 row.2 (Table.find?_of_mem hrow)

/-- The rows of an equipment sum up to what its ledger has committed. -/
lemma Reached.committed_eq (h : s.Reached) {row : Int × EquipmentRow}
    (hrow : row ∈ s.equipments.rows) :
    Overview.committed s row.1 row.2 = (s.snapshot row.1 row.2).committed :=
  Overview.committed_eq_of_isSound (h.isSound hrow) (h.tidy.totals row hrow)
    (h.tidy.kinds row hrow)
    fun r hr => (h.tidy.places r (mem_placementsOf.1 hr).1).exists_place

/-- A row that has a place is read as a placement of its units. -/
lemma exists_placementOf? {row : Int × PlacementRow} {place : Place}
    (h : row.2.place? = some place) :
    ∃ p, placementOf? row = some p ∧ p.quantity = row.2.quantity := by
  have hread : (placementOf? row).map Placement.quantity = some row.2.quantity := by
    rw [placementOf?, h]
    rfl
  exact Option.map_eq_some_iff.1 hread

/-- The row of a placement holds some units. -/
lemma Leads.one_le_quantity (h : Store.empty.Leads s) {row : Int × PlacementRow}
    (hrow : row ∈ s.placements.rows) : 1 ≤ row.2.quantity := by
  obtain ⟨place, hplace⟩ := (h.tidy.places row hrow).exists_place
  obtain ⟨p, hp, hquantity⟩ := exists_placementOf? hplace
  obtain ⟨equipment, hequipment⟩ := h.sound.equipment_of_placement hrow
  have hlisted : p ∈ (s.snapshot row.2.equipment equipment).placements :=
    List.mem_filterMap.2 ⟨row, mem_placementsOf.2 ⟨hrow, rfl⟩, hp⟩
  obtain ⟨hone, -⟩ := (h.sound.ledgers _ equipment hequipment).placements p hlisted
  exact hquantity ▸ hone

/-! ### Installations -/

/-- Portable equipment has no units installed, and all other has a place, as its row says. -/
lemma installation_of_isSound {e : Int} {row : EquipmentRow} (sound : (s.snapshot e row).IsSound)
    (kind : row.installationKind ≠ "") :
    (row.installationKind = InstallationKind.portable.text → row.installed = 0)
      ∧ (row.installationKind ≠ InstallationKind.portable.text →
        row.placeId.isSome = true ∨ row.placeText.isSome = true) := by
  obtain ⟨-, -, hplace, hzero⟩ := sound.installation
  have hkind : (s.snapshot e row).installation.isActive
      = decide (row.installationKind ≠ InstallationKind.portable.text) := by
    show row.installation.isActive = _
    rw [Installation.isActive, EquipmentRow.installation, if_neg kind]
  refine ⟨fun hportable => hzero ?_, fun hfixed => ?_⟩
  · rw [hkind, hportable]
    decide
  · have hplaced : (Place.ofColumns row.placeId row.placeText).isSome = true :=
      hplace (hkind.trans (decide_eq_true hfixed))
    cases hid : row.placeId with
    | some id => exact Or.inl rfl
    | none =>
        cases htext : row.placeText with
        | some text => exact Or.inr rfl
        | none =>
            rw [hid, htext] at hplaced
            exact absurd hplaced (by decide)

/-! ### The checks -/

/-- The checks accept whatever orders leave. -/
theorem Reached.accepts (h : s.Reached) : Overview.Accepts s where
  committed_le row hrow := by
    have hstore := (h.isSound hrow).inStore_nonneg
    rw [Snapshot.inStore] at hstore
    rw [h.committed_eq hrow]
    show (s.snapshot row.1 row.2).committed ≤ (s.snapshot row.1 row.2).total
    omega
  nodup_named := h.nodup_namedPlaces
  nodup_custom := h.nodup_customPlaces
  exclusive row hrow := (h.tidy.places row hrow).isSome_ne
  one_le_quantity row hrow := h.leads.one_le_quantity hrow
  within_need row hrow :=
    ⟨(h.backs hrow).allocated_nonneg, (h.backs hrow).allocated_le_needed⟩
  exists_show row hrow := by
    obtain ⟨found, hfound⟩ := (h.backs hrow).exists_show
    rw [hfound]
    rfl
  portable row hrow :=
    (installation_of_isSound (h.isSound hrow) (h.tidy.kinds row hrow)).1
  installed row hrow :=
    (installation_of_isSound (h.isSound hrow) (h.tidy.kinds row hrow)).2

end Store

/-! ### The overview -/

/-- What the overview shows of an equipment: its id, and the units that are committed and in the
store. -/
def Overview.Figures.shown (f : Figures) : Int × Int × Int :=
  (f.equipment, f.committed, f.total - f.committed)

/-- Whatever was ordered, the overview of the store ends with code 0, all its checks pass, and the
units that it shows as committed and as in the store are those of the ledgers. -/
theorem Store.Reached.overview {s : Store} (h : s.Reached) {usual : String} {words : List String}
    {a : Overview.Arguments} {n : Int} (asked : Overview.Arguments.parse usual words = .show a)
    (address : Text.trim a.address ≠ "") (samples : a.samples = some n) :
    (∃ output, Overview.run s [] usual words = .finished 0 output)
      ∧ (∀ c ∈ Overview.checks s, c.ok = true)
      ∧ (Overview.figures s).map Overview.Figures.shown = s.equipments.rows.map fun row =>
        (row.1, (s.snapshot row.1 row.2).committed, (s.snapshot row.1 row.2).inStore) := by
  have hpasses : Overview.passes s = true := Overview.passes_iff.2 h.accepts
  refine ⟨⟨_, Overview.run_of_passes asked address samples hpasses⟩, List.all_eq_true.1 hpasses, ?_⟩
  rw [Overview.figures, List.map_map]
  refine List.map_congr_left fun row hrow => ?_
  rw [Function.comp_apply, h.committed_eq hrow]
  rfl

namespace Store

/-- Ten lamps and four cables are registered, and a gala and a rack are listed. Two lamps are put at
the rack and one into a café, three are in use at the gala, and a cable is fixed in the foyer. -/
def stageStore : Store :=
  (({} : Desk).fulfilAll
    [({ now := default }, .register { name := some "Lamp", total := 10 }),
      ({ now := default }, .register { name := some "Cable", total := 4 }),
      ({ now := default }, .addShow { name := "Gala" }),
      ({ now := default }, .addLocation { name := "Rack A" }),
      ({ now := default },
        .placeUnits { equipment := 1, target := { id := some 1 }, quantity := 2 }),
      ({ now := default },
        .placeUnits { equipment := 1, target := { name := some "Café" }, quantity := 1 }),
      ({ now := default }, .reserve { showId := 1, equipment := 1, needed := 3 }),
      ({ now := default }, .changeReservation { id := 1, status := some "in-use" }),
      ({ now := default },
        .install { equipment := 2, kind := "fixed", target := { name := some "Foyer" }
                   quantity := some 1 })]).store

/-- Six lamps and one cable are committed, and the overview says so. -/
theorem Reached.overview_stageStore :
    Overview.Arguments.parse "" ["--db-url", "sqlite:///stage.db"]
        = .show { address := "sqlite:///stage.db" }
      ∧ Text.trim "sqlite:///stage.db" ≠ ""
      ∧ (Overview.figures stageStore).map Overview.Figures.shown = [(1, 6, 4), (2, 1, 3)]
      ∧ (∃ output, Overview.run stageStore [] "" ["--db-url", "sqlite:///stage.db"]
        = .finished 0 output)
      ∧ (∀ c ∈ Overview.checks stageStore, c.ok = true)
      ∧ (Overview.figures stageStore).map Overview.Figures.shown
        = stageStore.equipments.rows.map fun row =>
          (row.1, (stageStore.snapshot row.1 row.2).committed,
            (stageStore.snapshot row.1 row.2).inStore) := by
  have hreached : stageStore.Reached :=
    .order _ _ _ (.order _ _ _ (.order _ _ _ (.order _ _ _ (.order _ _ _ (.order _ _ _
      (.order _ _ _ (.order _ _ _ (.order _ _ _ .empty rfl) rfl) rfl) rfl) rfl) rfl) rfl) rfl) rfl
  have hasked : Overview.Arguments.parse "" ["--db-url", "sqlite:///stage.db"]
      = .show { address := "sqlite:///stage.db" } :=
    Overview.Arguments.parse_address (by decide)
  have haddress : Text.trim "sqlite:///stage.db" ≠ "" := by decide +kernel
  exact ⟨hasked, haddress, by decide +kernel, hreached.overview hasked haddress rfl⟩

end Store

end StageStock
