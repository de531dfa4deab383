import StageStock.Proofs.Distribution
import StageStock.Proofs.Whereabouts

/-!
What is at the listed locations.

The inventory of a location is read off the rows that name the location, and a ledger off the rows
that name the equipment. So the rows of placements are grouped twice, once by their locations and
once by their equipments, and what all inventories hold is what all ledgers have at listed
locations.

* `Table.perm_flatMap_filter`: rows in groups by a key are the rows that have a key;
* `Store.Storable`: the locations that rows name can be asked for;
* `Store.inventories`: the inventories of all listed locations;
* `Store.Shows`, `Store.ListsOnce`: all inventories together hold every row that names a location,
  and each of them once (`Store.Shows.perm`, `Store.Shows.listsOnce`);
* `Store.Leads.addUp_inventories`, `Store.Leads.addUp_listedUnits`: what inventories hold and what
  ledgers have at listed locations, as one sum over rows;
* `Store.Yields.listed_once`: so every unit at a listed location is listed once.
-/

namespace StageStock

/-! ### Groups -/

section Groups

variable {α β : Type}

/-- Rows in groups by their keys are the rows that have a key. -/
lemma Table.perm_flatMap_filter [DecidableEq β] {keys : List β} {rows : List (Int × α)}
    {key : Int × α → Option β} (nodup : keys.Nodup) (nodup_rows : rows.Nodup)
    (covered : ∀ row ∈ rows, ∀ k, key row = some k → k ∈ keys) :
    (keys.flatMap fun k => rows.filter fun row => key row = some k).Perm
      (rows.filter fun row => (key row).isSome) := by
  refine perm_of_mem_iff ?_ (nodup_rows.filter _) fun row => ?_
  · refine List.nodup_flatMap.2 ⟨fun k _ => nodup_rows.filter _, nodup.imp fun hne row hr hq => ?_⟩
    have hone : key row = _ := of_decide_eq_true (List.mem_filter.1 hr).2
    have hother : key row = _ := of_decide_eq_true (List.mem_filter.1 hq).2
    exact hne (Option.some.inj (hone.symm.trans hother))
  · simp only [List.mem_flatMap, List.mem_filter, decide_eq_true_iff, Option.isSome_iff_exists]
    constructor
    · rintro ⟨k, -, hrow, hkey⟩
      exact ⟨hrow, k, hkey⟩
    · rintro ⟨hrow, k, hkey⟩
      exact ⟨k, covered row hrow k hkey, hrow, hkey⟩

/-- An element whose key no other has is counted once. -/
lemma countP_eq_one [DecidableEq β] {key : α → β} {xs : List α} {x : α}
    (nodup : (xs.map key).Nodup) (h : x ∈ xs) : xs.countP (fun y => key y = key x) = 1 := by
  have hcount := List.count_eq_one_of_mem nodup (List.mem_map_of_mem h)
  rw [List.count, List.countP_map] at hcount
  rw [← hcount]
  exact List.countP_congr fun y _ => by simp

lemma addUp_map_add (f g : α → Int) (xs : List α) :
    addUp (xs.map fun x => f x + g x) = addUp (xs.map f) + addUp (xs.map g) := by
  induction xs with
  | nil => rfl
  | cons x rest ih =>
      simp only [List.map_cons, addUp, ih]
      omega

lemma addUp_map_ite (p : α → Bool) (f : α → Int) (xs : List α) :
    addUp (xs.map fun x => if p x = true then f x else 0) = addUp ((xs.filter p).map f) := by
  induction xs with
  | nil => rfl
  | cons x rest ih =>
      rw [List.map_cons, addUp, ih]
      by_cases hx : p x = true
      · rw [if_pos hx, List.filter_cons_of_pos hx, List.map_cons, addUp]
      · rw [if_neg hx, List.filter_cons_of_neg hx, Int.zero_add]

end Groups

/-! ### Units at listed locations -/

/-- The listed location at which an equipment has units installed. -/
def EquipmentRow.installedAt? (r : EquipmentRow) : Option Int :=
  if r.installationKind ≠ InstallationKind.portable.text ∧ 0 < r.installed then r.placeId else none

lemma EquipmentRow.installedAt?_eq_some_iff {r : EquipmentRow} {id : Int} :
    r.installedAt? = some id ↔ (r.placeId = some id
      ∧ r.installationKind ≠ InstallationKind.portable.text) ∧ 0 < r.installed := by
  rw [installedAt?, Option.ite_none_right_eq_some, and_comm, and_assoc]

/-- Whether a place is a listed location. -/
def Place.isNamed : Place → Bool
  | named _ => true
  | custom _ => false

/-- Two columns describe a listed location exactly if there is an id in the first. -/
lemma Place.ofColumns_eq_named_iff {id? : Option Int} {text : Option String} {id : Int} :
    ofColumns id? text = some (named id) ↔ id? = some id := by
  cases id? with
  | some n => simp [ofColumns]
  | none =>
      rw [ofColumns]
      split <;> simp

lemma Place.any_isNamed_ofColumns (id? : Option Int) (text : Option String) :
    (ofColumns id? text).any isNamed = id?.isSome := by
  cases id? with
  | some n => rfl
  | none =>
      rw [ofColumns]
      split <;> rfl

/-- The units of a ledger that are placed or installed at listed locations. -/
def Snapshot.listedUnits (s : Snapshot) : Int :=
  addUp ((s.placements.filter fun p => p.place.isNamed).map Placement.quantity)
    + if s.installation.place.any Place.isNamed then s.installed else 0

namespace Store

variable {s t : Store}

/-! ### Numbers in rows -/

/-- The numbers in the rows of equipments and of placements can be stored. -/
structure Storable (s : Store) : Prop where
  equipments : ∀ row ∈ s.equipments.rows, row.2.fits = true
  placements : ∀ row ∈ s.placements.rows, row.2.fits = true

namespace Storable

lemma empty : Store.empty.Storable :=
  ⟨fun _ hrow => absurd hrow List.not_mem_nil, fun _ hrow => absurd hrow List.not_mem_nil⟩

lemma enter (h : s.Storable) {now : Moment} {o : Order} (entered : s.Enters now o t) :
    t.Storable := by
  cases entered with
  | equipment r audits units fits noted =>
      exact ⟨Table.forall_insert (P := fun row : EquipmentRow => row.fits = true) h.equipments fits,
        h.placements⟩
  | event r row => exact ⟨h.equipments, h.placements⟩
  | location r row audits words name noted => exact ⟨h.equipments, h.placements⟩

lemma becomes (h : s.Storable) {now : Moment} {o : Order} (becomes : s.Becomes now o t) :
    t.Storable := by
  cases becomes with
  | same => exact h
  | entered enters => exact h.enter enters
  | committed shows locations makes ready commits =>
      obtain ⟨hequipments, hplacements, -⟩ := fits_iff.1 commits.fits
      exact ⟨hequipments, hplacements⟩

end Storable

lemma Leads.storable (h : Store.empty.Leads s) : s.Storable :=
  h.preserves Storable.empty fun _ _ _ _ _ becomes hu => hu.becomes becomes

/-! ### One inventory -/

section Inventory

variable {id : Int} {i : Placements.Inventory}

/-- What an inventory is read off: the rows that name its location, in the order of names. -/
lemma inventory_eq_ok (asked : Placements.inventory s id = .ok i) :
    i.id = id
      ∧ i.placed = inNameOrder PlacementRecord.equipmentName
        (((s.placements.select fun row => row.placeId = some id).filter fun row =>
          (s.equipments.find? row.2.equipment).isSome).map s.placementRecord)
      ∧ i.installed = inNameOrder (fun r => r.row.name)
        ((s.equipments.select fun row => row.placeId = some id
          && row.installationKind ≠ InstallationKind.portable.text && 0 < row.installed).map
            fun row => ⟨row.1, row.2⟩) := by
  rw [Placements.inventory] at asked
  split at asked
  · cases asked
  · obtain rfl := Except.ok.inj asked
    exact ⟨rfl, rfl, rfl⟩

/-- An inventory holds the placements at its location, if none of them is of an equipment that does
not exist. -/
lemma placed_inventory (known : ∀ row ∈ s.placements.rows,
      ∃ equipment, s.equipments.find? row.2.equipment = some equipment)
    (asked : Placements.inventory s id = .ok i) : i.placed.Perm
      ((s.placements.select fun row => row.placeId = some id).map s.placementRecord) := by
  obtain ⟨-, hplaced, -⟩ := inventory_eq_ok asked
  rw [hplaced, List.filter_eq_self.2 fun row hrow => ?_]
  · exact List.mergeSort_perm _ _
  · obtain ⟨equipment, hequipment⟩ := known row (Table.mem_select.1 hrow).1
    rw [hequipment]
    rfl

/-- An inventory holds the equipments of which units are installed at its location. -/
lemma installed_inventory (asked : Placements.inventory s id = .ok i) : i.installed.Perm
    ((s.equipments.select fun row => row.installedAt? = some id).map
      fun row => ⟨row.1, row.2⟩) := by
  obtain ⟨-, -, hinstalled⟩ := inventory_eq_ok asked
  have hsame : (s.equipments.select fun row => row.placeId = some id
      && row.installationKind ≠ InstallationKind.portable.text && 0 < row.installed)
        = s.equipments.select fun row => row.installedAt? = some id :=
    List.filter_congr fun row _ => by
      simp only [EquipmentRow.installedAt?_eq_some_iff, Bool.decide_and]
  rw [hinstalled, hsame]
  exact List.mergeSort_perm _ _

end Inventory

/-! ### All inventories -/

/-- The inventories of all listed locations. -/
def inventories (s : Store) : List Placements.Inventory :=
  s.locations.rows.filterMap fun row => (Placements.inventory s row.1).toOption

lemma mem_inventories {i : Placements.Inventory} :
    i ∈ s.inventories ↔ ∃ row ∈ s.locations.rows, Placements.inventory s row.1 = .ok i := by
  rw [inventories, List.mem_filterMap]
  refine exists_congr fun row => and_congr_right fun _ => ?_
  cases Placements.inventory s row.1 with
  | error e => simp [Except.toOption]
  | ok j => simp [Except.toOption]

/-- No two inventories are of one location. -/
lemma nodup_ids_inventories (s : Store) :
    (s.inventories.map Placements.Inventory.id).Nodup := by
  refine List.pairwise_map.2 (List.Pairwise.filterMap _ (fun x y hne i hi j hj => ?_)
    (List.pairwise_map.1 s.locations.nodup_ids))
  rw [(inventory_eq_ok (eq_ok_of_toOption hi)).1, (inventory_eq_ok (eq_ok_of_toOption hj)).1]
  exact hne

/-- A location whose id can be asked for has an inventory. -/
lemma exists_mem_inventories {id : Int} {location : LocationRow} (fits : fitsWord id = true)
    (listed : s.locations.find? id = some location) :
    ∃ i ∈ s.inventories, Placements.inventory s id = .ok i ∧ i.id = id
      ∧ i.name = location.name := by
  have hinventory : ∃ i, Placements.inventory s id = .ok i ∧ i.id = id
      ∧ i.name = location.name := by
    rw [Placements.inventory, location?_eq_ok.2 ⟨fits, listed⟩]
    exact ⟨_, rfl, rfl, rfl⟩
  obtain ⟨i, hi, hid, hname⟩ := hinventory
  exact ⟨i, mem_inventories.2 ⟨_, Table.find?_eq_some_iff.1 listed, hi⟩, hi, hid, hname⟩

/-- Inventories hold records of the rows of a table: each inventory those of its location, and the
location that a row names has an inventory. -/
structure Shows {α γ : Type} (s : Store) (table : Table α) (at? : α → Option Int)
    (record : Int × α → γ) (held : Placements.Inventory → List γ) : Prop where
  holds : ∀ id i, Placements.inventory s id = .ok i →
    (held i).Perm ((table.select fun row => at? row = some id).map record)
  covers : ∀ row ∈ table.rows, ∀ id, at? row.2 = some id → fitsWord id = true
    ∧ ∃ location, s.locations.find? id = some location

/-- A record is held by the inventory of a location, and no other inventory holds one of its key,
nor does this one hold two. -/
structure ListsOnce {γ : Type} (s : Store) (held : Placements.Inventory → List γ) (key : γ → Int)
    (id : Int) (r : γ) : Prop where
  listed : ∃ i ∈ s.inventories, i.id = id ∧ r ∈ held i
  once : (s.inventories.flatMap held).countP (fun q => key q = key r) = 1

namespace Shows

variable {α γ : Type} {table : Table α} {at? : α → Option Int} {record : Int × α → γ}
  {held : Placements.Inventory → List γ}

/-- All inventories together hold the records of the rows that name a location. -/
lemma perm (h : s.Shows table at? record held) : (s.inventories.flatMap held).Perm
    ((table.select fun row => (at? row).isSome).map record) := by
  have hheld : (s.inventories.flatMap held).Perm (s.inventories.flatMap fun i =>
      (table.select fun row => at? row = some i.id).map record) :=
    List.Perm.flatMap_left _ fun i hi => by
      obtain ⟨row, -, hasked⟩ := mem_inventories.1 hi
      rw [(inventory_eq_ok hasked).1]
      exact h.holds _ i hasked
  have hgroups : ((s.inventories.map Placements.Inventory.id).flatMap fun id =>
      table.select fun row => at? row = some id).Perm
        (table.select fun row => (at? row).isSome) :=
    Table.perm_flatMap_filter s.nodup_ids_inventories table.nodup_rows fun row hrow id hid => by
      obtain ⟨hfits, location, hlocation⟩ := h.covers row hrow id hid
      obtain ⟨i, hi, -, rfl, -⟩ := exists_mem_inventories hfits hlocation
      exact List.mem_map_of_mem hi
  have hrecords := hgroups.map record
  rw [List.flatMap_map, List.map_flatMap] at hrecords
  exact hheld.trans hrecords

/-- The record of a row that names a location is listed there, and nowhere else. -/
lemma listsOnce (h : s.Shows table at? record held) {key : γ → Int}
    (keys : ∀ row, key (record row) = row.1) {row : Int × α} (hrow : row ∈ table.rows) {id : Int}
    (named : at? row.2 = some id) : s.ListsOnce held key id (record row) where
  listed := by
    obtain ⟨hfits, location, hlocation⟩ := h.covers row hrow id named
    obtain ⟨i, hi, hasked, hid, -⟩ := exists_mem_inventories hfits hlocation
    exact ⟨i, hi, hid, (h.holds id i hasked).mem_iff.2
      (List.mem_map_of_mem (Table.mem_select.2 ⟨hrow, decide_eq_true named⟩))⟩
  once := by
    rw [h.perm.countP_eq]
    refine countP_eq_one ?_
      (List.mem_map_of_mem (Table.mem_select.2 ⟨hrow, by rw [named]; rfl⟩))
    rw [List.map_map, show key ∘ record = Prod.fst from funext keys]
    exact Table.nodup_ids_select table _

end Shows

lemma Locates.exists_location {id : Int} {text : Option String} (h : s.Locates (some id) text) :
    ∃ location, s.locations.find? id = some location := by
  rcases h with ⟨n, location, hid, hlocation, -⟩ | ⟨-, hid, -⟩
  · exact Option.some.inj hid ▸ ⟨location, hlocation⟩
  · cases hid

namespace Records

variable {row : EquipmentRow}

/-- The listed location that a whole row names is that of its installation. -/
lemma installedAt?_eq (h : s.Records row) : row.installedAt? = row.placeId := by
  cases h with
  | portable kind units place => rw [EquipmentRow.installedAt?, if_neg fun h => h.1 kind, place.1]
  | installed known kind units place day => rw [EquipmentRow.installedAt?, if_pos ⟨kind, units⟩]

/-- The units of a whole row count as installed. -/
lemma installedUnits_eq (h : s.Records row) : Overview.installedUnits row = row.installed := by
  cases h with
  | portable kind units place => rw [Overview.installedUnits, if_pos kind, units]
  | installed known kind units place day => rw [Overview.installedUnits, if_neg kind]

lemma exists_location (h : s.Records row) {id : Int} (named : row.placeId = some id) :
    ∃ location, s.locations.find? id = some location := by
  cases h with
  | portable kind units place =>
      rw [place.1] at named
      cases named
  | installed known kind units place day =>
      rw [named] at place
      exact place.exists_location

end Records

section Leads

variable (h : Store.empty.Leads s)
include h

lemma Leads.records {row : Int × EquipmentRow} (hrow : row ∈ s.equipments.rows) :
    s.Records row.2 :=
  records_of_holdsWhole (h.wellPlaced.whole row hrow)

lemma Leads.shows_placements : s.Shows s.placements PlacementRow.placeId s.placementRecord
    Placements.Inventory.placed where
  holds _ _ asked := placed_inventory (fun _ hrow => h.sound.equipment_of_placement hrow) asked
  covers row hrow id named := by
    have hfits := h.storable.placements row hrow
    have hlocates := h.locates_placement hrow
    simp only [PlacementRow.fits, Bool.and_eq_true, named] at hfits
    rw [named] at hlocates
    exact ⟨hfits.1.1.2, hlocates.exists_location⟩

lemma Leads.shows_installed : s.Shows s.equipments EquipmentRow.installedAt?
    (fun row => ⟨row.1, row.2⟩) Placements.Inventory.installed where
  holds _ _ asked := installed_inventory asked
  covers row hrow id named := by
    have hrecords := h.records hrow
    have hfits := h.storable.equipments row hrow
    rw [hrecords.installedAt?_eq] at named
    simp only [EquipmentRow.fits, Bool.and_eq_true, named] at hfits
    exact ⟨hfits.1.2, hrecords.exists_location named⟩

/-- The units of all inventories are those of the rows that name listed locations. -/
lemma Leads.addUp_inventories : addUp (s.inventories.map Placements.Inventory.total)
    = addUp ((s.placements.select fun row => row.placeId.isSome).map fun row => row.2.quantity)
      + addUp ((s.equipments.select fun row => row.installedAt?.isSome).map
        fun row => row.2.installed) := by
  have hplaced := addUp_eq_of_perm (h.shows_placements.perm.map fun r => r.row.quantity)
  have hinstalled := addUp_eq_of_perm (h.shows_installed.perm.map fun r => r.row.installed)
  rw [addUp_map_flatMap, List.map_map] at hplaced hinstalled
  calc addUp (s.inventories.map Placements.Inventory.total)
      = addUp (s.inventories.map fun i => addUp (i.placed.map fun r => r.row.quantity))
        + addUp (s.inventories.map fun i => addUp (i.installed.map fun r => r.row.installed)) :=
        addUp_map_add _ _ _
    _ = _ := congrArg₂ (· + ·) hplaced hinstalled

end Leads

/-! ### All ledgers -/

/-- A row is read as a placement of its units at the place that its columns describe. -/
lemma placementOf?_eq_some {row : Int × PlacementRow} {p : Placement}
    (h : placementOf? row = some p) :
    p.id = some row.1 ∧ p.quantity = row.2.quantity
      ∧ some p.place = Place.ofColumns row.2.placeId row.2.placeText := by
  obtain ⟨place, hplace, rfl⟩ := Option.map_eq_some_iff.1 h
  exact ⟨rfl, rfl, hplace.symm⟩

/-- The rows that are read as placements at listed locations are those that name one. -/
lemma addUp_filter_placementOf? (rows : List (Int × PlacementRow)) :
    addUp (((rows.filterMap placementOf?).filter fun p => p.place.isNamed).map Placement.quantity)
      = addUp ((rows.filter fun row => row.2.placeId.isSome).map fun row => row.2.quantity) := by
  induction rows with
  | nil => rfl
  | cons row rest ih =>
      have hnamed := Place.any_isNamed_ofColumns row.2.placeId row.2.placeText
      cases hread : placementOf? row with
      | none =>
          rw [← PlacementRow.place?, Option.map_eq_none_iff.1 hread] at hnamed
          rw [List.filterMap_cons_none hread, ih, List.filter_cons_of_neg]
          rw [← hnamed]
          decide
      | some p =>
          obtain ⟨-, hquantity, hplace⟩ := placementOf?_eq_some hread
          rw [← hplace, Option.any_some] at hnamed
          rw [List.filterMap_cons_some hread, List.filter_cons, List.filter_cons, hnamed]
          split
          · rw [List.map_cons, List.map_cons, addUp, addUp, hquantity, ih]
          · exact ih

lemma Leads.installed_snapshot (h : Store.empty.Leads s) {row : Int × EquipmentRow}
    (hrow : row ∈ s.equipments.rows) : (s.snapshot row.1 row.2).installed = row.2.installed :=
  (Overview.installed_eq (h.tidy.kinds row hrow)).trans (h.records hrow).installedUnits_eq

/-- What a ledger has at listed locations is what the rows of the equipment say. -/
lemma Leads.listedUnits_eq (h : Store.empty.Leads s) {row : Int × EquipmentRow}
    (hrow : row ∈ s.equipments.rows) : (s.snapshot row.1 row.2).listedUnits
      = addUp (((s.placementsOf row.1).filter fun r => r.2.placeId.isSome).map
          fun r => r.2.quantity)
        + if row.2.installedAt?.isSome = true then row.2.installed else 0 := by
  have hnamed : (s.snapshot row.1 row.2).installation.place.any Place.isNamed
      = row.2.installedAt?.isSome := by
    rw [(h.records hrow).installedAt?_eq]
    exact Place.any_isNamed_ofColumns row.2.placeId row.2.placeText
  rw [Snapshot.listedUnits, hnamed, h.installed_snapshot hrow]
  exact congrArg (· + _) (addUp_filter_placementOf? (s.placementsOf row.1))

/-- The units that all ledgers have at listed locations are those of the rows that name one. -/
lemma Leads.addUp_listedUnits (h : Store.empty.Leads s) :
    addUp (s.equipments.rows.map fun row => (s.snapshot row.1 row.2).listedUnits)
      = addUp ((s.placements.select fun row => row.placeId.isSome).map fun row => row.2.quantity)
        + addUp ((s.equipments.select fun row => row.installedAt?.isSome).map
          fun row => row.2.installed) := by
  -- the same rows as for inventories, now in groups by their equipments
  have hgroups : (s.equipments.rows.flatMap fun row => s.placementsOf row.1).Perm
      s.placements.rows := by
    have hkeyed : ((s.equipments.rows.map Prod.fst).flatMap fun e =>
        s.placements.rows.filter fun row => some row.2.equipment = some e).Perm
          (s.placements.rows.filter fun row => (some row.2.equipment).isSome) :=
      Table.perm_flatMap_filter s.equipments.nodup_ids s.placements.nodup_rows
        fun row hrow e he => by
          obtain ⟨equipment, hequipment⟩ := h.sound.equipment_of_placement hrow
          exact Option.some.inj he ▸ List.mem_map_of_mem (Table.find?_eq_some_iff.1 hequipment)
    simp only [List.flatMap_map, Option.some.injEq, Option.isSome_some, List.filter_true] at hkeyed
    exact hkeyed
  have hlisted := hgroups.filter fun row => row.2.placeId.isSome
  rw [List.filter_flatMap] at hlisted
  have hplaced := addUp_eq_of_perm (hlisted.map fun row => row.2.quantity)
  rw [addUp_map_flatMap] at hplaced
  rw [List.map_congr_left fun row hrow => h.listedUnits_eq hrow, addUp_map_add, hplaced,
    addUp_map_ite fun row : Int × EquipmentRow => row.2.installedAt?.isSome]
  rfl

/-- A placement at a listed location is listed there, and nowhere else. -/
lemma Leads.listsOnce_placement (h : Store.empty.Leads s) {e : Int} {equipment : EquipmentRow}
    {p : Placement} (hp : p ∈ (s.snapshot e equipment).placements) {id : Int}
    (named : p.place = .named id) :
    ∃ r : PlacementRecord, p.id = some r.id ∧ r.row.equipment = e ∧ r.row.quantity = p.quantity
      ∧ s.ListsOnce Placements.Inventory.placed PlacementRecord.id id r := by
  obtain ⟨row, hrow, hread⟩ := List.mem_filterMap.1 hp
  obtain ⟨hlisted, howner⟩ := mem_placementsOf.1 hrow
  obtain ⟨hid, hquantity, hplace⟩ := placementOf?_eq_some hread
  rw [named] at hplace
  have hplaceId : row.2.placeId = some id := Place.ofColumns_eq_named_iff.1 hplace.symm
  exact ⟨s.placementRecord row, hid, howner, hquantity.symm,
    h.shows_placements.listsOnce (fun _ => rfl) hlisted hplaceId⟩

/-- An installation at a listed location is listed there, and nowhere else. -/
lemma Leads.listsOnce_installation (h : Store.empty.Leads s) {row : Int × EquipmentRow}
    (hrow : row ∈ s.equipments.rows) {id : Int}
    (named : (s.snapshot row.1 row.2).installation.place = some (.named id)) :
    ∃ r : Placements.InstalledRecord, r.equipment = row.1
      ∧ r.row.installed = (s.snapshot row.1 row.2).installed
      ∧ s.ListsOnce Placements.Inventory.installed Placements.InstalledRecord.equipment id r := by
  have hplace : row.2.installedAt? = some id :=
    (h.records hrow).installedAt?_eq.trans (Place.ofColumns_eq_named_iff.1 named)
  exact ⟨_, rfl, (h.installed_snapshot hrow).symm,
    h.shows_installed.listsOnce (fun _ => rfl) hrow hplace⟩

/-- Whatever was ordered, and whoever was overtaken, every listed location whose id can be asked for
has an inventory, and all inventories together hold as many units as all ledgers have at listed
locations. Each placement and each installation of a ledger at a listed location is held by the
inventory of that location, and by no other one. -/
theorem Yields.listed_once (h : Store.empty.Yields s) :
    (∀ row ∈ s.locations.rows, fitsWord row.1 = true → ∃ i ∈ s.inventories,
        Placements.inventory s row.1 = .ok i ∧ i.id = row.1 ∧ i.name = row.2.name)
      ∧ addUp (s.inventories.map Placements.Inventory.total)
        = addUp (s.equipments.rows.map fun row => (s.snapshot row.1 row.2).listedUnits)
      ∧ ∀ row ∈ s.equipments.rows, let ledger := s.snapshot row.1 row.2
        (∀ p ∈ ledger.placements, ∀ id, p.place = .named id → ∃ r : PlacementRecord,
          p.id = some r.id ∧ r.row.equipment = row.1 ∧ r.row.quantity = p.quantity
            ∧ s.ListsOnce Placements.Inventory.placed PlacementRecord.id id r)
        ∧ ∀ id, ledger.installation.place = some (.named id) → ∃ r : Placements.InstalledRecord,
          r.equipment = row.1 ∧ r.row.installed = ledger.installed
            ∧ s.ListsOnce Placements.Inventory.installed Placements.InstalledRecord.equipment
              id r := by
  have hleads := h.leads
  refine ⟨fun row hrow fits => exists_mem_inventories fits (Table.find?_of_mem hrow), ?_,
    fun row hrow => ⟨fun p hp id named => hleads.listsOnce_placement hp named,
      fun id named => hleads.listsOnce_installation hrow named⟩⟩
  rw [hleads.addUp_inventories, hleads.addUp_listedUnits]

/-- Seven lamps and three cables are registered, and a rack and a stage are listed. Three lamps are
fixed at the rack, one is put there and two on the stage, two cables are put at the rack and one
into a van. -/
def rackStore : Store :=
  (({} : Desk).fulfilAll
    [({ now := default }, .register { name := some "Lamp", total := 7 }),
      ({ now := default }, .register { name := some "Cable", total := 3 }),
      ({ now := default }, .addLocation { name := "Rack A" }),
      ({ now := default }, .addLocation { name := "Stage" }),
      ({ now := default }, .install { equipment := 1, kind := "fixed", target := { id := some 1 }
                                      quantity := some 3 }),
      ({ now := default },
        .placeUnits { equipment := 1, target := { name := some "rack a" }, quantity := 1 }),
      ({ now := default },
        .placeUnits { equipment := 1, target := { id := some 2 }, quantity := 2 }),
      ({ now := default },
        .placeUnits { equipment := 2, target := { id := some 1 }, quantity := 2 }),
      ({ now := default },
        .placeUnits { equipment := 2, target := { name := some "Van" }, quantity := 1 })]).store

/-- Six lamps and two cables are at listed locations, and the inventories hold eight units. -/
theorem Yields.listed_once_rackStore :
    Store.empty.Yields rackStore
      ∧ (rackStore.equipments.rows.map fun row => (rackStore.snapshot row.1 row.2).listedUnits)
        = [6, 2]
      ∧ addUp (rackStore.inventories.map Placements.Inventory.total) = 8
      ∧ ∃ r : Placements.InstalledRecord, r.equipment = 1
        ∧ rackStore.ListsOnce Placements.Inventory.installed
          Placements.InstalledRecord.equipment 1 r := by
  have hyields : Store.empty.Yields rackStore :=
    .alone _ _ _ (.alone _ _ _ (.alone _ _ _ (.alone _ _ _ (.alone _ _ _ (.alone _ _ _
      (.alone _ _ _ (.alone _ _ _ (.alone _ _ _ .refl rfl) rfl) rfl) rfl) rfl) rfl) rfl) rfl) rfl
  have hunits : (rackStore.equipments.rows.map fun row =>
      (rackStore.snapshot row.1 row.2).listedUnits) = [6, 2] := by
    decide +kernel
  have hfixed : ∃ row ∈ rackStore.equipments.rows, row.1 = 1
      ∧ (rackStore.snapshot row.1 row.2).installation.place = some (.named 1) := by
    decide +kernel
  obtain ⟨-, htotal, hlisted⟩ := hyields.listed_once
  obtain ⟨row, hrow, hlamp, hplace⟩ := hfixed
  obtain ⟨r, hr, -, honce⟩ := (hlisted row hrow).2 1 hplace
  refine ⟨hyields, hunits, ?_, r, hr.trans hlamp, honce⟩
  rw [htotal, hunits]
  rfl

end Store

end StageStock
