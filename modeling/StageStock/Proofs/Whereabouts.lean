import Mathlib.Tactic.Lemma
import StageStock.Proofs.Acceptance

/-!
Where rows say that units are.

The rules of a ledger let pass rows that say too little or too much: an installation of no units or
without a day, or a portable equipment that still has the place and the notes of an installation.
Orders write no such rows. They write all columns of an installation together, and clear them
together once the last unit has come back.

* `Installation.IsWhole`: an installation that says everything, or a portable equipment;
* `Order.Proposes.isWhole`: orders record whole installations only;
* `Store.Commits.forall_equipments`: what a commit can make of the rows of equipments;
* `Store.Locates`, `Store.Records`: what the columns of a row say of a place and an installation;
* `Store.Yields.locates_and_records`: whatever was ordered, all rows say where their units are.
-/

namespace StageStock

/-! ### Installations that say everything -/

/-- A place that can be found: a listed location, or a description of some words. -/
def Place.IsFound (locations : Table LocationRow) : Place → Prop
  | named id => ∃ row, locations.find? id = some row
  | custom text => Text.normalise text ≠ ""

/-- An installation that says everything: its kind, some units, their place and the day. A portable
equipment has none of it. -/
inductive Installation.IsWhole (locations : Table LocationRow) : Installation → Prop where
  | portable : IsWhole locations {}
  | installed {i : Installation} {place : Place} {day : Date}
      (known : InstallationKind.isKnown i.kind = true)
      (active : i.kind ≠ InstallationKind.portable.text) (units : 1 ≤ i.quantity)
      (placed : i.place = some place) (found : place.IsFound locations)
      (dated : i.since = some day) : IsWhole locations i

section Found

variable {locations later : Table LocationRow} {place : Place} {i : Installation}

namespace Place.IsFound

lemma mono (h : place.IsFound locations)
    (listed : ∀ id row, locations.find? id = some row → later.find? id = some row) :
    place.IsFound later := by
  cases place with
  | named id =>
      obtain ⟨row, hrow⟩ := h
      exact ⟨row, listed id row hrow⟩
  | custom text => exact h

lemma hasWords (h : place.IsFound locations) : place.HasWords := by
  cases place with
  | named id => trivial
  | custom text => exact h

lemma normalised (h : place.IsFound locations) : place.normalised.IsFound locations := by
  cases place with
  | named id => exact h
  | custom text =>
      show Text.normalise (Text.normalise text) ≠ ""
      rw [Text.normalise_normalise]
      exact h

end Place.IsFound

/-- A place that is found among the locations can be found there. -/
lemma Store.isFound_of_findPlace {s : Store} {input : Place.Input}
    (h : s.findPlace input = .ok (some place)) : place.IsFound s.locations := by
  rcases findPlace_eq_ok h with ⟨id, row, rfl, hrow⟩ | ⟨text, rfl, hnormal, hwords, -⟩
  · exact ⟨row, (location?_eq_ok.1 hrow).2⟩
  · show Text.normalise text ≠ ""
    rw [hnormal]
    exact hwords

namespace Installation.IsWhole

lemma mono (h : i.IsWhole locations)
    (listed : ∀ id row, locations.find? id = some row → later.find? id = some row) :
    i.IsWhole later := by
  cases h with
  | portable => exact .portable
  | installed known active units placed found dated =>
      exact .installed known active units placed (found.mono listed) dated

/-- A whole installation is read back as one. -/
lemma recorded (h : i.IsWhole locations) : i.recorded.IsWhole locations := by
  cases h with
  | portable => exact .portable
  | @installed _ place day known active units placed found dated =>
      have hkind : i.kind ≠ "" := by
        intro hnone
        rw [hnone] at known
        exact absurd known (by decide)
      have hrecorded : i.recorded = { i with place := some place.normalised } := by
        rw [Installation.recorded, if_neg hkind, placed, Option.bind_some, Place.reread,
          if_pos found.hasWords]
      rw [hrecorded]
      exact .installed known active units rfl found.normalised dated

/-- Some units of an installation stay where the others were. -/
lemma withQuantity (h : i.IsWhole locations) (active : i.isActive = true) {remaining : Int}
    (some : 1 ≤ remaining) :
    ({ i with quantity := remaining } : Installation).IsWhole locations := by
  cases h with
  | portable => cases active
  | installed known active _ placed found dated =>
      exact .installed known active some placed found dated

end Installation.IsWhole

/-- What is asked for is a whole installation. -/
lemma Installations.isWhole_of_requested {s : Store} {r : InstallRequest} {today : Date}
    (known : InstallationKind.isKnown r.kind = true) (h : requested r today s = .ok i) :
    i.IsWhole s.locations := by
  rcases requested_eq_ok h with ⟨-, rfl⟩ | ⟨place, quantity, hactive, hplace, hunits, rfl⟩
  · exact .portable
  · exact .installed known hactive hunits rfl (Store.isFound_of_findPlace hplace) rfl

end Found

/-- Orders record whole installations only, if the one that was recorded before is whole. -/
lemma Order.Proposes.isWhole {o : Order} {today : Date} {s : Store} {read : Snapshot}
    {action : String} {cs : List Change} (h : o.Proposes today s read action cs)
    (before : read.installation.IsWhole s.locations) {i : Installation}
    (hi : .setInstallation i ∈ cs) : i.IsWhole s.locations := by
  cases h with
  | install r i' known requested =>
      obtain rfl := Change.setInstallation.inj (List.mem_singleton.1 hi)
      exact Installations.isWhole_of_requested known requested
  | bringBack e quantity user i' left =>
      obtain rfl := Change.setInstallation.inj (List.mem_singleton.1 hi)
      rcases left with rfl | ⟨remaining, hsome, hactive, rfl⟩
      · exact .portable
      · exact before.withQuantity hactive hsome
  | reserve r row =>
      rw [Reservations.reserveChanges] at hi
      split at hi
      · simp at hi
      · split at hi <;> simp at hi
  | _ => simp at hi

/-! ### Rows of equipments -/

namespace Worksheet

variable {w w' : Worksheet} {a : Author} {c : Change} {P : EquipmentRow → Prop}

/-- What the writing of a change can make of the rows of equipments. -/
lemma forall_equipments_write (h : ∀ row ∈ w.store.equipments.rows, P row.2)
    (wrote : Wrote a w c w')
    (installs : ∀ i, c = .setInstallation i → ∀ row, P row → P (installationRow i row))
    (totals : ∀ total row, P row → P { row with total := total }) :
    ∀ row ∈ w'.store.equipments.rows, P row.2 := by
  cases wrote with
  | newReservation r new => exact h
  | oldReservation r id row old stored own => exact h
  | dropReservation id showId => exact h
  | replacePlacements ps =>
      obtain ⟨placements, hflushed⟩ := flushed_replacePlacements w a ps
      have hsame : (w.replacePlacements a ps).store.equipments = w.store.equipments := by
        show (w.replacePlacements a ps).flushed.equipments = w.flushed.equipments
        rw [hflushed]
      rw [hsame]
      exact h
  | setInstallation i => exact Table.forall_modify h (installs i rfl)
  | setTotal total => exact Table.forall_modify h (totals total)

end Worksheet

/-- What a commit can make of the rows of equipments: besides the changes it writes what every
commit does. -/
theorem Store.Commits.forall_equipments {P : EquipmentRow → Prop} {s t : Store} {p : Proposal}
    {now : Moment} {before after committed : Snapshot} {w : Worksheet}
    (commits : s.Commits p now before after w t committed)
    (h : ∀ row ∈ s.equipments.rows, P row.2)
    (installs : ∀ i, .setInstallation i ∈ p.changes → ∀ row, P row →
      P (Worksheet.installationRow i row))
    (totals : ∀ total row, P row → P { row with total := total })
    (completes : ∀ row version status updated, P row →
      P { row with version := version, status := status, updated := updated }) :
    ∀ row ∈ t.equipments.rows, P row.2 := by
  have hwritten := Worksheet.writeAll_induction
    (I := fun cs _ w => (∀ c ∈ cs, c ∈ p.changes) ∧ ∀ row ∈ w.store.equipments.rows, P row.2)
    commits.applied commits.written ⟨fun _ hc => hc, h⟩
    fun c rest _ _ _ _ _ wrote hsofar =>
      ⟨fun d hd => hsofar.1 d (List.mem_cons_of_mem _ hd),
        Worksheet.forall_equipments_write hsofar.2 wrote
          (fun i hi => installs i (hi ▸ hsofar.1 c List.mem_cons_self)) totals⟩
  rw [commits.stored]
  exact Table.forall_modify hwritten.2 fun row hrow => completes row _ _ _ hrow

namespace EquipmentRow

/-- The row holds what is written of a whole installation. -/
def HoldsWhole (locations : Table LocationRow) (row : EquipmentRow) : Prop :=
  ∃ i : Installation, i.IsWhole locations ∧ row = Worksheet.installationRow i row

variable {locations : Table LocationRow} {row : EquipmentRow}

lemma HoldsWhole.installation (h : row.HoldsWhole locations) :
    row.installation.IsWhole locations := by
  obtain ⟨i, hwhole, hrow⟩ := h
  rw [hrow, installation_installationRow]
  exact hwhole.recorded

/-- Edits of other columns leave the installation that a row holds. -/
lemma HoldsWhole.edit (h : row.HoldsWhole locations) {f : EquipmentRow → EquipmentRow}
    (beside : ∀ i, f (Worksheet.installationRow i row) = Worksheet.installationRow i (f row)) :
    (f row).HoldsWhole locations := by
  obtain ⟨i, hwhole, hrow⟩ := h
  refine ⟨i, hwhole, ?_⟩
  rw [← beside i, ← hrow]

end EquipmentRow

/-! ### Stores -/

namespace Store

variable {s t : Store} {now : Moment} {o : Order}

/-- Placements at listed locations are at ones that exist, and rows of equipments hold whole
installations. -/
structure WellPlaced (s : Store) : Prop where
  listed : ∀ row ∈ s.placements.rows, ∀ id, row.2.key? = some (.named id) →
    ∃ location, s.locations.find? id = some location
  whole : ∀ row ∈ s.equipments.rows, row.2.HoldsWhole s.locations

namespace WellPlaced

lemma empty : Store.empty.WellPlaced :=
  ⟨fun _ hrow => absurd hrow List.not_mem_nil, fun _ hrow => absurd hrow List.not_mem_nil⟩

/-- A new equipment is portable, and locations that are listed stay listed. -/
lemma enter (h : s.WellPlaced) (entered : s.Enters now o t) : t.WellPlaced := by
  cases entered with
  | equipment r audits units fits noted =>
      refine ⟨h.listed, ?_⟩
      exact Table.forall_insert (P := EquipmentRow.HoldsWhole s.locations) h.whole
        ⟨{}, .portable, rfl⟩
  | event r row => exact ⟨h.listed, h.whole⟩
  | location r row audits words name noted =>
      have hlisted : ∀ id location, s.locations.find? id = some location →
          (s.locations.insert row).find? id = some location :=
        fun id location hfound => Table.find?_insert_of_find? row hfound
      refine ⟨fun row' hrow id hkey => ?_, fun row' hrow => ?_⟩
      · obtain ⟨location, hfound⟩ := h.listed row' hrow id hkey
        exact ⟨location, hlisted id location hfound⟩
      · obtain ⟨i, hwhole, hholds⟩ := h.whole row' hrow
        exact ⟨i, hwhole.mono hlisted, hholds⟩

/-- A commit of placements at places of the ledger, or at places that were found among the same
locations, and of whole installations. -/
lemma commit (h : s.WellPlaced) {found : Store} {p : Proposal} {before after committed : Snapshot}
    {w : Worksheet} (commits : s.Commits p now before after w t committed)
    (proper : Change.Proper before p.changes) (places : Change.Places found before p.changes)
    (locations : s.locations = found.locations)
    (whole : before.installation.IsWhole s.locations → ∀ i, .setInstallation i ∈ p.changes →
      i.IsWhole s.locations) : t.WellPlaced := by
  have hlocations : t.locations = s.locations := commits.agreesBeside.locations
  refine ⟨fun row hrow id hkey => ?_, ?_⟩
  · rw [hlocations]
    rcases commits.exists_place_of_row proper places hrow hkey with
      ⟨old, hold, hsame⟩ | ⟨input, place, hfound, hsame⟩
    · exact h.listed old hold id hsame
    · have hplace := isFound_of_findPlace hfound
      rw [locations]
      cases place with
      | named id' =>
          obtain rfl := PlaceKey.named.inj hsame
          exact hplace
      | custom text => cases hsame
  · obtain ⟨equipment, -, hequipment, hbefore⟩ := ledger?_eq_ok.1 commits.read
    have hread : before.installation.IsWhole s.locations := by
      rw [hbefore]
      exact (h.whole _ (Table.find?_eq_some_iff.1 hequipment)).installation
    rw [hlocations]
    exact commits.forall_equipments h.whole
      (fun i hi row _ => ⟨i, whole hread i hi, rfl⟩)
      (fun total row hrow => hrow.edit (f := ({ · with total := total })) fun _ => rfl)
      (fun row version status updated hrow => hrow.edit
        (f := ({ · with version := version, status := status, updated := updated })) fun _ => rfl)

/-- An order keeps places and installations as they should be, whether it succeeds or fails. -/
theorem becomes (h : s.WellPlaced) (becomes : s.Becomes now o t) : t.WellPlaced := by
  cases becomes with
  | same => exact h
  | entered enters => exact h.enter enters
  | committed shows locations makes ready commits =>
      refine h.commit commits (makes.proper.of_readies commits.read ready)
        (makes.places.of_readies commits.read ready) locations fun hbefore i hi => ?_
      rw [locations] at hbefore ⊢
      exact (makes.proposes ready).isWhole hbefore hi

end WellPlaced

lemma Leads.wellPlaced (h : Store.empty.Leads s) : s.WellPlaced :=
  h.preserves WellPlaced.empty fun _ _ _ _ _ becomes hu => hu.becomes becomes

/-! ### What the columns say -/

/-- The two columns of a place name one place: a listed location that exists and no words, or words
as they are normalised and no location. -/
def Locates (s : Store) (id : Option Int) (text : Option String) : Prop :=
  (∃ n location, id = some n ∧ s.locations.find? n = some location ∧ text = none)
    ∨ ∃ words, id = none ∧ text = some words ∧ words ≠ "" ∧ Text.normalise words = words

/-- The row of an equipment says all of an installation and nothing else: a portable equipment has
no units, no place, no day and no notes, and any other has some units at one place since some
day. -/
inductive Records (s : Store) (row : EquipmentRow) : Prop where
  | portable (kind : row.installationKind = InstallationKind.portable.text)
      (units : row.installed = 0) (place : row.placeId = none ∧ row.placeText = none)
      (day : row.installedSince = none) (notes : row.installationNotes = none) : s.Records row
  | installed (known : InstallationKind.isKnown row.installationKind = true)
      (kind : row.installationKind ≠ InstallationKind.portable.text) (units : 1 ≤ row.installed)
      (place : s.Locates row.placeId row.placeText) (day : row.installedSince.isSome = true) :
      s.Records row

/-- The columns of a place that can be found name it. -/
lemma locates_columns {place : Place} (h : place.IsFound s.locations) :
    s.Locates (Place.columns (some place)).1 (Place.columns (some place)).2 := by
  cases place with
  | named id =>
      obtain ⟨location, hlocation⟩ := h
      exact Or.inl ⟨id, location, rfl, hlocation, rfl⟩
  | custom text => exact Or.inr ⟨_, rfl, rfl, h, Text.normalise_normalise text⟩

lemma records_of_holdsWhole {row : EquipmentRow} (h : row.HoldsWhole s.locations) :
    s.Records row := by
  obtain ⟨i, hwhole, hrow⟩ := h
  cases hwhole with
  | portable =>
      rw [hrow]
      exact .portable rfl rfl ⟨rfl, rfl⟩ rfl rfl
  | installed known active units placed found dated =>
      have hplace : s.Locates row.placeId row.placeText := by
        rw [hrow]
        show s.Locates (Place.columns i.place).1 (Place.columns i.place).2
        rw [placed]
        exact locates_columns found
      rw [hrow] at hplace ⊢
      refine .installed known active units hplace ?_
      show i.since.isSome = true
      rw [dated]
      rfl

/-- The row of a placement names its place. -/
lemma Leads.locates_placement (h : Store.empty.Leads s) {row : Int × PlacementRow}
    (hrow : row ∈ s.placements.rows) : s.Locates row.2.placeId row.2.placeText := by
  rcases (h.tidy.places row hrow) with ⟨place, hwords, hcolumns⟩
  have hfound : place.IsFound s.locations := by
    cases place with
    | named id =>
        have hid : row.2.placeId = some id := congrArg Prod.fst hcolumns
        exact h.wellPlaced.listed row hrow id (PlacementRow.key?_of_placeId hid)
    | custom text => exact hwords
  have hlocates := locates_columns hfound
  rwa [← hcolumns] at hlocates

/-- Whatever was ordered, and whoever was overtaken, every row of a placement holds at least one
unit at one place, and every row of an equipment is that of a portable one, with nothing of an
installation left, or says how many units are installed, where and since when. -/
theorem Yields.locates_and_records (h : Store.empty.Yields s) :
    (∀ row ∈ s.placements.rows,
      1 ≤ row.2.quantity ∧ s.Locates row.2.placeId row.2.placeText)
      ∧ ∀ row ∈ s.equipments.rows, s.Records row.2 :=
  ⟨fun _ hrow => ⟨h.leads.one_le_quantity hrow, h.leads.locates_placement hrow⟩,
    fun row hrow => records_of_holdsWhole (h.leads.wellPlaced.whole row hrow)⟩

/-- Six lamps and two cables are registered, and a rack is listed. Three lamps are fixed in the
foyer, of which two come back, and one is put at the rack. Both cables are fixed there and come back
as well. -/
def foyerStore : Store :=
  (({} : Desk).fulfilAll
    [({ now := default }, .register { name := some "Lamp", total := 6 }),
      ({ now := default }, .register { name := some "Cable", total := 2 }),
      ({ now := default }, .addLocation { name := "Rack A" }),
      ({ now := default }, .install { equipment := 1, kind := "fixed"
                                      target := { name := some " the  Foyer" }
                                      quantity := some 3, notes := some "By the door" }),
      ({ now := default }, .bringBack 1 (some 2) none),
      ({ now := default },
        .placeUnits { equipment := 1, target := { name := some "rack a" }, quantity := 1 }),
      ({ now := default }, .install { equipment := 2, kind := "semi-permanent"
                                      target := { id := some 1 }, quantity := some 2
                                      notes := some "Coiled" }),
      ({ now := default }, .bringBack 2 none none)]).store

/-- One lamp stays in the foyer, with the notes on it, and nothing is left of the fixing of the
cables. -/
theorem Yields.locates_and_records_foyerStore :
    (foyerStore.equipments.rows.map fun row => (row.2.installationKind, row.2.installed,
        row.2.placeText, row.2.installationNotes))
        = [("fixed", 1, some "the Foyer", some "By the door"), ("portable", 0, none, none)]
      ∧ (foyerStore.placements.rows.map fun row => (row.2.quantity, row.2.placeId))
        = [(1, some 1)]
      ∧ (∀ row ∈ foyerStore.placements.rows,
        1 ≤ row.2.quantity ∧ foyerStore.Locates row.2.placeId row.2.placeText)
      ∧ ∀ row ∈ foyerStore.equipments.rows, foyerStore.Records row.2 := by
  have hyields : Store.empty.Yields foyerStore :=
    .alone _ _ _ (.alone _ _ _ (.alone _ _ _ (.alone _ _ _ (.alone _ _ _ (.alone _ _ _
      (.alone _ _ _ (.alone _ _ _ .refl rfl) rfl) rfl) rfl) rfl) rfl) rfl) rfl
  exact ⟨by decide +kernel, by decide +kernel, hyields.locates_and_records⟩

end Store

end StageStock
