import Mathlib.Tactic.Lemma
import StageStock.Proofs.Drafts
import StageStock.Proofs.Repetition
import StageStock.Proofs.Whereabouts

/-!
The placements that an equipment has, taken into a draft and submitted untouched.

Between its two columns in the table and the placement that is stored again, a place goes through
the record that is shown, the row of a draft and the submission. Each of them says it in another
way: the record of a listed location gives its id and its name, the draft keeps the id alone. Where
rows are written as orders write them, and no location is listed under the words of a place, the
same place is found at the end, and everything else of the row is kept as well.

* `Store.Regular`: ids of listed locations are positive, and placements are in known states
  (`Store.Leads.regular`);
* `PlacementRow.restated`: the placement that a row says, which is just what the row that a draft
  makes of its record means (`Store.Locates.means_restated`);
* `Placements.metBy_untouched`: the submission asks for what is stored already;
* `Desk.repeats_untouched`: so it changes nothing.
-/

namespace StageStock

/-! ### Ids and states -/

/-- If all ids are positive, so is the next one. -/
lemma Table.nextId_pos {α : Type} {t : Table α} (h : ∀ row ∈ t.rows, 0 < row.1) :
    0 < t.nextId := by
  unfold nextId
  split
  · rename_i last hlast
    exact Int.lt_trans (h last (List.mem_of_getLast? hlast)) (Int.lt_succ last.1)
  · exact Int.one_pos

lemma Change.Touches.exists_replacement {before : Snapshot} {cs : List Change}
    (h : Touches before .placements cs) : ∃ ps, cs = [.replacePlacements ps] := by
  cases h with
  | replacePlacements ps => exact ⟨ps, rfl⟩

namespace Store

/-- The ids of listed locations are positive, and the placements are in known states. -/
structure Regular (s : Store) : Prop where
  ids : ∀ row ∈ s.locations.rows, 0 < row.1
  states : ∀ row ∈ s.placements.rows, PlacementStatus.isKnown row.2.status = true

variable {s t : Store} {now : Moment} {o : Order}

namespace Regular

lemma empty : Store.empty.Regular :=
  ⟨fun _ hrow => absurd hrow List.not_mem_nil, fun _ hrow => absurd hrow List.not_mem_nil⟩

lemma enter (h : s.Regular) (entered : s.Enters now o t) : t.Regular := by
  cases entered with
  | equipment r audits units fits noted => exact ⟨h.ids, h.states⟩
  | event r row => exact ⟨h.ids, h.states⟩
  | location r row audits words name noted =>
      refine ⟨fun row' hrow => ?_, h.states⟩
      rcases List.mem_append.1 (Table.rows_insert .. ▸ hrow) with hrow | hrow
      · exact h.ids row' hrow
      · rw [List.mem_singleton.1 hrow]
        exact Table.nextId_pos h.ids

/-- After a commit of an order the placements of its equipment are in states that were checked, and
the others are as they were. -/
lemma commit (h : s.Regular) {origin : Store} {m : Mutation Json} {work : Prepared Json}
    {before after committed : Snapshot} {w : Worksheet} (makes : o.Makes now.date origin m)
    (ready : m.Readies before work)
    (commits : s.Commits (m.proposal work) now before after w t committed) : t.Regular := by
  obtain ⟨b, -, htouches⟩ := makes.touches ready commits.read commits.applied
  have hbeside := commits.agreesBeside
  refine ⟨?_, fun row hrow => ?_⟩
  · rw [hbeside.locations]
    exact h.ids
  · have hstays (hsame : t.placementsOf row.2.equipment = s.placementsOf row.2.equipment) :
        PlacementStatus.isKnown row.2.status = true := by
      have hlisted : row ∈ s.placementsOf row.2.equipment :=
        hsame ▸ mem_placementsOf.2 ⟨hrow, rfl⟩
      exact h.states row (mem_placementsOf.1 hlisted).1
    by_cases he : row.2.equipment = m.equipment
    · by_cases hb : b = .placements
      · rw [hb] at htouches
        obtain ⟨ps, hreplaced⟩ := htouches.exists_replacement
        have happlied := commits.applied
        have hsound := (Snapshot.violations_eq_nil_iff_isSound after).1 commits.lawful
        rw [show (m.proposal work).changes = _ from hreplaced] at happlied
        obtain rfl := Except.ok.inj happlied
        obtain ⟨-, hasked⟩ := commits.holds_replaced hreplaced hsound.places
        obtain ⟨q, hq, hholds⟩ := hasked row (mem_placementsOf.2 ⟨hrow, he⟩)
        obtain ⟨-, -, hstatus, -⟩ := hholds.eq
        rw [← hstatus]
        exact (hsound.placements q hq).2
      · refine hstays ?_
        rw [he]
        exact (commits.changesOnly htouches).placements hb
    · exact hstays (hbeside.placements _ he)

theorem becomes (h : s.Regular) (becomes : s.Becomes now o t) : t.Regular := by
  cases becomes with
  | same => exact h
  | entered enters => exact h.enter enters
  | committed shows locations makes ready commits => exact h.commit makes ready commits

end Regular

lemma Leads.regular (h : Store.empty.Leads s) : s.Regular :=
  h.preserves Regular.empty fun _ _ _ _ _ becomes hu => hu.becomes becomes

end Store

/-! ### What a row says -/

namespace PlacementRow

/-- The placement that a row says, as one that has no row yet. -/
def restated (row : PlacementRow) : Placement :=
  { id := none
    place := match row.placeId with
      | some id => .named id
      | none => .custom (row.placeText.getD "")
    quantity := row.quantity
    status := row.status
    notes := row.notes }

end PlacementRow

/-- The row of a record as it would be submitted, with the id and the name of a listed location. -/
def PlacementRecord.toRow (r : PlacementRecord) : Placements.Row :=
  { place := { id := r.row.placeId, name := r.locationName.or r.row.placeText }
    quantity := r.row.quantity
    status := some r.row.status
    notes := r.row.notes }

lemma PlacementRecord.shownBy_toJson (r : PlacementRecord) : r.toRow.ShownBy r.toJson :=
  ⟨rfl, rfl, rfl, rfl, rfl⟩

namespace Store

variable {s : Store} {row : PlacementRow}

/-- A row whose columns name one place holds what it says. -/
lemma Locates.holds_restated (h : s.Locates row.placeId row.placeText) :
    row.Holds row.restated := by
  intro a
  obtain ⟨equipment, id, text, quantity, status, notes, placedBy, placedAt, updated⟩ := row
  rcases h with ⟨n, location, rfl, -, rfl⟩ | ⟨words, rfl, rfl, -, hnormal⟩
  · rfl
  · have hcolumns : Place.columns (some (.custom words)) = (none, some words) := by
      rw [Place.columns, hnormal]
    simp only [Worksheet.placementRow, PlacementRow.restated, Option.getD_some, hcolumns]
    rfl

/-- A place that has words and that no location is listed under is found again. -/
lemma Locates.finds_restated (h : s.Locates row.placeId row.placeText)
    (wide : fitsWord? row.placeId = true)
    (unlisted : ∀ folded, row.restated.place.key = .custom folded →
      s.directory.find? folded = none) : s.Finds row.restated.place := by
  obtain ⟨equipment, id, text, quantity, status, notes, placedBy, placedAt, updated⟩ := row
  rcases h with ⟨n, location, rfl, hlocation, rfl⟩ | ⟨words, rfl, rfl, hwords, hnormal⟩
  · exact .named (location?_eq_ok.2 ⟨wide, hlocation⟩)
  · exact .custom hnormal hwords (unlisted _ rfl)

/-- The row that a draft makes of a record gives the place of the record once. -/
lemma Locates.drafted_record {row : Int × PlacementRow}
    (h : s.Locates row.2.placeId row.2.placeText) (units : 1 ≤ row.2.quantity)
    (known : PlacementStatus.isKnown row.2.status = true) :
    (s.placementRecord row).toRow.drafted
      = { place := row.2.restated.place.input, quantity := row.2.quantity
          status := some row.2.status, notes := row.2.notes } := by
  obtain ⟨own, equipment, id, text, quantity, status, notes, placedBy, placedAt, updated⟩ := row
  have hsome : quantity ≠ 0 := (Int.lt_of_lt_of_le Int.one_pos units).ne'
  have hstatus : status ≠ "" := by
    rintro rfl
    exact absurd known (show ¬ PlacementStatus.isKnown "" = true by decide)
  simp only [Placements.Row.drafted, Placements.Row.mk.injEq]
  refine ⟨?_, if_neg hsome, congrArg some (if_neg hstatus), rfl⟩
  rcases h with ⟨n, location, rfl, -, rfl⟩ | ⟨words, rfl, rfl, hwords, -⟩
  · exact Place.Input.chosen_id n _
  · exact Place.Input.chosen_name hwords

/-- So it means just what the row says, if the place is found again. -/
lemma Locates.means_restated {row : Int × PlacementRow}
    (h : s.Locates row.2.placeId row.2.placeText) (units : 1 ≤ row.2.quantity)
    (known : PlacementStatus.isKnown row.2.status = true)
    (positive : ∀ location ∈ s.locations.rows, 0 < location.1)
    (found : s.Finds row.2.restated.place) :
    Placements.Row.Means s (s.placementRecord row).toRow.drafted row.2.restated := by
  have hstatus : ({ status := some row.2.status } : Placements.Row).statusText = row.2.status := by
    refine if_neg fun hempty => ?_
    rw [hempty] at known
    exact absurd known (by decide)
  rw [h.drafted_record units known]
  refine ⟨found.findPlace_input positive, units, ?_, ?_⟩
  · exact hstatus.symm ▸ known
  · exact congrArg (fun status => { row.2.restated with status }) hstatus.symm

/-! ### Rows that all say where they are -/

/-- No location is listed under words that units of an equipment are stored under. -/
def UnlistedOf (s : Store) (e : Int) : Prop :=
  ∀ folded, .custom folded ∈ s.placeKeys e → s.directory.find? folded = none

/-- So it stays where the places of the ledger and the locations stay. -/
lemma UnlistedOf.congr {t : Store} {e : Int} {before after : Snapshot} (h : s.UnlistedOf e)
    (read : s.ledger? e = .ok before) (reread : t.ledger? e = .ok after)
    (placements : after.placements = before.placements) (locations : t.locations = s.locations) :
    t.UnlistedOf e := by
  obtain ⟨row, -, -, rfl⟩ := ledger?_eq_ok.1 read
  obtain ⟨row', -, -, rfl⟩ := ledger?_eq_ok.1 reread
  intro folded hfolded
  rw [directory_congr locations]
  refine h folded ?_
  rwa [placeKeys_eq t e row', placements, ← placeKeys_eq s e row] at hfolded

/-- The placements that the rows of an equipment say. -/
def restatements (s : Store) (e : Int) : List Placement :=
  (s.placementsOf e).map fun row => row.2.restated

lemma Locates.hasWords_restated (h : s.Locates row.placeId row.placeText) :
    row.restated.place.HasWords := by
  obtain ⟨equipment, id, text, quantity, status, notes, placedBy, placedAt, updated⟩ := row
  rcases h with ⟨n, location, rfl, -, rfl⟩ | ⟨words, rfl, rfl, hwords, hnormal⟩
  · trivial
  · show Text.normalise words ≠ ""
    rw [hnormal]
    exact hwords

lemma Locates.key?_eq (h : s.Locates row.placeId row.placeText) :
    row.key? = some row.restated.place.key := by
  obtain ⟨place, hplace, hkey⟩ := h.holds_restated.exists_place h.hasWords_restated
  rw [PlacementRow.key?, hplace, Option.map_some, hkey]

/-- Their places are those of the ledger. -/
lemma placeKeys_eq_restatements (s : Store) (e : Int)
    (located : ∀ row ∈ s.placements.rows, s.Locates row.2.placeId row.2.placeText) :
    s.placeKeys e = (s.restatements e).map fun p => p.place.key := by
  rw [placeKeys, restatements, List.map_map, ← List.filterMap_eq_map]
  exact List.filterMap_congr fun row hrow => (located row (mem_placementsOf.1 hrow).1).key?_eq

/-- Their units are those of the ledger. -/
lemma placed_eq_restatements (s : Store) (e : Int)
    (located : ∀ row ∈ s.placements.rows, s.Locates row.2.placeId row.2.placeText)
    (row : EquipmentRow) :
    (s.snapshot e row).placed = addUp ((s.restatements e).map Placement.quantity) := by
  show addUp (((s.placementsOf e).filterMap placementOf?).map Placement.quantity) = _
  rw [List.map_filterMap, restatements, List.map_map, ← List.filterMap_eq_map]
  refine congrArg addUp (List.filterMap_congr fun row hrow => ?_)
  obtain ⟨place, hplace, -⟩ :=
    Option.map_eq_some_iff.1 (located row (mem_placementsOf.1 hrow).1).key?_eq
  obtain ⟨p, hp, hquantity⟩ := exists_placementOf? hplace
  rw [hp, Option.map_some, hquantity]
  rfl

end Store

/-! ### The submission -/

namespace Placements

variable {s : Store} {e : Int} {records : List PlacementRecord} {ledger : Snapshot}

/-- The rows that a draft submits of records. -/
def draftedRecords (records : List PlacementRecord) : List Row :=
  records.map fun r => r.toRow.drafted

/-- The draft that is begun with records can be submitted as it is. -/
lemma exists_draft_of_records (records : List PlacementRecord) :
    ∃ draft, Draft.ofRows (records.map PlacementRecord.toJson) = .ok draft
      ∧ draft.mapM Row.ofDraftRow? = some (draftedRecords records) :=
  Draft.exists_ofRows PlacementRecord.shownBy_toJson records

/-- The placements of an equipment are shown if there is the equipment. -/
lemma exists_records_of_ledger (read : s.ledger? e = .ok ledger) :
    ∃ records, ofEquipment s e = .ok records := by
  obtain ⟨row, hfits, hrow, -⟩ := Store.ledger?_eq_ok.1 read
  rw [ofEquipment, Store.equipment?_eq_ok.2 ⟨hfits, hrow⟩]
  exact ⟨_, rfl⟩

lemma exists_ledger_of_records (listed : ofEquipment s e = .ok records) :
    ∃ ledger, s.ledger? e = .ok ledger := by
  rw [ofEquipment] at listed
  split at listed
  · cases listed
  · rename_i row hrow
    obtain ⟨hfits, hfound⟩ := Store.equipment?_eq_ok.1 hrow
    exact ⟨_, Store.ledger?_eq_ok.2 ⟨row, hfits, hfound, rfl⟩⟩

/-- The records of an equipment's placements, taken into a draft and submitted, are read as what
their rows say. -/
lemma readRows_untouched (led : Store.empty.Leads s) (stored : s.fits = true)
    (listed : ofEquipment s e = .ok records) (unlisted : s.UnlistedOf e) :
    readRows s (draftedRecords records) 0 [] = .ok (s.restatements e) := by
  have hrecords : records = (s.placementsOf e).map s.placementRecord := by
    rw [ofEquipment] at listed
    split at listed
    · cases listed
    · exact (Except.ok.inj listed).symm
  have hlocated : ∀ row ∈ s.placements.rows, s.Locates row.2.placeId row.2.placeText :=
    fun _ hrow => led.locates_placement hrow
  have hkeys := s.placeKeys_eq_restatements e hlocated
  have hmeans : List.Forall₂ (Row.Means s) (draftedRecords records) (s.restatements e) := by
    rw [draftedRecords, hrecords, List.map_map, Store.restatements, List.forall₂_map_left_iff,
      List.forall₂_map_right_iff, List.forall₂_same]
    intro row hlisted
    have hrow := (Store.mem_placementsOf.1 hlisted).1
    have hfits := (Store.fits_iff.1 stored).2.1 row hrow
    simp only [PlacementRow.fits, Bool.and_eq_true] at hfits
    refine (hlocated row hrow).means_restated (led.one_le_quantity hrow)
      (led.regular.states row hrow) led.regular.ids
      ((hlocated row hrow).finds_restated hfits.1.1.2 fun folded hfolded => ?_)
    refine unlisted folded ?_
    rw [hkeys, Store.restatements, List.map_map]
    exact List.mem_map.2 ⟨row, hlisted, hfolded⟩
  refine readRows_of_means hmeans ?_ 0 fun _ _ => rfl
  rw [← hkeys]
  exact led.sound.nodup_placeKeys e

/-- The submission asks for what is stored already. -/
theorem metBy_untouched (led : Store.empty.Leads s) (stored : s.fits = true)
    (read : s.ledger? e = .ok ledger) (listed : ofEquipment s e = .ok records)
    (unlisted : s.UnlistedOf e) (user : Option Int) :
    (Order.replacePlacements { equipment := e, rows := draftedRecords records, user }).MetBy e user
      s ledger := by
  obtain ⟨row, hfits, hrow, rfl⟩ := Store.ledger?_eq_ok.1 read
  have hlocated : ∀ row ∈ s.placements.rows, s.Locates row.2.placeId row.2.placeText :=
    fun _ hrow => led.locates_placement hrow
  have hmade : replace { equipment := e, rows := draftedRecords records, user } s
      = .ok { equipment := e, user
              preparation := .fromLedger (prepareReplace e (s.restatements e)) } := by
    rw [replace, Store.equipment?_eq_ok.2 ⟨hfits, hrow⟩,
      readRows_untouched led stored listed unlisted]
    rfl
  have hplaced := s.placed_eq_restatements e hlocated row
  refine Order.metBy_placements hmade (led.sound.ledgers e row hrow) hplaced.symm
    (.replacePlacements (s.restatements e) ?_ ?_ ?_ ?_)
  · rw [← s.placeKeys_eq_restatements e hlocated]
    exact led.sound.nodup_placeKeys e
  · intro p hp
    obtain ⟨row, hrow, rfl⟩ := List.mem_map.1 hp
    exact (hlocated row (Store.mem_placementsOf.1 hrow).1).hasWords_restated
  · intro p hp
    obtain ⟨row, hrow, rfl⟩ := List.mem_map.1 hp
    exact ⟨row, hrow, (hlocated row (Store.mem_placementsOf.1 hrow).1).holds_restated⟩
  · intro row hrow
    exact ⟨row.2.restated, List.mem_map_of_mem hrow,
      (hlocated row (Store.mem_placementsOf.1 hrow).1).holds_restated⟩

end Placements

/-! ### Repeated orders -/

section Repeated

variable {desk : Desk} {call : Call} {o : Order} {e : Int} {user : Option Int}
  {current : Snapshot}

/-- Where orders have led, an order that is met repeats. -/
lemma Desk.repeats_of_leads (led : Store.empty.Leads desk.store) (stored : desk.store.fits = true)
    (read : desk.store.ledger? e = .ok current) (met : o.MetBy e user desk.store current)
    (known : fitsWord? user = true) (unhindered : desk.Unhindered call e) :
    desk.Repeats call o e := by
  obtain ⟨row, -, hrow, rfl⟩ := Store.ledger?_eq_ok.1 read
  refine repeats_of_metBy met unhindered stored read (led.sound.ledgers e row hrow) known
    fun row' hrow' => ?_
  obtain rfl := Option.some.inj (hrow.symm.trans hrow')
  exact led.labelled e row hrow

/-- The version of a ledger can be raised as far as it can be stored, and everything else of it
stays: its total is ordered again and again. -/
lemma Store.Yields.exists_raised {s : Store} (h : Store.empty.Yields s) (stored : s.fits = true)
    (read : s.ledger? e = .ok current) (units : 1 ≤ current.total)
    (start : 0 ≤ current.version) (n : Nat) (room : fitsWord (current.version + n) = true) :
    ∃ t, Store.empty.Yields t ∧ t.fits = true ∧ t.locations = s.locations
      ∧ t.ledger? e = .ok { current with version := current.version + n } := by
  induction n with
  | zero =>
      refine ⟨s, h, stored, rfl, ?_⟩
      rw [read, Int.natCast_zero, Int.add_zero]
  | succ n ih =>
      have hroom : fitsWord (current.version + n) = true :=
        fitsWord_of_le (by omega) (by omega) room
      obtain ⟨t, ht, hfits, hlocations, hread⟩ := ih hroom
      obtain ⟨row, -, hrow, hsame⟩ := ledger?_eq_ok.1 hread
      have htotal : row.total = current.total := (congrArg Snapshot.total hsame).symm
      have hmade : Equipments.setTotal e row.total none t = .ok _ :=
        if_neg (Int.not_lt.2 (htotal ▸ units))
      have hmet := Order.metBy_total hrow (ht.leads.sound.ledgers e row hrow) hmade
      rw [← hsame] at hmet
      obtain ⟨found, hfound, hagain, -⟩ :
          ({ store := t } : Desk).Repeats { now := default } (.setTotal e row.total none) e :=
        Desk.repeats_of_leads ht.leads hfits hread hmet rfl ⟨rfl, rfl, rfl⟩
      obtain rfl := Except.ok.inj (hread.symm.trans hfound)
      obtain ⟨⟨answer, hanswer⟩, -, hledger⟩ := hagain (by
        rw [Int.add_assoc]
        exact room)
      obtain ⟨m, work, after, w, committed, -, -, -, hcommits⟩ :=
        Desk.exists_commit_of_granted rfl rfl hread hanswer
      refine ⟨_, .alone _ _ _ ht rfl, hcommits.fits, ?_, ?_⟩
      · exact hcommits.agreesBeside.locations.trans hlocations
      · rw [hledger]
        simp only [Int.natCast_succ, Int.add_assoc]

end Repeated

namespace Desk

open Placements

variable {desk : Desk} {call : Call} {e : Int} {user : Option Int}
  {records : List PlacementRecord}

/-- The placements of an equipment, taken into a draft as they are shown and submitted untouched.
Whatever was ordered before, by whom, and with whatever outcome, the submission succeeds if the
version can still be raised, and changes nothing but the version, times of last changes and the
audit trail, unless a location has been listed under the words of one of the places. If the version
cannot be raised, it fails and changes nothing. -/
theorem repeats_untouched (yielded : Store.empty.Yields desk.store)
    (stored : desk.store.fits = true) (listed : ofEquipment desk.store e = .ok records)
    (unlisted : desk.store.UnlistedOf e) (known : fitsWord? user = true)
    (unhindered : desk.Unhindered call e) :
    ∃ draft rows, Draft.ofRows (records.map PlacementRecord.toJson) = .ok draft
      ∧ draft.mapM Row.ofDraftRow? = some rows
      ∧ desk.Repeats call (.replacePlacements { equipment := e, rows, user }) e := by
  obtain ⟨draft, hdraft, hrows⟩ := exists_draft_of_records records
  obtain ⟨ledger, hledger⟩ := exists_ledger_of_records listed
  exact ⟨draft, _, hdraft, hrows, repeats_of_leads yielded.leads stored hledger
    (metBy_untouched yielded.leads stored hledger listed unlisted user) known unhindered⟩

end Desk

/-- Five lamps are registered and a rack is listed. Three of the lamps are put on a shelf and one at
the rack. -/
def Store.shelfAndRack : Store :=
  (({} : Desk).fulfilAll
    [({ now := default }, .register { name := some "Lamp", total := 5 }),
      ({ now := default }, .addLocation { name := "Rack A" }),
      ({ now := default }, .placeUnits
        { equipment := 1, target := { name := some " the  Shelf" }, quantity := 3
          notes := some "On the left", user := some 7 }),
      ({ now := default }, .placeUnits
        { equipment := 1, target := { id := some 1 }, quantity := 1
          status := "maintenance" })]).store

lemma Store.yields_shelfAndRack : Store.empty.Yields Store.shelfAndRack :=
  .alone _ _ _ (.alone _ _ _ (.alone _ _ _ (.alone _ _ _ .refl rfl) rfl) rfl) rfl

lemma Store.exists_ledger_shelfAndRack : ∃ ledger, Store.shelfAndRack.ledger? 1 = .ok ledger
    ∧ ledger.total = 5 ∧ ledger.version = 2 := by
  obtain ⟨row, hrow⟩ := Option.isSome_iff_exists.1
    (show (Store.shelfAndRack.equipments.find? 1).isSome = true by decide +kernel)
  have hfigures : (Store.shelfAndRack.equipments.find? 1).map (fun row => (row.total, row.version))
      = some (5, 2) := by decide +kernel
  rw [hrow] at hfigures
  obtain ⟨htotal, hversion⟩ := Prod.mk.inj (Option.some.inj hfigures)
  exact ⟨_, Store.ledger?_eq_ok.2 ⟨row, by decide, hrow, rfl⟩, htotal, hversion⟩

lemma Store.unlistedOf_shelfAndRack : Store.shelfAndRack.UnlistedOf 1 := by
  have hkeys : Store.shelfAndRack.placeKeys 1 = [.custom "the shelf", .named 1] := by
    decide +kernel
  intro folded hfolded
  rw [hkeys] at hfolded
  obtain rfl : folded = "the shelf" := by simpa using hfolded
  decide +kernel

namespace Desk

open Placements

/-- The rows of the shelf and of the rack are shown, drafted and submitted, and stay as they
are. -/
theorem repeats_untouched_shelfAndRack :
    let desk : Desk := { store := .shelfAndRack }
    ∃ records draft rows, ofEquipment desk.store 1 = .ok records
      ∧ (records.map fun r => (r.row.placeId, r.locationName.or r.row.placeText, r.row.quantity))
        = [(none, some "the Shelf", 3), (some 1, some "Rack A", 1)]
      ∧ Draft.ofRows (records.map PlacementRecord.toJson) = .ok draft
      ∧ draft.mapM Row.ofDraftRow? = some rows
      ∧ let o := desk.fulfil { now := default } (.replacePlacements { equipment := 1, rows })
        (∃ answer, o.result = .ok answer) ∧ desk.store.Restates 1 o.desk.store := by
  intro desk
  obtain ⟨ledger, hledger, -, hversion⟩ := Store.exists_ledger_shelfAndRack
  obtain ⟨records, hlisted⟩ := exists_records_of_ledger hledger
  have hshown : (ofEquipment Store.shelfAndRack 1).toOption.map (fun records =>
      records.map fun r => (r.row.placeId, r.locationName.or r.row.placeText, r.row.quantity))
      = some [(none, some "the Shelf", 3), (some 1, some "Rack A", 1)] := by decide +kernel
  rw [hlisted] at hshown
  obtain ⟨draft, rows, hdraft, hrows, current, hcurrent, hroom, -⟩ :=
    @repeats_untouched desk { now := default } 1 none _ Store.yields_shelfAndRack
      (by decide +kernel) hlisted Store.unlistedOf_shelfAndRack rfl ⟨rfl, rfl, rfl⟩
  obtain rfl := Except.ok.inj (hledger.symm.trans hcurrent)
  obtain ⟨hresult, hrestates, -⟩ := hroom (by
    rw [hversion]
    decide)
  exact ⟨records, draft, rows, hlisted, Option.some.inj hshown, hdraft, hrows, hresult, hrestates⟩

/-- At the largest version that can be stored, to which orders can raise that of the lamps, the
untouched draft cannot be submitted. -/
theorem not_repeats_untouched_full :
    ∃ (desk : Desk) (records : List PlacementRecord) (draft : Draft) (rows : List Row),
      Store.empty.Yields desk.store ∧ desk.store.UnlistedOf 1
        ∧ ofEquipment desk.store 1 = .ok records
        ∧ Draft.ofRows (records.map PlacementRecord.toJson) = .ok draft
        ∧ draft.mapM Row.ofDraftRow? = some rows
        ∧ (desk.fulfil { now := default } (.replacePlacements { equipment := 1, rows })).result
          = .error .numberTooWide := by
  obtain ⟨ledger, hledger, htotal, hversion⟩ := Store.exists_ledger_shelfAndRack
  obtain ⟨t, ht, hfits, hlocations, hread⟩ :=
    Store.yields_shelfAndRack.exists_raised (by decide +kernel) hledger (htotal ▸ by decide)
      (hversion ▸ by decide) 0x7FFFFFFFFFFFFFFD (by rw [hversion]; decide)
  have hunlisted : t.UnlistedOf 1 :=
    Store.unlistedOf_shelfAndRack.congr hledger hread rfl hlocations
  obtain ⟨records, hlisted⟩ := exists_records_of_ledger hread
  obtain ⟨draft, hdraft, hrows⟩ := exists_draft_of_records records
  obtain ⟨current, hcurrent, -, hfull⟩ :
      ({ store := t } : Desk).Repeats { now := default }
        (.replacePlacements { equipment := 1, rows := draftedRecords records }) 1 :=
    repeats_of_leads ht.leads hfits hread
      (metBy_untouched ht.leads hfits hread hlisted hunlisted none) rfl ⟨rfl, rfl, rfl⟩
  obtain rfl := Except.ok.inj (hread.symm.trans hcurrent)
  have hlast : fitsWord (ledger.version + (0x7FFFFFFFFFFFFFFD : Nat) + 1) = false := by
    rw [hversion]
    decide
  refine ⟨{ store := t }, records, draft, _, ht, hunlisted, hlisted, hdraft, hrows, ?_⟩
  rw [hfull hlast]

end Desk

end StageStock
