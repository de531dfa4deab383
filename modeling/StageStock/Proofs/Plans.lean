import Mathlib.Tactic.Lemma
import StageStock.Proofs.Committing

/-!
What becomes of a plan that is submitted as it is.

A plan is made of the places that were asked for, each with its share of the units, and it is shown
in rows: a listed location with its id and its name, any other place in words. A row that gives both
an id and words is one too many for a submission, which takes either. All other rows are read as the
placements that were planned.

* `Plan.addUp_splitEqually`: the shares add up to the units;
* `Placements.findPlace_planned`, `Placements.readRows_planned`: what the place of a planned row is
  read as, and what the rows of a plan are read as;
* `Worksheet.rows_replacePlacements`: the rows of the equipment after a replacement;
* `Desk.replace_of_plan`: what becomes of the submission.
-/

namespace StageStock

/-! ### Shares -/

namespace Plan

/-- Planned placements: new ones in the usual state, at some of the places in their order, of at
least one unit each. -/
structure Spreads (places : List Place) (ps : List Placement) : Prop where
  places : (ps.map Placement.place).Sublist places
  each : ∀ p ∈ ps, p = placed p.place p.quantity ∧ 1 ≤ p.quantity

variable {places : List Place} {units share remainder : Int} {index : Nat}

lemma Spreads.nil (places : List Place) : Spreads places [] :=
  ⟨List.nil_sublist _, fun _ hp => absurd hp List.not_mem_nil⟩

lemma Spreads.cons {place : Place} {ps : List Placement} {quantity : Int} (one : 1 ≤ quantity)
    (h : Spreads places ps) : Spreads (place :: places) (placed place quantity :: ps) := by
  refine ⟨h.places.cons_cons place, fun p hp => ?_⟩
  rcases List.mem_cons.1 hp with rfl | hp
  · exact ⟨rfl, one⟩
  · exact h.each p hp

lemma spreads_shares (share remainder : Int) (places : List Place) (index : Nat) :
    Spreads places (shares share remainder places index) := by
  induction places generalizing index with
  | nil => exact Spreads.nil []
  | cons place rest ih =>
      obtain ⟨hplaces, heach⟩ := ih (index + 1)
      simp only [shares]
      generalize share + (if (index : Int) < remainder then 1 else 0) = quantity
      by_cases hsome : 0 < quantity
      · rw [if_pos hsome]
        exact Spreads.cons hsome ⟨hplaces, heach⟩
      · rw [if_neg hsome]
        exact ⟨hplaces.cons place, heach⟩

/-- Every place gets the same share, and one unit more as long as some remain; a place that gets
nothing and is left out does not change the sum. -/
lemma addUp_shares (share_nonneg : 0 ≤ share) :
    addUp ((shares share remainder places index).map Placement.quantity)
      = share * places.length + max 0 (min (places.length : Int) (remainder - index)) := by
  induction places generalizing index with
  | nil => simp [shares, addUp]
  | cons place rest ih =>
      have hown (quantity : Int) (h : 0 ≤ quantity) :
          addUp ((if 0 < quantity then [placed place quantity] else []).map Placement.quantity)
            = quantity := by
        split
        · exact Int.add_zero quantity
        · show 0 = quantity
          omega
      simp only [shares]
      rw [List.map_append, addUp_append, ih, hown _ (by split <;> omega), List.length_cons,
        Int.natCast_add, Int.natCast_add, Int.mul_add]
      split <;> omega

theorem addUp_splitEqually (some_place : places ≠ []) (nonneg : 0 ≤ units) :
    addUp ((splitEqually places units).map Placement.quantity) = units := by
  rw [splitEqually]
  split
  · rename_i hnone
    rcases hnone with hempty | hzero
    · exact absurd (List.isEmpty_iff.1 hempty) some_place
    · simp only [List.map_nil, addUp]
      omega
  · have hlength : 0 < (places.length : Int) := by
      have := List.length_pos_iff.2 some_place
      omega
    have hlt := Int.emod_lt_of_pos units hlength
    have hle := Int.emod_nonneg units (Int.ne_of_gt hlength)
    calc addUp ((shares (units / places.length) (units % places.length) places 0).map
          Placement.quantity)
        = units / places.length * places.length + units % places.length := by
          rw [addUp_shares (Int.ediv_nonneg nonneg (Int.le_of_lt hlength))]
          omega
      _ = units := Int.ediv_mul_add_emod units places.length

lemma spreads_splitEqually (places : List Place) (units : Int) :
    Spreads places (splitEqually places units) := by
  rw [splitEqually]
  split
  · exact Spreads.nil _
  · exact spreads_shares _ _ _ _

lemma addUp_moveAll {place : Place} (nonneg : 0 ≤ units) :
    addUp ((moveAll place units).map Placement.quantity) = units := by
  rw [moveAll]
  split
  · show 0 = units
    omega
  · exact Int.add_zero units

lemma spreads_moveAll (place : Place) (units : Int) : Spreads [place] (moveAll place units) := by
  rw [moveAll]
  split
  · exact Spreads.nil _
  · exact (Spreads.nil []).cons (by omega)

end Plan

/-! ### What is planned -/

namespace Placements

variable {s : Store} {e : Int} {mode : String} {places : List Place} {ps : List Placement}

/-- Either mode spreads the units over the places; without a place nothing is planned. -/
lemma planRows_eq_ok {units : Int} (h : planRows mode places units = .ok ps) (nonneg : 0 ≤ units) :
    Plan.Spreads places ps
      ∧ (ps = [] ∨ addUp (ps.map Placement.quantity) = units) := by
  unfold planRows at h
  split at h
  · obtain rfl := Except.ok.inj h
    by_cases hnone : places = []
    · subst hnone
      exact ⟨Plan.Spreads.nil _, Or.inl rfl⟩
    · exact ⟨Plan.spreads_splitEqually places units,
        Or.inr (Plan.addUp_splitEqually hnone nonneg)⟩
  · split at h
    · split at h
      · rename_i only
        obtain rfl := Except.ok.inj h
        exact ⟨Plan.spreads_moveAll only units, Or.inr (Plan.addUp_moveAll nonneg)⟩
      · cases h
    · cases h

/-- The places of a plan were all found, and are different. -/
lemma planPlaces_eq_ok {inputs : List Place.Input} {seen : List PlaceKey}
    (h : planPlaces s inputs seen = .ok places) :
    (∀ place ∈ places, ∃ input, s.findPlace input = .ok (some place))
      ∧ (places.map Place.key).Nodup ∧ ∀ place ∈ places, place.key ∉ seen := by
  induction inputs generalizing seen places with
  | nil =>
      obtain rfl := Except.ok.inj h
      exact ⟨fun _ hp => absurd hp List.not_mem_nil, List.nodup_nil,
        fun _ hp => absurd hp List.not_mem_nil⟩
  | cons input rest ih =>
      rw [planPlaces] at h
      split at h
      · cases h
      · cases h
      · rename_i place hplace
        split at h
        · cases h
        · rename_i hnew
          split at h
          · cases h
          · rename_i others hothers
            obtain rfl := Except.ok.inj h
            obtain ⟨hfound, hnodup, hunseen⟩ := ih hothers
            refine ⟨?_, List.nodup_cons.2 ⟨fun hmem => ?_, hnodup⟩, ?_⟩
            · rintro place' hplace'
              rcases List.mem_cons.1 hplace' with rfl | hmem
              · exact ⟨input, hplace⟩
              · exact hfound place' hmem
            · obtain ⟨other, hother, hkey⟩ := List.mem_map.1 hmem
              exact hunseen other hother (hkey ▸ List.mem_cons_self)
            · rintro place' hplace'
              rcases List.mem_cons.1 hplace' with rfl | hmem
              · simpa using hnew
              · exact fun hseen => hunseen place' hmem (List.mem_cons_of_mem _ hseen)

/-- What a plan is made of: new placements at different places that were found, which together hold
no more units than can be distributed. -/
structure Plans (s : Store) (ledger : Snapshot) (p : Planned) (ps : List Placement) : Prop where
  version : p.version = ledger.version
  rows : p.rows = ps.map (PlannedRow.ofPlacement s.locationNames)
  found : ∀ q ∈ ps, ∃ input, s.findPlace input = .ok (some q.place)
  each : ∀ q ∈ ps, q = Plan.placed q.place q.quantity ∧ 1 ≤ q.quantity
  nodup : (ps.map fun q => q.place.key).Nodup
  enough : addUp (ps.map Placement.quantity) ≤ ledger.distributable

lemma exists_plans {ledger : Snapshot} {targets : List Place.Input} {p : Planned}
    (planned : plan s e mode targets = .ok p) (read : s.ledger? e = .ok ledger)
    (sound : ledger.IsSound) : ∃ ps, Plans s ledger p ps := by
  have hnonneg := sound.distributable_bounds.1
  rw [plan, read] at planned
  simp only at planned
  split at planned
  · cases planned
  · rename_i places hplaces
    split at planned
    · cases planned
    · rename_i ps hps
      obtain ⟨hfound, hnodup, -⟩ := planPlaces_eq_ok hplaces
      obtain ⟨hspreads, hsum⟩ := planRows_eq_ok hps hnonneg
      obtain rfl := Except.ok.inj planned
      refine ⟨ps, rfl, rfl, fun q hq => ?_, hspreads.each, ?_, ?_⟩
      · exact hfound q.place (hspreads.places.subset (List.mem_map_of_mem hq))
      · have hkeys := hnodup.sublist (hspreads.places.map Place.key)
        rwa [List.map_map] at hkeys
      · rcases hsum with rfl | hsum
        · exact hnonneg
        · exact Int.le_of_eq hsum

/-! ### What is submitted -/

namespace PlannedRow

/-- A planned row names its place twice if it has an id and words. -/
def NamesTwice (r : PlannedRow) : Prop :=
  r.locationId ≠ none ∧ Text.normalise? r.locationName ≠ ""

instance : DecidablePred NamesTwice :=
  fun r => inferInstanceAs (Decidable (r.locationId ≠ none ∧ Text.normalise? r.locationName ≠ ""))

/-- The place, the units and the status of a planned row. -/
def content (r : PlannedRow) : Option Place × Int × String :=
  (Place.ofColumns r.locationId r.locationName, r.quantity, r.status)

end PlannedRow

/-- A place that was found is found again under the row that it is planned in, unless that row names
it twice. -/
lemma findPlace_planned (positive : ∀ row ∈ s.locations.rows, 0 < row.1) {p : Placement}
    {input : Place.Input} (found : s.findPlace input = .ok (some p.place)) :
    s.findPlace (PlannedRow.ofPlacement s.locationNames p).toRow.place
      = if (PlannedRow.ofPlacement s.locationNames p).NamesTwice then .error .placeGivenTwice
        else .ok (some p.place) := by
  obtain ⟨own, place, quantity, status, notes⟩ := p
  rcases Store.findPlace_eq_ok found with
    ⟨id, row, rfl, hrow⟩ | ⟨text, rfl, hnormal, hwords, hnone⟩
  · have hlisted := Table.find?_eq_some_iff.1 (Store.location?_eq_ok.1 hrow).2
    show s.findPlace { id := some id, name := s.locationNames.lookup id } = _
    by_cases htwice : Text.normalise? (s.locationNames.lookup id) = ""
    · rw [if_neg fun h => h.2 htwice]
      exact Store.findPlace_of_listed hrow (positive _ hlisted) htwice
    · rw [if_pos ⟨Option.some_ne_none id, htwice⟩]
      simp only [Store.findPlace, Place.ofInput, htwice, ne_eq, not_false_eq_true, if_true]
  · rw [if_neg fun h => h.1 rfl]
    exact Store.findPlace_of_unlisted hnormal hwords hnone

/-- The row of a planned placement is read as that placement. -/
lemma toRow_planned (names : List (Int × String)) {p : Placement}
    (planned : p = Plan.placed p.place p.quantity) :
    (PlannedRow.ofPlacement names p).toRow.quantity = p.quantity
      ∧ (PlannedRow.ofPlacement names p).toRow.statusText = PlacementStatus.allocated.text
      ∧ { id := none, place := p.place, quantity := p.quantity
          status := PlacementStatus.allocated.text
          notes := (PlannedRow.ofPlacement names p).toRow.notes } = p := by
  obtain ⟨own, place, quantity, status, notes⟩ := p
  obtain ⟨rfl, -, -, rfl, rfl⟩ := Placement.mk.inj planned
  cases place <;> exact ⟨rfl, rfl, rfl⟩

/-- The rows of a plan are read as the placements that were planned, unless one of them names its
place twice. -/
lemma readRows_planned (positive : ∀ row ∈ s.locations.rows, 0 < row.1)
    (found : ∀ p ∈ ps, ∃ input, s.findPlace input = .ok (some p.place))
    (each : ∀ p ∈ ps, p = Plan.placed p.place p.quantity ∧ 1 ≤ p.quantity)
    (nodup : (ps.map fun p => p.place.key).Nodup) (index : Nat) {seen : List (PlaceKey × Nat)}
    (unseen : ∀ p ∈ ps, seen.lookup p.place.key = none) :
    readRows s (ps.map fun p => (PlannedRow.ofPlacement s.locationNames p).toRow) index seen
      = if ∃ p ∈ ps, (PlannedRow.ofPlacement s.locationNames p).NamesTwice then
          .error .placeGivenTwice
        else .ok ps := by
  induction ps generalizing index seen with
  | nil => rfl
  | cons p rest ih =>
      obtain ⟨hnew, hnodup⟩ := List.nodup_cons.1 nodup
      obtain ⟨input, hinput⟩ := found p List.mem_cons_self
      obtain ⟨hplaced, hone⟩ := each p List.mem_cons_self
      have hplace := findPlace_planned positive hinput
      rw [List.map_cons]
      by_cases htwice : (PlannedRow.ofPlacement s.locationNames p).NamesTwice
      · rw [if_pos htwice] at hplace
        simp only [readRows, hplace]
        rw [if_pos ⟨p, List.mem_cons_self, htwice⟩]
      · rw [if_neg htwice] at hplace
        have hunseen : ∀ q ∈ rest, ((p.place.key, index) :: seen).lookup q.place.key = none := by
          intro q hq
          have hne : q.place.key ≠ p.place.key :=
            fun hkey => hnew (List.mem_map.2 ⟨q, hq, hkey⟩)
          rw [List.lookup_cons, beq_false_of_ne hne]
          exact unseen q (List.mem_cons_of_mem _ hq)
        have hrest := ih (fun q hq => found q (List.mem_cons_of_mem _ hq))
          (fun q hq => each q (List.mem_cons_of_mem _ hq)) hnodup (index + 1) hunseen
        obtain ⟨hquantity, hstatus, hread⟩ := toRow_planned s.locationNames hplaced
        have hknown : PlacementStatus.isKnown PlacementStatus.allocated.text = true := by decide
        simp only [readRows, hplace, hrest, hquantity, hstatus, hread, hknown,
          unseen p List.mem_cons_self, if_neg (Int.not_lt.2 hone), Bool.not_true,
          Bool.false_eq_true, if_false, List.exists_mem_cons_iff, htwice, false_or]
        by_cases hlater : ∃ q ∈ rest, (PlannedRow.ofPlacement s.locationNames q).NamesTwice
        · simp only [if_pos hlater]
        · simp only [if_neg hlater]

end Placements

/-! ### What is stored -/

/-- The place, the units and the status of a row. -/
def PlacementRow.content (row : PlacementRow) : Option Place × Int × String :=
  (row.place?, row.quantity, row.status)

namespace Worksheet

variable {s : Store} {a : Author} {ps : List Placement}

/-- After a replacement the rows of the equipment are those of the new placements, whether these had
rows before or not, as far as what is shown of a row is told by its placement. -/
theorem map_rows_replacePlacements {β : Type} (shown : PlacementRow → β) (meant : Placement → β)
    (same : ∀ p row, shown (placementRow a p row) = meant p)
    (nodup : (ps.map fun p => p.place.key).Nodup) :
    (((({ store := s } : Worksheet).replacePlacements a ps).flushed.placementsOf a.equipment).map
        fun row => shown row.2).Perm (ps.map meant) := by
  let w : Worksheet := { store := s }
  have hown : w.Owns a.equipment := ⟨by simp [w], by simp [w]⟩
  have hkept : (ps.filterMap (w.rewritten? a)).map (fun row => shown row.2)
      = (ps.filter fun p => !decide (w.seat? a.equipment p = none)).map meant := by
    rw [List.map_filterMap, ← List.filterMap_eq_map, List.filterMap_filter]
    refine List.filterMap_congr fun p _ => ?_
    cases hseat : w.seat? a.equipment p with
    | none => simp [rewritten?, hseat]
    | some id =>
        obtain ⟨row, hrow, -⟩ := find?_of_seat? hseat
        simp [rewritten?, hseat, hrow, w, same]
  have hnew : shown ∘ newPlacementRow a = meant := funext fun p => same p _
  refine ((placementsOf_replacePlacements hown nodup).map _).trans ?_
  rw [List.map_append, hkept]
  show (_ ++ (numberFrom _ ([] ++ _)).map _).Perm _
  rw [List.nil_append, map_numberFrom, List.map_map, hnew, ← List.map_append]
  exact (List.perm_append_comm.trans (List.filter_append_perm _ ps)).map _

/-- The places, the units and the statuses are those of the new placements. -/
theorem rows_replacePlacements (nodup : (ps.map fun p => p.place.key).Nodup) :
    (((({ store := s } : Worksheet).replacePlacements a ps).flushed.placementsOf a.equipment).map
        fun row => row.2.content).Perm
      (ps.map fun p => (p.place.reread, p.quantity, p.status)) := by
  refine map_rows_replacePlacements _ _ (fun p row => ?_) nodup
  rw [← Place.ofColumns_columns]
  rfl

end Worksheet

/-! ### The submission -/

namespace Placements

variable {s : Store} {e : Int} {ledger : Snapshot} {p : Planned} {ps : List Placement}

/-- The request to replace the placements of an equipment by those of a plan. -/
def Planned.request (p : Planned) (e : Int) : ReplaceRequest :=
  { equipment := e, rows := p.rows.map PlannedRow.toRow }

/-- The mutation that replaces the placements of an equipment. -/
def replacement (e : Int) (ps : List Placement) : Mutation Answer :=
  { equipment := e, user := none, preparation := .fromLedger (prepareReplace e ps) }

lemma replace_planned (h : Plans s ledger p ps) (read : s.ledger? e = .ok ledger)
    (positive : ∀ row ∈ s.locations.rows, 0 < row.1) :
    replace (p.request e) s
      = if ∃ row ∈ p.rows, row.NamesTwice then .error .placeGivenTwice
        else .ok (replacement e ps) := by
  obtain ⟨row, hfits, hrow, -⟩ := Store.ledger?_eq_ok.1 read
  have hread := @readRows_planned s ps positive h.found h.each h.nodup 0 [] fun _ _ => rfl
  have hrows : (p.request e).rows
      = ps.map fun q => (PlannedRow.ofPlacement s.locationNames q).toRow := by
    rw [Planned.request, h.rows, List.map_map]
    rfl
  have htwice : (∃ row ∈ p.rows, row.NamesTwice)
      ↔ ∃ q ∈ ps, (PlannedRow.ofPlacement s.locationNames q).NamesTwice := by
    rw [h.rows]
    simp
  rw [replace, show (p.request e).equipment = e from rfl, Store.equipment?_eq_ok.2 ⟨hfits, hrow⟩,
    hrows, hread]
  by_cases hnames : ∃ row ∈ p.rows, row.NamesTwice
  · simp only [if_pos hnames, if_pos (htwice.1 hnames)]
  · simp only [if_neg hnames, if_neg fun hq => hnames (htwice.2 hq)]
    rfl

/-- The numbers of a plan can be stored. -/
lemma fits_planned (h : Plans s ledger p ps) (stored : s.fits = true)
    (read : s.ledger? e = .ok ledger) (sound : ledger.IsSound) :
    (Change.replacePlacements ps).Fits := by
  refine Store.fits_replacePlacements stored read
    (fun q hq => ⟨(h.each q hq).2, by rw [(h.each q hq).1]; exact rfl⟩)
    (h.enough.trans sound.distributable_bounds.2) fun q hq => ?_
  obtain ⟨input, hinput⟩ := h.found q hq
  exact Store.fits_of_findPlace hinput

/-- The rows of a plan show its placements as they are stored. -/
lemma content_planned (h : Plans s ledger p ps) :
    p.rows.map PlannedRow.content = ps.map fun q => (q.place.reread, q.quantity, q.status) := by
  rw [h.rows, List.map_map]
  refine List.map_congr_left fun q hq => ?_
  obtain ⟨input, hinput⟩ := h.found q hq
  rw [Store.reread_of_findPlace hinput]
  obtain ⟨own, place, quantity, status, notes⟩ := q
  rcases Store.findPlace_eq_ok hinput with
    ⟨id, row, rfl, -⟩ | ⟨text, rfl, hnormal, hwords, -⟩
  · rfl
  · have hread : Place.ofColumns none (some text) = some (.custom text) := by
      rw [Place.ofColumns, show Text.normalise? (some text) = text from hnormal, if_neg hwords]
    rw [← hread]
    rfl

end Placements

namespace Desk

open Placements

variable {desk : Desk} {call : Call} {e : Int} {ledger : Snapshot} {mode : String}
  {targets : List Place.Input} {p : Planned}

/-- What becomes of a request that is read as the placements of a plan, with nothing in its way. -/
lemma mutateWith_replacement (retries : Int) {r : ReplaceRequest} {ps : List Placement}
    (h : Plans desk.store ledger p ps) (request : replace r desk.store = .ok (replacement e ps))
    (read : desk.store.ledger? e = .ok ledger) (sound : ledger.IsSound)
    (stored : desk.store.fits = true) (unhindered : desk.Unhindered call e) :
    let o := desk.mutateWith call retries (replacement e ps)
    (fitsWord (ledger.version + 1) = true →
        (∃ answer, o.result = .ok answer)
          ∧ ((o.desk.store.placementsOf e).map fun row => row.2.content).Perm
            (p.rows.map PlannedRow.content)
          ∧ ∃ after, o.desk.store.ledger? e = .ok after
            ∧ after.inStore = ledger.distributable - addUp (ps.map Placement.quantity))
      ∧ (fitsWord (ledger.version + 1) = false →
        o = { result := .error .numberTooWide, desk }) := by
  have hready : prepareReplace e ps ledger = .ok
      { action := "ReplaceLocations", changes := [.replacePlacements ps], answer := answer e } := by
    rw [prepareReplace]
    exact if_neg (Int.not_lt.2 h.enough)
  have happlied : Change.applyAll ledger [.replacePlacements ps]
      = .ok { ledger with placements := ps } := rfl
  have hwritten : Worksheet.writeAll { store := desk.store } ⟨e, none, call.now⟩
      [.replacePlacements ps]
      = .ok (({ store := desk.store } : Worksheet).replacePlacements ⟨e, none, call.now⟩ ps) := rfl
  have hcommitted := mutateWith_prepared (m := replacement e ps) retries unhindered rfl
    (orderly_prepareReplace e ps) (proper_replace request) (lawful_replace request) stored read
    sound hready happlied hwritten
    (fun c hc => List.mem_singleton.1 hc ▸ fits_planned h stored read sound) rfl
  refine ⟨fun room => ?_, hcommitted.2⟩
  obtain ⟨t, committed, answer, hcommits, -, hresult, hdesk⟩ := hcommitted.1 room
  have hwords : ∀ q ∈ ps, q.place.HasWords := by
    intro q hq
    obtain ⟨input, hinput⟩ := h.found q hq
    exact Store.hasWords_of_findPlace hinput
  have hstore : ({ ledger with placements := ps } : Snapshot).inStore = committed.inStore :=
    (hcommits.alike_of_proper (.replacePlacements ps hwords)).inStore_eq
  rw [hdesk, content_planned h]
  refine ⟨⟨answer, hresult⟩, ?_, committed, hcommits.reread, ?_⟩
  · show ((t.placementsOf e).map _).Perm _
    rw [Store.placementsOf, hcommits.tables_eq.1]
    exact Worksheet.rows_replacePlacements h.nodup
  · rw [← hstore]
    simp only [Snapshot.inStore, Snapshot.committed, Snapshot.distributable, Snapshot.placed,
      Snapshot.reserved, Snapshot.installed]
    omega

/-- What becomes of a submission whose rows name no place twice. -/
lemma mutateWith_planned (retries : Int) {ps : List Placement} (h : Plans desk.store ledger p ps)
    (request : replace (p.request e) desk.store = .ok (replacement e ps))
    (read : desk.store.ledger? e = .ok ledger) (sound : ledger.IsSound)
    (stored : desk.store.fits = true) (unhindered : desk.Unhindered call e) :
    let o := desk.mutateWith call retries (replacement e ps)
    (fitsWord (ledger.version + 1) = true →
        (∃ answer, o.result = .ok answer)
          ∧ ((o.desk.store.placementsOf e).map fun row => row.2.content).Perm
            (p.rows.map PlannedRow.content))
      ∧ (fitsWord (ledger.version + 1) = false →
        o = { result := .error .numberTooWide, desk }) := by
  obtain ⟨hroom, hfull⟩ :=
    mutateWith_replacement retries h request read sound stored unhindered
  refine ⟨fun room => ?_, hfull⟩
  obtain ⟨hresult, hcontent, -⟩ := hroom room
  exact ⟨hresult, hcontent⟩

/-- A plan that is submitted as it is, with nothing in its way. If one of its rows names a place
twice, by its id and in words, the submission is declined for that, and nothing changes. Otherwise
it succeeds if the version can still be raised, and the placements of the equipment are those
planned, with the units planned; and if the version cannot be raised, it fails and nothing
changes. -/
theorem replace_of_plan (planned : plan desk.store e mode targets = .ok p)
    (read : desk.store.ledger? e = .ok ledger) (lawful : ledger.violations = [])
    (positive : ∀ row ∈ desk.store.locations.rows, 0 < row.1) (stored : desk.store.fits = true)
    (unhindered : desk.Unhindered call e) :
    let o := desk.mutate call (replace (p.request e))
    ((∃ row ∈ p.rows, row.NamesTwice) → o = { result := .error .placeGivenTwice, desk })
      ∧ ((∀ row ∈ p.rows, ¬ row.NamesTwice) → fitsWord (p.version + 1) = true →
        (∃ answer, o.result = .ok answer)
          ∧ ((o.desk.store.placementsOf e).map fun row => row.2.content).Perm
            (p.rows.map PlannedRow.content))
      ∧ ((∀ row ∈ p.rows, ¬ row.NamesTwice) → fitsWord (p.version + 1) = false →
        o = { result := .error .numberTooWide, desk }) := by
  have hsound := (Snapshot.violations_eq_nil_iff_isSound ledger).1 lawful
  obtain ⟨ps, hplans⟩ := exists_plans planned read hsound
  have hreplace := replace_planned hplans read positive
  intro o
  have honce (once : ∀ row ∈ p.rows, ¬ row.NamesTwice) := by
    rw [if_neg fun ⟨row, hrow, htwice⟩ => once row hrow htwice] at hreplace
    have hmutated := mutateWith_planned desk.lockRetries hplans hreplace read hsound stored
      unhindered
    rw [← hplans.version, ← mutate_of_request hreplace] at hmutated
    exact hmutated
  refine ⟨fun twice => ?_, fun once => (honce once).1, fun once => (honce once).2⟩
  rw [if_pos twice] at hreplace
  show desk.mutate call (replace (p.request e)) = _
  rw [mutate, hreplace]

end Desk

/-- Five lamps, at some version of their ledger, two of them on a shelf. A rack is listed. -/
def Store.lampsOnShelf (version : Int) : Store :=
  { equipments := Table.empty.insert { name := some "Lamp", total := 5, version }
    locations := Table.empty.insert { name := "Rack A" }
    placements := Table.empty.insert
      { equipment := 1, placeText := some "Shelf", quantity := 2 } }

namespace Desk

open Placements

/-- The lamps are spread over the shelf and a bench as planned. -/
theorem replace_of_plan_shelfAndBench :
    ∃ p, plan (.lampsOnShelf 7) 1 "split-equal" [{ name := some "Shelf" }, { name := some "Bench" }]
        = .ok p
      ∧ p.rows = [⟨none, some "Shelf", 3, "allocated"⟩, ⟨none, some "Bench", 2, "allocated"⟩]
      ∧ let o := ({ store := .lampsOnShelf 7 } : Desk).mutate { now := default }
          (replace (p.request 1))
        (∃ answer, o.result = .ok answer)
          ∧ ((o.desk.store.placementsOf 1).map fun row => row.2.content).Perm
            [(some (.custom "Shelf"), 3, "allocated"),
              (some (.custom "Bench"), 2, "allocated")] := by
  refine ⟨_, rfl, rfl, ?_⟩
  have hplanned := @replace_of_plan { store := .lampsOnShelf 7 } { now := default } 1 _
    "split-equal" [{ name := some "Shelf" }, { name := some "Bench" }] _ rfl
    (Store.ledger?_eq_ok.2 ⟨_, by decide, rfl, rfl⟩) (by decide +kernel) (by decide)
    (by decide +kernel) ⟨rfl, rfl, rfl⟩
  exact hplanned.2.1 (by decide +kernel) (by decide)

/-- A plan to bring all lamps to the listed rack is declined as it is, since its row gives the id of
the rack and its name. At the largest version that can be stored, a plan for the shelf fails. -/
theorem replace_of_plan_listedRack :
    (∀ version ∈ [7, 0x7FFFFFFFFFFFFFFF], ∃ ledger,
        (Store.lampsOnShelf version).ledger? 1 = .ok ledger ∧ ledger.violations = [])
      ∧ (∃ p, plan (.lampsOnShelf 7) 1 "move-all" [{ id := some 1 }] = .ok p
        ∧ p.rows = [⟨some 1, some "Rack A", 5, "allocated"⟩]
        ∧ (({ store := .lampsOnShelf 7 } : Desk).mutate { now := default }
          (replace (p.request 1))).result = .error .placeGivenTwice)
      ∧ ∃ p, plan (.lampsOnShelf 0x7FFFFFFFFFFFFFFF) 1 "move-all" [{ name := some "Shelf" }] = .ok p
        ∧ (({ store := .lampsOnShelf 0x7FFFFFFFFFFFFFFF } : Desk).mutate { now := default }
          (replace (p.request 1))).result = .error .numberTooWide := by
  refine ⟨fun version _ => ⟨_, Store.ledger?_eq_ok.2 ⟨_, by decide, rfl, rfl⟩, ?_⟩,
    ⟨_, rfl, rfl, rfl⟩, _, rfl, rfl⟩
  rfl

end Desk

end StageStock
