import Mathlib.Tactic.Lemma
import StageStock.Proofs.Drafts
import StageStock.Proofs.Plans

/-!
What becomes of a plan that is edited as a draft and submitted.

A draft keeps of every planned row its place, given once, and its units, so that the submission is
read as the placements that were planned. These hold all units that can be distributed, if a place
was named at all: nothing stays in the store. Without a place, everything that was placed goes back.

* `Plan.length_splitEqually`: as many shares as there are places, or units if these are fewer;
* `Placements.counts_of_plan`: how many rows a plan has, and how many units they hold;
* `Placements.replace_drafted`: a drafted plan is read as the placements that were planned;
* `Desk.replace_of_draft`: what becomes of the submission.
-/

namespace StageStock

/-! ### How many shares there are -/

namespace Plan

variable {places : List Place} {units share remainder : Int} {index : Nat}

/-- If every place has a share, none is left out; otherwise those are left out that get nothing of
the remainder. -/
lemma length_shares (share_nonneg : 0 ≤ share) :
    ((shares share remainder places index).length : Int)
      = if share = 0 then max 0 (min (places.length : Int) (remainder - index))
        else places.length := by
  induction places generalizing index with
  | nil =>
      simp only [shares, List.length_nil]
      split <;> omega
  | cons place rest ih =>
      simp only [shares, List.length_append, Int.natCast_add, ih, List.length_cons]
      by_cases hzero : share = 0
      · by_cases hmore : (index : Int) < remainder
        · simp only [if_pos hzero, if_pos hmore, if_pos (show 0 < share + 1 by omega),
            List.length_singleton]
          omega
        · simp only [if_pos hzero, if_neg hmore, if_neg (show ¬ 0 < share + 0 by omega),
            List.length_nil]
          omega
      · have hsome : 0 < share + (if (index : Int) < remainder then 1 else 0) := by
          split <;> omega
        simp only [if_neg hzero, if_pos hsome, List.length_singleton]
        omega

theorem length_splitEqually (nonneg : 0 ≤ units) :
    ((splitEqually places units).length : Int) = min (places.length : Int) units := by
  rw [splitEqually]
  split
  · rename_i hnone
    rcases hnone with hempty | hzero
    · rw [List.isEmpty_iff.1 hempty]
      simp only [List.length_nil]
      omega
    · simp only [List.length_nil]
      omega
  · rename_i hsome
    have hlength : 0 < (places.length : Int) := by
      have := List.length_pos_iff.2 fun hempty => hsome (Or.inl (List.isEmpty_iff.2 hempty))
      omega
    rw [length_shares (Int.ediv_nonneg nonneg (Int.le_of_lt hlength))]
    by_cases hfew : units < places.length
    · rw [if_pos (Int.ediv_eq_zero_of_lt nonneg hfew), Int.emod_eq_of_lt nonneg hfew]
      omega
    · have hshare : 1 ≤ units / places.length :=
        Int.le_ediv_of_mul_le hlength (by omega)
      rw [if_neg (by omega)]
      omega

lemma length_moveAll {place : Place} (nonneg : 0 ≤ units) :
    ((moveAll place units).length : Int) = min 1 units := by
  rw [moveAll]
  split
  · simp only [List.length_nil]
    omega
  · simp only [List.length_singleton]
    omega

end Plan

/-! ### How much is planned -/

namespace Placements

variable {s : Store} {e : Int} {mode : String} {places : List Place} {ps : List Placement}
  {ledger : Snapshot} {targets : List Place.Input} {p : Planned}

lemma length_planPlaces {inputs : List Place.Input} {seen : List PlaceKey}
    (h : planPlaces s inputs seen = .ok places) : places.length = inputs.length := by
  induction inputs generalizing seen places with
  | nil =>
      obtain rfl := Except.ok.inj h
      rfl
  | cons input rest ih =>
      rw [planPlaces] at h
      split at h
      · cases h
      · cases h
      · split at h
        · cases h
        · split at h
          · cases h
          · rename_i others hothers
            obtain rfl := Except.ok.inj h
            rw [List.length_cons, List.length_cons, ih hothers]

/-- Either mode spreads all units, if there is a place, over as many places as get some. -/
lemma counts_of_planRows {units : Int} (h : planRows mode places units = .ok ps)
    (nonneg : 0 ≤ units) :
    (ps.length : Int) = min (places.length : Int) units
      ∧ addUp (ps.map Placement.quantity) = if places = [] then 0 else units := by
  unfold planRows at h
  split at h
  · obtain rfl := Except.ok.inj h
    refine ⟨Plan.length_splitEqually nonneg, ?_⟩
    split
    · rename_i hnone
      rw [hnone]
      rfl
    · rename_i hsome
      exact Plan.addUp_splitEqually hsome nonneg
  · split at h
    · split at h
      · obtain rfl := Except.ok.inj h
        exact ⟨Plan.length_moveAll nonneg, Plan.addUp_moveAll nonneg⟩
      · cases h
    · cases h

lemma quantity_ofPlacement (names : List (Int × String)) (ps : List Placement) :
    (ps.map (PlannedRow.ofPlacement names)).map PlannedRow.quantity
      = ps.map Placement.quantity := by
  rw [List.map_map]
  refine List.map_congr_left fun q _ => ?_
  obtain ⟨own, place, quantity, status, notes⟩ := q
  cases place <;> rfl

/-- A plan spreads all units that can be distributed, if it names a place, and has a row for each of
its places, as long as there are units for them. -/
theorem counts_of_plan (planned : plan s e mode targets = .ok p) (read : s.ledger? e = .ok ledger)
    (sound : ledger.IsSound) :
    p.units = ledger.distributable
      ∧ (p.rows.length : Int) = min (targets.length : Int) p.units
      ∧ addUp (p.rows.map PlannedRow.quantity) = if targets = [] then 0 else p.units := by
  rw [plan, read] at planned
  simp only at planned
  split at planned
  · cases planned
  · rename_i places hplaces
    split at planned
    · cases planned
    · rename_i ps hps
      obtain ⟨hcount, hsum⟩ := counts_of_planRows hps sound.distributable_bounds.1
      have hlength := length_planPlaces hplaces
      have hnone : places = [] ↔ targets = [] := by
        rw [← List.length_eq_zero_iff, hlength, List.length_eq_zero_iff]
      obtain rfl := Except.ok.inj planned
      refine ⟨rfl, ?_, ?_⟩
      · rw [List.length_map, ← hlength]
        exact hcount
      · simp only [quantity_ofPlacement, hsum, hnone]

/-! ### What a draft makes of a plan -/

namespace PlannedRow

lemma shownBy_toJson (r : PlannedRow) : r.toRow.ShownBy r.toJson :=
  ⟨rfl, rfl, rfl, rfl, rfl⟩

end PlannedRow

/-- The rows of a plan as a draft submits them. -/
def Planned.drafted (p : Planned) : List Row :=
  p.rows.map fun r => r.toRow.drafted

/-- The draft that is begun with the rows of a plan can be submitted as it is. -/
lemma Planned.exists_draft (p : Planned) :
    ∃ draft, Draft.ofRows (p.rows.map PlannedRow.toJson) = .ok draft
      ∧ draft.mapM Row.ofDraftRow? = some p.drafted :=
  Draft.exists_ofRows PlannedRow.shownBy_toJson p.rows

/-- A draft keeps of a planned row the place, given once, and the units. -/
lemma drafted_planned (names : List (Int × String)) {q : Placement} (found : s.Finds q.place)
    (placed : q = Plan.placed q.place q.quantity) (one : 1 ≤ q.quantity) :
    (PlannedRow.ofPlacement names q).toRow.drafted
      = { place := q.place.input, quantity := q.quantity
          status := some PlacementStatus.allocated.text } := by
  obtain ⟨own, place, quantity, status, notes⟩ := q
  obtain ⟨rfl, -, -, rfl, rfl⟩ := Placement.mk.inj placed
  have hsome : quantity ≠ 0 := (Int.lt_of_lt_of_le Int.one_pos one).ne'
  cases found with
  | named listed =>
      simp only [Row.drafted, Row.mk.injEq]
      exact ⟨rfl, if_neg hsome, rfl, rfl⟩
  | custom normal words unlisted =>
      simp only [Row.drafted, Row.mk.injEq]
      exact ⟨Place.Input.chosen_name words, if_neg hsome, rfl, rfl⟩

/-- So the row means the planned placement. -/
lemma means_planned (positive : ∀ row ∈ s.locations.rows, 0 < row.1) (names : List (Int × String))
    {q : Placement} (found : s.Finds q.place) (placed : q = Plan.placed q.place q.quantity)
    (one : 1 ≤ q.quantity) : Row.Means s (PlannedRow.ofPlacement names q).toRow.drafted q := by
  rw [drafted_planned names found placed one]
  refine ⟨found.findPlace_input positive, one, ?_, placed⟩
  show PlacementStatus.isKnown PlacementStatus.allocated.text = true
  decide

/-- A drafted plan is read as the placements that were planned. -/
theorem replace_drafted (h : Plans s ledger p ps) (read : s.ledger? e = .ok ledger)
    (positive : ∀ row ∈ s.locations.rows, 0 < row.1) :
    replace { equipment := e, rows := p.drafted } s = .ok (replacement e ps) := by
  obtain ⟨row, hfits, hrow, -⟩ := Store.ledger?_eq_ok.1 read
  have hmeans : List.Forall₂ (Row.Means s) p.drafted ps := by
    rw [Planned.drafted, h.rows, List.map_map, List.forall₂_map_left_iff, List.forall₂_same]
    intro q hq
    obtain ⟨input, hinput⟩ := h.found q hq
    obtain ⟨hplaced, hone⟩ := h.each q hq
    exact means_planned positive _ (Store.finds_of_findPlace hinput) hplaced hone
  have hread := @readRows_of_means s p.drafted ps hmeans h.nodup 0 [] fun _ _ => rfl
  rw [replace, Store.equipment?_eq_ok.2 ⟨hfits, hrow⟩, hread]
  rfl

end Placements

namespace Desk

open Placements

variable {desk : Desk} {call : Call} {e : Int} {ledger : Snapshot} {mode : String}
  {targets : List Place.Input} {p : Planned}

/-- A plan that is taken into a draft and submitted as it is, with nothing in its way. It succeeds
if the version can still be raised, and the placements of the equipment are those planned, with the
units planned, one for each place as long as there are units. If a place was named, nothing is left
in the store, and otherwise everything that was placed goes back to it. If the version cannot be
raised, the submission fails and nothing changes. -/
theorem replace_of_draft (planned : plan desk.store e mode targets = .ok p)
    (read : desk.store.ledger? e = .ok ledger) (lawful : ledger.violations = [])
    (positive : ∀ row ∈ desk.store.locations.rows, 0 < row.1) (stored : desk.store.fits = true)
    (unhindered : desk.Unhindered call e) :
    ∃ draft rows, Draft.ofRows (p.rows.map PlannedRow.toJson) = .ok draft
      ∧ draft.mapM Row.ofDraftRow? = some rows
      ∧ (p.rows.length : Int) = min (targets.length : Int) p.units
      ∧ let o := desk.mutate call (replace { equipment := e, rows })
        (fitsWord (p.version + 1) = true →
            (∃ answer, o.result = .ok answer)
              ∧ ((o.desk.store.placementsOf e).map fun row => row.2.content).Perm
                (p.rows.map PlannedRow.content)
              ∧ ∃ after, o.desk.store.ledger? e = .ok after
                ∧ after.inStore = if targets = [] then ledger.inStore + ledger.placed else 0)
          ∧ (fitsWord (p.version + 1) = false →
            o = { result := .error .numberTooWide, desk }) := by
  have hsound := (Snapshot.violations_eq_nil_iff_isSound ledger).1 lawful
  obtain ⟨draft, hdraft, hrows⟩ := p.exists_draft
  obtain ⟨ps, hplans⟩ := exists_plans planned read hsound
  obtain ⟨hunits, hcount, hsum⟩ := counts_of_plan planned read hsound
  have hreplace := replace_drafted hplans read positive
  obtain ⟨hroom, hfull⟩ :=
    mutateWith_replacement desk.lockRetries hplans hreplace read hsound stored unhindered
  rw [← hplans.version, ← mutate_of_request hreplace] at hroom hfull
  refine ⟨draft, p.drafted, hdraft, hrows, hcount, fun room => ?_, hfull⟩
  obtain ⟨hresult, hcontent, after, hafter, hstore⟩ := hroom room
  refine ⟨hresult, hcontent, after, hafter, ?_⟩
  rw [hplans.rows, quantity_ofPlacement, hunits] at hsum
  rw [hstore, hsum]
  split
  · exact Int.sub_zero ledger.distributable
  · exact Int.sub_self ledger.distributable

/-- Five lamps, two of them on the shelf, are spread over the rack and a bench in a draft: nothing
is left in the store. -/
theorem replace_of_draft_rackAndBench :
    ∃ p draft rows, plan (.lampsOnShelf 7) 1 "split-equal"
        [{ id := some 1 }, { name := some "Bench" }] = .ok p
      ∧ Draft.ofRows (p.rows.map PlannedRow.toJson) = .ok draft
      ∧ draft.mapM Row.ofDraftRow? = some rows
      ∧ let o := ({ store := .lampsOnShelf 7 } : Desk).mutate { now := default }
          (replace { equipment := 1, rows })
        (∃ answer, o.result = .ok answer)
          ∧ ((o.desk.store.placementsOf 1).map fun row => row.2.content).Perm
            [(some (.named 1), 3, "allocated"), (some (.custom "Bench"), 2, "allocated")]
          ∧ ∃ after, o.desk.store.ledger? 1 = .ok after ∧ after.inStore = 0 := by
  obtain ⟨draft, rows, hdraft, hrows, -, hroom, -⟩ :=
    @replace_of_draft { store := .lampsOnShelf 7 } { now := default } 1 _ "split-equal"
      [{ id := some 1 }, { name := some "Bench" }] _ rfl
      (Store.ledger?_eq_ok.2 ⟨_, by decide, rfl, rfl⟩) (by decide +kernel) (by decide)
      (by decide +kernel) ⟨rfl, rfl, rfl⟩
  exact ⟨_, draft, rows, rfl, hdraft, hrows, hroom (by decide +kernel)⟩

/-- At the largest version that can be stored, the plan can be made and drafted, but not
submitted. -/
theorem replace_of_draft_full :
    ∃ ledger p draft rows, (Store.lampsOnShelf 0x7FFFFFFFFFFFFFFF).ledger? 1 = .ok ledger
      ∧ ledger.violations = []
      ∧ plan (.lampsOnShelf 0x7FFFFFFFFFFFFFFF) 1 "split-equal"
        [{ id := some 1 }, { name := some "Bench" }] = .ok p
      ∧ Draft.ofRows (p.rows.map PlannedRow.toJson) = .ok draft
      ∧ draft.mapM Row.ofDraftRow? = some rows
      ∧ (({ store := .lampsOnShelf 0x7FFFFFFFFFFFFFFF } : Desk).mutate { now := default }
        (replace { equipment := 1, rows })).result = .error .numberTooWide := by
  refine ⟨_, _, _, _, Store.ledger?_eq_ok.2 ⟨_, by decide, rfl, rfl⟩, ?_, rfl, rfl, rfl, rfl⟩
  rfl

end Desk

end StageStock
