import Mathlib.Data.List.Basic
import Mathlib.Tactic.Lemma
import StageStock.Proofs.GivingBack
import StageStock.Proofs.Plans
import StageStock.Proofs.Restating

/-!
What becomes of units that are moved.

Units of a placement go to another place, or back to the store. On a sound ledger that nobody else
works on, they go exactly if there are as many and at least one, the target is another place than
the one where they are, and the numbers that are written can be stored. The placement keeps what is
left of it. At the target the units join those that are there, and if there are none they get a row
of their own. All other placements stay as they are, and no unit is lost.

* `Placements.Arrives`: what is new among the placements after a move;
* `Placements.Moved`: what a move makes of a ledger (`Placements.moved_of_commits`);
* `Desk.move_succeeds_iff`: exactly when units are moved, and what is recorded.
-/

namespace StageStock

/-- A placement that is read has a row of the equipment. -/
lemma Store.find?_of_mem_placements {s : Store} {e id : Int} {ledger : Snapshot} {q : Placement}
    (read : s.ledger? e = .ok ledger) (listed : q ∈ ledger.placements) (named : q.id = some id) :
    ∃ row, s.placements.find? id = some row ∧ row.equipment = e := by
  obtain ⟨equipment, -, -, rfl⟩ := ledger?_eq_ok.1 read
  obtain ⟨row, hrow, hread⟩ := List.mem_filterMap.1 listed
  obtain ⟨hstored, hown⟩ := mem_placementsOf.1 hrow
  obtain ⟨place, -, rfl⟩ := Option.map_eq_some_iff.1 hread
  obtain rfl : row.1 = id := Option.some.inj named
  exact ⟨row.2, Table.find?_of_mem hstored, hown⟩

namespace Placements

variable {s : Store} {ledger : Snapshot} {r : MoveRequest} {source : Placement}
  {target : Option Place} {moved : Int}

/-! ### What a move is checked for -/

/-- A move is prepared if the placement that it is asked of has the units and the target is another
place. -/
lemma prepareMove_iff {e : Int} (read : s.ledger? e = .ok ledger)
    (listed : source ∈ ledger.placements) (named : source.id = some r.id)
    (units : r.quantity.getD source.quantity = moved) (target : Option Place)
    (work : Prepared Answer) :
    prepareMove r target ledger = .ok work
      ↔ (1 ≤ moved ∧ moved ≤ source.quantity
          ∧ ∀ place, target = some place → place.key ≠ source.place.key)
        ∧ work = { action := "MoveLocationAllocation"
                   changes := [.replacePlacements
                     (moveUnits source target moved ledger.placements)]
                   answer := answer e } := by
  obtain ⟨equipment, -, -, rfl⟩ := Store.ledger?_eq_ok.1 read
  have helsewhere : (target.any fun place => place.key = source.place.key) = false
      ↔ ∀ place, target = some place → place.key ≠ source.place.key := by
    cases target <;> simp
  simp only [prepareMove, find?_source (Store.nodup_ids_of_ledger? read) listed named, units]
  rw [← helsewhere]
  constructor
  · intro h
    split at h
    · cases h
    · rename_i hrange
      split at h
      · cases h
      · rename_i hthere
        exact ⟨⟨by omega, by omega, Bool.eq_false_iff.2 hthere⟩, (Except.ok.inj h).symm⟩
  · rintro ⟨⟨hone, henough, hother⟩, rfl⟩
    rw [if_neg (by omega), hother]
    rfl

/-- The numbers of a move can be stored, since no more is placed than before. -/
lemma fits_moveUnits {e : Int} (stored : s.fits = true) (read : s.ledger? e = .ok ledger)
    (sound : ledger.IsSound) (listed : source ∈ ledger.placements) (one : 1 ≤ moved)
    (enough : moved ≤ source.quantity) (found : s.findPlace r.target = .ok target) :
    (Change.replacePlacements (moveUnits source target moved ledger.placements)).Fits := by
  have hids := Store.nodup_ids_of_ledger? read
  have hsum : addUp ((moveUnits source target moved ledger.placements).map Placement.quantity)
      = ledger.placed - if target = none then moved else 0 :=
    addUp_moveUnits hids listed sound.places enough
  have hstore := sound.inStore_nonneg
  have htotal := sound.distributable_bounds.2
  refine Store.fits_replacePlacements stored read (sound_moveUnits sound.placements listed one) ?_
    fun p hp => ?_
  · rw [hsum]
    rw [Snapshot.distributable] at htotal
    split <;> omega
  · rcases place_of_mem_moveUnits hp with ⟨old, hold, hplace⟩ | rfl
    · exact hplace ▸ (Store.fits_of_listed stored read hold).1
    · exact Store.fits_of_findPlace found

/-! ### What a move records -/

/-- What is new among the placements after units of `source` were moved. -/
inductive Arrives (s : Store) (source : Placement) (target : Option Place) (moved : Int)
    (before : List Placement) : List Placement → Prop where
  /-- Without a target the units are in the store. -/
  | stored (nowhere : target = none) : Arrives s source target moved before []
  /-- Where there are units already, those that are moved join them. -/
  | joined (place : Place) (towards : target = some place)
      (there : ∃ q ∈ before, q.place.key = place.key) : Arrives s source target moved before []
  /-- Anywhere else they are placed anew, in the state that they had, in a row that is not used. -/
  | new (place : Place) (id : Int) (towards : target = some place)
      (free : ∀ q ∈ before, q.place.key ≠ place.key) (unused : s.placements.find? id = none) :
      Arrives s source target moved before
        [{ id := some id, place, quantity := moved, status := source.status
           notes := source.notes }]

/-- What a move makes of a ledger. -/
structure Moved (s : Store) (source : Placement) (target : Option Place) (moved : Int)
    (before after : Snapshot) : Prop where
  placements : ∃ new, after.placements
      = before.placements.flatMap (afterMove source target moved) ++ new
    ∧ Arrives s source target moved before.placements new
  placed : after.placed = before.placed - if target = none then moved else 0
  inStore : after.inStore = before.inStore + if target = none then moved else 0

lemma arrives_arrivals {before : List Placement} (ids : (before.map Placement.id).Nodup)
    (listed : source ∈ before)
    (elsewhere : ∀ place, target = some place → place.key ≠ source.place.key) :
    Arrives s source target moved before
      ((numberFrom s.placements.nextId (arrivals source target moved before)).map fun row =>
        { row.2 with id := some row.1 }) := by
  cases target with
  | none => exact .stored rfl
  | some place =>
      by_cases hthere : ∃ q ∈ before, q.place.key = place.key
      · obtain ⟨q, hq, hkey⟩ := hthere
        have hother : q.id ≠ source.id := by
          intro hid
          rw [eq_source_of_id ids listed hq hid] at hkey
          exact elsewhere place rfl hkey.symm
        rw [arrivals_of_merged ⟨q, hq, hother, hkey⟩]
        exact .joined place rfl ⟨q, hq, hkey⟩
      · have hfree : ∀ q ∈ before, q.place.key ≠ place.key :=
          fun q hq hkey => hthere ⟨q, hq, hkey⟩
        rw [arrivals_of_new fun q hq _ => hfree q hq]
        exact .new place _ rfl hfree s.placements.find?_nextId

/-- A new placement is at the target, where there is none. -/
lemma place_of_mem_arrivals {p : Placement} {before : List Placement}
    (ids : (before.map Placement.id).Nodup) (listed : source ∈ before)
    (elsewhere : ∀ place, target = some place → place.key ≠ source.place.key)
    (h : p ∈ arrivals source target moved before) :
    target = some p.place ∧ ∀ q ∈ before, q.place.key ≠ p.place.key := by
  rcases arrivals_cases source target moved before with hnone | ⟨place, rfl, hone, hnew⟩
  · rw [hnone] at h
    cases h
  · rw [hone, List.mem_singleton] at h
    subst h
    refine ⟨rfl, fun q hq => ?_⟩
    by_cases hid : q.id = source.id
    · rw [eq_source_of_id ids listed hq hid]
      exact (elsewhere place rfl).symm
    · exact hnew q hq hid

/-- A move leaves at most one placement of each. -/
lemma flatMap_afterMove (source : Placement) (target : Option Place) (moved : Int)
    (ps : List Placement) : ps.flatMap (afterMove source target moved)
      = ps.filterMap fun p => (afterMove source target moved p).head? := by
  rw [List.filterMap_eq_flatMap_toList]
  refine List.flatMap_congr fun p _ => ?_
  rw [afterMove]
  split
  · split <;> rfl
  · split <;> rfl

/-- It has the row and the place of that one. -/
lemma row_of_mem_afterMove {p q : Placement} (h : q ∈ afterMove source target moved p) :
    q.id = p.id ∧ q.place = p.place := by
  refine ⟨?_, place_of_mem_afterMove h⟩
  rw [afterMove] at h
  split at h
  · split at h
    · rw [List.mem_singleton.1 h]
    · cases h
  · split at h <;> rw [List.mem_singleton.1 h]

section Commit

variable {t : Store} {p : Proposal} {now : Moment} {before after committed : Snapshot}
  {w : Worksheet} {input : Place.Input}

/-- What a commit of a move has recorded. -/
lemma moved_of_commits (commits : s.Commits p now before after w t committed)
    (sound : before.IsSound) (listed : source ∈ before.placements)
    (enough : moved ≤ source.quantity)
    (elsewhere : ∀ place, target = some place → place.key ≠ source.place.key)
    (found : s.findPlace input = .ok target)
    (replaced : p.changes
      = [.replacePlacements (moveUnits source target moved before.placements)]) :
    Moved s source target moved before committed := by
  have hids := Store.nodup_ids_of_ledger? commits.read
  have hwords : ∀ q ∈ moveUnits source target moved before.placements, q.place.HasWords :=
    hasWords_moveUnits (Store.hasWords_of_ledger? commits.read).1 fun place hplace =>
      Store.hasWords_of_findPlace (hplace ▸ found)
  have halike := commits.alike_of_proper (replaced ▸ .replacePlacements _ hwords)
  have hsum : addUp ((moveUnits source target moved before.placements).map Placement.quantity)
      = before.placed - if target = none then moved else 0 :=
    addUp_moveUnits hids listed sound.places enough
  have happlied := commits.applied
  rw [replaced] at happlied
  obtain rfl := Except.ok.inj happlied
  refine ⟨⟨_, ?_, arrives_arrivals hids listed elsewhere⟩, ?_, ?_⟩
  · rw [flatMap_afterMove]
    refine commits.placements_edited sound.places _ _ ?_ (fun q _ q' hq' => ?_) (fun q hq => ?_)
      fun q hq => ?_
    · rw [replaced, moveUnits_eq, flatMap_afterMove]
    · exact row_of_mem_afterMove (List.mem_of_head? hq')
    · exact (place_of_mem_arrivals hids listed elsewhere hq).2
    · exact Store.reread_of_findPlace ((place_of_mem_arrivals hids listed elsewhere hq).1 ▸ found)
  · exact halike.placed_eq.symm.trans hsum
  · rw [← halike.inStore_eq]
    simp only [Snapshot.inStore, Snapshot.committed, Snapshot.placed, Snapshot.reserved,
      Snapshot.installed] at hsum ⊢
    omega

end Commit

lemma answers_of_move (m : Mutation Answer) (h : move r s = .ok m) : m.Answers := by
  obtain ⟨row, target, -, -, rfl⟩ := move_eq_ok h
  exact Mutation.answers_of_orderly rfl (orderly_prepareMove row.equipment r target)

end Placements

/-! ### Moves at the desk -/

namespace Desk

open Placements

variable {desk : Desk} {call : Call} {e : Int} {ledger : Snapshot} {r : MoveRequest}
  {source : Placement} {target : Option Place}

/-- Units of a placement that nothing hinders are moved exactly if there is at least one and the
placement has as many, the target is another place, and the user who asks and the next version of
the ledger can be stored. Then the placement keeps the rest, the units have joined those at the
target or have a row of their own there, and nothing else has changed; only units without a target
are in the store. Whenever units are not moved, nothing changes. -/
theorem move_succeeds_iff (read : desk.store.ledger? e = .ok ledger)
    (lawful : ledger.violations = []) (listed : source ∈ ledger.placements)
    (named : source.id = some r.id) (wide : fitsWord r.id = true)
    (found : desk.store.findPlace r.target = .ok target) (stored : desk.store.fits = true)
    (unhindered : desk.Unhindered call e) :
    let moved := r.quantity.getD source.quantity
    let o := desk.mutate call (move r)
    ((∃ answer, o.result = .ok answer)
        ↔ 1 ≤ moved ∧ moved ≤ source.quantity
          ∧ (∀ place, target = some place → place.key ≠ source.place.key)
          ∧ fitsWord? r.user = true ∧ fitsWord (ledger.version + 1) = true)
      ∧ ((∃ answer, o.result = .ok answer) →
        ∃ after, o.desk.store.ledger? e = .ok after
          ∧ Moved desk.store source target moved ledger after)
      ∧ ∀ failure, o.result = .error failure → o = { result := .error failure, desk } := by
  have hsound := (Snapshot.violations_eq_nil_iff_isSound ledger).1 lawful
  intro moved o
  have hprepare := prepareMove_iff read listed named
    (show r.quantity.getD source.quantity = moved from rfl) target
  obtain ⟨row, hrow, rfl⟩ := Store.find?_of_mem_placements read listed named
  have hm : move r desk.store = .ok
      { equipment := row.equipment, user := r.user
        preparation := .fromLedger (prepareMove r target) } := by
    rw [move, Store.placement?_eq_ok.2 ⟨wide, hrow⟩, found]
  obtain ⟨hiff, hmade, -⟩ := mutate_prepared unhindered hm rfl
    (orderly_prepareMove row.equipment r target) (proper_move hm) stored read fun work hwork => by
      have hlawful := lawful_move hm _ _ _ read hwork hsound
      obtain ⟨⟨hone, henough, -⟩, rfl⟩ := (hprepare _).1 hwork
      exact ⟨_, _, rfl, hlawful _ rfl, rfl, fun c hc => List.mem_singleton.1 hc ▸
        fits_moveUnits stored read hsound listed hone henough found⟩
  simp only [hprepare, exists_and_left, exists_eq, and_true, and_assoc] at hiff
  refine ⟨hiff, fun hok => ?_, fun failure => mutate_of_error unhindered.alone answers_of_move⟩
  obtain ⟨work, after, w, t, committed, hwork, hcommits, hdesk⟩ := hmade hok
  obtain ⟨⟨-, henough, helsewhere⟩, rfl⟩ := (hprepare _).1 hwork
  rw [hdesk]
  exact ⟨committed, hcommits.reread,
    moved_of_commits hcommits hsound listed henough helsewhere found rfl⟩

/-- Two of five lamps are on the shelf. One of them is moved to the rack and gets a row there; three
of them cannot be moved. -/
theorem move_succeeds_iff_shelf :
    let desk : Desk := { store := .lampsOnShelf 7 }
    let asks (quantity : Int) : MoveRequest := { id := 1, target := { id := some 1 }, quantity }
    (∃ answer after id,
        (desk.mutate { now := default } (move (asks 1))).result = .ok answer
        ∧ (desk.mutate { now := default } (move (asks 1))).desk.store.ledger? 1 = .ok after
        ∧ after.placements = [{ id := some 1, place := .custom "Shelf", quantity := 1 },
          { id := some id, place := .named 1, quantity := 1 }]
        ∧ after.inStore = 3)
      ∧ ¬ ∃ answer, (desk.mutate { now := default } (move (asks 3))).result = .ok answer := by
  intro desk asks
  have hread : desk.store.ledger? 1 = .ok (desk.store.snapshot 1
      { name := some "Lamp", total := 5, version := 7 }) :=
    Store.ledger?_eq_ok.2 ⟨_, by decide, rfl, rfl⟩
  have hasked (quantity : Int) := @move_succeeds_iff desk { now := default } 1 _ (asks quantity)
    { id := some 1, place := .custom "Shelf", quantity := 2 } (some (.named 1)) hread
    (by decide +kernel) (by decide +kernel) rfl (show fitsWord 1 = true by decide) rfl
    (by decide +kernel) ⟨rfl, rfl, rfl⟩
  obtain ⟨hiff, hmoved, -⟩ := hasked 1
  obtain ⟨answer, hanswer⟩ := hiff.2 ⟨by decide, by decide, by simp [Place.key], rfl, by decide⟩
  obtain ⟨after, hafter, ⟨new, hplacements, hnew⟩, -, hstore⟩ := hmoved ⟨answer, hanswer⟩
  refine ⟨⟨answer, after, ?_⟩, fun hgranted => absurd ((hasked 3).1.1 hgranted).2.1 (by decide)⟩
  cases hnew with
  | stored nowhere => cases nowhere
  | joined place towards there =>
      obtain rfl := Option.some.inj towards
      exact absurd there (by decide +kernel)
  | new place id towards =>
      obtain rfl := Option.some.inj towards
      exact ⟨id, hanswer, hafter, hplacements, hstore⟩

/-- At the largest version that can be stored, the lamp is not moved. -/
theorem not_move_succeeds_shelf :
    (∃ ledger, (Store.lampsOnShelf 0x7FFFFFFFFFFFFFFF).ledger? 1 = .ok ledger
        ∧ ledger.violations = []
        ∧ ledger.placements = [{ id := some 1, place := .custom "Shelf", quantity := 2 }])
      ∧ (({ store := .lampsOnShelf 0x7FFFFFFFFFFFFFFF } : Desk).mutate { now := default }
        (move { id := 1, target := { id := some 1 }, quantity := some 1 })).result
          = .error .numberTooWide :=
  ⟨⟨_, Store.ledger?_eq_ok.2 ⟨_, by decide, rfl, rfl⟩, by decide +kernel, by decide +kernel⟩, rfl⟩

end Desk

end StageStock
