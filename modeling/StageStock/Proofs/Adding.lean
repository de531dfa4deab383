import Mathlib.Tactic.Lemma
import StageStock.Proofs.GivingBack
import StageStock.Proofs.Plans
import StageStock.Proofs.Restating

/-!
Units brought to one place twice.

Units that are brought to a place join those that are there. So it makes no difference whether they
are brought in two parts or at once, nor how the place is described when the second part comes: the
first part has made the placement, or found it, and the second adds to it.

* `Placements.brought`: the placements of an equipment after units were brought to a place, and
  `Placements.brought_brought`: twice is once;
* `Placements.Brings`: what is recorded then (`Placements.brings_of_commits`);
* `Desk.mutate_place`: exactly when units are brought to a place;
* `Desk.place_twice`: the same of two parts, and what they leave.
-/

namespace StageStock

/-- A number between two that can be stored can be stored. -/
lemma fitsWord_of_between {low n high : Int} (first : fitsWord low = true)
    (last : fitsWord high = true) (le : low ≤ n) (le' : n ≤ high) : fitsWord n = true := by
  rw [fitsWord, Bool.and_eq_true, decide_eq_true_iff, decide_eq_true_iff, wordLimit] at *
  omega

/-- Where keys do not repeat, an element is the only one with its key. -/
lemma filter_key_eq_singleton {α β : Type} [DecidableEq β] {key : α → β} {xs : List α} {x : α}
    (nodup : (xs.map key).Nodup) (h : x ∈ xs) : (xs.filter fun y => key y = key x) = [x] := by
  refine List.perm_singleton.1 ((List.perm_ext_iff_of_nodup (nodup.of_map.filter _)
    (List.nodup_singleton x)).2 fun y => ?_)
  rw [List.mem_filter, decide_eq_true_iff, List.mem_singleton]
  constructor
  · exact fun ⟨hy, hkey⟩ => List.inj_on_of_nodup_map nodup hy h hkey
  · rintro rfl
    exact ⟨h, rfl⟩

namespace Placements

variable {s : Store} {ledger : Snapshot} {r : PlaceRequest} {target : Place}

/-! ### One placement for each place -/

/-- The placements after units were brought to a place. If there were none, they are placed anew in
the row `id`. -/
def brought (id : Int) (r : PlaceRequest) (target : Place) (ps : List Placement) :
    List Placement :=
  ps.map (topUp r target)
    ++ if ps.any fun p => p.place.key = target.key then []
      else [{ newlyPlaced r target with id := some id }]

section Brought

variable {id id' : Int} {r' : PlaceRequest} {target' : Place} {ps : List Placement}

/-- Units brought to a place are there. -/
lemma exists_mem_brought (id : Int) (r : PlaceRequest) (target : Place) (ps : List Placement) :
    ∃ p ∈ brought id r target ps, p.place.key = target.key := by
  by_cases hthere : (ps.any fun p => p.place.key = target.key) = true
  · obtain ⟨old, hold, hkey⟩ := List.any_eq_true.1 hthere
    refine ⟨topUp r target old, List.mem_append_left _ (List.mem_map_of_mem hold), ?_⟩
    rw [place_topUp]
    exact of_decide_eq_true hkey
  · refine ⟨{ newlyPlaced r target with id := some id }, List.mem_append_right _ ?_, rfl⟩
    rw [if_neg hthere]
    exact List.mem_singleton_self _

/-- None that are elsewhere have changed. -/
lemma filter_brought_elsewhere (id : Int) (r : PlaceRequest) (target : Place)
    (ps : List Placement) :
    ((brought id r target ps).filter fun p => p.place.key ≠ target.key)
      = ps.filter fun p => p.place.key ≠ target.key := by
  have hkept : ((ps.map (topUp r target)).filter fun p => p.place.key ≠ target.key)
      = ps.filter fun p => p.place.key ≠ target.key := by
    have hsame : (fun p : Placement => decide (p.place.key ≠ target.key)) ∘ topUp r target
        = fun p => decide (p.place.key ≠ target.key) :=
      funext fun p => by simp only [Function.comp, place_topUp]
    rw [List.filter_map, hsame]
    refine (List.map_congr_left fun p hp => ?_).trans (List.map_id _)
    exact if_neg (of_decide_eq_true (List.mem_filter.1 hp).2)
  rw [brought, List.filter_append, hkept]
  refine (congrArg _ ?_).trans (List.append_nil _)
  split
  · rfl
  · exact List.filter_eq_nil_iff.2 fun p hp hother =>
      of_decide_eq_true hother (List.mem_singleton.1 hp ▸ rfl)

/-- Units that are brought to a placement twice are brought to it at once. -/
lemma topUp_topUp (same : target'.key = target.key) (notes : r'.notes = r.notes) (p : Placement) :
    topUp r' target' (topUp r target p)
      = topUp { r with quantity := r.quantity + r'.quantity } target p := by
  by_cases hthere : p.place.key = target.key
  · have hnotes : r.notes.or (r.notes.or p.notes) = r.notes.or p.notes := by
      cases r.notes <;> rfl
    simp only [topUp, same, if_pos hthere, notes, hnotes, Int.add_assoc]
  · simp only [topUp, same, if_neg hthere]

/-- So are units that are brought to a place twice, however it is described the second time. -/
theorem brought_brought (same : target'.key = target.key) (notes : r'.notes = r.notes) :
    brought id' r' target' (brought id r target ps)
      = brought id { r with quantity := r.quantity + r'.quantity } target ps := by
  have hthere : ((brought id r target ps).any fun p => p.place.key = target'.key) = true := by
    obtain ⟨p, hp, hkey⟩ := exists_mem_brought id r target ps
    exact List.any_eq_true.2 ⟨p, hp, decide_eq_true (hkey.trans same.symm)⟩
  have htopped : (ps.map (topUp r target)).map (topUp r' target')
      = ps.map (topUp { r with quantity := r.quantity + r'.quantity } target) := by
    rw [List.map_map]
    exact List.map_congr_left fun p _ => topUp_topUp same notes p
  rw [brought, if_pos hthere, List.append_nil, brought, List.map_append, htopped, brought]
  congr 1
  split
  · rfl
  · -- the units that come second join those that were placed anew
    have hnotes : r.notes.or r.notes = r.notes := by cases r.notes <;> rfl
    simp only [List.map_cons, List.map_nil, newlyPlaced, topUp, same, if_true, notes, hnotes]

end Brought

/-- Units that are placed anew are at a place where there are none. -/
lemma place_of_mem_newlyPlaced {p : Placement} {ps : List Placement}
    (h : p ∈ if ps.any fun q => q.place.key = target.key then [] else [newlyPlaced r target]) :
    p.place = target ∧ ∀ q ∈ ps, q.place.key ≠ target.key := by
  split at h
  · cases h
  · rename_i hnew
    rw [List.mem_singleton.1 h]
    exact ⟨rfl, fun q hq hkey => hnew (List.any_eq_true.2 ⟨q, hq, decide_eq_true hkey⟩)⟩

/-- The numbers can be stored, since no more is placed than there is. -/
lemma fits_addUnits {e : Int} (stored : s.fits = true) (read : s.ledger? e = .ok ledger)
    (sound : ledger.IsSound) (one : 1 ≤ r.quantity)
    (known : PlacementStatus.isKnown r.status = true) (enough : r.quantity ≤ ledger.inStore)
    (found : s.findPlace r.target = .ok (some target)) :
    (Change.replacePlacements (addUnits r target ledger.placements)).Fits := by
  have hsum : addUp ((addUnits r target ledger.placements).map Placement.quantity)
      = ledger.placed + r.quantity := addUp_addUnits sound.places
  have htotal := sound.distributable_bounds.2
  refine Store.fits_replacePlacements stored read (sound_addUnits sound.placements one known) ?_
    fun p hp => ?_
  · rw [hsum]
    rw [Snapshot.distributable] at htotal
    omega
  · rcases place_of_mem_addUnits hp with ⟨old, hold, hplace⟩ | hplace
    · exact hplace ▸ (Store.fits_of_listed stored read hold).1
    · exact hplace ▸ Store.fits_of_findPlace found

/-! ### What is recorded -/

/-- What is recorded of units that are brought to a place. -/
structure Brings (s : Store) (r : PlaceRequest) (target : Place) (before : Snapshot) (t : Store)
    (after : Snapshot) : Prop where
  fits : t.fits = true
  locations : t.locations = s.locations
  read : t.ledger? r.equipment = .ok after
  sound : after.IsSound
  version : after.version = before.version + 1
  inStore : after.inStore = before.inStore - r.quantity
  placements : after.placements = brought s.placements.nextId r target before.placements

lemma brings_of_commits {t : Store} {p : Proposal} {now : Moment}
    {before after committed : Snapshot} {w : Worksheet}
    (commits : s.Commits p now before after w t committed) (sound : before.IsSound)
    (found : s.findPlace r.target = .ok (some target)) (own : p.equipment = r.equipment)
    (replaced : p.changes = [.replacePlacements (addUnits r target before.placements)]) :
    Brings s r target before t committed := by
  have hwords := hasWords_addUnits (r := r) (Store.hasWords_of_ledger? commits.read).1
    (Store.hasWords_of_findPlace found)
  have hproper : Change.Proper before p.changes := replaced ▸ .replacePlacements _ hwords
  have halike := commits.alike_of_proper hproper
  have hsum : addUp ((addUnits r target before.placements).map Placement.quantity)
      = before.placed + r.quantity := addUp_addUnits sound.places
  have happlied := commits.applied
  rw [replaced] at happlied
  obtain rfl := Except.ok.inj happlied
  refine ⟨commits.fits, commits.agreesBeside.locations, own ▸ commits.reread,
    commits.isSound_of_proper hproper, commits.version_eq, ?_, ?_⟩
  · rw [← halike.inStore_eq]
    simp only [Snapshot.inStore, Snapshot.committed, Snapshot.placed, Snapshot.reserved,
      Snapshot.installed] at hsum ⊢
    omega
  · have hedited := commits.placements_edited sound.places
      (fun q => some (topUp r target q))
      (if before.placements.any fun q => q.place.key = target.key then []
        else [newlyPlaced r target]) ?_ (fun q _ q' hq' => ?_) (fun q hq q' hq' => ?_)
      fun q hq => ?_
    · rw [hedited, brought]
      congr 1
      · exact congrFun List.filterMap_eq_map _
      · split <;> rfl
    · rw [replaced, addUnits_eq, ← List.filterMap_eq_map]
      rfl
    · obtain rfl := Option.some.inj hq'
      refine ⟨?_, place_topUp q⟩
      rw [topUp]
      split <;> rfl
    · obtain ⟨hplace, hfree⟩ := place_of_mem_newlyPlaced hq
      exact hplace ▸ hfree q' hq'
    · exact (place_of_mem_newlyPlaced hq).1 ▸ Store.reread_of_findPlace found

/-- Units are brought exactly if the store has as many. -/
lemma exists_preparePlace_iff :
    (∃ work, preparePlace r target ledger = .ok work) ↔ r.quantity ≤ ledger.inStore := by
  constructor
  · rintro ⟨work, hwork⟩
    exact (preparePlace_eq_ok hwork).1
  · exact fun henough => ⟨_, if_neg (Int.not_lt.2 henough)⟩

end Placements

/-! ### Units brought at the desk -/

namespace Desk

open Placements

variable {desk : Desk} {call call' : Call} {ledger : Snapshot} {r : PlaceRequest}
  {target target' : Place} {again : Place.Input} {more : Int} {user : Option Int}

/-- Units that nothing hinders are brought to a place exactly if the store has as many, and if the
user who asks and the next version of the ledger can be stored. -/
lemma mutate_place (read : desk.store.ledger? r.equipment = .ok ledger) (sound : ledger.IsSound)
    (one : 1 ≤ r.quantity) (known : PlacementStatus.isKnown r.status = true)
    (found : desk.store.findPlace r.target = .ok (some target)) (stored : desk.store.fits = true)
    (unhindered : desk.Unhindered call r.equipment) :
    let o := desk.mutate call (place r)
    ((∃ answer, o.result = .ok answer)
        ↔ r.quantity ≤ ledger.inStore ∧ fitsWord? r.user = true
          ∧ fitsWord (ledger.version + 1) = true)
      ∧ ((∃ answer, o.result = .ok answer) →
        ∃ after, o.desk.locks = desk.locks
          ∧ Brings desk.store r target ledger o.desk.store after)
      ∧ (ledger.inStore < r.quantity →
        o.result = .error (.storeTooSmall r.quantity ledger.inStore)) := by
  obtain ⟨row, hfits, hrow, -⟩ := Store.ledger?_eq_ok.1 read
  have hm : place r desk.store = .ok
      { equipment := r.equipment, user := r.user
        preparation := .fromLedger (preparePlace r target) } := by
    rw [place, if_neg (by omega), known, Store.equipment?_eq_ok.2 ⟨hfits, hrow⟩, found]
    rfl
  intro o
  obtain ⟨hiff, hmade, hdeclined⟩ := mutate_prepared unhindered hm rfl
    (orderly_preparePlace r target) (proper_place hm) stored read fun work hwork => by
      have hlawful := lawful_place hm _ _ _ read hwork sound
      obtain ⟨henough, rfl⟩ := preparePlace_eq_ok hwork
      exact ⟨_, _, rfl, hlawful _ rfl, rfl, fun c hc => List.mem_singleton.1 hc ▸
        fits_addUnits stored read sound one known henough found⟩
  rw [exists_preparePlace_iff] at hiff
  refine ⟨hiff, fun hok => ?_, fun hmore => congrArg Outcome.result (hdeclined _ (if_pos hmore))⟩
  obtain ⟨work, after, w, t, committed, hwork, hcommits, hdesk⟩ := hmade hok
  obtain ⟨-, rfl⟩ := preparePlace_eq_ok hwork
  rw [hdesk]
  exact ⟨committed, rfl, brings_of_commits hcommits sound found rfl rfl⟩

/-- Units are brought to a place in two parts, and nothing hinders either. Both parts are brought
exactly if the store has as many units in all, and if the users who ask and the next two versions of
the ledger can be stored. Then the placements are those that one request for all units leaves: one
at the place, and all others as they were. If the first part is brought and the second is more than
the store then has, it is declined with what is left. -/
theorem place_twice (read : desk.store.ledger? r.equipment = .ok ledger)
    (lawful : ledger.violations = []) (one : 1 ≤ r.quantity) (one_more : 1 ≤ more)
    (known : PlacementStatus.isKnown r.status = true)
    (found : desk.store.findPlace r.target = .ok (some target))
    (found_again : desk.store.findPlace again = .ok (some target'))
    (same : target'.key = target.key) (stored : desk.store.fits = true)
    (unhindered : desk.Unhindered call r.equipment)
    (unhindered_again : desk.Unhindered call' r.equipment) :
    let o := desk.mutate call (place r)
    let o' := o.desk.mutate call' (place { r with target := again, quantity := more, user })
    let once := desk.mutate call (place { r with quantity := r.quantity + more })
    (((∃ answer, o.result = .ok answer) ∧ ∃ answer, o'.result = .ok answer)
        ↔ r.quantity + more ≤ ledger.inStore ∧ fitsWord? r.user = true ∧ fitsWord? user = true
          ∧ fitsWord (ledger.version + 2) = true)
      ∧ (((∃ answer, o.result = .ok answer) ∧ ∃ answer, o'.result = .ok answer) →
        ∃ after single, o'.desk.store.ledger? r.equipment = .ok after
          ∧ (∃ answer, once.result = .ok answer)
          ∧ once.desk.store.ledger? r.equipment = .ok single
          ∧ after.placements = single.placements
          ∧ (∃ q, (after.placements.filter fun p => p.place.key = target.key) = [q])
          ∧ (after.placements.filter fun p => p.place.key ≠ target.key)
            = ledger.placements.filter fun p => p.place.key ≠ target.key)
      ∧ ((∃ answer, o.result = .ok answer) → ledger.inStore < r.quantity + more →
        o'.result = .error (.storeTooSmall more (ledger.inStore - r.quantity))) := by
  have hsound := (Snapshot.violations_eq_nil_iff_isSound ledger).1 lawful
  have hversion := (Store.fits_of_ledger? stored read).2
  obtain ⟨hiff, hbrings, -⟩ := mutate_place read hsound one known found stored unhindered
  obtain ⟨honceIff, honceBrings, -⟩ := mutate_place
    (r := { r with quantity := r.quantity + more }) read hsound
    (show 1 ≤ r.quantity + more by omega) known found stored unhindered
  intro o o' once
  -- the second part, once the first is brought
  have hsecond {after : Snapshot} (hlocks : o.desk.locks = desk.locks)
      (hafter : Brings desk.store r target ledger o.desk.store after) :=
    @mutate_place o.desk call' after { r with target := again, quantity := more, user } target'
      hafter.read hafter.sound one_more known
      ((Store.findPlace_congr hafter.locations again).trans found_again) hafter.fits
      (unhindered_again.congr hlocks)
  have hboth : ((∃ answer, o.result = .ok answer) ∧ ∃ answer, o'.result = .ok answer) ↔
      r.quantity + more ≤ ledger.inStore ∧ fitsWord? r.user = true ∧ fitsWord? user = true
        ∧ fitsWord (ledger.version + 2) = true := by
    constructor
    · rintro ⟨hfirst, hlast⟩
      obtain ⟨after, hlocks, hafter⟩ := hbrings hfirst
      obtain ⟨hmore, huser, hroom⟩ := (hsecond hlocks hafter).1.1 hlast
      have henough : more ≤ ledger.inStore - r.quantity := hafter.inStore ▸ hmore
      rw [hafter.version, Int.add_assoc] at hroom
      exact ⟨by omega, (hiff.1 hfirst).2.1, huser, hroom⟩
    · rintro ⟨henough, huser, huser', hroom⟩
      have hfirst := hiff.2 ⟨by omega, huser,
        fitsWord_of_between hversion hroom (by omega) (by omega)⟩
      obtain ⟨after, hlocks, hafter⟩ := hbrings hfirst
      have hmore : more ≤ after.inStore := by
        rw [hafter.inStore]
        omega
      refine ⟨hfirst, (hsecond hlocks hafter).1.2 ⟨hmore, huser', ?_⟩⟩
      rw [hafter.version, Int.add_assoc]
      exact hroom
  refine ⟨hboth, fun h => ?_, fun hfirst hless => ?_⟩
  · obtain ⟨henough, huser, -, hroom⟩ := hboth.1 h
    obtain ⟨after, hlocks, hafter⟩ := hbrings h.1
    obtain ⟨last, -, hlast⟩ := (hsecond hlocks hafter).2.1 h.2
    have honce := honceIff.2 ⟨henough, huser,
      fitsWord_of_between hversion hroom (by omega) (by omega)⟩
    obtain ⟨single, -, hsingle⟩ := honceBrings honce
    have hplacements : last.placements = single.placements := by
      rw [hlast.placements, hafter.placements, hsingle.placements]
      exact brought_brought same rfl
    obtain ⟨q, hq, hkey⟩ := exists_mem_brought desk.store.placements.nextId
      { r with quantity := r.quantity + more } target ledger.placements
    rw [← hsingle.placements, ← hplacements] at hq
    refine ⟨last, single, hlast.read, honce, hsingle.read, hplacements, ⟨q, ?_⟩, ?_⟩
    · rw [← hkey]
      exact filter_key_eq_singleton hlast.sound.places hq
    · rw [hplacements, hsingle.placements]
      exact filter_brought_elsewhere _ _ target _
  · obtain ⟨after, hlocks, hafter⟩ := hbrings hfirst
    have hdeclined := (hsecond hlocks hafter).2.2
    rw [hafter.inStore] at hdeclined
    exact hdeclined (by show _ < more; omega)

/-- Three of five lamps are in the store. After two of them are brought to the shelf, another one is
brought there, whose name is then spelled otherwise, and two are not. -/
theorem place_twice_shelf :
    let r : PlaceRequest := { equipment := 1, target := { name := some "Shelf" }, quantity := 2 }
    let o := ({ store := .lampsOnShelf 7 } : Desk).mutate { now := default } (place r)
    let o' (more : Int) := o.desk.mutate { now := default }
      (place { r with target := { name := some " SHELF" }, quantity := more })
    ((∃ answer, o.result = .ok answer) ∧ ∃ answer, (o' 1).result = .ok answer)
      ∧ (∃ after q, (o' 1).desk.store.ledger? r.equipment = .ok after
        ∧ (after.placements.filter fun p => p.place.key = .custom "shelf") = [q])
      ∧ (o' 2).result = .error (.storeTooSmall 2 1) := by
  have hread : (Store.lampsOnShelf 7).ledger? 1 = .ok ((Store.lampsOnShelf 7).snapshot 1
      { name := some "Lamp", total := 5, version := 7 }) :=
    Store.ledger?_eq_ok.2 ⟨_, by decide, rfl, rfl⟩
  have hfound : (Store.lampsOnShelf 7).findPlace { name := some "Shelf" }
      = .ok (some (.custom "Shelf")) := rfl
  have hagain : (Store.lampsOnShelf 7).findPlace { name := some " SHELF" }
      = .ok (some (.custom "SHELF")) := rfl
  intro r o o'
  have hasked (more : Int) (one : 1 ≤ more) := @place_twice { store := .lampsOnShelf 7 }
    { now := default } { now := default } _ r (.custom "Shelf") (.custom "SHELF")
    { name := some " SHELF" } more r.user hread (by decide +kernel) (show 1 ≤ 2 by decide) one
    (show PlacementStatus.isKnown PlacementStatus.allocated.text = true by decide) hfound hagain
    (by decide +kernel) (by decide +kernel) ⟨rfl, rfl, rfl⟩ ⟨rfl, rfl, rfl⟩
  obtain ⟨hiff, hleft, -⟩ := hasked 1 (by decide)
  obtain ⟨-, -, hless⟩ := hasked 2 (by decide)
  have hboth := hiff.2 (by decide +kernel)
  obtain ⟨after, single, hafter, -, -, -, ⟨q, hq⟩, -⟩ := hleft hboth
  have hshelf : (Place.custom "Shelf").key = .custom "shelf" := by decide +kernel
  rw [hshelf] at hq
  refine ⟨hboth, ⟨after, q, ?_, hq⟩, hless hboth.1 (by decide +kernel)⟩
  -- the two sides are alike, and need not be computed
  with_reducible exact hafter

/-- At the last version but one that can be stored, the lamp that comes second is not brought,
though the store has it. -/
theorem not_place_twice_shelf :
    let o := ({ store := .lampsOnShelf 0x7FFFFFFFFFFFFFFE } : Desk).mutate { now := default }
      (place { equipment := 1, target := { name := some "Shelf" }, quantity := 2 })
    let o' := o.desk.mutate { now := default }
      (place { equipment := 1, target := { name := some "Shelf" }, quantity := 1 })
    (∃ ledger, (Store.lampsOnShelf 0x7FFFFFFFFFFFFFFE).ledger? 1 = .ok ledger
        ∧ ledger.violations = [] ∧ 2 + 1 ≤ ledger.inStore)
      ∧ ¬ ((∃ answer, o.result = .ok answer) ∧ ∃ answer, o'.result = .ok answer) := by
  refine ⟨⟨_, Store.ledger?_eq_ok.2 ⟨_, by decide, rfl, rfl⟩, by decide +kernel,
    by decide +kernel⟩, ?_⟩
  rintro ⟨-, answer, hanswer⟩
  have hfailed : ((({ store := .lampsOnShelf 0x7FFFFFFFFFFFFFFE } : Desk).mutate { now := default }
      (place { equipment := 1, target := { name := some "Shelf" }, quantity := 2 })).desk.mutate
        { now := default } (place { equipment := 1, target := { name := some "Shelf" }
                                    quantity := 1 })).result.isOk = false := by decide +kernel
  rw [hanswer] at hfailed
  cases hfailed

end Desk

end StageStock
