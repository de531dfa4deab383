import Mathlib.Data.List.Induction
import Mathlib.Tactic.Lemma
import StageStock.Proofs.Conservation

/-!
Places described in words, and the locations that are listed under these words.

A description is looked up among the listed locations when units are put there, and not again. The
rules compare the places as they are stored, so that a location listed under the words of a
description later on is another place to them, though the description means it from then on.

* `Store.resolvedKeys`: the places of an equipment's units, each as it would be found now;
* `Store.Reached.nodup_resolvedKeys_iff`: two of them are the same exactly if the equipment has
  units at a listed location and at a description of it;
* `Store.ReachedListedFirst.nodup_resolvedKeys`: none are the same if no location is listed under
  words that units are stored under already.
-/

namespace StageStock

/-! ### Directories that grow -/

namespace Directory

lemma lookup_cons_eq (entry : String × Int) (rest : List (String × Int)) (key : String) :
    (entry :: rest).lookup key = if key = entry.1 then some entry.2 else rest.lookup key := by
  by_cases h : key = entry.1
  · rw [if_pos h, h, List.lookup_cons_self]
  · have hne : (key == entry.1) = false := beq_eq_false_iff_ne.2 h
    rw [if_neg h, List.lookup_cons, hne]

lemma lookup_put (folded key : String) (id : Int) (entries : List (String × Int)) :
    (put folded id entries).lookup key = if key = folded then some id else entries.lookup key := by
  induction entries with
  | nil => exact lookup_cons_eq _ _ _
  | cons entry rest ih =>
      by_cases hentry : entry.1 = folded
      · rw [put, if_pos hentry, lookup_cons_eq, lookup_cons_eq, hentry]
        split <;> rfl
      · rw [put, if_neg hentry, lookup_cons_eq, lookup_cons_eq, ih]
        by_cases h : key = folded
        · rw [if_pos h, if_pos h, if_neg fun hk => hentry (hk.symm.trans h)]
        · rw [if_neg h, if_neg h]

variable {names : List (Int × String)} {id : Int} {name folded : String}

/-- A location listed last is found under its name, and hides the one that was found there. -/
lemma find?_ofNames_append (given : name ≠ "") (key : String) :
    (ofNames (names ++ [(id, name)])).find? key
      = if key = foldName name then some id else (ofNames names).find? key := by
  simp only [find?, ofNames, List.foldl_append, List.foldl_cons, List.foldl_nil, if_neg given]
  exact lookup_put _ _ _ _

/-- Under a name the location is found that is the last one with a name of that form. -/
lemma find?_ofNames (names : List (Int × String)) (folded : String) :
    (ofNames names).find? folded
      = (names.reverse.find? fun entry => entry.2 ≠ "" ∧ foldName entry.2 = folded).map
        Prod.fst := by
  induction names using List.reverseRecOn with
  | nil => rfl
  | append_singleton names entry ih =>
      rw [List.reverse_concat, List.find?_cons]
      by_cases hblank : entry.2 = ""
      · have hskipped : ofNames (names ++ [entry]) = ofNames names := by
          simp only [ofNames, List.foldl_append, List.foldl_cons, List.foldl_nil, if_pos hblank]
        simp only [hskipped, ih, hblank, ne_eq, not_true_eq_false, false_and, decide_false]
      · rw [find?_ofNames_append hblank, ih]
        by_cases hsame : folded = foldName entry.2
        · simp [hblank, hsame]
        · simp [hblank, hsame, Ne.symm hsame]

/-- A location that is found is listed under a name of that form. -/
lemma exists_name_of_find? (h : (ofNames names).find? folded = some id) :
    ∃ name, (id, name) ∈ names ∧ foldName name = folded := by
  rw [find?_ofNames] at h
  obtain ⟨entry, hentry, rfl⟩ := Option.map_eq_some_iff.1 h
  have hname : entry.2 ≠ "" ∧ foldName entry.2 = folded := by
    simpa using List.find?_some hentry
  exact ⟨entry.2, List.mem_reverse.1 (List.mem_of_find?_eq_some hentry), hname.2⟩

/-- None is found if none is listed under a name of that form. -/
lemma find?_ofNames_eq_none_iff : (ofNames names).find? folded = none
    ↔ ∀ entry ∈ names, entry.2 ≠ "" → foldName entry.2 ≠ folded := by
  simp only [find?_ofNames, Option.map_eq_none_iff, List.find?_eq_none, List.mem_reverse,
    decide_eq_true_eq, not_and]

end Directory

/-! ### Places found anew -/

/-- What tells a place from others once it is looked up among the listed locations. -/
def PlaceKey.resolve (directory : Directory) : PlaceKey → PlaceKey
  | named id => named id
  | custom folded =>
    match directory.find? folded with
    | some id => named id
    | none => custom folded

lemma Place.key_resolve (directory : Directory) (p : Place) :
    (p.resolve directory).key = p.key.resolve directory := by
  cases p with
  | named id => rfl
  | custom text =>
      simp only [resolve, key, PlaceKey.resolve]
      cases directory.find? (foldName text) <;> rfl

namespace Store

/-- The places of an equipment's units, as they are stored. -/
def placeKeys (s : Store) (e : Int) : List PlaceKey :=
  (s.placementsOf e).filterMap fun row => row.2.place?.map Place.key

/-- The places of an equipment's units, each as it would be found now. -/
def resolvedKeys (s : Store) (e : Int) : List PlaceKey :=
  (s.placementsOf e).filterMap fun row =>
    row.2.place?.map fun place => (place.resolve s.directory).key

variable {s t : Store} {e : Int}

lemma resolvedKeys_eq (s : Store) (e : Int) :
    s.resolvedKeys e = (s.placeKeys e).map (PlaceKey.resolve s.directory) := by
  rw [placeKeys, List.map_filterMap, resolvedKeys]
  refine List.filterMap_congr fun row _ => ?_
  rw [Option.map_map]
  exact Option.map_congr fun place _ => Place.key_resolve _ place

lemma placeKeys_eq (s : Store) (e : Int) (row : EquipmentRow) :
    s.placeKeys e = (s.snapshot e row).placements.map fun p => p.place.key := by
  show _ = ((s.placementsOf e).filterMap placementOf?).map fun p => p.place.key
  rw [List.map_filterMap]
  refine List.filterMap_congr fun row _ => ?_
  rw [placementOf?, Option.map_map]
  rfl

/-- As they are stored, the places of an equipment's units are different. -/
lemma Sound.nodup_placeKeys (h : s.Sound) (e : Int) : (s.placeKeys e).Nodup := by
  cases hrow : s.equipments.find? e with
  | none =>
      rw [placeKeys, (h.unregistered e hrow).1]
      exact List.nodup_nil
  | some row =>
      rw [placeKeys_eq s e row]
      exact (h.ledgers e row hrow).places

/-- A location that is found is listed, under a name of that form. -/
lemma exists_row_of_find?_directory {folded : String} {id : Int}
    (h : s.directory.find? folded = some id) :
    ∃ row, s.locations.find? id = some row ∧ foldName row.name = folded := by
  obtain ⟨name, hname, hfolded⟩ := Directory.exists_name_of_find? h
  obtain ⟨row, hrow, heq⟩ := List.mem_map.1 (s.perm_locationNames.mem_iff.1 hname)
  obtain ⟨rfl, rfl⟩ := Prod.mk.inj heq
  exact ⟨row.2, Table.find?_of_mem hrow, hfolded⟩

/-- None is found if none is listed under a name of that form. -/
lemma find?_directory_eq_none_iff {folded : String} : s.directory.find? folded = none
    ↔ ∀ row ∈ s.locations.rows, row.2.name ≠ "" → foldName row.2.name ≠ folded := by
  simp only [directory, Directory.find?_ofNames_eq_none_iff, s.perm_locationNames.mem_iff,
    List.forall_mem_map]

/-- One location is not found under two names. -/
lemma eq_of_find?_directory {folded folded' : String} {id : Int}
    (h : s.directory.find? folded = some id) (h' : s.directory.find? folded' = some id) :
    folded = folded' := by
  obtain ⟨row, hrow, rfl⟩ := exists_row_of_find?_directory h
  obtain ⟨row', hrow', rfl⟩ := exists_row_of_find?_directory h'
  rw [Option.some.inj (hrow.symm.trans hrow')]

/-- Different places of an equipment are found to be the same exactly if one is a listed location
and another one a description of it. -/
theorem Sound.nodup_resolvedKeys_iff (h : s.Sound) (e : Int) :
    (s.resolvedKeys e).Nodup
      ↔ ∀ folded id, .custom folded ∈ s.placeKeys e → s.directory.find? folded = some id →
        .named id ∉ s.placeKeys e := by
  rw [resolvedKeys_eq]
  constructor
  · intro hnodup folded id hcustom hlisted hnamed
    have hsame : (PlaceKey.custom folded).resolve s.directory
        = (PlaceKey.named id).resolve s.directory := by
      simp only [PlaceKey.resolve, hlisted]
    cases List.inj_on_of_nodup_map hnodup hcustom hnamed hsame
  · intro hapart
    refine (h.nodup_placeKeys e).map_on fun k hk k' hk' hsame => ?_
    cases k with
    | named id =>
        cases k' with
        | named id' => exact hsame
        | custom folded' =>
            simp only [PlaceKey.resolve] at hsame
            split at hsame
            · rename_i listed hlisted
              rw [← PlaceKey.named.inj hsame] at hlisted
              exact absurd hk (hapart folded' id hk' hlisted)
            · cases hsame
    | custom folded =>
        cases k' with
        | named id' =>
            simp only [PlaceKey.resolve] at hsame
            split at hsame
            · rename_i listed hlisted
              rw [PlaceKey.named.inj hsame] at hlisted
              exact absurd hk' (hapart folded id' hk hlisted)
            · cases hsame
        | custom folded' =>
            simp only [PlaceKey.resolve] at hsame
            split at hsame
            · rename_i listed hlisted
              split at hsame
              · rename_i listed' hlisted'
                rw [← PlaceKey.named.inj hsame] at hlisted'
                rw [eq_of_find?_directory hlisted hlisted']
              · cases hsame
            · split at hsame
              · cases hsame
              · exact hsame

end Store

/-- Whatever orders make of the empty store, places of an equipment are found to be the same only
where a description means a location that has units as well. -/
theorem Store.Reached.nodup_resolvedKeys_iff {s : Store} (h : s.Reached) (e : Int) :
    (s.resolvedKeys e).Nodup
      ↔ ∀ folded id, .custom folded ∈ s.placeKeys e → s.directory.find? folded = some id →
        .named id ∉ s.placeKeys e :=
  h.sound.nodup_resolvedKeys_iff e

/-! ### Places of placements that are recorded anew -/

/-- Placements that are recorded are at places of the ledger, or at places that were found. -/
def Change.Places (s : Store) (before : Snapshot) (cs : List Change) : Prop :=
  ∀ ps, .replacePlacements ps ∈ cs → ∀ p ∈ ps,
    (∃ old ∈ before.placements, p.place = old.place)
      ∨ ∃ input, s.findPlace input = .ok (some p.place)

namespace Change

variable {s : Store} {before after : Snapshot} {cs : List Change}

lemma places_of_none (none : ∀ c ∈ cs, c.isReplacement = false) : Places s before cs :=
  fun _ hps => nomatch none _ hps

lemma places_of_replacement {ps : List Placement}
    (h : ∀ p ∈ ps, (∃ old ∈ before.placements, p.place = old.place)
      ∨ ∃ input, s.findPlace input = .ok (some p.place)) :
    Places s before [.replacePlacements ps] := by
  intro qs hqs
  obtain rfl := Change.replacePlacements.inj (List.mem_singleton.1 hqs)
  exact h

/-- After all changes every placement is at a place of the ledger, or at one that was found. -/
lemma Places.of_applyAll (h : Places s before cs) (applied : applyAll before cs = .ok after) :
    ∀ p ∈ after.placements, (∃ old ∈ before.placements, p.place = old.place)
      ∨ ∃ input, s.findPlace input = .ok (some p.place) := by
  suffices hall : ∀ m, (∀ p ∈ m.placements, (∃ old ∈ before.placements, p.place = old.place)
      ∨ ∃ input, s.findPlace input = .ok (some p.place)) → applyAll m cs = .ok after →
      ∀ p ∈ after.placements, (∃ old ∈ before.placements, p.place = old.place)
        ∨ ∃ input, s.findPlace input = .ok (some p.place) from
    hall before (fun p hp => Or.inl ⟨p, hp, rfl⟩) applied
  clear applied
  induction cs with
  | nil =>
      intro m hm happlied
      exact Except.ok.inj happlied ▸ hm
  | cons c rest ih =>
      intro m hm happlied
      obtain ⟨next, hc, hrest⟩ := exists_apply_of_applyAll happlied
      refine ih (fun ps hps => h ps (List.mem_cons_of_mem _ hps)) next ?_ hrest
      cases hreplaces : c.isReplacement with
      | false =>
          rw [Worksheet.apply_placements_eq hc hreplaces]
          exact hm
      | true =>
          cases c with
          | replacePlacements ps =>
              obtain rfl := Except.ok.inj hc
              exact h ps List.mem_cons_self
          | _ => cases hreplaces

end Change

lemma Equipments.places_setTotal {e total : Int} {user : Option Int} {s t : Store}
    {m : Mutation Summary} (h : setTotal e total user s = .ok m) :
    m.Prepares (Change.Places t) := by
  rw [(setTotal_eq_ok h).2]
  intro _ read work _ hwork
  rw [(prepareTotal_eq_ok hwork).2]
  exact Change.places_of_none (by simp [Change.isReplacement])

namespace Reservations

variable {s t : Store}

lemma places_reserve {r : ReserveRequest} {m : Mutation Answer} (h : reserve r s = .ok m) :
    m.Prepares (Change.Places t) := by
  obtain ⟨-, row, -, rfl⟩ := reserve_eq_ok h
  intro _ read work _ hwork
  rw [(prepareReserve_eq_ok hwork).2]
  refine Change.places_of_none ?_
  show ∀ c ∈ (reserveChanges r row read).1, _
  rw [reserveChanges]
  split
  · simp [Change.isReplacement]
  · split <;> simp [Change.isReplacement]

lemma places_change {r : ChangeRequest} {m : Mutation Answer} (h : change r s = .ok m) :
    m.Prepares (Change.Places t) := by
  obtain ⟨row, -, rfl⟩ := change_eq_ok h
  intro _ read work _ hwork
  obtain ⟨current, needed, transition, allocated, -, -, -, -, rfl⟩ := prepareChange_eq_ok hwork
  refine Change.places_of_none ?_
  rw [changeWork]
  split <;> simp [Change.isReplacement]

lemma places_remove {id : Int} {user : Option Int} {m : Mutation Removed}
    (h : remove id user s = .ok m) : m.Prepares (Change.Places t) := by
  obtain ⟨row, answer, -, rfl, -⟩ := remove_eq_ok h
  exact fun _ _ _ => Change.places_of_none (by simp [Change.isReplacement])

end Reservations

namespace Placements

variable {s : Store} {m : Mutation Answer}

lemma places_replace {r : ReplaceRequest} (h : replace r s = .ok m) :
    m.Prepares (Change.Places s) := by
  obtain ⟨row, placements, -, hplacements, rfl⟩ := replace_eq_ok h
  intro _ read work _ hwork
  rw [(prepareReplace_eq_ok hwork).2]
  exact Change.places_of_replacement fun p hp => Or.inr (found_of_readRows hplacements p hp)

lemma places_place {r : PlaceRequest} (h : place r s = .ok m) : m.Prepares (Change.Places s) := by
  obtain ⟨-, -, row, target, -, htarget, rfl⟩ := place_eq_ok h
  intro _ read work _ hwork
  rw [(preparePlace_eq_ok hwork).2]
  refine Change.places_of_replacement fun p hp => ?_
  rcases place_of_mem_addUnits hp with hold | rfl
  · exact Or.inl hold
  · exact Or.inr ⟨r.target, htarget⟩

lemma places_move {r : MoveRequest} (h : move r s = .ok m) : m.Prepares (Change.Places s) := by
  obtain ⟨row, target, -, htarget, rfl⟩ := move_eq_ok h
  intro _ read work _ hwork
  obtain ⟨source, moved, -, -, -, -, rfl⟩ := prepareMove_eq_ok hwork
  refine Change.places_of_replacement fun p hp => ?_
  rcases place_of_mem_moveUnits hp with hold | rfl
  · exact Or.inl hold
  · exact Or.inr ⟨r.target, htarget⟩

end Placements

namespace Installations

variable {s t : Store} {m : Mutation Answer}

lemma places_install {r : InstallRequest} {today : Date} (h : install r today s = .ok m) :
    m.Prepares (Change.Places t) := by
  obtain ⟨-, row, i, -, -, rfl⟩ := install_eq_ok h
  intro _ read work _ hwork
  rw [(prepareInstall_eq_ok hwork).2]
  exact Change.places_of_none (by simp [Change.isReplacement])

lemma places_bringBack {e : Int} {quantity user : Option Int}
    (h : bringBack e quantity user s = .ok m) : m.Prepares (Change.Places t) := by
  obtain ⟨row, -, rfl⟩ := bringBack_eq_ok h
  intro _ read work _ hwork
  obtain ⟨i, -, rfl⟩ := prepareReturn_eq_ok hwork
  exact Change.places_of_none (by simp [Change.isReplacement])

end Installations

namespace Order.Makes

variable {o : Order} {today : Date} {s : Store} {m : Mutation Json}

/-- What an order records is at places of the ledger, or at places that it has found. -/
theorem places (h : o.Makes today s m) : m.Prepares (Change.Places s) := by
  cases h with
  | setTotal made => exact (Equipments.places_setTotal made).map _
  | reserve made => exact (Reservations.places_reserve made).map _
  | changeReservation made => exact (Reservations.places_change made).map _
  | removeReservation made => exact (Reservations.places_remove made).map _
  | replacePlacements made => exact (Placements.places_replace made).map _
  | placeUnits made => exact (Placements.places_place made).map _
  | moveUnits made => exact (Placements.places_move made).map _
  | install made => exact (Installations.places_install made).map _
  | bringBack made => exact (Installations.places_bringBack made).map _

end Order.Makes

/-! ### Descriptions that are not listed -/

namespace Store

variable {s t : Store}

/-- Units are stored at a place described in words of this form. -/
def Describes (s : Store) (folded : String) : Prop :=
  ∃ row ∈ s.placements.rows, row.2.place?.map Place.key = some (.custom folded)

instance (s : Store) (folded : String) : Decidable (s.Describes folded) :=
  inferInstanceAs (Decidable (∃ row ∈ s.placements.rows,
    row.2.place?.map Place.key = some (.custom folded)))

/-- No location is listed under words that units are stored under. -/
def Unlisted (s : Store) : Prop :=
  ∀ folded, s.Describes folded → s.directory.find? folded = none

lemma describes_of_mem_placeKeys {e : Int} {folded : String}
    (h : .custom folded ∈ s.placeKeys e) : s.Describes folded := by
  obtain ⟨row, hrow, hkey⟩ := List.mem_filterMap.1 h
  exact ⟨row, (mem_placementsOf.1 hrow).1, hkey⟩

/-- A new location is not listed under words that units are stored under, unless they are its
own. -/
lemma Unlisted.enter (h : s.Unlisted) {now : Moment} {o : Order} (entered : s.Enters now o t)
    (first : ∀ r, o = .addLocation r → ¬ s.Describes (foldName r.name)) : t.Unlisted := by
  cases entered with
  | equipment r audits units fits noted => exact h
  | event r row => exact h
  | location r row audits words name noted =>
      intro folded hdescribes
      have hother : folded ≠ foldName (Text.normalise r.name) := by
        rintro rfl
        rw [foldName_normalise] at hdescribes
        exact first r rfl hdescribes
      rw [find?_directory_eq_none_iff]
      intro listed hlisted hgiven
      rw [Table.rows_insert, List.mem_append, List.mem_singleton] at hlisted
      rcases hlisted with hold | rfl
      · exact find?_directory_eq_none_iff.1 (h folded hdescribes) listed hold hgiven
      · exact fun hsame => hother (hsame.symm.trans (congrArg foldName name))

/-- The row of a placement after a commit is at a place that a row was at before, or at one that was
found. -/
lemma Commits.exists_place_of_row {found : Store} {p : Proposal} {now : Moment}
    {before after committed : Snapshot} {w : Worksheet}
    (commits : s.Commits p now before after w t committed)
    (proper : Change.Proper before p.changes) (places : Change.Places found before p.changes)
    {row : Int × PlacementRow} (hrow : row ∈ t.placements.rows) {k : PlaceKey}
    (hkey : row.2.place?.map Place.key = some k) :
    (∃ old ∈ s.placements.rows, old.2.place?.map Place.key = some k)
      ∨ ∃ input place, found.findPlace input = .ok (some place) ∧ place.key = k := by
  by_cases he : row.2.equipment = p.equipment
  · -- the row is read back as a placement at the place of one that was checked
    obtain ⟨equipment, -, hcommitted, -⟩ := commits.committed_eq
    obtain ⟨place, hplace, hsame⟩ := Option.map_eq_some_iff.1 hkey
    have hread : { id := some row.1, place, quantity := row.2.quantity
                   status := if row.2.status = "" then PlacementStatus.allocated.text
                     else row.2.status
                   notes := row.2.notes : Placement } ∈ committed.placements := by
      rw [hcommitted]
      refine List.mem_filterMap.2 ⟨row, mem_placementsOf.2 ⟨hrow, he⟩, ?_⟩
      rw [placementOf?, hplace]
      rfl
    obtain ⟨q, hq, hplaced, -⟩ := (commits.alike_of_proper proper).placements.exists_left hread
    have hqKey : q.place.key = k := hplaced.trans hsame
    rcases places.of_applyAll commits.applied q hq with ⟨old, hold, hplace'⟩ | ⟨input, hinput⟩
    · obtain ⟨equipment, -, -, rfl⟩ := ledger?_eq_ok.1 commits.read
      obtain ⟨row', hrow', hstored⟩ := List.mem_filterMap.1 hold
      obtain ⟨place', hplace'', rfl⟩ := Option.map_eq_some_iff.1 hstored
      refine Or.inl ⟨row', (mem_placementsOf.1 hrow').1, ?_⟩
      rw [hplace'', Option.map_some, ← hqKey, hplace']
    · exact Or.inr ⟨input, q.place, hinput, hqKey⟩
  · have hold : row ∈ s.placementsOf row.2.equipment := by
      rw [← commits.agreesBeside.placements row.2.equipment he]
      exact mem_placementsOf.2 ⟨hrow, rfl⟩
    exact Or.inl ⟨row, (mem_placementsOf.1 hold).1, hkey⟩

/-- A commit of placements at places of the ledger, or at places that were found among the same
locations. -/
lemma Unlisted.commit (h : s.Unlisted) {found : Store} {p : Proposal} {now : Moment}
    {before after committed : Snapshot} {w : Worksheet}
    (commits : s.Commits p now before after w t committed)
    (proper : Change.Proper before p.changes) (places : Change.Places found before p.changes)
    (locations : s.locations = found.locations) : t.Unlisted := by
  rintro folded ⟨row, hrow, hkey⟩
  rw [directory_congr commits.agreesBeside.locations]
  rcases commits.exists_place_of_row proper places hrow hkey with
    ⟨old, hold, hkey'⟩ | ⟨input, place, hfound, hkey'⟩
  · exact h folded ⟨old, hold, hkey'⟩
  · rw [directory_congr locations]
    rcases findPlace_eq_ok hfound with ⟨id, row', rfl, -⟩ | ⟨text, rfl, -, -, hnone⟩
    · cases hkey'
    · exact PlaceKey.custom.inj hkey' ▸ hnone

/-- An order that lists no location under words that units are stored under. -/
theorem Unlisted.fulfil {desk : Desk} {call : Call} {o : Order} (h : desk.store.Unlisted)
    (alone : call.rivals = [])
    (first : ∀ r, o = .addLocation r → ¬ desk.store.Describes (foldName r.name)) :
    (desk.fulfil call o).desk.store.Unlisted := by
  have hbecomes : desk.store.Becomes call.now o (desk.fulfil call o).desk.store :=
    Desk.becomes_fulfil alone o
  generalize (desk.fulfil call o).desk.store = t at hbecomes ⊢
  cases hbecomes with
  | same => exact h
  | entered enters => exact h.enter enters first
  | committed shows locations makes ready commits =>
      exact h.commit commits (makes.proper.of_readies commits.read ready)
        (makes.places.of_readies commits.read ready) locations

/-- A store that orders have made of the empty one, none of which lists a location under words that
units are stored under already. -/
inductive ReachedListedFirst : Store → Prop where
  | empty : ReachedListedFirst Store.empty
  | order (desk : Desk) (call : Call) (o : Order) (h : ReachedListedFirst desk.store)
      (alone : call.rivals = [])
      (first : ∀ r, o = .addLocation r → ¬ desk.store.Describes (foldName r.name)) :
      ReachedListedFirst (desk.fulfil call o).desk.store

namespace ReachedListedFirst

lemma reached (h : s.ReachedListedFirst) : s.Reached := by
  induction h with
  | empty => exact .empty
  | order desk call o _ alone _ ih => exact .order desk call o ih alone

lemma unlisted (h : s.ReachedListedFirst) : s.Unlisted := by
  induction h with
  | empty =>
      rintro folded ⟨row, hrow, -⟩
      exact absurd hrow List.not_mem_nil
  | order desk call o _ alone first ih => exact ih.fulfil alone first

/-- If every location is listed before units are stored under its words, no two placements of an
equipment are found to be at the same place. -/
theorem nodup_resolvedKeys (h : s.ReachedListedFirst) (e : Int) : (s.resolvedKeys e).Nodup := by
  refine (h.reached.nodup_resolvedKeys_iff e).2 fun folded id hcustom hlisted => ?_
  rw [h.unlisted folded (describes_of_mem_placeKeys hcustom)] at hlisted
  cases hlisted

end ReachedListedFirst

/-- Three lamps are registered and a rack is listed. Two lamps are put there by its name and one on
a shelf, and a bench is listed. -/
def rackListedFirst : Store :=
  (({} : Desk).fulfilAll
    [({ now := default }, .register { name := some "Lamp", total := 3 }),
      ({ now := default }, .addLocation { name := "Rack A" }),
      ({ now := default },
        .placeUnits { equipment := 1, target := { name := some "rack a" }, quantity := 2 }),
      ({ now := default },
        .placeUnits { equipment := 1, target := { name := some "Shelf" }, quantity := 1 }),
      ({ now := default }, .addLocation { name := "Bench" })]).store

/-- The lamps are at the rack and at the shelf. -/
theorem ReachedListedFirst.nodup_resolvedKeys_rackListedFirst :
    rackListedFirst.ReachedListedFirst
      ∧ rackListedFirst.resolvedKeys 1 = [.named 1, .custom "shelf"]
      ∧ (rackListedFirst.resolvedKeys 1).Nodup := by
  have hreached : rackListedFirst.ReachedListedFirst := by
    refine .order _ _ _ (.order _ _ _ (.order _ _ _ (.order _ _ _ (.order _ _ _ .empty rfl ?_)
      rfl ?_) rfl ?_) rfl ?_) rfl ?_
    · exact fun r hr => nomatch hr
    · intro r hr
      cases hr
      decide +kernel
    · exact fun r hr => nomatch hr
    · exact fun r hr => nomatch hr
    · intro r hr
      cases hr
      decide +kernel
  exact ⟨hreached, by decide +kernel, hreached.nodup_resolvedKeys 1⟩

/-- Three lamps are registered, and two of them are put at a rack that is not listed yet. Then it is
listed, and the third lamp is put at the listed rack. -/
def rackListedLast : Store :=
  (({} : Desk).fulfilAll
    [({ now := default }, .register { name := some "Lamp", total := 3 }),
      ({ now := default },
        .placeUnits { equipment := 1, target := { name := some "Rack A" }, quantity := 2 }),
      ({ now := default }, .addLocation { name := "Rack A" }),
      ({ now := default },
        .placeUnits { equipment := 1, target := { id := some 1 }, quantity := 1 })]).store

/-- The lamps are in two placements at the one rack. -/
theorem Reached.resolvedKeys_rackListedLast :
    rackListedLast.Reached ∧ rackListedLast.resolvedKeys 1 = [.named 1, .named 1]
      ∧ ¬ (rackListedLast.resolvedKeys 1).Nodup := by
  have htwice : rackListedLast.resolvedKeys 1 = [.named 1, .named 1] := by decide +kernel
  refine ⟨.order _ _ _ (.order _ _ _ (.order _ _ _ (.order _ _ _ .empty rfl) rfl) rfl) rfl, htwice,
    ?_⟩
  rw [htwice]
  decide

end Store

end StageStock
