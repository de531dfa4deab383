import Mathlib.Tactic.Lemma
import StageStock.Proofs.Drafts
import StageStock.Proofs.PlaceRows
import StageStock.Proofs.Plans
import StageStock.Proofs.Restating

/-!
Whole sets of placements.

A whole set is submitted to take the place of all that is recorded. Whether it is accepted depends
on its rows and on what shows and installation hold, and on nothing that is recorded of placements:
these may stand in several rows for one place, or be at no place at all. What is left afterwards is
the set that was submitted. The first row for a place is used for it again, and all others go.

* `Store.findPlace_eq_some_iff`: which inputs name a place, and which one;
* `Placements.readRows_eq_ok_iff`: which rows are read, and as what;
* `Placements.TakenOver`, `Placements.Records`: the rows that are used again, and what is recorded;
* `Desk.replace_succeeds_iff`: exactly when a whole set is accepted, and what becomes of it.
-/

namespace StageStock

/-! ### Places that are named -/

/-- One place is named: a listed location by its id without words, or any place in words. -/
def Place.Input.NamesOne (s : Store) (input : Place.Input) : Prop :=
  match input.id with
  | some id => Text.normalise? input.name = "" ∧ 0 < id ∧ (s.locations.find? id).isSome = true
  | none => Text.normalise? input.name ≠ ""

instance (s : Store) (input : Place.Input) : Decidable (input.NamesOne s) :=
  match input with
  | ⟨some id, name⟩ => inferInstanceAs (Decidable
      (Text.normalise? name = "" ∧ 0 < id ∧ (s.locations.find? id).isSome = true))
  | ⟨none, name⟩ => inferInstanceAs (Decidable (Text.normalise? name ≠ ""))

/-- The place that is named. Words that a location is listed under stand for that location. -/
def Store.placeNamed (s : Store) (input : Place.Input) : Place :=
  match input.id with
  | some id => .named id
  | none => (Place.custom (Text.normalise? input.name)).resolve s.directory

namespace Store

variable {s : Store} {place : Place} {input : Place.Input}

/-- A listed location can be looked up, if its id can be stored. -/
lemma location?_of_find? (wide : ∀ row ∈ s.locations.rows, fitsWord row.1 = true) {id : Int}
    {row : LocationRow} (h : s.locations.find? id = some row) : s.location? id = .ok row :=
  location?_eq_ok.2 ⟨wide _ (Table.find?_eq_some_iff.1 h), h⟩

/-- A place is found exactly under the inputs that name it. -/
theorem findPlace_eq_some_iff (wide : ∀ row ∈ s.locations.rows, fitsWord row.1 = true) :
    s.findPlace input = .ok (some place) ↔ input.NamesOne s ∧ place = s.placeNamed input := by
  rw [findPlace_eq_some_iff_resolve]
  constructor
  · rintro ⟨given, hgiven, rfl, hlisted⟩
    rcases Place.ofInput_eq_some_iff.1 hgiven with
      ⟨id, name, rfl, hblank, hpositive, rfl⟩ | ⟨text, rfl, hwords, rfl⟩
    · obtain ⟨row, hrow⟩ := hlisted id rfl
      exact ⟨⟨hblank, hpositive, Option.isSome_of_eq_some (location?_eq_ok.1 hrow).2⟩, rfl⟩
    · exact ⟨hwords, rfl⟩
  · rintro ⟨hone, rfl⟩
    obtain ⟨_ | id, name⟩ := input
    · obtain _ | text := name
      · exact absurd (by decide) hone
      · refine ⟨.custom (Text.normalise text),
          Place.ofInput_eq_some_iff.2 (Or.inr ⟨text, rfl, hone, rfl⟩), rfl, fun id hsame => ?_⟩
        -- a location that words are resolved to stands in the directory, so that it is listed
        have hresolved : (Place.custom (Text.normalise text)).resolve s.directory = .named id := hsame
        rw [Place.resolve] at hresolved
        cases hfound : s.directory.find? (foldName (Text.normalise text)) with
        | none =>
            rw [hfound] at hresolved
            cases hresolved
        | some listed =>
            rw [hfound] at hresolved
            obtain rfl := Place.named.inj hresolved
            obtain ⟨row, hrow, -⟩ := exists_row_of_find?_directory hfound
            exact ⟨row, location?_of_find? wide hrow⟩
    · obtain ⟨hblank, hpositive, hlisted⟩ := hone
      obtain ⟨row, hrow⟩ := Option.isSome_iff_exists.1 hlisted
      refine ⟨.named id,
        Place.ofInput_eq_some_iff.2 (Or.inl ⟨id, name, rfl, hblank, hpositive, rfl⟩), rfl,
        fun _ hsame => ⟨row, ?_⟩⟩
      exact Place.named.inj hsame ▸ location?_of_find? wide hrow

end Store

/-! ### Rows that can be submitted -/

namespace Placements

variable {s : Store} {row : Row} {rows : List Row} {p : Placement} {ps : List Placement}

/-- A row can be submitted if it names one place, and if it has units in a known state or in no
state that it tells. -/
structure Row.Acceptable (s : Store) (row : Row) : Prop where
  place : row.place.NamesOne s
  units : 1 ≤ row.quantity
  status : ∀ text, row.status = some text → text = "" ∨ ∃ known : PlacementStatus, known.text = text

/-- The place that a row is for. -/
def Row.key (s : Store) (row : Row) : PlaceKey :=
  (s.placeNamed row.place).key

/-- The placement that a row stands for. -/
def Row.placement (s : Store) (row : Row) : Placement :=
  { id := none, place := s.placeNamed row.place, quantity := row.quantity, status := row.statusText
    notes := row.notes }

lemma Row.isKnown_statusText_iff : PlacementStatus.isKnown row.statusText = true
    ↔ ∀ text, row.status = some text →
      text = "" ∨ ∃ known : PlacementStatus, known.text = text := by
  rw [Row.statusText]
  cases row.status with
  | none => simp [PlacementStatus.isKnown_iff]
  | some text => by_cases hempty : text = "" <;> simp [hempty, PlacementStatus.isKnown_iff]

/-- The rows that mean a placement are those that can be submitted. -/
lemma Row.means_iff (wide : ∀ row ∈ s.locations.rows, fitsWord row.1 = true) :
    row.Means s p ↔ row.Acceptable s ∧ p = row.placement s := by
  constructor
  · rintro ⟨hfound, hunits, hknown, heq⟩
    obtain ⟨hnames, hplace⟩ := (Store.findPlace_eq_some_iff wide).1 hfound
    exact ⟨⟨hnames, hunits, isKnown_statusText_iff.1 hknown⟩, by rw [heq, hplace, placement]⟩
  · rintro ⟨⟨hnames, hunits, hstatus⟩, rfl⟩
    exact ⟨(Store.findPlace_eq_some_iff wide).2 ⟨hnames, rfl⟩, hunits,
      isKnown_statusText_iff.2 hstatus, rfl⟩

/-- Rows are read exactly if each can be submitted and no two are for one place, and then as the
placements that they stand for. -/
theorem readRows_eq_ok_iff (wide : ∀ row ∈ s.locations.rows, fitsWord row.1 = true) :
    readRows s rows 0 [] = .ok ps
      ↔ (∀ row ∈ rows, row.Acceptable s) ∧ (rows.map (Row.key s)).Nodup
        ∧ ps = rows.map (Row.placement s) := by
  have hmeans : List.Forall₂ (Row.Means s) rows ps
      ↔ (∀ row ∈ rows, row.Acceptable s) ∧ rows.map (Row.placement s) = ps := by
    have hrow : Row.Means s = fun row p => row.Acceptable s ∧ row.placement s = p := by
      ext row p
      rw [Row.means_iff wide, eq_comm (a := p)]
    rw [hrow, List.forall₂_and_left, ← List.forall₂_map_left_iff, List.forall₂_eq_eq_eq]
  have hkeys : (rows.map (Row.placement s)).map (fun p => p.place.key) = rows.map (Row.key s) := by
    rw [List.map_map]
    rfl
  constructor
  · intro h
    obtain ⟨hrows, rfl⟩ := hmeans.1 (means_of_readRows h)
    exact ⟨hrows, hkeys ▸ (keys_of_readRows h).1, rfl⟩
  · rintro ⟨hrows, hnodup, rfl⟩
    exact readRows_of_means (hmeans.2 ⟨hrows, rfl⟩) (hkeys ▸ hnodup) 0 fun _ _ => rfl

end Placements

/-! ### The rows that are used again -/

namespace Store

variable {s : Store} {e : Int} {row : Int × PlacementRow} {ps : List Placement}

/-- A row is used again for a placement if it is the first one for its place. -/
lemma seat?_eq_some_iff_le (listed : row ∈ s.placementsOf e) {p : Placement} :
    ({ store := s } : Worksheet).seat? e p = some row.1
      ↔ row.2.key? = some p.place.key
        ∧ ∀ other ∈ s.placementsOf e, other.2.key? = some p.place.key → row.1 ≤ other.1 := by
  rw [Worksheet.seat?_eq, Option.map_eq_some_iff]
  constructor
  · rintro ⟨first, hfirst, hid⟩
    obtain rfl := eq_of_listed (List.mem_of_find?_eq_some hfirst) listed hid
    exact ⟨of_decide_eq_true (List.find?_some hfirst :), fun other hother hkey =>
      Table.le_of_find?_select hfirst hother (decide_eq_true hkey)⟩
  · rintro ⟨hkey, hleast⟩
    obtain ⟨first, hfirst⟩ : ∃ first, ((s.placementsOf e).find? fun row =>
        row.2.place?.map Place.key = some p.place.key) = some first :=
      Option.isSome_iff_exists.1 (List.find?_isSome.2 ⟨row, listed, decide_eq_true hkey⟩)
    exact ⟨first, hfirst, Int.le_antisymm
      (Table.le_of_find?_select hfirst listed (decide_eq_true hkey))
      (hleast first (List.mem_of_find?_eq_some hfirst)
        (of_decide_eq_true (List.find?_some hfirst :)))⟩

end Store

namespace Placements

variable {s t : Store} {e : Int} {rows : List Row} {row : Int × PlacementRow}

/-- A row is taken over by a whole set: a row of the set is for its place, and it is the first of
those that are. -/
structure TakenOver (s : Store) (e : Int) (rows : List Row) (row : Int × PlacementRow) : Prop where
  asked : ∃ submitted ∈ rows, row.2.key? = some (submitted.key s)
  least : ∀ other ∈ s.placementsOf e, other.2.key? = row.2.key? → row.1 ≤ other.1

/-- What is recorded of a whole set. -/
structure Records (s : Store) (e : Int) (rows : List Row) (t : Store) : Prop where
  /-- The rows of the equipment are those of the set, each at its place. -/
  recorded : ((t.placementsOf e).map fun row =>
      (row.2.key?, row.2.quantity, row.2.status, row.2.notes)).Perm
    (rows.map fun row => (some (row.key s), row.quantity, row.statusText, row.notes))
  /-- A row that is taken over is for the same place, and still tells who entered it and when. -/
  kept : ∀ row ∈ s.placementsOf e, TakenOver s e rows row →
    ∃ now, t.placements.find? row.1 = some now ∧ now.equipment = e ∧ now.key? = row.2.key?
      ∧ now.placedBy = row.2.placedBy ∧ now.placedAt = row.2.placedAt
  /-- Any other row is gone. -/
  gone : ∀ row ∈ s.placementsOf e, ¬ TakenOver s e rows row → t.placements.find? row.1 = none

/-- The rows that are taken over are those in which a placement of the set is written. -/
lemma isSome_owner?_iff (listed : row ∈ s.placementsOf e) :
    (s.owner? e (rows.map (Row.placement s)) row).isSome = true ↔ TakenOver s e rows row := by
  rw [Store.owner?, List.find?_isSome]
  simp only [List.mem_map, exists_exists_and_eq_and, decide_eq_true_iff,
    Store.seat?_eq_some_iff_le listed]
  constructor
  · rintro ⟨submitted, hsubmitted, hkey, hleast⟩
    exact ⟨⟨submitted, hsubmitted, hkey⟩, fun other hother hsame =>
      hleast other hother (hsame.trans hkey)⟩
  · rintro ⟨⟨submitted, hsubmitted, hkey⟩, hleast⟩
    exact ⟨submitted, hsubmitted, hkey, fun other hother hsame =>
      hleast other hother (hsame.trans hkey.symm)⟩

/-- What a commit of a whole set has recorded. -/
lemma records_of_commits {p : Proposal} {now : Moment} {before after committed : Snapshot}
    {w : Worksheet} (commits : s.Commits p now before after w t committed)
    (replaced : p.changes = [.replacePlacements (rows.map (Row.placement s))])
    (plain : ∀ row ∈ rows, (s.placeNamed row.place).reread = some (s.placeNamed row.place)) :
    Records s p.equipment rows t := by
  have hshown (q : Placement) (row : PlacementRow) :
      (Worksheet.placementRow (p.author now) q row).key? = q.place.reread.map Place.key := by
    rw [← Place.ofColumns_columns]
    rfl
  refine ⟨?_, fun row hrow htaken => ?_, fun row hrow htaken => ?_⟩
  · have hcontent := Worksheet.map_rows_replacePlacements (s := s) (a := p.author now)
      (fun row => (row.key?, row.quantity, row.status, row.notes))
      (fun q => (q.place.reread.map Place.key, q.quantity, q.status, q.notes))
      (fun q row => by rw [hshown]; rfl) (commits.nodup_replaced replaced)
    have hwritten := commits.written
    rw [replaced] at hwritten
    obtain rfl := Except.ok.inj hwritten
    rw [Store.placementsOf, commits.tables_eq.1]
    refine hcontent.trans (.of_eq ?_)
    rw [List.map_map]
    refine List.map_congr_left fun row hrow => ?_
    show ((s.placeNamed row.place).reread.map Place.key, _) = _
    rw [plain row hrow]
    rfl
  · obtain ⟨q, howner⟩ := Option.isSome_iff_exists.1 ((isSome_owner?_iff hrow).2 htaken)
    obtain ⟨submitted, hsubmitted, rfl⟩ := List.mem_map.1 (List.mem_of_find?_eq_some howner)
    obtain ⟨hkey, -⟩ := (Store.seat?_eq_some_iff_le hrow).1
      (of_decide_eq_true (List.find?_some howner :))
    refine ⟨_, commits.find?_of_owner? replaced hrow howner, (Store.mem_placementsOf.1 hrow).2,
      (hshown _ _).trans ?_, rfl, rfl⟩
    rw [hkey, Row.placement, plain submitted hsubmitted]
    rfl
  · have howner : s.owner? p.equipment (rows.map (Row.placement s)) row = none :=
      Option.not_isSome_iff_eq_none.1 fun hsome => htaken ((isSome_owner?_iff hrow).1 hsome)
    exact commits.find?_of_no_owner? replaced hrow howner

/-- The set is prepared exactly if it has no more units than shows and installation leave. -/
lemma exists_prepareReplace_iff {ledger : Snapshot} :
    (∃ work, prepareReplace e (rows.map (Row.placement s)) ledger = .ok work)
      ↔ addUp (rows.map Row.quantity) ≤ ledger.total - ledger.reserved - ledger.installed := by
  have hquantities : (rows.map (Row.placement s)).map Placement.quantity
      = rows.map Row.quantity := by
    rw [List.map_map]
    rfl
  have hbound : ledger.distributable = ledger.total - ledger.reserved - ledger.installed := by
    simp only [Snapshot.distributable, Snapshot.inStore, Snapshot.committed]
    omega
  rw [← hquantities, ← hbound]
  constructor
  · rintro ⟨work, hwork⟩
    exact (prepareReplace_eq_ok hwork).1
  · exact fun henough => ⟨_, if_neg (Int.not_lt.2 henough)⟩

/-- The numbers of a set that leaves a sound ledger can be stored. -/
lemma fits_of_readRows {ledger : Snapshot} {ps : List Placement} (stored : s.fits = true)
    (read : s.ledger? e = .ok ledger) (h : readRows s rows 0 [] = .ok ps)
    (sound : ({ ledger with placements := ps } : Snapshot).IsSound) :
    (Change.replacePlacements ps).Fits := by
  have hstore : addUp (ps.map Placement.quantity) ≤ ledger.total := by
    have hbounds := sound.distributable_bounds.2
    have hinStore := sound.inStore_nonneg
    rw [Snapshot.distributable, Snapshot.placed] at hbounds
    exact (Int.le_add_of_nonneg_left hinStore).trans hbounds
  refine Store.fits_replacePlacements stored read sound.placements hstore fun p hp => ?_
  obtain ⟨input, hinput⟩ := found_of_readRows h p hp
  exact Store.fits_of_findPlace hinput

lemma answers_of_replace {r : ReplaceRequest} (m : Mutation Answer) (h : replace r s = .ok m) :
    m.Answers := by
  obtain ⟨row, ps, -, -, rfl⟩ := replace_eq_ok h
  exact Mutation.answers_of_orderly rfl (orderly_prepareReplace r.equipment ps)

end Placements

/-! ### Whole sets at the desk -/

namespace Desk

open Placements

variable {desk : Desk} {call : Call} {ledger : Snapshot} {r : ReplaceRequest}

/-- A whole set that nothing hinders is accepted exactly if each of its rows can be submitted, no
two are for one place, they have no more units than shows and installation leave, and the user who
asks and the next version of the ledger can be stored. No rule need hold of the placements that are
recorded before. Afterwards just the set is recorded. Whenever it is not accepted, nothing
changes. -/
theorem replace_succeeds_iff (read : desk.store.ledger? r.equipment = .ok ledger)
    (sound : ledger.SoundButPlaced)
    (wide : ∀ row ∈ desk.store.locations.rows, fitsWord row.1 = true)
    (stored : desk.store.fits = true) (unhindered : desk.Unhindered call r.equipment) :
    let o := desk.mutate call (replace r)
    ((∃ answer, o.result = .ok answer)
        ↔ (∀ row ∈ r.rows, row.Acceptable desk.store)
          ∧ (r.rows.map (Row.key desk.store)).Nodup
          ∧ addUp (r.rows.map Row.quantity) ≤ ledger.total - ledger.reserved - ledger.installed
          ∧ fitsWord? r.user = true ∧ fitsWord (ledger.version + 1) = true)
      ∧ ((∃ answer, o.result = .ok answer) →
        Records desk.store r.equipment r.rows o.desk.store)
      ∧ ∀ failure, o.result = .error failure → o = { result := .error failure, desk } := by
  intro o
  have hfailed : ∀ failure, o.result = .error failure → o = { result := .error failure, desk } :=
    fun failure => mutate_of_error unhindered.alone answers_of_replace
  by_cases hrows : (∀ row ∈ r.rows, row.Acceptable desk.store)
    ∧ (r.rows.map (Row.key desk.store)).Nodup
  · obtain ⟨equipment, hfits, hequipment, -⟩ := Store.ledger?_eq_ok.1 read
    have hps := (readRows_eq_ok_iff wide).2 ⟨hrows.1, hrows.2, rfl⟩
    have hm : replace r desk.store = .ok
        { equipment := r.equipment, user := r.user
          preparation := .fromLedger
            (prepareReplace r.equipment (r.rows.map (Row.placement desk.store))) } := by
      rw [replace, Store.equipment?_eq_ok.2 ⟨hfits, hequipment⟩, hps]
      rfl
    obtain ⟨hiff, hmade, -⟩ := mutate_prepared unhindered hm rfl
      (orderly_prepareReplace r.equipment _) (proper_replace hm) stored read fun work hwork => by
        obtain ⟨henough, rfl⟩ := prepareReplace_eq_ok hwork
        have hsound := sound.withPlacements (sound_of_readRows hps) (keys_of_readRows hps).1 henough
        exact ⟨_, _, rfl, hsound, rfl, fun c hc => List.mem_singleton.1 hc ▸
          fits_of_readRows stored read hps hsound⟩
    rw [exists_prepareReplace_iff] at hiff
    refine ⟨hiff.trans ⟨fun h => ⟨hrows.1, hrows.2, h⟩, fun h => h.2.2⟩, fun hok => ?_, hfailed⟩
    obtain ⟨work, after, w, t, committed, hwork, hcommits, hdesk⟩ := hmade hok
    obtain ⟨-, rfl⟩ := prepareReplace_eq_ok hwork
    rw [hdesk]
    exact records_of_commits hcommits rfl fun row hrow => Store.reread_of_findPlace
      ((Store.findPlace_eq_some_iff wide).2 ⟨(hrows.1 row hrow).place, rfl⟩)
  · -- rows that are not read are declined before the ledger is
    have hrefused : ¬ ∃ answer, o.result = .ok answer := by
      rintro ⟨answer, hanswer⟩
      obtain ⟨m, -, -, -, -, -, -, hm, -⟩ :=
        commits_of_mutate_ok unhindered.alone answers_of_replace hanswer
      obtain ⟨-, ps, -, hps, -⟩ := replace_eq_ok hm
      obtain ⟨hacceptable, hkeys, -⟩ := (readRows_eq_ok_iff wide).1 hps
      exact hrows ⟨hacceptable, hkeys⟩
    exact ⟨iff_of_false hrefused fun h => hrows ⟨h.1, h.2.1⟩, fun hok => absurd hok hrefused,
      hfailed⟩

end Desk

/-- Five lamps, at some version of their ledger, whose placements are in disorder: two rows are for
the shelf, one for the rack has less than no units in an unknown state, and one is for no place. -/
def Store.lampsInDisorder (version : Int) : Store :=
  { equipments := Table.empty.insert { name := some "Lamp", total := 5, version }
    locations := Table.empty.insert { name := "Rack A" }
    placements := (((Table.empty.insert
      { equipment := 1, placeText := some "Shelf", quantity := 4 }).insert
      { equipment := 1, placeText := some "shelf", quantity := 4 }).insert
      { equipment := 1, placeId := some 1, quantity := -1, status := "unheard of" }).insert
      { equipment := 1, quantity := 2 } }

namespace Desk

open Placements

/-- The lamps are put in order: two at the shelf and three at the rack, in the first rows for each.
Four at the rack would be more than there are. -/
theorem replace_succeeds_iff_disorder :
    let desk : Desk := { store := .lampsInDisorder 7 }
    let asks (atRack : Int) : ReplaceRequest :=
      { equipment := 1
        rows := [{ place := { name := some "SHELF" }, quantity := 2 },
          { place := { id := some 1 }, quantity := atRack, status := some "" }] }
    (∃ answer, (desk.mutate { now := default } (replace (asks 3))).result = .ok answer)
      ∧ (((desk.mutate { now := default } (replace (asks 3))).desk.store.placementsOf 1).map
          fun row => (row.2.key?, row.2.quantity, row.2.status, row.2.notes)).Perm
        [(some (.custom "shelf"), 2, "allocated", none), (some (.named 1), 3, "allocated", none)]
      ∧ (desk.mutate { now := default } (replace (asks 3))).desk.store.placements.find? 2 = none
      ∧ ¬ ∃ answer, (desk.mutate { now := default } (replace (asks 4))).result = .ok answer := by
  intro desk asks
  have hread : desk.store.ledger? 1 = .ok (desk.store.snapshot 1
      { name := some "Lamp", total := 5, version := 7 }) :=
    Store.ledger?_eq_ok.2 ⟨_, by decide, rfl, rfl⟩
  have hasked (atRack : Int) := @replace_succeeds_iff desk { now := default } _ (asks atRack)
    hread ⟨by decide, List.forall_mem_nil _, List.nodup_nil, by decide, by decide, by decide,
      by decide⟩ (by decide +kernel) (by decide +kernel) ⟨rfl, rfl, rfl⟩
  obtain ⟨hiff, hrecords, -⟩ := hasked 3
  have hrows : ∀ row ∈ (asks 3).rows, row.Acceptable desk.store := by
    intro row hrow
    rcases List.mem_pair.1 hrow with rfl | rfl
    · exact ⟨by decide +kernel, by decide, by simp⟩
    · exact ⟨by decide +kernel, by decide, by simp⟩
  have haccepted := hiff.2 ⟨hrows, by decide +kernel, by decide +kernel, rfl, by decide⟩
  obtain ⟨hrecorded, -, hgone⟩ := hrecords haccepted
  -- the first row for the shelf comes before the second
  have hlater : ¬ TakenOver desk.store 1 (asks 3).rows
      (2, { equipment := 1, placeText := some "shelf", quantity := 4 }) := fun htaken =>
    absurd (htaken.least (1, { equipment := 1, placeText := some "Shelf", quantity := 4 })
      (by decide +kernel) (by decide +kernel)) (by decide)
  have hset : ((asks 3).rows.map fun row =>
      (some (row.key desk.store), row.quantity, row.statusText, row.notes))
        = [(some (.custom "shelf"), 2, "allocated", none),
          (some (.named 1), 3, "allocated", none)] := by decide +kernel
  rw [hset] at hrecorded
  have hdropped := hgone _ (by decide +kernel) hlater
  refine ⟨haccepted, ?_, hdropped, fun hgranted =>
    absurd ((hasked 4).1.1 hgranted).2.2.1 (by decide +kernel)⟩
  with_reducible exact hrecorded

/-- At the largest version that can be stored, a set of one lamp at the rack is declined. -/
theorem not_replace_succeeds_shelf :
    (∃ ledger, (Store.lampsOnShelf 0x7FFFFFFFFFFFFFFF).ledger? 1 = .ok ledger
        ∧ ledger.violations = [] ∧ ledger.distributable = 5)
      ∧ (({ store := .lampsOnShelf 0x7FFFFFFFFFFFFFFF } : Desk).mutate { now := default }
        (replace { equipment := 1, rows := [{ place := { id := some 1 }, quantity := 1 }] })).result
          = .error .numberTooWide :=
  ⟨⟨_, Store.ledger?_eq_ok.2 ⟨_, by decide, rfl, rfl⟩, by decide +kernel, by decide +kernel⟩, rfl⟩

end Desk

end StageStock
