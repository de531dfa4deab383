import Mathlib.Tactic.Lemma
import StageStock.Proofs.Reseating
import StageStock.Proofs.Returning

/-!
Whatever is granted can be given back.

Units are granted to a show, to a place or to an installation. Where there was nothing before, the
ledger of the start is reached again, but for its version, as soon as the reservation has been
removed or returned, all units of the place have been moved back, or the installation has been
brought back, whatever was granted in between.

* `Order.ToPlace`: orders for one place;
* `Store.AddsAt`: a ledger with units at a place and certain placements elsewhere; orders for the
  place leave those alone (`Desk.addsAt_fulfil`);
* `Desk.givesBack_of_place`: a place gives back;
* `Desk.givesBack_of_install`: an installation is given back;
* `Desk.givesBack`: shows, places and installations do, if the version of the ledger can be raised.
-/

namespace StageStock

/-! ### Orders for one place -/

namespace Order

/-- An order to bring units of an equipment to a place. -/
inductive ToPlace (key : PlaceKey) (e : Int) (s : Store) : Order → Prop where
  | placeUnits (r : Placements.PlaceRequest) (own : r.equipment = e) (place : Place)
      (found : s.findPlace r.target = .ok (some place)) (there : place.key = key) :
      ToPlace key e s (.placeUnits r)

lemma ToPlace.within {o : Order} {s : Store} {key : PlaceKey} {e : Int} (h : o.ToPlace key e s) :
    o.equipment? s = some e ∧ o.bucket? s = some .placements := by
  obtain ⟨r, rfl, place, -, -⟩ := h
  exact ⟨rfl, rfl⟩

end Order

/-! ### Placements -/

namespace Placements

variable {ps : List Placement} {q source : Placement}

/-- Units brought to a place change nothing elsewhere. -/
lemma mem_addUnits_elsewhere {r : PlaceRequest} {target : Place}
    (other : q.place.key ≠ target.key) :
    q ∈ addUnits r target ps ↔ q ∈ ps := by
  have htopped : q ∈ ps.map (topUp r target) ↔ q ∈ ps := by
    rw [List.mem_map]
    constructor
    · rintro ⟨old, hold, rfl⟩
      rw [place_topUp] at other
      rwa [topUp, if_neg other]
    · exact fun hq => ⟨q, hq, by rw [topUp, if_neg other]⟩
  rw [addUnits_eq, List.mem_append, htopped, or_iff_left_iff_imp]
  split
  · exact fun hnone => absurd hnone List.not_mem_nil
  · intro hnew
    rw [List.mem_singleton.1 hnew] at other
    exact absurd rfl other

/-- Units brought to a place are there. -/
lemma exists_mem_addUnits (r : PlaceRequest) (target : Place) (ps : List Placement) :
    ∃ q ∈ addUnits r target ps, q.place.key = target.key := by
  rw [addUnits_eq]
  split
  · rename_i hthere
    obtain ⟨old, hold, hkey⟩ := List.any_eq_true.1 hthere
    refine ⟨topUp r target old, List.mem_append_left _ (List.mem_map_of_mem hold), ?_⟩
    rw [place_topUp]
    exact of_decide_eq_true hkey
  · exact ⟨_, List.mem_append_right _ (List.mem_singleton_self _), rfl⟩

/-- When all units of a placement go back to the store, the placement is gone and the others
stay. -/
lemma mem_moveUnits_all (ids : (ps.map Placement.id).Nodup) (listed : source ∈ ps) :
    q ∈ moveUnits source none source.quantity ps ↔ q ∈ ps ∧ q.id ≠ source.id := by
  have hafter : ∀ old ∈ ps, afterMove source none source.quantity old
      = if old.id = source.id then [] else [old] := by
    intro old hold
    rw [afterMove]
    split
    · rename_i hid
      rw [eq_source_of_id ids listed hold hid, if_neg (by omega)]
    · rfl
  rw [moveUnits_eq, arrivals, List.append_nil, List.mem_flatMap]
  constructor
  · rintro ⟨old, hold, hq⟩
    rw [hafter old hold] at hq
    split at hq
    · cases hq
    · rename_i hid
      rw [List.mem_singleton.1 hq]
      exact ⟨hold, hid⟩
  · rintro ⟨hq, hid⟩
    exact ⟨q, hq, by rw [hafter q hq, if_neg hid]; exact List.mem_singleton_self q⟩

/-- All units of a placement of a sound ledger can be moved back to the store. -/
lemma prepareMove_all {ledger : Snapshot} {id : Int} (sound : ledger.IsSound)
    (ids : (ledger.placements.map Placement.id).Nodup) (listed : source ∈ ledger.placements)
    (named : source.id = some id) (user : Option Int) :
    prepareMove { id, user } none ledger = .ok
      { action := "MoveLocationAllocation"
        changes := [.replacePlacements (moveUnits source none source.quantity ledger.placements)]
        answer := answer ledger.equipment } := by
  have hfound : (ledger.placements.find? fun p => p.id = some id) = some source :=
    find?_eq_some_of_unique listed (decide_eq_true named) fun _ hp hid =>
      eq_source_of_id ids listed hp ((of_decide_eq_true hid).trans named.symm)
  have hunits := (sound.placements source listed).1
  have hrange : ¬ (source.quantity < 1 ∨ source.quantity < source.quantity) := by omega
  simp only [prepareMove, hfound, Option.getD_none, if_neg hrange, Option.any_none,
    Bool.false_eq_true, if_false]

end Placements

/-- A ledger has units at a certain place, and these placements at all others. -/
def Store.AddsAt (key : PlaceKey) (e : Int) (others : List Placement) (s : Store) : Prop :=
  ∃ m, s.ledger? e = .ok m ∧ (m.placements.filter fun q => q.place.key ≠ key) = others
    ∧ ∃ q ∈ m.placements, q.place.key = key

/-- Units at a place have a row. -/
lemma Store.AddsAt.exists_row {key : PlaceKey} {e : Int} {others : List Placement} {s : Store}
    (h : s.AddsAt key e others) :
    ∃ row ∈ s.placementsOf e, ∃ place, row.2.place? = some place ∧ place.key = key := by
  obtain ⟨m, hm, -, q, hq, hkey⟩ := h
  obtain ⟨equipment, -, -, rfl⟩ := Store.ledger?_eq_ok.1 hm
  obtain ⟨row, hrow, hread⟩ := List.mem_filterMap.1 hq
  obtain ⟨place, hplace, rfl⟩ := Option.map_eq_some_iff.1 hread
  exact ⟨row, hrow, place, hplace, hkey⟩

/-- A place that is read from two columns has the id of the first. -/
lemma Place.id_columns_of_ofColumns {id : Option Int} {text : Option String} {p : Place}
    (h : ofColumns id text = some p) : (columns (some p)).1 = id := by
  cases id with
  | some id => rw [← Option.some.inj h, columns]
  | none =>
      simp only [ofColumns] at h
      split at h
      · cases h
      · rw [← Option.some.inj h, columns]

/-- The numbers of a placement that is read can be stored. -/
lemma Store.fits_of_listed {s : Store} {e : Int} {ledger : Snapshot} (stored : s.fits = true)
    (read : s.ledger? e = .ok ledger) {q : Placement} (listed : q ∈ ledger.placements) :
    fitsWord? (Place.columns (some q.place)).1 = true ∧ fitsWord q.quantity = true := by
  obtain ⟨equipment, -, -, rfl⟩ := ledger?_eq_ok.1 read
  obtain ⟨row, hrow, hread⟩ := List.mem_filterMap.1 listed
  obtain ⟨place, hplace, rfl⟩ := Option.map_eq_some_iff.1 hread
  have hfits := (fits_iff.1 stored).2.1 _ (mem_placementsOf.1 hrow).1
  simp only [PlacementRow.fits, Bool.and_eq_true] at hfits
  rw [Place.id_columns_of_ofColumns hplace]
  exact ⟨hfits.1.1.2, hfits.1.2⟩

namespace Desk

variable {s : Store} {desk : Desk} {call : Call} {o : Order} {e : Int} {start : Snapshot}
  {key : PlaceKey}

/-- An order to bring units to a place leaves what is at other places as it was. -/
lemma addsAt_of_commit {r : Placements.PlaceRequest} {place : Place} {m : Mutation Json}
    {work : Prepared Json} {before after committed : Snapshot} {w : Worksheet} {t : Store}
    {today : Date} {now : Moment} (makes : (Order.placeUnits r).Makes today s m)
    (ready : m.Readies before work)
    (commits : s.Commits (m.proposal work) now before after w t committed)
    (found : s.findPlace r.target = .ok (some place)) (sound : before.IsSound) :
    t.AddsAt place.key m.equipment (before.placements.filter fun q => q.place.key ≠ place.key) := by
  have hproper := makes.proper.of_readies commits.read ready
  cases makes with
  | placeUnits made =>
      obtain ⟨mapped, hmapped, rfl⟩ := ready.of_map
      obtain ⟨-, -, row, target, -, htarget, rfl⟩ := Placements.place_eq_ok made
      obtain ⟨plain, hplain, rfl⟩ := hmapped
      rw [(Placements.preparePlace_eq_ok hplain).2] at commits hproper
      obtain rfl : place = target := Option.some.inj (Except.ok.inj (found.symm.trans htarget))
      refine ⟨committed, commits.reread, commits.placements_elsewhere sound.places rfl
        fun q other => Placements.mem_addUnits_elsewhere other, ?_⟩
      have hafter : Placements.addUnits r place before.placements = after.placements := by
        rw [← Except.ok.inj commits.applied]
      obtain ⟨q, hq, hkey⟩ := Placements.exists_mem_addUnits r place before.placements
      obtain ⟨q', hq', hsame, -⟩ :=
        (commits.alike_of_proper hproper).placements.exists_right (hafter ▸ hq)
      exact ⟨q', hq', hsame.symm.trans hkey⟩

lemma addsAt_fulfil {others : List Placement} (h : s.Departs e .placements desk.store)
    (kind : o.ToPlace key e desk.store) (alone : call.rivals = [])
    (adds : desk.store.AddsAt key e others) :
    (desk.fulfil call o).desk.store.AddsAt key e others := by
  refine fulfil_keeps alone kind.within.1 adds fun hmakes he hready hcommits => ?_
  subst he
  obtain ⟨ledger, hledger, rfl, -⟩ := adds
  obtain rfl := Except.ok.inj (hcommits.read.symm.trans hledger)
  obtain ⟨r, own, place, hplace, rfl⟩ := kind
  exact addsAt_of_commit hmakes hready hcommits hplace (h.isSound hledger)

/-- Moving all units back to the store from a place where there were none at the start gives back
all that was brought there. -/
theorem givesBack_of_placed {row : Int × PlacementRow} {place : Place} {user : Option Int}
    (h : s.Departs e .placements desk.store) (origin : s.ledger? e = .ok start)
    (adds : desk.store.AddsAt key e start.placements)
    (listed : row ∈ desk.store.placementsOf e) (there : row.2.place? = some place)
    (same : place.key = key) (wide : fitsWord row.1 = true) (unhindered : desk.Unhindered call e)
    (known : fitsWord? user = true) :
    desk.GivesBack call (.moveUnits { id := row.1, user }) e start := by
  obtain ⟨current, hread, helsewhere, -⟩ := adds
  have hsound := h.isSound hread
  have hids := Store.nodup_ids_of_ledger? hread
  subst same
  -- the units there are the placement that is read from the row
  obtain ⟨source, hsource, hid, hplace⟩ :
      ∃ source ∈ current.placements, source.id = some row.1 ∧ source.place = place := by
    obtain ⟨equipment, -, -, rfl⟩ := Store.ledger?_eq_ok.1 hread
    exact Store.exists_placement_of_place listed there
  have hmem (q : Placement) : q ∈ Placements.moveUnits source none source.quantity
      current.placements ↔ q ∈ current.placements ∧ q.place.key ≠ place.key := by
    rw [Placements.mem_moveUnits_all hids hsource]
    refine and_congr_right fun hq => not_congr ⟨fun hsame => ?_, fun hsame => ?_⟩
    · rw [Placements.eq_source_of_id hids hsource hq hsame, hplace]
    · rw [List.inj_on_of_nodup_map hsound.places hq hsource (hplace ▸ hsame)]
  obtain ⟨hstored, hown⟩ := Store.mem_placementsOf.1 listed
  have hfound := Store.placement?_eq_ok.2 ⟨wide, Table.find?_of_mem hstored⟩
  have hnowhere : desk.store.findPlace {} = .ok none := rfl
  have hmade : Placements.move { id := row.1, user } desk.store = .ok
      { equipment := row.2.equipment, user
        preparation := .fromLedger (Placements.prepareMove { id := row.1, user } none) } := by
    simp only [Placements.move, hfound, hnowhere]
  have hready := (Mutation.readies_of_prepare (m := ⟨row.2.equipment, user, _⟩) rfl
    (Placements.prepareMove_all hsound hids hsource hid user)).map Placements.Answer.toJson
  subst hown
  refine givesBack_of_readies h origin unhindered (.moveUnits hmade) rfl hread hready rfl rfl ?_
    known ?_
  · intro c hc
    rw [List.mem_singleton.1 hc]
    exact fun q hq => Store.fits_of_listed h.stored hread ((hmem q).1 hq).1
  · intro t committed hcommits _
    have hkept : (committed.placements.filter fun q => q.place.key ≠ place.key)
        = current.placements.filter fun q => q.place.key ≠ place.key :=
      hcommits.placements_elsewhere hsound.places rfl fun q other => by
        rw [hmem]
        exact and_iff_left other
    have hgone : (committed.placements.filter fun q => q.place.key ≠ place.key)
        = committed.placements := by
      refine List.filter_eq_self.2 fun q hq => decide_eq_true ?_
      obtain ⟨p, hp, hsame⟩ := hcommits.exists_key_of_replaced hsound.places rfl q hq
      rw [hsame]
      exact ((hmem p).1 hp).2
    exact hgone.symm.trans (hkept.trans helsewhere)

/-- Units are brought to a place where there were none, as often as one likes. After that the place
has a row, and moving all its units back to the store gives back all that was brought there. -/
theorem givesBack_of_place {first : Desk} {earlier : Call} {r : Placements.PlaceRequest}
    {place : Place} {answer : Json} {user : Option Int} (stored : first.store.fits = true)
    (origin : first.store.ledger? e = .ok start) (sound : start.IsSound) (own : r.equipment = e)
    (found : first.store.findPlace r.target = .ok (some place))
    (free : ∀ q ∈ start.placements, q.place.key ≠ place.key) (alone : earlier.rivals = [])
    (granted : (first.fulfil earlier (.placeUnits r)).result = .ok answer)
    (more : (first.fulfil earlier (.placeUnits r)).desk.store.YieldsBy
      (fun u o => o.ToPlace place.key e u) desk.store)
    (unhindered : desk.Unhindered call e) (known : fitsWord? user = true) :
    (∃ row ∈ desk.store.placementsOf e, ∃ there, row.2.place? = some there
        ∧ there.key = place.key)
      ∧ ∀ row ∈ desk.store.placementsOf e, ∀ there, row.2.place? = some there →
        there.key = place.key → fitsWord row.1 = true →
          desk.GivesBack call (.moveUnits { id := row.1, user }) e start := by
  have hfree : (start.placements.filter fun q => q.place.key ≠ place.key) = start.placements :=
    List.filter_eq_self.2 fun q hq => decide_eq_true (free q hq)
  have hkind : (Order.placeUnits r).ToPlace place.key e first.store :=
    .placeUnits r own place found rfl
  have hfirst := departs_fulfil (Store.departs_start stored origin sound _) alone hkind.within.1
    hkind.within.2
  have hadds : (first.fulfil earlier (.placeUnits r)).desk.store.AddsAt place.key e
      start.placements := by
    obtain ⟨m, work, after, w, committed, hmakes, rfl, hready, hcommits⟩ :=
      exists_commit_of_granted alone hkind.within.1 origin granted
    rw [← hfree]
    exact addsAt_of_commit hmakes hready hcommits found sound
  obtain ⟨hdeparts, hholds⟩ := more.preserves
    (I := fun t => first.store.Departs e .placements t ∧ t.AddsAt place.key e start.placements)
    ⟨hfirst, hadds⟩ fun desk call o hkind alone hsofar =>
      ⟨departs_fulfil hsofar.1 alone hkind.within.1 hkind.within.2,
        addsAt_fulfil hsofar.1 hkind alone hsofar.2⟩
  exact ⟨hholds.exists_row, fun row listed there hthere same wide =>
    givesBack_of_placed hdeparts origin hholds listed hthere same wide unhindered known⟩

end Desk

/-! ### Installations -/

/-- All installed units of a sound ledger can be brought back, if there are any. -/
lemma Installations.prepareReturn_all {ledger : Snapshot}
    (active : ledger.installation.isActive = true) (units : 1 ≤ ledger.installation.quantity) :
    prepareReturn none ledger
      = .ok { action := "ReturnFromInstallation", changes := [.setInstallation {}], answer } := by
  have hsome : ¬ ledger.installation.quantity < 1 := by omega
  simp only [prepareReturn, active, Option.getD_none, hsome, Int.sub_self, Int.lt_irrefl, or_false,
    if_false, Bool.not_true, Bool.false_eq_true]

lemma Installations.bringBack_of_ledger? {s : Store} {e : Int} {ledger : Snapshot}
    {quantity user : Option Int} (read : s.ledger? e = .ok ledger) :
    bringBack e quantity user s
      = .ok { equipment := e, user, preparation := .fromLedger (prepareReturn quantity) } := by
  obtain ⟨row, hwide, hrow, -⟩ := Store.ledger?_eq_ok.1 read
  rw [bringBack, Store.equipment?_eq_ok.2 ⟨hwide, hrow⟩]

/-- The installation that is read back after it was set. -/
lemma Store.Commits.installation_eq {s t : Store} {p : Proposal} {now : Moment}
    {before after committed : Snapshot} {w : Worksheet} {i : Installation}
    (h : s.Commits p now before after w t committed) (sets : p.changes = [.setInstallation i]) :
    committed.installation = i.recorded := by
  have happlied := h.applied
  rw [sets] at happlied
  obtain rfl := Except.ok.inj happlied
  obtain ⟨row, -, rfl, -, -, hinstallation⟩ := h.committed_eq
  exact hinstallation

namespace Desk

variable {s : Store} {desk : Desk} {call : Call} {e : Int} {start : Snapshot}

/-- Bringing back an installation where there was none at the start gives back its units. -/
lemma givesBack_of_installed {current : Snapshot} {user : Option Int}
    (h : s.Departs e .installation desk.store) (origin : s.ledger? e = .ok start)
    (portable : start.installation = {}) (read : desk.store.ledger? e = .ok current)
    (active : current.installation.isActive = true) (units : 1 ≤ current.installation.quantity)
    (unhindered : desk.Unhindered call e) (known : fitsWord? user = true) :
    desk.GivesBack call (.bringBack e none user) e start := by
  have hready := (Mutation.readies_of_prepare (m := ⟨e, user, _⟩) rfl
    (Installations.prepareReturn_all active units)).map Installations.Answer.toJson
  refine givesBack_of_readies h origin unhindered
    (.bringBack (Installations.bringBack_of_ledger? read)) rfl read hready rfl rfl ?_ known
    fun t committed hcommits _ => ?_
  · intro c hc
    rw [List.mem_singleton.1 hc]
    exact ⟨rfl, by decide⟩
  · exact (hcommits.installation_eq rfl).trans portable.symm

/-- What an installation that is accepted leaves. -/
lemma exists_installed {r : Installations.InstallRequest} {answer : Json}
    (stored : desk.store.fits = true) (origin : desk.store.ledger? e = .ok start)
    (sound : start.IsSound) (own : r.equipment = e) (alone : call.rivals = [])
    (granted : (desk.fulfil call (.install r)).result = .ok answer) :
    ∃ i current, InstallationKind.isKnown r.kind = true
      ∧ Installations.requested r call.now.date desk.store = .ok i
      ∧ desk.store.Departs e .installation (desk.fulfil call (.install r)).desk.store
      ∧ (desk.fulfil call (.install r)).desk.store.ledger? e = .ok current
      ∧ current.installation = i.recorded ∧ current.version = start.version + 1 := by
  have hon : (Order.install r).equipment? desk.store = some e := congrArg some own
  obtain ⟨m, work, after, w, current, hmakes, rfl, hready, hcommits⟩ :=
    exists_commit_of_granted alone hon origin granted
  have hdeparts := departs_commit (Store.departs_start stored origin sound .installation) hmakes
    hready rfl hcommits
  cases hmakes with
  | install made =>
      obtain ⟨mapped, hmapped, rfl⟩ := hready.of_map
      obtain ⟨hkind, row, i, -, hi, rfl⟩ := Installations.install_eq_ok made
      obtain ⟨plain, hplain, rfl⟩ := hmapped
      rw [(Installations.prepareInstall_eq_ok hplain).2] at hcommits
      exact ⟨i, current, hkind, hi, hdeparts, hcommits.reread, hcommits.installation_eq rfl,
        hcommits.version_eq⟩

/-- Bringing back the installation of an equipment that was portable at the start gives back all
units that were installed. If the equipment was made portable once more, there is nothing to bring
back, and the ledger is the one of the start already. -/
theorem givesBack_of_install {first : Desk} {earlier : Call} {r : Installations.InstallRequest}
    {answer : Json} {user : Option Int} (stored : first.store.fits = true)
    (origin : first.store.ledger? e = .ok start) (sound : start.IsSound)
    (portable : start.installation = {}) (own : r.equipment = e) (alone : earlier.rivals = [])
    (granted : (first.fulfil earlier (.install r)).result = .ok answer)
    (left : desk.store = (first.fulfil earlier (.install r)).desk.store)
    (unhindered : desk.Unhindered call e) (known : fitsWord? user = true) :
    (r.kind ≠ InstallationKind.portable.text →
        desk.GivesBack call (.bringBack e none user) e start)
      ∧ (r.kind = InstallationKind.portable.text →
        desk.fulfil call (.bringBack e none user) = { result := .error .notInstalled, desk }
          ∧ desk.store.ledger? e = .ok { start with version := start.version + 1 }) := by
  obtain ⟨i, current, hkind, hi, hdeparts, hread, hinstallation, hversion⟩ :=
    exists_installed stored origin sound own alone granted
  rw [← left] at hdeparts hread
  rcases Installations.requested_eq_ok hi with
    ⟨hportable, rfl⟩ | ⟨place, quantity, hinstalled, -, hunits, rfl⟩
  · refine ⟨fun hinstalled => absurd hportable hinstalled, fun _ => ⟨?_, ?_⟩⟩
    · have hdeclined : Installations.prepareReturn none current = .error .notInstalled := by
        rw [Installations.prepareReturn, hinstallation]
        rfl
      rw [fulfil, mutate_of_request (Installations.bringBack_of_ledger? hread),
        mutateWith_of_prepare_error unhindered rfl hread hdeclined]
      rfl
    · rw [← hversion, ← hdeparts.differs.eq_of_same origin hread
        (hinstallation.trans portable.symm)]
      exact hread
  · refine ⟨fun _ => ?_, fun hportable => absurd hportable hinstalled⟩
    refine givesBack_of_installed hdeparts origin portable hread ?_ ?_ unhindered known
    · have hnamed : r.kind ≠ "" := fun hempty => absurd (hempty ▸ hkind) (by decide)
      rw [hinstallation, Installation.recorded, Installation.isActive, if_neg hnamed]
      exact decide_eq_true hinstalled
    · rw [hinstallation]
      exact hunits

/-- Granting and giving back leaves a sound ledger as it was, but for the version.

A show that had nothing of an equipment makes a reservation, then makes or changes it as it likes
without returning it, and in the end it is removed, or returned without any other change. Units are
brought to a place where there were none, as often as one likes, and in the end all of them are
moved back to the store. A portable equipment is installed, and in the end the installation is
brought back; if it was made portable instead, there is nothing to bring back, and the ledger is the
one of the start already. -/
theorem givesBack {first : Desk} {earlier : Call} {user : Option Int}
    (stored : first.store.fits = true) (origin : first.store.ledger? e = .ok start)
    (lawful : start.violations = []) (alone : earlier.rivals = [])
    (unhindered : desk.Unhindered call e) (known : fitsWord? user = true) :
    (∀ (r : Reservations.ReserveRequest) (answer : Json), r.equipment = e →
      (∀ row ∈ first.store.reservationsOf e, row.2.showId ≠ r.showId) →
      (first.fulfil earlier (.reserve r)).result = .ok answer →
      (first.fulfil earlier (.reserve r)).desk.store.YieldsBy
        (fun u o => o.ForShow r.showId e u ∧ o.returns = false) desk.store →
      (∃ row ∈ desk.store.reservationsOf e, row.2.showId = r.showId)
        ∧ ∀ row ∈ desk.store.reservationsOf e, row.2.showId = r.showId → fitsWord row.1 = true →
          desk.GivesBack call (.removeReservation row.1 user) e start
            ∧ desk.GivesBack call (.changeReservation
              { id := row.1, status := some ReservationStatus.returned.text, user }) e start)
      ∧ (∀ (r : Placements.PlaceRequest) (place : Place) (answer : Json), r.equipment = e →
        first.store.findPlace r.target = .ok (some place) →
        (∀ q ∈ start.placements, q.place.key ≠ place.key) →
        (first.fulfil earlier (.placeUnits r)).result = .ok answer →
        (first.fulfil earlier (.placeUnits r)).desk.store.YieldsBy
          (fun u o => o.ToPlace place.key e u) desk.store →
        (∃ row ∈ desk.store.placementsOf e, ∃ there, row.2.place? = some there
            ∧ there.key = place.key)
          ∧ ∀ row ∈ desk.store.placementsOf e, ∀ there, row.2.place? = some there →
            there.key = place.key → fitsWord row.1 = true →
              desk.GivesBack call (.moveUnits { id := row.1, user }) e start)
      ∧ (start.installation = {} → ∀ (r : Installations.InstallRequest) (answer : Json),
        r.equipment = e → (first.fulfil earlier (.install r)).result = .ok answer →
        desk.store = (first.fulfil earlier (.install r)).desk.store →
        (r.kind ≠ InstallationKind.portable.text →
            desk.GivesBack call (.bringBack e none user) e start)
          ∧ (r.kind = InstallationKind.portable.text →
            desk.fulfil call (.bringBack e none user) = { result := .error .notInstalled, desk }
              ∧ desk.store.ledger? e = .ok { start with version := start.version + 1 })) := by
  have hsound := (Snapshot.violations_eq_nil_iff_isSound start).1 lawful
  refine ⟨fun r answer own free granted changed => ?_, fun r place answer own found free granted
    more => ?_, fun portable r answer own granted left => ?_⟩
  · exact givesBack_of_reserve stored origin hsound own free alone granted changed unhindered known
  · exact givesBack_of_place stored origin hsound own found free alone granted more unhindered known
  · exact givesBack_of_install stored origin hsound portable own alone granted left unhindered known

end Desk

/-- Five lamps, at some version of their ledger. One of them is on a shelf, and one is allocated to
a fair. A gala is listed as well. -/
def Store.lampsBeforeGala (version : Int) : Store :=
  { equipments := Table.empty.insert { name := some "Lamp", total := 5, version }
    shows := (Table.empty.insert { name := "Gala" }).insert { name := "Fair" }
    placements := Table.empty.insert { equipment := 1, placeText := some "Shelf", quantity := 1 }
    reservations := Table.empty.insert
      { equipment := 1, showId := 2, needed := 1, allocated := 1, status := "allocated" } }

namespace Desk

/-- The gala checks out two lamps and brings them back. Two lamps are brought to a bench, one after
the other, and moved back. Two lamps are installed in the hall and brought back. -/
theorem givesBack_lampsBeforeGala :
    let first : Desk := { store := .lampsBeforeGala 7 }
    let call : Call := { now := default }
    let two : Reservations.ReserveRequest := { showId := 1, equipment := 1, needed := 2 }
    let out : Reservations.ChangeRequest := { id := 2, status := some "checked-out" }
    let one : Placements.PlaceRequest :=
      { equipment := 1, target := { name := some "Bench" }, quantity := 1 }
    let both : Installations.InstallRequest :=
      { equipment := 1, kind := "fixed", target := { name := some "Hall" }, quantity := some 2 }
    let gala := ((first.fulfil call (.reserve two)).desk.fulfil call (.changeReservation out)).desk
    let bench := ((first.fulfil call (.placeUnits one)).desk.fulfil call (.placeUnits one)).desk
    let hall := (first.fulfil call (.install both)).desk
    ((gala.store.reservationsOf 1).map (fun row => (row.1, row.2.status))
        = [(1, "allocated"), (2, "checked-out")]
      ∧ (bench.store.placementsOf 1).map (fun row => (row.1, row.2.quantity)) = [(1, 1), (2, 2)]
      ∧ hall.store.equipments.rows.map (fun row => row.2.installed) = [2])
    ∧ ∃ start, first.store.ledger? 1 = .ok start ∧ start.violations = []
      ∧ (gala.GivesBack call (.removeReservation 2 none) 1 start
        ∧ gala.GivesBack call (.changeReservation { id := 2, status := some "returned" }) 1 start)
      ∧ bench.GivesBack call (.moveUnits { id := 2 }) 1 start
      ∧ hall.GivesBack call (.bringBack 1 none none) 1 start := by
  intro first call two out one both gala bench hall
  obtain ⟨start, hstart⟩ : ∃ start, first.store.ledger? 1 = .ok start :=
    ⟨_, Store.ledger?_eq_ok.2 ⟨_, by decide, rfl, rfl⟩⟩
  have hknown : (first.store.ledger? 1).toOption.map
      (fun m => (m.violations, m.placements, m.installation))
        = some ([], [{ id := some 1, place := .custom "Shelf", quantity := 1 }], {}) := by
    decide +kernel
  rw [hstart] at hknown
  obtain ⟨hlawful, hrest⟩ := Prod.mk.inj (Option.some.inj hknown)
  obtain ⟨hplacements, hportable⟩ := Prod.mk.inj hrest
  have hstored : first.store.fits = true := by decide +kernel
  have hfree : ∀ d ∈ [gala, bench, hall], d.locks.isHeld 1 = false := by decide +kernel
  refine ⟨by decide +kernel, start, hstart, hlawful, ?_, ?_, ?_⟩
  · have hgranted : (first.fulfil call (.reserve two)).result.isOk = true := by decide +kernel
    have hnew : ((first.fulfil call (.reserve two)).desk.store.reservations.find? 2).map
        (fun row => (row.showId, row.equipment)) = some (1, 1) := by decide +kernel
    have hlater : (2, 1) ∈ (gala.store.reservationsOf 1).map fun row => (row.1, row.2.showId) := by
      decide +kernel
    have hnone : ∀ row ∈ first.store.reservationsOf 1, row.2.showId ≠ two.showId := by
      decide +kernel
    obtain ⟨answer, hanswer⟩ := Outcome.exists_answer hgranted
    obtain ⟨row, hrow, hsame⟩ := Option.map_eq_some_iff.1 hnew
    obtain ⟨hshow, hown⟩ := Prod.mk.inj hsame
    obtain ⟨later, hlisted, hnamed⟩ := List.mem_map.1 hlater
    obtain ⟨hid, hasks⟩ := Prod.mk.inj hnamed
    have hchange : (Order.changeReservation out).ForShow 1 1
        (first.fulfil call (.reserve two)).desk.store := .changeReservation out row hrow hshow hown
    obtain ⟨hshows, -, -⟩ := @givesBack gala call 1 start first call none hstored hstart hlawful rfl
      ⟨hfree gala (by simp), rfl, rfl⟩ rfl
    have hback := (hshows two answer rfl hnone hanswer
      (.order _ call _ .refl ⟨hchange, rfl⟩ rfl)).2 later hlisted hasks (by rw [hid]; decide)
    rwa [hid] at hback
  · have hgranted : (first.fulfil call (.placeUnits one)).result.isOk = true := by decide +kernel
    have hlater : (2, some (.custom "Bench"))
        ∈ (bench.store.placementsOf 1).map fun row => (row.1, row.2.place?) := by decide +kernel
    have hbare : ∀ q ∈ start.placements, q.place.key ≠ (Place.custom "Bench").key := by
      rw [hplacements]
      decide +kernel
    obtain ⟨answer, hanswer⟩ := Outcome.exists_answer hgranted
    obtain ⟨later, hlisted, hnamed⟩ := List.mem_map.1 hlater
    obtain ⟨hid, hthere⟩ := Prod.mk.inj hnamed
    have hplace : ∀ d ∈ [first, (first.fulfil call (.placeUnits one)).desk],
        (d.store.findPlace one.target).toOption = some (some (.custom "Bench")) := by
      decide +kernel
    have hfound := fun d hd => eq_ok_of_toOption (hplace d hd)
    have hagain : (Order.placeUnits one).ToPlace (Place.custom "Bench").key 1
        (first.fulfil call (.placeUnits one)).desk.store :=
      .placeUnits one rfl _ (hfound _ (by simp)) rfl
    obtain ⟨-, hplaces, -⟩ := @givesBack bench call 1 start first call none hstored hstart hlawful
      rfl ⟨hfree bench (by simp), rfl, rfl⟩ rfl
    have hback := (hplaces one (.custom "Bench") answer rfl (hfound _ (by simp)) hbare hanswer
      (.order _ call _ .refl hagain rfl)).2 later hlisted _ hthere rfl (by rw [hid]; decide)
    rwa [hid] at hback
  · have hgranted : (first.fulfil call (.install both)).result.isOk = true := by decide +kernel
    obtain ⟨answer, hanswer⟩ := Outcome.exists_answer hgranted
    obtain ⟨-, -, hinstallations⟩ := @givesBack hall call 1 start first call none hstored hstart
      hlawful rfl ⟨hfree hall (by simp), rfl, rfl⟩ rfl
    exact (hinstallations hportable both answer rfl hanswer rfl).1 (by decide)

/-- At the last version but one the gala gets two lamps, but they cannot be given back: the
reservation stays. -/
theorem fulfil_reserve_full :
    let first : Desk := { store := .lampsBeforeGala 0x7FFFFFFFFFFFFFFE }
    let call : Call := { now := default }
    let two : Reservations.ReserveRequest := { showId := 1, equipment := 1, needed := 2 }
    let gala := (first.fulfil call (.reserve two)).desk
    (∃ start, first.store.ledger? 1 = .ok start ∧ start.violations = [])
      ∧ (first.store.reservationsOf 1).map (fun row => (row.1, row.2.showId)) = [(1, 2)]
      ∧ (first.fulfil call (.reserve two)).result.isOk = true
      ∧ (gala.store.reservationsOf 1).map (fun row => (row.1, row.2.showId)) = [(1, 2), (2, 1)]
      ∧ gala.fulfil call (.removeReservation 2 none)
        = { result := .error .numberTooWide, desk := gala }
      ∧ gala.fulfil call (.changeReservation { id := 2, status := some "returned" })
        = { result := .error .numberTooWide, desk := gala } := by
  intro first call two gala
  obtain ⟨start, hstart⟩ : ∃ start, first.store.ledger? 1 = .ok start :=
    ⟨_, Store.ledger?_eq_ok.2 ⟨_, by decide, rfl, rfl⟩⟩
  have hviolations : (first.store.ledger? 1).toOption.map Snapshot.violations = some [] := by
    decide +kernel
  rw [hstart] at hviolations
  have hlawful : start.violations = [] := Option.some.inj hviolations
  have hgranted : (first.fulfil call (.reserve two)).result.isOk = true := by decide +kernel
  have hrows : (gala.store.reservationsOf 1).map (fun row => (row.1, row.2.showId))
      = [(1, 2), (2, 1)] := by decide +kernel
  have hlater : (2, 1) ∈ (gala.store.reservationsOf 1).map fun row => (row.1, row.2.showId) := by
    rw [hrows]
    decide
  obtain ⟨answer, hanswer⟩ := Outcome.exists_answer hgranted
  obtain ⟨later, hlisted, hnamed⟩ := List.mem_map.1 hlater
  obtain ⟨hid, hasks⟩ := Prod.mk.inj hnamed
  obtain ⟨-, hback⟩ := @givesBack_of_reserve gala call 1 start first call two answer none
    (by decide +kernel) hstart ((Snapshot.violations_eq_nil_iff_isSound start).1 hlawful) rfl
    (by decide +kernel) rfl hanswer .refl ⟨by decide +kernel, rfl, rfl⟩ rfl
  have hlast := hback later hlisted hasks (by rw [hid]; decide)
  rw [hid] at hlast
  obtain ⟨⟨current, hcurrent, -, hremoved⟩, current', hcurrent', -, hreturned⟩ := hlast
  obtain rfl : current = current' := Except.ok.inj (hcurrent.symm.trans hcurrent')
  -- the version of the ledger is the largest that can be stored
  have hversion : (gala.store.ledger? 1).toOption.map Snapshot.version
      = some 0x7FFFFFFFFFFFFFFF := by decide +kernel
  rw [hcurrent] at hversion
  have hfull : fitsWord (current.version + 1) = false := by
    rw [Option.some.inj hversion]
    decide
  exact ⟨⟨start, hstart, hlawful⟩, by decide +kernel, hgranted, hrows, hremoved hfull,
    hreturned hfull⟩

end Desk

end StageStock
