import Mathlib.Tactic.Lemma
import StageStock.Proofs.Agreement
import StageStock.Proofs.Distribution

/-!
What orders propose.

Whatever an order prepares from a ledger has one of a few forms: one figure is set, or placements
are replaced once, or one reservation is made, changed, ended or made anew. Such changes do not get
in each other's way.

* `Change.Proper`: these forms;
* `Order.Makes.proper`: every order prepares changes of them;
* `Store.Commits.alike_of_proper`: the rules do not tell the ledger that they leave from the one
  that was checked.
-/

namespace StageStock

/-- Changes that orders prepare from a ledger. -/
inductive Change.Proper (before : Snapshot) : List Change → Prop where
  | setTotal (total : Int) : Proper before [.setTotal total]
  | setInstallation (i : Installation)
      (words : ∀ place, i.place = some place → place.HasWords) :
      Proper before [.setInstallation i]
  | replacePlacements (ps : List Placement) (words : ∀ p ∈ ps, p.place.HasWords) :
      Proper before [.replacePlacements ps]
  /-- A reservation with a row is for the show that the row is for. -/
  | putReservation (r : Reservation) (known : ∀ id, r.id = some id →
      ∃ b ∈ before.reservations, b.id = some id ∧ b.showId = r.showId) :
      Proper before [.putReservation r]
  | dropReservation (id : Int) (showId : Option Int) : Proper before [.dropReservation id showId]
  | renewReservation (id : Int) (showId : Option Int) (r : Reservation) (new : r.id = none) :
      Proper before [.dropReservation id showId, .putReservation r]

/-! ### What proper changes leave -/

namespace Change.Proper

variable {before after : Snapshot} {cs : List Change}

/-- No reservation is put that the ledger does not have. -/
lemma strays_eq_zero (h : Proper before cs) : Change.strays before cs = 0 := by
  cases h with
  | setTotal total => rfl
  | setInstallation i words => rfl
  | replacePlacements ps words => rfl
  | dropReservation id showId =>
      simp only [strays, isStray, Bool.false_eq_true, if_false]
      cases apply before (.dropReservation id showId) <;> rfl
  | putReservation r known =>
      have hstray : (Change.putReservation r).isStray before = false := by
        cases hid : r.id with
        | none => exact isStray_of_new hid
        | some id =>
            obtain ⟨b, hb, hbid, -⟩ := known id hid
            by_contra hstray
            exact (isStray_of_old hid).1 (by simpa using hstray) b hb hbid
      rw [strays, hstray]
      rfl
  | renewReservation id showId r new =>
      simp only [strays, isStray_of_new new]
      cases apply before (.dropReservation id showId) <;> rfl

/-- At most one replacement is made. -/
lemma replaced_once (h : Proper before cs) {front : List Change} {ps : List Placement}
    (last : LastReplacement cs front ps) : ∀ c ∈ front, c.isReplacement = false := by
  have hmem : ∀ front back : List Change, cs = front ++ .replacePlacements ps :: back →
      Change.replacePlacements ps ∈ cs := by
    rintro front back rfl
    simp
  obtain ⟨back, hchanges, -⟩ := last
  have hreplaced := hmem front back hchanges
  cases h with
  | replacePlacements qs words =>
      cases front with
      | nil => exact fun c hc => absurd hc List.not_mem_nil
      | cons c rest => simp at hchanges
  | setTotal total => simp at hreplaced
  | setInstallation i words => simp at hreplaced
  | putReservation r known => simp at hreplaced
  | dropReservation id showId => simp at hreplaced
  | renewReservation id showId r new => simp at hreplaced

/-- A reservation with a row is still for the show that the row is for. -/
lemma shows (h : Proper before cs) (applied : applyAll before cs = .ok after) :
    ∀ r ∈ after.reservations, ∀ id, r.id = some id →
      ∃ b ∈ before.reservations, b.id = some id ∧ b.showId = r.showId := by
  have hself : ∀ r ∈ before.reservations, ∀ id, r.id = some id →
      ∃ b ∈ before.reservations, b.id = some id ∧ b.showId = r.showId :=
    fun r hr id hid => ⟨r, hr, hid, rfl⟩
  cases h with
  | setTotal total => exact Except.ok.inj applied ▸ hself
  | setInstallation i words => exact Except.ok.inj applied ▸ hself
  | replacePlacements ps words => exact Except.ok.inj applied ▸ hself
  | putReservation r known =>
      obtain rfl := Except.ok.inj applied
      intro r' hr'
      rcases List.mem_append.1 hr' with hr' | hr'
      · exact hself r' (List.mem_filter.1 hr').1
      · rw [List.mem_singleton.1 hr']
        exact known
  | dropReservation id showId =>
      obtain ⟨next, hdrop, hrest⟩ := exists_apply_of_applyAll applied
      obtain ⟨-, rfl⟩ := dropped_of_apply hdrop
      obtain rfl := Except.ok.inj hrest
      exact fun r hr => hself r (List.mem_filter.1 hr).1
  | renewReservation id showId r new =>
      obtain ⟨next, hdrop, hrest⟩ := exists_apply_of_applyAll applied
      obtain ⟨-, rfl⟩ := dropped_of_apply hdrop
      obtain rfl := Except.ok.inj hrest
      intro r' hr'
      rcases List.mem_append.1 hr' with hr' | hr'
      · exact hself r' (List.mem_filter.1 (List.mem_filter.1 hr').1).1
      · rw [List.mem_singleton.1 hr', new]
        exact fun id hid => absurd hid (by simp)

/-- Places that have words still have them. -/
lemma words (h : Proper before cs) (applied : applyAll before cs = .ok after)
    (placed : ∀ p ∈ before.placements, p.place.HasWords)
    (installed : ∀ place, before.installation.place = some place → place.HasWords) :
    (∀ p ∈ after.placements, p.place.HasWords)
      ∧ ∀ place, after.installation.place = some place → place.HasWords := by
  cases h with
  | setTotal total => exact Except.ok.inj applied ▸ ⟨placed, installed⟩
  | setInstallation i words => exact Except.ok.inj applied ▸ ⟨placed, words⟩
  | replacePlacements ps words => exact Except.ok.inj applied ▸ ⟨words, installed⟩
  | putReservation r known => exact Except.ok.inj applied ▸ ⟨placed, installed⟩
  | dropReservation id showId =>
      obtain ⟨next, hdrop, hrest⟩ := exists_apply_of_applyAll applied
      obtain ⟨-, rfl⟩ := dropped_of_apply hdrop
      exact Except.ok.inj hrest ▸ ⟨placed, installed⟩
  | renewReservation id showId r new =>
      obtain ⟨next, hdrop, hrest⟩ := exists_apply_of_applyAll applied
      obtain ⟨-, rfl⟩ := dropped_of_apply hdrop
      exact Except.ok.inj hrest ▸ ⟨placed, installed⟩

end Change.Proper

namespace Store

variable {s t : Store} {p : Proposal} {now : Moment} {before after committed : Snapshot}
  {w : Worksheet}

lemma hasWords_of_ledger? {e : Int} (read : s.ledger? e = .ok before) :
    (∀ p ∈ before.placements, p.place.HasWords)
      ∧ ∀ place, before.installation.place = some place → place.HasWords := by
  obtain ⟨row, -, -, rfl⟩ := ledger?_eq_ok.1 read
  refine ⟨fun p hp => ?_, fun place hplace => (Place.normalised_of_ofColumns hplace).2⟩
  obtain ⟨placed, -, hrow⟩ := List.mem_filterMap.1 hp
  exact (Placement.hasWords_of_placementOf? hrow).1

/-- The rules do not tell the ledger that proper changes leave from the one that was checked. -/
theorem Commits.alike_of_proper (h : s.Commits p now before after w t committed)
    (proper : Change.Proper before p.changes) : after.Alike committed := by
  obtain ⟨hplaced, hinstalled⟩ := hasWords_of_ledger? h.read
  obtain ⟨hwords, hplace⟩ := proper.words h.applied hplaced hinstalled
  have hinstallation := h.installation_storedAs_iff.2 hplace
  obtain ⟨row, -, hcommitted, -, htotal, -⟩ := h.committed_eq
  refine ⟨?_, ?_, ?_, by rw [hinstallation], by rw [hinstallation], ?_⟩
  · rw [← htotal, hcommitted]
    rfl
  · rcases Change.exists_lastReplacement p.changes with hnone | ⟨front, ps, hlast⟩
    · exact (h.placements_storedAs_of_none hnone).mono fun q _ q' _ hstored =>
        ⟨hstored.key_eq, by rw [hstored.same], by rw [hstored.same]⟩
    · -- nothing waits when the one replacement is written
      obtain ⟨w₀, hwritten, -, -⟩ := h.placements_perm hlast
      have honce := proper.replaced_once hlast
      have hfront : ∃ m₀, Change.applyAll before front = .ok m₀ := by
        obtain ⟨back, hchanges, -⟩ := hlast
        have happlied := h.applied
        rw [hchanges] at happlied
        obtain ⟨m₀, hfront, -⟩ := Change.applyAll_append happlied
        exact ⟨m₀, hfront⟩
      obtain ⟨m₀, hfront⟩ := hfront
      obtain ⟨hnew, hdropped⟩ := Worksheet.nothing_waits hfront hwritten honce ⟨rfl, rfl⟩
      refine h.matched_placements hlast hwritten hwords
        (fun q _ _ _ => ⟨(Place.key_normalised q.place).symm, rfl, rfl⟩)
        (fun row _ => ⟨(Place.key_normalised row.2.place).symm, rfl, rfl⟩) ?_
      rw [Worksheet.lost_of_nothing_waits hdropped, Worksheet.waiting_of_nothing_waits hnew]
      exact Matched.nil
  · refine h.matched_reservations proper.strays_eq_zero fun r hr row hrecords => ?_
    rw [h.reservationOf_eq hr hrecords (proper.shows h.applied r hr)]
    exact ⟨rfl, rfl, rfl, rfl⟩
  · rw [hinstallation]
    exact (Option.isSome_map ..).symm

/-- A commit of proper changes leaves a sound ledger. -/
theorem Commits.isSound_of_proper (h : s.Commits p now before after w t committed)
    (proper : Change.Proper before p.changes) : committed.IsSound :=
  (h.alike_of_proper proper).isSound ((Snapshot.violations_eq_nil_iff_isSound after).1 h.lawful)

end Store

/-! ### Places that callers name -/

/-- A place that is found has words. -/
lemma Store.hasWords_of_findPlace {s : Store} {input : Place.Input} {place : Place}
    (h : s.findPlace input = .ok (some place)) : place.HasWords := by
  rcases findPlace_eq_ok h with ⟨id, row, rfl, -⟩ | ⟨text, rfl, hnormal, hwords, -⟩
  · trivial
  · show Text.normalise text ≠ ""
    rw [hnormal]
    exact hwords

/-- A place that is found is read back as it is. -/
lemma Store.reread_of_findPlace {s : Store} {input : Place.Input} {place : Place}
    (h : s.findPlace input = .ok (some place)) : place.reread = some place := by
  rw [Place.reread, if_pos (hasWords_of_findPlace h)]
  rcases findPlace_eq_ok h with ⟨id, row, rfl, -⟩ | ⟨text, rfl, hnormal, -⟩
  · rfl
  · rw [Place.normalised, hnormal]

namespace Placements

variable {s : Store} {r : PlaceRequest} {target : Place} {ps : List Placement}

lemma hasWords_of_readRows {rows : List Row} {index : Nat} {seen : List (PlaceKey × Nat)}
    (h : readRows s rows index seen = .ok ps) : ∀ p ∈ ps, p.place.HasWords := by
  intro p hp
  obtain ⟨input, hfound⟩ := found_of_readRows h p hp
  exact Store.hasWords_of_findPlace hfound

lemma hasWords_addUnits (hps : ∀ p ∈ ps, p.place.HasWords) (htarget : target.HasWords) :
    ∀ p ∈ addUnits r target ps, p.place.HasWords := by
  intro p hp
  rcases place_of_mem_addUnits hp with ⟨old, hold, hplace⟩ | hplace
  · exact hplace ▸ hps old hold
  · exact hplace ▸ htarget

lemma hasWords_moveUnits {source : Placement} {target : Option Place} {moved : Int}
    (hps : ∀ p ∈ ps, p.place.HasWords) (htarget : ∀ place, target = some place → place.HasWords) :
    ∀ p ∈ moveUnits source target moved ps, p.place.HasWords := by
  intro p hp
  rcases place_of_mem_moveUnits hp with ⟨old, hold, hplace⟩ | hplace
  · exact hplace ▸ hps old hold
  · exact htarget p.place hplace

end Placements

/-! ### Orders -/

/-- Whatever the mutation prepares is proper. -/
abbrev Mutation.Proper {α : Type} (m : Mutation α) : Prop :=
  m.Prepares Change.Proper

namespace Equipments

lemma proper_setTotal {e total : Int} {user : Option Int} {s : Store} {m : Mutation Summary}
    (h : setTotal e total user s = .ok m) : m.Proper := by
  rw [(setTotal_eq_ok h).2]
  intro s read work _ hwork
  rw [(prepareTotal_eq_ok hwork).2]
  exact .setTotal total

end Equipments

namespace Reservations

variable {s : Store}

lemma proper_reserve {r : ReserveRequest} {m : Mutation Answer} (h : reserve r s = .ok m) :
    m.Proper := by
  obtain ⟨-, row, -, rfl⟩ := reserve_eq_ok h
  intro s read work _ hwork
  rw [(prepareReserve_eq_ok hwork).2]
  show Change.Proper read (reserveChanges r row read).1
  rw [reserveChanges]
  split
  · exact .putReservation _ fun id hid => nomatch hid
  · rename_i current hcurrent
    split
    · exact .putReservation _ fun id hid => ⟨current, List.mem_of_find?_eq_some hcurrent, hid, rfl⟩
    · exact .renewReservation _ _ _ rfl

lemma proper_change {r : ChangeRequest} {m : Mutation Answer} (h : change r s = .ok m) :
    m.Proper := by
  obtain ⟨row, -, rfl⟩ := change_eq_ok h
  intro s read work _ hwork
  obtain ⟨current, needed, transition, allocated, hcurrent, -, -, -, rfl⟩ :=
    prepareChange_eq_ok hwork
  rw [changeWork]
  split
  · exact .dropReservation _ _
  · exact .putReservation _ fun id hid => ⟨current, List.mem_of_find?_eq_some hcurrent, hid, rfl⟩

lemma proper_remove {id : Int} {user : Option Int} {m : Mutation Removed}
    (h : remove id user s = .ok m) : m.Proper := by
  obtain ⟨row, answer, -, rfl, -⟩ := remove_eq_ok h
  exact fun _ _ _ => .dropReservation _ _

end Reservations

namespace Placements

variable {s : Store} {m : Mutation Answer}

lemma proper_replace {r : ReplaceRequest} (h : replace r s = .ok m) : m.Proper := by
  obtain ⟨row, placements, -, hplacements, rfl⟩ := replace_eq_ok h
  intro s read work _ hwork
  rw [(prepareReplace_eq_ok hwork).2]
  exact .replacePlacements _ (hasWords_of_readRows hplacements)

lemma proper_place {r : PlaceRequest} (h : place r s = .ok m) : m.Proper := by
  obtain ⟨-, -, row, target, -, htarget, rfl⟩ := place_eq_ok h
  intro s read work hread hwork
  rw [(preparePlace_eq_ok hwork).2]
  exact .replacePlacements _ (hasWords_addUnits (Store.hasWords_of_ledger? hread).1
    (Store.hasWords_of_findPlace htarget))

lemma proper_move {r : MoveRequest} (h : move r s = .ok m) : m.Proper := by
  obtain ⟨row, target, -, htarget, rfl⟩ := move_eq_ok h
  intro s read work hread hwork
  obtain ⟨source, moved, -, -, -, -, rfl⟩ := prepareMove_eq_ok hwork
  refine .replacePlacements _ (hasWords_moveUnits (Store.hasWords_of_ledger? hread).1 ?_)
  rintro place rfl
  exact Store.hasWords_of_findPlace htarget

end Placements

namespace Installations

variable {s : Store} {m : Mutation Answer}

lemma hasWords_of_requested {r : InstallRequest} {today : Date} {i : Installation}
    (h : requested r today s = .ok i) : ∀ place, i.place = some place → place.HasWords := by
  rcases requested_eq_ok h with ⟨-, rfl⟩ | ⟨place, quantity, -, hplace, -, rfl⟩
  · intro found hfound
    cases hfound
  · intro found hfound
    obtain rfl : place = found := Option.some.inj hfound
    exact Store.hasWords_of_findPlace hplace

lemma proper_install {r : InstallRequest} {today : Date} (h : install r today s = .ok m) :
    m.Proper := by
  obtain ⟨-, row, i, -, hi, rfl⟩ := install_eq_ok h
  intro s read work _ hwork
  rw [(prepareInstall_eq_ok hwork).2]
  exact .setInstallation i (hasWords_of_requested hi)

lemma proper_bringBack {e : Int} {quantity user : Option Int}
    (h : bringBack e quantity user s = .ok m) : m.Proper := by
  obtain ⟨row, -, rfl⟩ := bringBack_eq_ok h
  intro s read work hread hwork
  obtain ⟨i, hi, rfl⟩ := prepareReturn_eq_ok hwork
  refine .setInstallation i ?_
  rcases hi with rfl | ⟨remaining, -, -, -, rfl⟩
  · intro place hplace
    cases hplace
  · exact (Store.hasWords_of_ledger? hread).2

end Installations

/-- What an order prepares is proper. -/
theorem Order.Makes.proper {o : Order} {today : Date} {s : Store} {m : Mutation Json}
    (h : o.Makes today s m) : m.Proper := by
  cases h with
  | setTotal made => exact (Equipments.proper_setTotal made).map _
  | reserve made => exact (Reservations.proper_reserve made).map _
  | changeReservation made => exact (Reservations.proper_change made).map _
  | removeReservation made => exact (Reservations.proper_remove made).map _
  | replacePlacements made => exact (Placements.proper_replace made).map _
  | placeUnits made => exact (Placements.proper_place made).map _
  | moveUnits made => exact (Placements.proper_move made).map _
  | install made => exact (Installations.proper_install made).map _
  | bringBack made => exact (Installations.proper_bringBack made).map _

end StageStock
