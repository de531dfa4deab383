import Mathlib.Tactic.Lemma
import StageStock.Proofs.Conservation
import StageStock.Proofs.Lawful

/-!
The life of a reservation.

A reservation is made for a show that exists and ends when its units are returned, so that no row is
left of a returned one. Units go out only if there are some, and as long as they are out the
reservation keeps some: neither a smaller need nor another status makes it an empty one.

* `Reservation.Stands`: what holds of a reservation as long as it is recorded, besides the rules;
* `Order.Makes.upholds`: what an order records of a reservation stands, if what was recorded before
  does;
* `Store.Standing.becomes`: so every order leaves a store whose reservations stand;
* `Store.Reached.backs_reservations`: what the rows of reservations have in common, whatever was
  ordered.
-/

namespace StageStock

/-- A reservation that stands: its show exists, it is not returned, and units that are out are at
least one. -/
structure Reservation.Stands (shows : Table ShowRow) (r : Reservation) : Prop where
  exists_show : ∃ row, shows.find? r.showId = some row
  active : r.isActive = true
  out : r.isOut = true → 1 ≤ r.allocated

/-- Whether a reservation stands depends on its show, its units and its status only. -/
lemma Reservation.Stands.congr {shows : Table ShowRow} {r q : Reservation} (h : r.Stands shows)
    (showId : r.showId = q.showId) (allocated : r.allocated = q.allocated)
    (status : r.status = q.status) : q.Stands shows where
  exists_show := showId ▸ h.exists_show
  active := by
    rw [isActive, ← status]
    exact h.active
  out hout := by
    rw [isOut, ← status] at hout
    exact allocated ▸ h.out hout

/-! ### Changes -/

namespace Change

variable {m m' before after : Snapshot} {c : Change} {cs : List Change} {r : Reservation}
  {shows : Table ShowRow}

/-- A reservation after a change was there before, or the change has put it. -/
lemma mem_reservations_of_apply (h : apply m c = .ok m') (hr : r ∈ m'.reservations) :
    r ∈ m.reservations ∨ c = .putReservation r := by
  cases c with
  | putReservation q =>
      rw [← Except.ok.inj h] at hr
      rcases List.mem_append.1 hr with hr | hr
      · exact Or.inl (List.mem_filter.1 hr).1
      · exact Or.inr (by rw [List.mem_singleton.1 hr])
  | dropReservation id showId =>
      rw [(dropped_of_apply h).2] at hr
      exact Or.inl (List.mem_filter.1 hr).1
  | replacePlacements ps =>
      rw [← Except.ok.inj h] at hr
      exact Or.inl hr
  | setInstallation i =>
      rw [← Except.ok.inj h] at hr
      exact Or.inl hr
  | setTotal total =>
      rw [← Except.ok.inj h] at hr
      exact Or.inl hr

lemma mem_reservations_of_applyAll (h : applyAll m cs = .ok m') (hr : r ∈ m'.reservations) :
    r ∈ m.reservations ∨ .putReservation r ∈ cs := by
  induction cs generalizing m with
  | nil => exact Or.inl (Except.ok.inj h ▸ hr)
  | cons c rest ih =>
      obtain ⟨next, hc, hrest⟩ := exists_apply_of_applyAll h
      rcases ih hrest with hnext | hput
      · rcases mem_reservations_of_apply hc hnext with hm | rfl
        · exact Or.inl hm
        · exact Or.inr List.mem_cons_self
      · exact Or.inr (List.mem_cons_of_mem _ hput)

/-- Where all reservations stand, the changes put none that does not. -/
def Upholds (shows : Table ShowRow) (before : Snapshot) (cs : List Change) : Prop :=
  (∀ r ∈ before.reservations, r.Stands shows) → ∀ r, .putReservation r ∈ cs → r.Stands shows

lemma Upholds.of_applyAll (h : Upholds shows before cs)
    (standing : ∀ r ∈ before.reservations, r.Stands shows)
    (applied : applyAll before cs = .ok after) : ∀ r ∈ after.reservations, r.Stands shows := by
  intro r hr
  rcases mem_reservations_of_applyAll applied hr with hold | hput
  · exact standing r hold
  · exact h standing r hput

end Change

/-! ### What orders prepare -/

/-- The mutation puts no reservation. -/
abbrev Mutation.PutsNone {α : Type} (m : Mutation α) : Prop :=
  m.Prepares fun _ cs => ∀ r, Change.putReservation r ∉ cs

lemma Equipments.putsNone_setTotal {e total : Int} {user : Option Int} {s : Store}
    {m : Mutation Summary} (h : setTotal e total user s = .ok m) : m.PutsNone := by
  rw [(setTotal_eq_ok h).2]
  intro _ read work _ hwork
  rw [(prepareTotal_eq_ok hwork).2]
  simp

namespace Placements

variable {s : Store} {m : Mutation Answer}

lemma putsNone_replace {r : ReplaceRequest} (h : replace r s = .ok m) : m.PutsNone := by
  obtain ⟨row, placements, -, -, rfl⟩ := replace_eq_ok h
  intro _ read work _ hwork
  rw [(prepareReplace_eq_ok hwork).2]
  simp

lemma putsNone_place {r : PlaceRequest} (h : place r s = .ok m) : m.PutsNone := by
  obtain ⟨-, -, row, target, -, -, rfl⟩ := place_eq_ok h
  intro _ read work _ hwork
  rw [(preparePlace_eq_ok hwork).2]
  simp

lemma putsNone_move {r : MoveRequest} (h : move r s = .ok m) : m.PutsNone := by
  obtain ⟨row, target, -, -, rfl⟩ := move_eq_ok h
  intro _ read work _ hwork
  obtain ⟨source, moved, -, -, -, -, rfl⟩ := prepareMove_eq_ok hwork
  simp

end Placements

namespace Installations

variable {s : Store} {m : Mutation Answer}

lemma putsNone_install {r : InstallRequest} {today : Date} (h : install r today s = .ok m) :
    m.PutsNone := by
  obtain ⟨-, row, i, -, -, rfl⟩ := install_eq_ok h
  intro _ read work _ hwork
  rw [(prepareInstall_eq_ok hwork).2]
  simp

lemma putsNone_bringBack {e : Int} {quantity user : Option Int}
    (h : bringBack e quantity user s = .ok m) : m.PutsNone := by
  obtain ⟨row, -, rfl⟩ := bringBack_eq_ok h
  intro _ read work _ hwork
  obtain ⟨i, -, rfl⟩ := prepareReturn_eq_ok hwork
  simp

end Installations

namespace Reservations

variable {s : Store} {shows : Table ShowRow}

/-- Units that are out stay out as far as they are needed, and one of them always is. -/
lemma one_le_heldAfter {current : Reservation} {needed : Int} (one : 1 ≤ needed)
    (stands : current.Stands shows) (out : current.isOut = true) :
    1 ≤ heldAfter current needed := by
  have hheld := stands.out out
  rw [heldAfter, if_pos out]
  omega

/-- A new reservation waits for units, and is for a show that was found. -/
lemma stands_fresh {r : ReserveRequest} {row : ShowRow} (found : s.show? r.showId = .ok row) :
    (fresh r row).Stands s.shows where
  exists_show := by
    rw [Store.show?] at found
    split at found
    · cases hrow : s.shows.find? r.showId with
      | none => simp [hrow] at found
      | some stored => exact ⟨stored, hrow⟩
    · cases found
  active := rfl
  out waiting := by cases waiting

lemma upholds_reserve {r : ReserveRequest} {m : Mutation Answer} (h : reserve r s = .ok m) :
    m.Prepares (Change.Upholds s.shows) := by
  obtain ⟨hone, row, hfound, rfl⟩ := reserve_eq_ok h
  intro _ read work _ hwork
  rw [(prepareReserve_eq_ok hwork).2]
  intro standing q hput
  have hfresh : (fresh r row).Stands s.shows := stands_fresh hfound
  simp only [reserveChanges] at hput
  split at hput
  · simp only [List.mem_singleton, Change.putReservation.injEq] at hput
    exact hput ▸ hfresh
  · rename_i current hcurrent
    have hstands := standing current (List.mem_of_find?_eq_some hcurrent)
    split at hput
    · simp only [List.mem_singleton, Change.putReservation.injEq] at hput
      rw [hput]
      exact ⟨hstands.exists_show, hstands.active, fun hout => one_le_heldAfter hone hstands hout⟩
    · simp only [List.mem_cons, reduceCtorEq, List.not_mem_nil, or_false, false_or,
        Change.putReservation.injEq] at hput
      exact hput ▸ hfresh

/-- A transition to a status in which units are out is one of some units. -/
lemma one_le_quantity_of_isOut {ledger : Snapshot} {current : Reservation} {t : Transition}
    {status? : Option String} {quantity? : Option Int}
    (ht : t = ledger.transition current status? quantity?) (valid : t.conflicts = [])
    (out : ReservationStatus.isOut t.status = true) : 1 ≤ t.quantity := by
  subst ht
  simp only [Snapshot.transition, List.append_eq_nil_iff, conflictIf_eq_nil] at valid out ⊢
  obtain ⟨⟨-, hsome⟩, -⟩ := valid
  simp only [out, Bool.true_and, decide_eq_false_iff_not, Int.not_le] at hsome
  omega

lemma upholds_change {r : ChangeRequest} {m : Mutation Answer} (h : change r s = .ok m) :
    m.Prepares (Change.Upholds shows) := by
  obtain ⟨row, -, rfl⟩ := change_eq_ok h
  intro _ read work _ hwork
  obtain ⟨current, needed, t, allocated, hcurrent, -, ht, hvalid, rfl⟩ := prepareChange_eq_ok hwork
  intro standing q hput
  rw [changeWork] at hput
  split at hput
  · simp at hput
  · rename_i hstays
    simp only [List.mem_singleton, Change.putReservation.injEq] at hput
    rw [hput]
    exact ⟨(standing current (List.mem_of_find?_eq_some hcurrent)).exists_show,
      decide_eq_true hstays, fun hout => one_le_quantity_of_isOut ht hvalid hout⟩

lemma putsNone_remove {id : Int} {user : Option Int} {m : Mutation Removed}
    (h : remove id user s = .ok m) : m.PutsNone := by
  obtain ⟨row, answer, -, rfl, -⟩ := remove_eq_ok h
  intro _ read _
  simp

end Reservations

lemma Mutation.PutsNone.upholds {α : Type} {m : Mutation α} (h : m.PutsNone)
    (shows : Table ShowRow) : m.Prepares (Change.Upholds shows) := by
  obtain ⟨e, user, preparation⟩ := m
  cases preparation with
  | known work => exact fun s read hread _ r hput => absurd hput (h s read hread r)
  | fromLedger prepare =>
      exact fun s read work hread hwork _ r hput => absurd hput (h s read work hread hwork r)

/-- What an order records of a reservation stands, if what was recorded before does. -/
theorem Order.Makes.upholds {o : Order} {today : Date} {s : Store} {m : Mutation Json}
    (h : o.Makes today s m) : m.Prepares (Change.Upholds s.shows) := by
  cases h with
  | setTotal made => exact ((Equipments.putsNone_setTotal made).upholds _).map _
  | reserve made => exact (Reservations.upholds_reserve made).map _
  | changeReservation made => exact (Reservations.upholds_change made).map _
  | removeReservation made => exact ((Reservations.putsNone_remove made).upholds _).map _
  | replacePlacements made => exact ((Placements.putsNone_replace made).upholds _).map _
  | placeUnits made => exact ((Placements.putsNone_place made).upholds _).map _
  | moveUnits made => exact ((Placements.putsNone_move made).upholds _).map _
  | install made => exact ((Installations.putsNone_install made).upholds _).map _
  | bringBack made => exact ((Installations.putsNone_bringBack made).upholds _).map _

/-! ### Stores in which reservations stand -/

namespace Store

variable {s t : Store}

/-- All reservations stand. -/
def Standing (s : Store) : Prop :=
  ∀ row ∈ s.reservations.rows, (s.reservationOf row).Stands s.shows

namespace Standing

lemma of_ledger? (h : s.Standing) {e : Int} {read : Snapshot} (hread : s.ledger? e = .ok read) :
    ∀ r ∈ read.reservations, r.Stands s.shows := by
  obtain ⟨equipment, -, -, rfl⟩ := ledger?_eq_ok.1 hread
  intro r hr
  obtain ⟨row, hrow, rfl⟩ := List.mem_map.1 hr
  exact h row (mem_reservationsOf.1 hrow).1

/-- A show that is found is still found after another one has been listed. -/
lemma enter (h : s.Standing) {now : Moment} {o : Order} (entered : s.Enters now o t) :
    t.Standing := by
  cases entered with
  | equipment r audits units fits noted => exact h
  | event r row =>
      intro row hrow
      obtain ⟨⟨found, hfound⟩, hactive, hout⟩ := h row hrow
      exact ⟨⟨found, Table.find?_insert_of_find? _ hfound⟩, hactive, hout⟩
  | location r row audits words name noted => exact h

/-- A commit of reservations that stand, if those stand that were there before. -/
lemma commit (h : s.Standing) {found : Store} {p : Proposal} {now : Moment}
    {before after committed : Snapshot} {w : Worksheet}
    (commits : s.Commits p now before after w t committed)
    (proper : Change.Proper before p.changes)
    (upholds : Change.Upholds found.shows before p.changes) (shows : s.shows = found.shows) :
    t.Standing := by
  have hbeside := commits.agreesBeside
  intro row hrow
  by_cases he : row.2.equipment = p.equipment
  · -- the row is read back as a reservation like one that was checked
    obtain ⟨equipment, -, hcommitted, -⟩ := commits.committed_eq
    have hread : t.reservationOf row ∈ committed.reservations := by
      rw [hcommitted]
      exact List.mem_map_of_mem (mem_reservationsOf.2 ⟨hrow, he⟩)
    obtain ⟨q, hq, hshow, -, hallocated, hstatus⟩ :=
      (commits.alike_of_proper proper).reservations.exists_left hread
    have hstands : q.Stands found.shows :=
      upholds.of_applyAll (shows ▸ h.of_ledger? commits.read) commits.applied q hq
    rw [hbeside.shows, shows]
    exact hstands.congr hshow hallocated hstatus
  · have hold : row ∈ s.reservationsOf row.2.equipment := by
      rw [← hbeside.reservations row.2.equipment he]
      exact mem_reservationsOf.2 ⟨hrow, rfl⟩
    rw [hbeside.shows]
    exact (h row (mem_reservationsOf.1 hold).1).congr rfl rfl rfl

/-- An order leaves a store whose reservations stand, whether it succeeds or fails. -/
theorem becomes (h : s.Standing) {now : Moment} {o : Order} (becomes : s.Becomes now o t) :
    t.Standing := by
  cases becomes with
  | same => exact h
  | entered enters => exact h.enter enters
  | committed shows locations makes ready commits =>
      exact h.commit commits (makes.proper.of_readies commits.read ready)
        (makes.upholds.of_readies commits.read ready) shows

end Standing

lemma Leads.standing (h : Store.empty.Leads s) : s.Standing :=
  h.preserves (fun _ hrow => absurd hrow List.not_mem_nil)
    fun _ _ _ _ _ becomes hu => hu.becomes becomes

lemma Reached.standing (h : s.Reached) : s.Standing :=
  h.leads.standing

/-! ### Rows of reservations -/

/-- What every row of a reservation has behind it: a show and an equipment that exist, and, as it
has not been returned, a need of some units, of which it holds no more than it needs, and at least
one as long as units are out. -/
structure Backs (s : Store) (r : ReservationRow) : Prop where
  exists_show : ∃ row, s.shows.find? r.showId = some row
  exists_equipment : ∃ row, s.equipments.find? r.equipment = some row
  active : r.status ≠ ReservationStatus.returned.text
  one_le_needed : 1 ≤ r.needed
  allocated_nonneg : 0 ≤ r.allocated
  allocated_le_needed : r.allocated ≤ r.needed
  out : ReservationStatus.isOut r.status = true → 1 ≤ r.allocated

/-- An empty status is that of a reservation that waits. -/
lemma backs_of_stands {row : Int × ReservationRow} {equipment : EquipmentRow}
    (registered : s.equipments.find? row.2.equipment = some equipment)
    (sound : Snapshot.ReservationSound (s.reservationOf row))
    (stands : (s.reservationOf row).Stands s.shows) : s.Backs row.2 := by
  obtain ⟨hneeded, hnonneg, hle, -⟩ := sound
  obtain ⟨hshow, hactive, hout⟩ := stands
  rw [isActive_reservationOf] at hactive
  refine ⟨hshow, ⟨equipment, registered⟩, of_decide_eq_true hactive, hneeded, hnonneg, hle,
    fun hrow => hout ?_⟩
  have hstatus : row.2.status ≠ "" := by
    intro hempty
    rw [hempty] at hrow
    exact absurd hrow (by decide)
  rw [Reservation.isOut, reservationOf]
  simp only [if_neg hstatus, hrow]

/-- Where ledgers are sound, no show has two rows of one equipment. -/
lemma Sound.nodup_reservations (h : s.Sound) :
    (s.reservations.rows.map fun row => (row.2.showId, row.2.equipment)).Nodup := by
  have hgroups : s.reservations.rows.Pairwise fun r q =>
      r.2.equipment = q.2.equipment → r.2.showId ≠ q.2.showId := by
    refine pairwise_groups_iff.1 fun e => ?_
    cases hfound : s.equipments.find? e with
    | none =>
        have hnone : (s.reservations.rows.filter fun row => row.2.equipment = e) = [] :=
          (h.unregistered e hfound).2
        rw [hnone]
        exact List.Pairwise.nil
    | some equipment =>
        have hshows := (h.ledgers e equipment hfound).shows
        rw [snapshot, List.map_map] at hshows
        exact List.pairwise_map.1 hshows
  refine List.pairwise_map.2 (hgroups.imp fun hapart hsame => ?_)
  obtain ⟨hshow, hequipment⟩ := Prod.mk.inj hsame
  exact hapart hequipment hshow

lemma Reached.backs (h : s.Reached) {row : Int × ReservationRow}
    (hrow : row ∈ s.reservations.rows) : s.Backs row.2 := by
  obtain ⟨equipment, hequipment⟩ := h.sound.equipment_of_reservation hrow
  have hlisted : s.reservationOf row ∈ (s.snapshot row.2.equipment equipment).reservations :=
    List.mem_map_of_mem (mem_reservationsOf.2 ⟨hrow, rfl⟩)
  exact backs_of_stands hequipment
    ((h.sound.ledgers _ equipment hequipment).reservations _ hlisted) (h.standing row hrow)

/-- Whatever was ordered, every row of a reservation is for a show and of an equipment that exist,
for each pair there is one row at most, none is of a returned reservation, and every row keeps to
its bounds. -/
theorem Reached.backs_reservations (h : s.Reached) :
    (∀ row ∈ s.reservations.rows, s.Backs row.2)
      ∧ (s.reservations.rows.map fun row => (row.2.showId, row.2.equipment)).Nodup :=
  ⟨fun _ hrow => h.backs hrow, h.sound.nodup_reservations⟩

/-- Ten lamps are registered and a gala is listed, which asks for six lamps. It checks out four, and
then needs two only. -/
def galaStore : Store :=
  (({} : Desk).fulfilAll
    [({ now := default }, .register { name := some "Lamp", total := 10 }),
      ({ now := default }, .addShow { name := "Gala" }),
      ({ now := default }, .reserve { showId := 1, equipment := 1, needed := 6 }),
      ({ now := default },
        .changeReservation { id := 1, status := some "checked-out", allocated := some 4 }),
      ({ now := default }, .reserve { showId := 1, equipment := 1, needed := 2 })]).store

/-- The gala is left with the two lamps that it needs. -/
theorem Reached.backs_reservations_galaStore :
    galaStore.reservations.rows.map (fun row => (row.2.status, row.2.needed, row.2.allocated))
        = [("checked-out", 2, 2)]
      ∧ (∀ row ∈ galaStore.reservations.rows, galaStore.Backs row.2)
      ∧ (galaStore.reservations.rows.map fun row => (row.2.showId, row.2.equipment)).Nodup := by
  have hreached : galaStore.Reached :=
    .order _ _ _ (.order _ _ _ (.order _ _ _ (.order _ _ _ (.order _ _ _ .empty rfl) rfl) rfl)
      rfl) rfl
  exact ⟨by decide +kernel, hreached.backs_reservations⟩

end Store

end StageStock
