import Mathlib.Tactic.Lemma
import StageStock.Proofs.Proper

/-!
The checks that orders make are enough.

Every order compares what it asks for with a bound of its own: what is in the store, what is in the
store and at places, or what is in the store and held already. On a sound ledger these bounds are
such that the changes lead to a sound ledger again, and the rules need not be asked.

* `Snapshot.IsSound.withPlacements` and the like: what each kind of change has to keep to; new
  placements ask nothing of the old ones (`Snapshot.SoundButPlaced`);
* `Snapshot.transition_allows`: what a transition without a conflict keeps to;
* `Order.Makes.lawful`: whatever an order prepares from a sound ledger leaves a sound one.
-/

namespace StageStock

/-! ### Sums of parts -/

section Sums

variable {α : Type} {f : α → Int} {p : α → Bool} {xs : List α}

lemma addUp_filter_le (nonneg : ∀ x ∈ xs, 0 ≤ f x) :
    addUp ((xs.filter p).map f) ≤ addUp (xs.map f) := by
  induction xs with
  | nil => exact Int.le_refl _
  | cons x rest ih =>
      have hx := nonneg x List.mem_cons_self
      have hrest := ih fun y hy => nonneg y (List.mem_cons_of_mem _ hy)
      rw [List.filter_cons]
      split <;> simp only [List.map_cons, addUp] <;> omega

/-- A part without `x` sums up to what `x` leaves of the whole, or to less. -/
lemma addUp_filter_add_le (nonneg : ∀ x ∈ xs, 0 ≤ f x) {x : α} (hx : x ∈ xs) (out : p x = false) :
    addUp ((xs.filter p).map f) + f x ≤ addUp (xs.map f) := by
  induction xs with
  | nil => cases hx
  | cons y rest ih =>
      have hy := nonneg y List.mem_cons_self
      have hnonneg : ∀ z ∈ rest, 0 ≤ f z := fun z hz => nonneg z (List.mem_cons_of_mem _ hz)
      rcases List.mem_cons.1 hx with rfl | hx
      · have hle := addUp_filter_le (p := p) hnonneg
        rw [List.filter_cons_of_neg (by simp [out]), List.map_cons, addUp]
        omega
      · have hle := ih hnonneg hx
        rw [List.filter_cons]
        split <;> simp only [List.map_cons, addUp] <;> omega

lemma addUp_nonneg (nonneg : ∀ x ∈ xs, 0 ≤ f x) : 0 ≤ addUp (xs.map f) := by
  have hle := addUp_filter_le (p := fun _ => false) nonneg
  rwa [List.filter_false] at hle

/-- No term of a sum exceeds it, if none is negative. -/
lemma le_addUp_of_mem (nonneg : ∀ x ∈ xs, 0 ≤ f x) {x : α} (hx : x ∈ xs) :
    f x ≤ addUp (xs.map f) := by
  have hle := addUp_filter_add_le (p := fun _ => false) nonneg hx rfl
  rw [List.filter_false, List.map_nil, addUp] at hle
  omega

end Sums

/-! ### Sound changes of a ledger -/

namespace Snapshot

/-- What is reserved is what each reservation holds. -/
lemma reserved_eq (s : Snapshot) : s.reserved = addUp (s.reservations.map Reservation.held) := by
  rw [reserved]
  induction s.reservations with
  | nil => rfl
  | cons r rest ih =>
      rw [List.filter_cons, List.map_cons, addUp, Reservation.held, ← ih]
      split
      · rfl
      · exact (Int.zero_add _).symm

lemma ReservationSound.held_nonneg {r : Reservation} (h : ReservationSound r) : 0 ≤ r.held := by
  rw [Reservation.held]
  split
  · exact h.2.1
  · exact Int.le_refl 0

/-- A reservation that holds some units already may hold those and all that are in the store. -/
lemma inStoreWith_held (s : Snapshot) {r : Reservation} (h : ReservationSound r) :
    s.inStoreWith r.held = s.inStore + r.held := by
  have := h.held_nonneg
  rw [inStoreWith]
  omega

/-- The rules hold of a ledger as far as they do not speak of its placements. -/
structure SoundButPlaced (s : Snapshot) : Prop where
  one_le_total : 1 ≤ s.total
  reservations : ∀ r ∈ s.reservations, ReservationSound r
  shows : (s.reservations.map Reservation.showId).Nodup
  installation : InstallationSound s.installation

/-- With placements that fit in, such a ledger is sound. -/
lemma SoundButPlaced.withPlacements {s : Snapshot} (h : s.SoundButPlaced) {ps : List Placement}
    (each : ∀ p ∈ ps, PlacementSound p) (places : (ps.map fun p => p.place.key).Nodup)
    (enough : addUp (ps.map Placement.quantity) ≤ s.distributable) :
    ({ s with placements := ps } : Snapshot).IsSound where
  one_le_total := h.one_le_total
  placements := each
  places := places
  reservations := h.reservations
  shows := h.shows
  installation := h.installation
  inStore_nonneg := by
    show 0 ≤ s.total - (addUp (ps.map Placement.quantity) + s.reserved + s.installed)
    simp only [distributable, inStore, committed] at enough
    omega

namespace IsSound

variable {s : Snapshot}

lemma soundButPlaced (h : s.IsSound) : s.SoundButPlaced :=
  ⟨h.one_le_total, h.reservations, h.shows, h.installation⟩

lemma held_nonneg (h : s.IsSound) : ∀ r ∈ s.reservations, 0 ≤ r.held :=
  fun r hr => (h.reservations r hr).held_nonneg

lemma placed_nonneg (h : s.IsSound) : 0 ≤ s.placed :=
  addUp_nonneg fun p hp => Int.le_trans (by decide) (h.placements p hp).1

lemma reserved_nonneg (h : s.IsSound) : 0 ≤ s.reserved := by
  rw [reserved_eq]
  exact addUp_nonneg h.held_nonneg

lemma installed_nonneg (h : s.IsSound) : 0 ≤ s.installed := by
  rw [installed, Installation.units]
  split
  · exact h.installation.2.1
  · exact Int.le_refl 0

/-- What can be distributed is part of the total. -/
lemma distributable_bounds (h : s.IsSound) : 0 ≤ s.distributable ∧ s.distributable ≤ s.total := by
  have hstore := h.inStore_nonneg
  have hplaced := h.placed_nonneg
  have hreserved := h.reserved_nonneg
  have hinstalled := h.installed_nonneg
  rw [s.total_eq, distributable]
  omega

/-- So is what can be installed. -/
lemma installable_le (h : s.IsSound) : s.inStore + s.installed ≤ s.total := by
  have hplaced := h.placed_nonneg
  have hreserved := h.reserved_nonneg
  rw [s.total_eq]
  omega

lemma withTotal (h : s.IsSound) {total : Int} (one : 1 ≤ total) (enough : s.committed ≤ total) :
    ({ s with total := total } : Snapshot).IsSound where
  one_le_total := one
  placements := h.placements
  places := h.places
  reservations := h.reservations
  shows := h.shows
  installation := h.installation
  inStore_nonneg := by
    show 0 ≤ total - s.committed
    omega

lemma withPlacements (h : s.IsSound) {ps : List Placement} (each : ∀ p ∈ ps, PlacementSound p)
    (places : (ps.map fun p => p.place.key).Nodup)
    (enough : addUp (ps.map Placement.quantity) ≤ s.distributable) :
    ({ s with placements := ps } : Snapshot).IsSound :=
  h.soundButPlaced.withPlacements each places enough

lemma withInstallation (h : s.IsSound) {i : Installation} (sound : InstallationSound i)
    (enough : i.units ≤ s.inStore + s.installed) :
    ({ s with installation := i } : Snapshot).IsSound where
  one_le_total := h.one_le_total
  placements := h.placements
  places := h.places
  reservations := h.reservations
  shows := h.shows
  installation := sound
  inStore_nonneg := by
    show 0 ≤ s.total - (s.placed + s.reserved + i.units)
    simp only [inStore, committed] at enough
    omega

lemma withReservations (h : s.IsSound) {rs : List Reservation}
    (each : ∀ r ∈ rs, ReservationSound r) (shows : (rs.map Reservation.showId).Nodup)
    (enough : addUp (rs.map Reservation.held) ≤ s.inStore + s.reserved) :
    ({ s with reservations := rs } : Snapshot).IsSound where
  one_le_total := h.one_le_total
  placements := h.placements
  places := h.places
  reservations := each
  shows := shows
  installation := h.installation
  inStore_nonneg := by
    have hheld := reserved_eq { s with reservations := rs }
    show 0 ≤ s.total - (s.placed + ({ s with reservations := rs } : Snapshot).reserved
      + s.installed)
    simp only [inStore, committed] at enough
    rw [hheld]
    simp only
    omega

/-- Reservations can be dropped. -/
lemma filterReservations (h : s.IsSound) (p : Reservation → Bool) :
    ({ s with reservations := s.reservations.filter p } : Snapshot).IsSound := by
  refine h.withReservations (fun r hr => h.reservations r (List.mem_filter.1 hr).1)
    (h.shows.sublist (List.filter_sublist.map _)) ?_
  have hle := addUp_filter_le (p := p) h.held_nonneg
  have hstore := h.inStore_nonneg
  rw [s.reserved_eq]
  omega

/-- A reservation can take the place of those that `p` leaves out, if no other is for its show and
it holds no more than the store has and they held. -/
lemma putReservation (h : s.IsSound) {p : Reservation → Bool} {r : Reservation}
    (sound : ReservationSound r)
    (free : ∀ other ∈ s.reservations, p other = true → other.showId ≠ r.showId)
    (enough : addUp ((s.reservations.filter p).map Reservation.held) + r.held
      ≤ s.inStore + s.reserved) :
    ({ s with reservations := s.reservations.filter p ++ [r] } : Snapshot).IsSound := by
  refine h.withReservations (fun q hq => ?_) ?_ ?_
  · rcases List.mem_append.1 hq with hq | hq
    · exact h.reservations q (List.mem_filter.1 hq).1
    · rw [List.mem_singleton.1 hq]
      exact sound
  · rw [List.map_append]
    refine List.nodup_append.2 ⟨h.shows.sublist (List.filter_sublist.map _),
      List.nodup_singleton _, fun show₁ hshow₁ show₂ hshow₂ => ?_⟩
    obtain ⟨other, hother, rfl⟩ := List.mem_map.1 hshow₁
    rw [List.mem_singleton.1 hshow₂]
    exact free other (List.mem_filter.1 hother).1 (List.mem_filter.1 hother).2
  · rw [List.map_append, addUp_append]
    simpa [addUp] using enough

end IsSound

end Snapshot

/-! ### Transitions -/

lemma conflictIf_eq_nil {against : Bool} {c : Conflict} :
    Snapshot.conflictIf against c = [] ↔ against = false := by
  cases against <;> simp [Snapshot.conflictIf]

/-- What a transition without a conflict keeps to. -/
lemma Snapshot.transition_allows {s : Snapshot} {r : Reservation} {status? : Option String}
    {quantity? : Option Int} {t : Transition} (ht : t = s.transition r status? quantity?)
    (valid : t.conflicts = []) :
    ReservationStatus.isKnown t.status = true ∧ 0 ≤ t.quantity ∧ t.quantity ≤ r.needed
      ∧ (t.status ≠ ReservationStatus.returned.text → t.quantity ≤ s.inStoreWith r.held) := by
  subst ht
  simp only [transition, List.append_eq_nil_iff, conflictIf_eq_nil] at valid ⊢
  obtain ⟨⟨⟨⟨⟨⟨hknown, -⟩, hnegative⟩, hneeded⟩, havailable⟩, -⟩, -⟩ := valid
  refine ⟨by simpa using hknown, by simpa using hnegative, by simpa using hneeded, fun hstays => ?_⟩
  simpa [hstays] using havailable

/-! ### Lawful changes -/

/-- Changes that lead from a sound ledger to a sound one. -/
def Change.Lawful (before : Snapshot) (cs : List Change) : Prop :=
  before.IsSound → ∀ after, applyAll before cs = .ok after → after.IsSound

namespace Change

variable {before : Snapshot} {r current : Reservation}

lemma lawful_of_apply {c : Change} {after : Snapshot} (applied : apply before c = .ok after)
    (sound : before.IsSound → after.IsSound) : Lawful before [c] := by
  intro hbefore next hnext
  rw [applyAll, applied] at hnext
  exact Except.ok.inj hnext ▸ sound hbefore

lemma lawful_dropReservation (id : Int) (showId : Option Int) :
    Lawful before [.dropReservation id showId] := by
  intro hbefore after happlied
  obtain ⟨next, hdrop, hrest⟩ := exists_apply_of_applyAll happlied
  obtain ⟨-, rfl⟩ := dropped_of_apply hdrop
  exact Except.ok.inj hrest ▸ hbefore.filterReservations _

/-- A new reservation for a show that has none. -/
lemma lawful_newReservation (sound : Snapshot.ReservationSound r)
    (free : ∀ other ∈ before.reservations, other.showId ≠ r.showId)
    (enough : r.held ≤ before.inStore) : Lawful before [.putReservation r] := by
  refine lawful_of_apply rfl fun hbefore =>
    hbefore.putReservation sound (fun other hother _ => free other hother) ?_
  have hle := addUp_filter_le (f := Reservation.held)
    (p := fun other => r.id = none || other.id ≠ r.id) hbefore.held_nonneg
  rw [before.reserved_eq]
  omega

/-- A reservation in the place of the one that has its row and is for its show. -/
lemma lawful_oldReservation (hcurrent : current ∈ before.reservations) {id : Int}
    (own : current.id = some id) (old : r.id = some id) (same : r.showId = current.showId)
    (sound : before.IsSound → Snapshot.ReservationSound r)
    (enough : before.IsSound → r.held ≤ before.inStore + current.held) :
    Lawful before [.putReservation r] := by
  refine lawful_of_apply rfl fun hbefore => hbefore.putReservation (sound hbefore)
    (fun other hother hkept hshow => ?_) ?_
  · obtain rfl : other = current :=
      List.inj_on_of_nodup_map hbefore.shows hother hcurrent (hshow.trans same)
    simp [old, own] at hkept
  · have hle := addUp_filter_add_le (f := Reservation.held)
      (p := fun other => r.id = none || other.id ≠ r.id) hbefore.held_nonneg hcurrent
      (by simp [old, own])
    have := enough hbefore
    rw [before.reserved_eq]
    omega

/-- A new reservation instead of the one that its show had. -/
lemma lawful_renewReservation (hcurrent : current ∈ before.reservations) {id : Int}
    (own : current.id = some id) (showId : Option Int)
    (same : r.showId = current.showId) (sound : Snapshot.ReservationSound r)
    (enough : r.held ≤ before.inStore) :
    Lawful before [.dropReservation id showId, .putReservation r] := by
  intro hbefore after happlied
  obtain ⟨next, hdrop, hput⟩ := exists_apply_of_applyAll happlied
  obtain ⟨-, rfl⟩ := dropped_of_apply hdrop
  refine lawful_newReservation sound (fun other hother hshow => ?_) ?_
    (hbefore.filterReservations _) after hput
  · obtain ⟨hmem, hkept⟩ := List.mem_filter.1 hother
    obtain rfl : other = current :=
      List.inj_on_of_nodup_map hbefore.shows hmem hcurrent (hshow.trans same)
    exact of_decide_eq_true hkept own
  · have hle := addUp_filter_le (f := Reservation.held)
      (p := fun other => other.id ≠ some id) hbefore.held_nonneg
    have hless := Snapshot.reserved_eq
      { before with reservations := before.reservations.filter fun other => other.id ≠ some id }
    show r.held ≤ before.total - (before.placed + Snapshot.reserved
      { before with reservations := before.reservations.filter fun other => other.id ≠ some id }
        + before.installed)
    have hwhole := before.reserved_eq
    simp only [Snapshot.inStore, Snapshot.committed] at enough
    rw [hless]
    simp only
    omega

lemma lawful_replacePlacements {ps : List Placement}
    (each : before.IsSound → ∀ p ∈ ps, Snapshot.PlacementSound p)
    (places : before.IsSound → (ps.map fun p => p.place.key).Nodup)
    (enough : before.IsSound → addUp (ps.map Placement.quantity) ≤ before.distributable) :
    Lawful before [.replacePlacements ps] :=
  lawful_of_apply rfl fun h => h.withPlacements (each h) (places h) (enough h)

lemma lawful_setInstallation {i : Installation}
    (sound : before.IsSound → Snapshot.InstallationSound i)
    (enough : before.IsSound → i.units ≤ before.inStore + before.installed) :
    Lawful before [.setInstallation i] :=
  lawful_of_apply rfl fun h => h.withInstallation (sound h) (enough h)

end Change

/-! ### What requests prepare -/

/-- Whatever the mutation prepares is lawful. -/
abbrev Mutation.Lawful {α : Type} (m : Mutation α) : Prop :=
  m.Prepares Change.Lawful

lemma Equipments.lawful_setTotal {e total : Int} {user : Option Int} {s : Store}
    {m : Mutation Summary} (h : setTotal e total user s = .ok m) : m.Lawful := by
  obtain ⟨hone, rfl⟩ := setTotal_eq_ok h
  intro s read work _ hwork
  obtain ⟨henough, rfl⟩ := prepareTotal_eq_ok hwork
  exact Change.lawful_of_apply rfl fun hread => hread.withTotal hone henough

namespace Reservations

variable {s : Store} {read : Snapshot}

/-- Reservations that are read have a row. -/
lemma exists_id_of_mem {e : Int} (hread : s.ledger? e = .ok read) {r : Reservation}
    (hr : r ∈ read.reservations) : ∃ id, r.id = some id := by
  obtain ⟨row, -, -, rfl⟩ := Store.ledger?_eq_ok.1 hread
  obtain ⟨stored, -, rfl⟩ := List.mem_map.1 hr
  exact ⟨stored.1, rfl⟩

lemma sound_fresh {r : ReserveRequest} {row : ShowRow} (one : 1 ≤ r.needed) :
    Snapshot.ReservationSound (fresh r row) := by
  refine ⟨one, ?_, Int.le_refl r.needed, rfl⟩
  show 0 ≤ r.needed
  omega

lemma held_fresh (r : ReserveRequest) (row : ShowRow) : (fresh r row).held = r.needed := by
  rfl

lemma lawful_reserve {r : ReserveRequest} {m : Mutation Answer} (h : reserve r s = .ok m) :
    m.Lawful := by
  obtain ⟨hone, row, -, rfl⟩ := reserve_eq_ok h
  intro s read work hread hwork
  obtain ⟨henough, rfl⟩ := prepareReserve_eq_ok hwork
  show Change.Lawful read (reserveChanges r row read).1
  rw [reserveChanges] at henough ⊢
  split
  · rename_i hnone
    simp only [hnone, Snapshot.inStoreWith] at henough
    refine Change.lawful_newReservation (sound_fresh hone) (fun other hother hshow => ?_) ?_
    · exact List.find?_eq_none.1 hnone other hother (decide_eq_true hshow)
    · rw [held_fresh]
      omega
  · rename_i current hfound
    have hcurrent := List.mem_of_find?_eq_some hfound
    have hshow : current.showId = r.showId := of_decide_eq_true (List.find?_some hfound :)
    obtain ⟨id, hid⟩ := exists_id_of_mem hread hcurrent
    simp only [hfound] at henough
    split
    · -- the reservation keeps what it holds, and more only as far as the store has it
      rename_i hactive
      simp only [hactive, if_true] at henough
      have hheld : current.held = current.allocated := if_pos hactive
      have hactive' : ({ current with
          needed := r.needed, allocated := heldAfter current r.needed,
          notes := r.notes.or current.notes } : Reservation).isActive = true := hactive
      have hle : heldAfter current r.needed ≤ r.needed := by
        rw [heldAfter]
        split <;> omega
      refine Change.lawful_oldReservation hcurrent hid hid rfl (fun hsound => ?_) fun hsound => ?_
      · obtain ⟨-, hnonneg, -, hknown⟩ := hsound.reservations current hcurrent
        refine ⟨hone, ?_, hle, hknown⟩
        show 0 ≤ heldAfter current r.needed
        rw [heldAfter]
        split <;> omega
      · have hnonneg := hsound.held_nonneg current hcurrent
        rw [Reservation.held, if_pos hactive', hheld]
        rw [Snapshot.inStoreWith] at henough
        show heldAfter current r.needed ≤ _
        omega
    · rename_i hreturned
      simp only [hreturned, Bool.false_eq_true, if_false, Snapshot.inStoreWith] at henough
      rw [hid]
      refine Change.lawful_renewReservation hcurrent hid _ hshow.symm (sound_fresh hone) ?_
      rw [held_fresh]
      omega

lemma lawful_change {r : ChangeRequest} {m : Mutation Answer} (h : change r s = .ok m) :
    m.Lawful := by
  obtain ⟨row, -, rfl⟩ := change_eq_ok h
  intro s read work hread hwork
  obtain ⟨current, needed, t, allocated, hfound, hneeded, ht, hvalid, rfl⟩ :=
    prepareChange_eq_ok hwork
  have hcurrent := List.mem_of_find?_eq_some hfound
  have hid : current.id = some r.id := of_decide_eq_true (List.find?_some hfound :)
  obtain ⟨hknown, hnonneg, hle, havailable⟩ := Snapshot.transition_allows ht hvalid
  rw [changeWork]
  split
  · exact Change.lawful_dropReservation _ _
  · rename_i hstays
    have hsound : Snapshot.ReservationSound { current with
        needed := needed, allocated := t.quantity, status := t.status,
        notes := r.notes.or current.notes } := ⟨hneeded, hnonneg, hle, hknown⟩
    have hheld : ({ current with
        needed := needed, allocated := t.quantity, status := t.status,
        notes := r.notes.or current.notes } : Reservation).held = t.quantity :=
      if_pos (decide_eq_true hstays)
    have hsame : ({ current with needed := needed } : Reservation).held = current.held := rfl
    refine Change.lawful_oldReservation hcurrent hid hid rfl (fun _ => hsound) fun hread => ?_
    rw [hheld, ← Snapshot.inStoreWith_held read (hread.reservations current hcurrent), ← hsame]
    exact havailable hstays

lemma lawful_remove {id : Int} {user : Option Int} {m : Mutation Removed}
    (h : remove id user s = .ok m) : m.Lawful := by
  obtain ⟨row, answer, -, rfl, -⟩ := remove_eq_ok h
  exact fun _ _ _ => Change.lawful_dropReservation _ _

end Reservations

namespace Placements

variable {s : Store} {m : Mutation Answer}

lemma lawful_replace {r : ReplaceRequest} (h : replace r s = .ok m) : m.Lawful := by
  obtain ⟨row, placements, -, hplacements, rfl⟩ := replace_eq_ok h
  intro s read work _ hwork
  obtain ⟨henough, rfl⟩ := prepareReplace_eq_ok hwork
  exact Change.lawful_replacePlacements (fun _ => sound_of_readRows hplacements)
    (fun _ => (keys_of_readRows hplacements).1) fun _ => henough

lemma lawful_place {r : PlaceRequest} (h : place r s = .ok m) : m.Lawful := by
  obtain ⟨hunits, hknown, row, target, -, -, rfl⟩ := place_eq_ok h
  intro s read work _ hwork
  obtain ⟨henough, rfl⟩ := preparePlace_eq_ok hwork
  refine Change.lawful_replacePlacements
    (fun hread => sound_addUnits hread.placements hunits hknown)
    (fun hread => nodup_addUnits hread.places) fun hread => ?_
  rw [addUp_addUnits hread.places]
  show read.placed + r.quantity ≤ read.inStore + read.placed
  omega

lemma lawful_move {r : MoveRequest} (h : move r s = .ok m) : m.Lawful := by
  obtain ⟨row, target, -, -, rfl⟩ := move_eq_ok h
  intro s read work hread hwork
  obtain ⟨source, moved, hfound, hsome, hmoved, helsewhere, rfl⟩ := prepareMove_eq_ok hwork
  have hsource := List.mem_of_find?_eq_some hfound
  have hids := Store.nodup_ids_of_ledger? hread
  refine Change.lawful_replacePlacements
    (fun hsound => sound_moveUnits hsound.placements hsource hsome)
    (fun hsound => nodup_moveUnits hids hsource hsound.places helsewhere) fun hsound => ?_
  have hstore := hsound.inStore_nonneg
  rw [addUp_moveUnits hids hsource hsound.places hmoved]
  show read.placed - _ ≤ read.inStore + read.placed
  split <;> omega

end Placements

namespace Installations

variable {s : Store} {m : Mutation Answer}

lemma sound_portable : Snapshot.InstallationSound {} :=
  ⟨by decide, by decide, by decide, by decide⟩

lemma sound_of_requested {r : InstallRequest} {today : Date} {i : Installation}
    (known : InstallationKind.isKnown r.kind = true) (h : requested r today s = .ok i) :
    Snapshot.InstallationSound i := by
  rcases requested_eq_ok h with ⟨-, rfl⟩ | ⟨place, quantity, hinstalled, -, hone, rfl⟩
  · exact sound_portable
  · refine ⟨known, ?_, fun _ => rfl, fun hportable => ?_⟩
    · show 0 ≤ quantity
      omega
    · exact absurd (decide_eq_true hinstalled) (by simpa [Installation.isActive] using hportable)

/-- Units that are in the store or installed already can be prepared to be installed. -/
lemma prepareInstall_of_enough {ledger : Snapshot} {i : Installation} (sound : ledger.IsSound)
    (enough : i.isActive = true → i.quantity ≤ ledger.inStore + ledger.installed) :
    prepareInstall i ledger
      = .ok { action := "SetInstallation", changes := [.setInstallation i], answer } := by
  have hmost := sound.installable_le
  simp only [prepareInstall]
  split
  · rfl
  · rename_i hactive
    have henough := enough (by simpa using hactive)
    rw [if_neg (by omega), if_neg (by omega)]

lemma lawful_install {r : InstallRequest} {today : Date} (h : install r today s = .ok m) :
    m.Lawful := by
  obtain ⟨hkind, row, i, -, hi, rfl⟩ := install_eq_ok h
  intro s read work _ hwork
  obtain ⟨henough, rfl⟩ := prepareInstall_eq_ok hwork
  refine Change.lawful_setInstallation (fun _ => sound_of_requested hkind hi) fun hread => ?_
  have hstore := hread.inStore_nonneg
  have hinstalled := hread.installed_nonneg
  rw [Installation.units]
  split
  · rename_i hactive
    exact henough hactive
  · omega

lemma lawful_bringBack {e : Int} {quantity user : Option Int}
    (h : bringBack e quantity user s = .ok m) : m.Lawful := by
  obtain ⟨row, -, rfl⟩ := bringBack_eq_ok h
  intro s read work _ hwork
  obtain ⟨i, hi, rfl⟩ := prepareReturn_eq_ok hwork
  rcases hi with rfl | ⟨remaining, hone, hle, hactive, rfl⟩
  · refine Change.lawful_setInstallation (fun _ => sound_portable) fun hread => ?_
    have hstore := hread.inStore_nonneg
    have hinstalled := hread.installed_nonneg
    show 0 ≤ _
    omega
  · have hactive' : ({ read.installation with quantity := remaining } : Installation).isActive
        = true := hactive
    refine Change.lawful_setInstallation (fun hread => ?_) fun hread => ?_
    · obtain ⟨hkind, -, hplace, -⟩ := hread.installation
      refine ⟨hkind, Int.le_of_lt hone, fun _ => hplace hactive, fun hportable => ?_⟩
      rw [hactive'] at hportable
      cases hportable
    · have hstore := hread.inStore_nonneg
      rw [Snapshot.installed, Installation.units, if_pos hactive', Installation.units,
        if_pos hactive]
      show remaining ≤ _
      omega

end Installations

/-- What an order prepares from a sound ledger leaves a sound one. -/
theorem Order.Makes.lawful {o : Order} {today : Date} {s : Store} {m : Mutation Json}
    (h : o.Makes today s m) : m.Lawful := by
  cases h with
  | setTotal made => exact (Equipments.lawful_setTotal made).map _
  | reserve made => exact (Reservations.lawful_reserve made).map _
  | changeReservation made => exact (Reservations.lawful_change made).map _
  | removeReservation made => exact (Reservations.lawful_remove made).map _
  | replacePlacements made => exact (Placements.lawful_replace made).map _
  | placeUnits made => exact (Placements.lawful_place made).map _
  | moveUnits made => exact (Placements.lawful_move made).map _
  | install made => exact (Installations.lawful_install made).map _
  | bringBack made => exact (Installations.lawful_bringBack made).map _

end StageStock
