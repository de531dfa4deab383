import Mathlib.Tactic.Lemma
import StageStock.Proofs.GivingBack
import StageStock.Proofs.Restating
import StageStock.Proofs.ShowDays

/-!
Asking for the same once more changes nothing.

An order that says how things are to be, and not by how much they are to change, finds them so when
it is made again. What bounds it is read off the ledger that it has left itself: the total covers
what is committed, the units that are reserved, placed or installed count as available to the order
that holds them, and what is in the store is not negative.

* `Order.Repeatable`: the orders that can be made again;
* `Order.MetBy`: what an order would change is stored already, and `Order.Makes.metBy`: so it is
  after a repeatable order has been committed;
* `Desk.Repeats`: an order that succeeds and restates what is stored
  (`Desk.repeats_of_metBy`);
* `Desk.fulfil_again`: an order that has succeeded repeats, if it is repeatable.
-/

namespace StageStock

/-! ### Orders that are met -/

namespace Order

/-- Orders that can be made again in a store. A reservation that is changed has not been returned,
and the change names no version of the ledger; an installation is dated. The id of the reservation
that a show has made is one that can be looked up. -/
inductive Repeatable (t : Store) : Order → Prop where
  | setTotal (e total : Int) (user : Option Int) : Repeatable t (.setTotal e total user)
  | reserve (r : Reservations.ReserveRequest) (wide : ∀ row ∈ t.reservationsOf r.equipment,
      row.2.showId = r.showId → fitsWord row.1 = true) : Repeatable t (.reserve r)
  | changeReservation (r : Reservations.ChangeRequest)
      (stays : (t.reservations.find? r.id).isSome = true) (unversioned : r.expected = none) :
      Repeatable t (.changeReservation r)
  | replacePlacements (r : Placements.ReplaceRequest) : Repeatable t (.replacePlacements r)
  | install (r : Installations.InstallRequest)
      (dated : r.kind = InstallationKind.portable.text ∨ r.since.isSome = true) :
      Repeatable t (.install r)

lemma Repeatable.isLocked {o : Order} {t : Store} (h : o.Repeatable t) : o.isLocked = true := by
  cases h <;> rfl

/-- On whatever day it is made, all that an order would change of a ledger is stored already. -/
def MetBy (o : Order) (e : Int) (user : Option Int) (t : Store) (current : Snapshot) : Prop :=
  ∀ today, ∃ m work, o.Makes today t m ∧ m.equipment = e ∧ m.user = user
    ∧ m.Readies current work ∧ Change.Settled t e work.changes

end Order

/-! ### Totals, placements and installations -/

namespace Order

section MetBy

variable {s : Store} {ledger : Snapshot}

/-- The total that a sound ledger has can be ordered of it. -/
lemma metBy_total {e : Int} {user : Option Int} {row : EquipmentRow}
    (found : s.equipments.find? e = some row) (sound : (s.snapshot e row).IsSound)
    {m : Mutation Summary} (made : Equipments.setTotal e row.total user s = .ok m) :
    (Order.setTotal e row.total user).MetBy e user s (s.snapshot e row) := by
  obtain ⟨-, rfl⟩ := Equipments.setTotal_eq_ok made
  have hstore := sound.inStore_nonneg
  have henough : ¬ row.total < (s.snapshot e row).committed := by
    simp only [Snapshot.inStore] at hstore
    exact Int.not_lt.2 (Int.le_of_sub_nonneg hstore)
  have hprepare : Equipments.prepareTotal row.total (s.snapshot e row) = .ok _ :=
    if_neg henough
  exact fun _ => ⟨_, _, .setTotal made, rfl, rfl,
    (Mutation.readies_of_prepare rfl hprepare).map _, .setTotal row found⟩

/-- Placements that the rows of an equipment hold can be ordered of a sound ledger. -/
lemma metBy_placements {r : Placements.ReplaceRequest} {ps : List Placement}
    (made : Placements.replace r s = .ok
      { equipment := r.equipment, user := r.user
        preparation := .fromLedger (Placements.prepareReplace r.equipment ps) })
    (sound : ledger.IsSound) (placed : addUp (ps.map Placement.quantity) = ledger.placed)
    (settled : Change.Settled s r.equipment [.replacePlacements ps]) :
    (Order.replacePlacements r).MetBy r.equipment r.user s ledger := by
  have hstore := sound.inStore_nonneg
  have henough : ¬ ledger.distributable < addUp (ps.map Placement.quantity) := by
    rw [placed, Snapshot.distributable]
    omega
  have hprepare : Placements.prepareReplace r.equipment ps ledger = .ok _ :=
    if_neg henough
  exact fun _ => ⟨_, _, .replacePlacements made, rfl, rfl,
    (Mutation.readies_of_prepare rfl hprepare).map _, settled⟩

end MetBy

end Order

namespace Order.Makes

variable {s₀ s t : Store} {today : Date} {m : Mutation Json} {work : Prepared Json} {now : Moment}
  {before after committed : Snapshot} {w : Worksheet}

lemma metBy_setTotal {e total : Int} {user : Option Int}
    (makes : (Order.setTotal e total user).Makes today s₀ m) (ready : m.Readies before work)
    (commits : s.Commits (m.proposal work) now before after w t committed) :
    (Order.setTotal e total user).MetBy m.equipment m.user t committed := by
  have hsound := commits.isSound_of_proper (makes.proper.of_readies commits.read ready)
  cases makes with
  | setTotal made =>
      obtain ⟨mapped, hmapped, rfl⟩ := ready.of_map
      obtain ⟨-, rfl⟩ := Equipments.setTotal_eq_ok made
      obtain ⟨plain, hplain, rfl⟩ := hmapped
      rw [(Equipments.prepareTotal_eq_ok hplain).2] at commits
      obtain ⟨row, hrow, rfl, -, htotal, -⟩ := commits.committed_eq
      obtain rfl := Except.ok.inj commits.applied
      obtain rfl : row.total = total := htotal
      exact metBy_total hrow hsound made

lemma metBy_replacePlacements {r : Placements.ReplaceRequest}
    (makes : (Order.replacePlacements r).Makes today s₀ m) (ready : m.Readies before work)
    (agrees : s₀.AgreesBeside m.equipment t)
    (commits : s.Commits (m.proposal work) now before after w t committed) :
    (Order.replacePlacements r).MetBy m.equipment m.user t committed := by
  have hproper := makes.proper.of_readies commits.read ready
  have hsound := commits.isSound_of_proper hproper
  cases makes with
  | replacePlacements made =>
      obtain ⟨mapped, hmapped, rfl⟩ := ready.of_map
      have hmade := Placements.replace_of_agreesBeside agrees made
      obtain ⟨row, ps, -, hread, rfl⟩ := Placements.replace_eq_ok made
      obtain ⟨plain, hplain, rfl⟩ := hmapped
      rw [(Placements.prepareReplace_eq_ok hplain).2] at commits hproper
      have halike := commits.alike_of_proper hproper
      obtain ⟨hnodup, -⟩ := Placements.keys_of_readRows hread
      obtain ⟨hstored, hasked⟩ := commits.holds_replaced rfl hnodup
      have hplaced : addUp (ps.map Placement.quantity) = committed.placed := by
        rw [← halike.placed_eq, ← Except.ok.inj commits.applied]
        rfl
      exact metBy_placements hmade hsound hplaced
        (.replacePlacements ps hnodup (Placements.hasWords_of_readRows hread) hstored hasked)

end Order.Makes

/-- An installation that is dated, or none, is the same on every day. -/
lemma Installations.requested_redate {r : InstallRequest}
    (dated : r.kind = InstallationKind.portable.text ∨ r.since.isSome = true)
    (today today' : Date) (s : Store) : requested r today' s = requested r today s := by
  rcases dated with hportable | hdated
  · rw [requested, requested, if_pos hportable, if_pos hportable]
  · obtain ⟨day, hday⟩ := Option.isSome_iff_exists.1 hdated
    simp only [requested, hday, Option.getD_some]

lemma Installations.install_redate {r : InstallRequest}
    (dated : r.kind = InstallationKind.portable.text ∨ r.since.isSome = true)
    (today today' : Date) (s : Store) : install r today' s = install r today s := by
  simp only [install, requested_redate dated today today']

lemma Order.Makes.metBy_install {s₀ s t : Store} {today : Date} {m : Mutation Json}
    {work : Prepared Json} {now : Moment} {before after committed : Snapshot} {w : Worksheet}
    {r : Installations.InstallRequest}
    (dated : r.kind = InstallationKind.portable.text ∨ r.since.isSome = true)
    (makes : (Order.install r).Makes today s₀ m) (ready : m.Readies before work)
    (agrees : s₀.AgreesBeside m.equipment t)
    (commits : s.Commits (m.proposal work) now before after w t committed) :
    (Order.install r).MetBy m.equipment m.user t committed := by
  have hproper := makes.proper.of_readies commits.read ready
  have hsound := commits.isSound_of_proper hproper
  cases makes with
  | install made =>
      obtain ⟨mapped, hmapped, rfl⟩ := ready.of_map
      have hmade := Installations.install_of_agreesBeside agrees made
      obtain ⟨-, row, i, -, -, rfl⟩ := Installations.install_eq_ok made
      obtain ⟨plain, hplain, rfl⟩ := hmapped
      rw [(Installations.prepareInstall_eq_ok hplain).2] at commits hproper
      have halike := commits.alike_of_proper hproper
      have hunits : i.units = committed.installed := by
        rw [← halike.installed_eq, ← Except.ok.inj commits.applied]
        rfl
      have henough : i.isActive = true → i.quantity ≤ committed.inStore + committed.installed := by
        intro hactive
        rw [Installation.units, if_pos hactive] at hunits
        have hstore := hsound.inStore_nonneg
        omega
      obtain ⟨stored, hstored, hholds⟩ := commits.holds_installed rfl
      exact fun today' => ⟨_, _,
        .install ((Installations.install_redate dated today today' t).trans hmade), rfl, rfl,
        (Mutation.readies_of_prepare rfl
          (Installations.prepareInstall_of_enough hsound henough)).map _,
        .setInstallation i stored hstored hholds⟩

/-! ### Reservations -/

namespace Snapshot

variable {s : Snapshot} {r : Reservation}

/-- A reservation may keep the status and the units that it has. -/
lemma IsSound.conflicts_of_kept (h : s.IsSound) (listed : r ∈ s.reservations)
    (active : r.isActive = true) (out : r.isOut = true → 1 ≤ r.allocated) {t : Transition}
    {status? : Option String} {quantity? : Option Int} (ht : t = s.transition r status? quantity?)
    (status : t.status = r.status) (quantity : t.quantity = r.allocated) : t.conflicts = [] := by
  obtain ⟨-, hnonneg, hle, hknown⟩ := h.reservations r listed
  have hstore := h.inStore_nonneg
  refine List.isEmpty_iff.1 ((h.isValid_transition_iff listed rfl rfl ht).2 ?_)
  have hheld : r.held = r.allocated := if_pos active
  have henough : r.allocated ≤ s.inStoreWith r.held := by
    rw [s.inStoreWith_held (h.reservations r listed), hheld]
    omega
  simp only [conflictsBesideDays, status, quantity, List.append_eq_nil_iff, conflictIf_eq_nil,
    hknown, active, Bool.not_true, Bool.false_and, decide_eq_false_iff_not, Int.not_lt, true_and]
  refine ⟨⟨⟨hnonneg, hle⟩, ?_⟩, ?_⟩
  · simp [henough]
  · rw [Bool.and_eq_false_imp]
    exact fun hout => decide_eq_false (Int.not_le.2 (out hout))

/-- A reservation in the place of one that holds as much leaves the store as it was. -/
lemma inStore_of_put {s' : Snapshot} {current : Reservation} {id : Int}
    (applied : Change.apply s (.putReservation r) = .ok s')
    (ids : (s.reservations.map Reservation.id).Nodup) (listed : current ∈ s.reservations)
    (own : current.id = some id) (same : r.id = some id) (held : r.held = current.held) :
    s'.inStore = s.inStore := by
  have hkept : (s.reservations.filter fun other => r.id = none || other.id ≠ r.id)
      = s.reservations.filter fun other => other.id ≠ current.id :=
    List.filter_congr fun _ _ => by simp [own, same]
  have hfront := addUp_eq_of_perm ((perm_cons_filter_ne ids listed).map Reservation.held)
  obtain rfl := Except.ok.inj applied
  simp only [inStore, committed, reserved_eq, placed, installed, hkept, hfront, List.map_append,
    List.map_cons, List.map_nil, addUp_append, addUp, held]
  omega

end Snapshot

/-- Reservations that are read have different rows. -/
lemma Store.nodup_reservationIds_of_ledger? {s : Store} {e : Int} {ledger : Snapshot}
    (read : s.ledger? e = .ok ledger) : (ledger.reservations.map Reservation.id).Nodup := by
  rw [reservations_of_ledger? read, List.map_map]
  show ((s.reservationsOf e).map (some ∘ Prod.fst)).Nodup
  rw [← List.map_map]
  exact (Worksheet.nodup_ids_reservationsOf s e).map (Option.some_injective Int)

namespace Reservations

variable {s : Store} {e : Int} {before after : Snapshot}

/-- What a show has been granted it would be granted again, with its own units counted as
available: it holds all that it needs, or else no more than before. -/
lemma needed_le_of_granted {r : ReserveRequest} {row : ShowRow} {front : List Change}
    {q : Reservation} (read : s.ledger? e = .ok before)
    (granted : r.needed ≤ before.inStoreWith (reserveChanges r row before).2)
    (applied : Change.applyAll before (reserveChanges r row before).1 = .ok after)
    (puts : (reserveChanges r row before).1 = front ++ [.putReservation q])
    (nonneg : 0 ≤ after.inStore) : r.needed ≤ after.inStoreWith q.allocated := by
  by_cases hall : q.allocated = r.needed
  · rw [hall, Snapshot.inStoreWith]
    omega
  · have hlast := congrArg List.getLast? puts
    rw [List.getLast?_append_of_ne_nil _ (List.cons_ne_nil _ _)] at hlast
    cases hfound : before.reservationFor? r.showId with
    | none =>
        simp only [reserveChanges, hfound] at hlast
        obtain rfl : fresh r row = q := by simpa using hlast
        exact absurd rfl hall
    | some current =>
        have hlisted := List.mem_of_find?_eq_some hfound
        obtain ⟨id, hid⟩ := exists_id_of_mem read hlisted
        by_cases hactive : current.isActive = true
        · simp only [reserveChanges, hfound, hactive, if_true] at granted applied hlast
          obtain rfl := Change.putReservation.inj (Option.some.inj hlast)
          -- units that are out and fewer than are needed stay as they are
          have hkept : heldAfter current r.needed = current.allocated := by
            by_cases hout : current.isOut = true
            · simp only [heldAfter, hout, if_true] at hall ⊢
              omega
            · simp [heldAfter, hout] at hall
          rw [hkept] at applied ⊢
          have hput : Change.apply before (.putReservation { current with
              needed := r.needed
              allocated := current.allocated
              notes := r.notes.or current.notes }) = .ok after := applied
          rw [Snapshot.inStoreWith, Snapshot.inStore_of_put hput
            (Store.nodup_reservationIds_of_ledger? read) hlisted hid hid rfl]
          exact granted
        · simp only [reserveChanges, hfound, hactive] at hlast
          obtain rfl : fresh r row = q := by simpa using hlast
          exact absurd rfl hall

lemma Meets.congr {r : ReserveRequest} {q current : Reservation} (h : Meets r q)
    (same : current.Matches q) (asks : current.showId = r.showId) : Meets r current := by
  obtain ⟨id, showId, needed, allocated, status, notes, first, last⟩ := q
  obtain ⟨id', showId', needed', allocated', status', notes', first', last'⟩ := current
  obtain ⟨rfl, rfl, rfl, rfl⟩ := same
  exact ⟨asks, h.active, h.needed, h.allocated, h.notes⟩

/-- A reservation that records what the show asks for is recorded as it is. -/
lemma prepareReserve_of_meets {r : ReserveRequest} {row : ShowRow} {ledger : Snapshot}
    {current : Reservation} (found : ledger.reservationFor? r.showId = some current)
    (meets : Meets r current) (enough : r.needed ≤ ledger.inStoreWith current.allocated) :
    prepareReserve r row ledger = .ok { action := "AllocateToShow"
                                        changes := [.putReservation current]
                                        answer := reserveAnswer r } := by
  have hsame : { current with
      needed := r.needed
      allocated := heldAfter current r.needed
      notes := r.notes.or current.notes } = current := by
    rw [meets.allocated, meets.notes, ← meets.needed]
  simp only [prepareReserve, reserveChanges, found, meets.active, if_true, Int.not_lt.2 enough,
    if_false, hsame]

/-- A reservation is what a change has made of it: the change names nothing else. -/
structure Fulfils (r : ChangeRequest) (q : Reservation) : Prop where
  active : q.isActive = true
  out : q.isOut = true → 1 ≤ q.allocated
  needed : r.neededOf q = q.needed
  allocated : (r.allocatedOf q).getD q.allocated = q.allocated
  status : r.status = none ∨ r.status = some "" ∨ r.status = some q.status
  notes : r.notes.or q.notes = q.notes

lemma Fulfils.congr {r : ChangeRequest} {q current : Reservation} (h : Fulfils r q)
    (same : current.Matches q) : Fulfils r current := by
  obtain ⟨id, showId, needed, allocated, status, notes, first, last⟩ := q
  obtain ⟨id', showId', needed', allocated', status', notes', first', last'⟩ := current
  obtain ⟨rfl, rfl, rfl, rfl⟩ := same
  exact ⟨h.active, h.out, h.needed, h.allocated, h.status, h.notes⟩

/-- What a change that does not return a reservation records is what it asks for. -/
lemma fulfils_changed {r : ChangeRequest} {ledger : Snapshot} {current : Reservation}
    {t : Transition} (ht : t = r.transition ledger current) (valid : t.conflicts = [])
    (stays : t.status ≠ ReservationStatus.returned.text) :
    Fulfils r { current with
      needed := r.neededOf current
      allocated := t.quantity
      status := t.status
      notes := r.notes.or current.notes } := by
  obtain ⟨-, -, hle, -⟩ := Snapshot.transition_allows ht valid
  have hneeded : r.needed.getD (r.neededOf current) = r.neededOf current := by
    rw [ChangeRequest.neededOf]
    cases r.needed <;> rfl
  refine ⟨decide_eq_true stays, one_le_quantity_of_isOut ht valid, hneeded, ?_, ?_, ?_⟩
  · -- the units that are held now are not more than are needed
    have hunlowered : ¬ (r.allocated = none ∧ r.needed.getD (r.neededOf current) < t.quantity) := by
      rw [hneeded]
      exact fun h => absurd hle (Int.not_le.2 h.2)
    have hquantity : t.quantity = (r.allocatedOf current).getD current.allocated := by rw [ht]; rfl
    show (if r.allocated = none ∧ r.needed.getD (r.neededOf current) < t.quantity
      then some (r.needed.getD (r.neededOf current)) else r.allocated).getD t.quantity = t.quantity
    rw [if_neg hunlowered]
    cases hasked : r.allocated with
    | none => rfl
    | some units =>
        rw [hquantity, ChangeRequest.allocatedOf, if_neg (by simp [hasked]), hasked]
        rfl
  · cases hasked : r.status with
    | none => exact Or.inl rfl
    | some text =>
        by_cases hempty : text = ""
        · exact Or.inr (Or.inl (congrArg some hempty))
        · rw [ChangeRequest.transition, hasked] at ht
          have hstatus : t.status = text := by
            rw [ht]
            exact if_neg hempty
          exact Or.inr (Or.inr (congrArg some hstatus.symm))
  · cases r.notes <;> rfl

/-- A reservation that is what the change has made of it is recorded as it is. -/
lemma exists_prepareChange_of_fulfils {r : ChangeRequest} {ledger : Snapshot}
    {current : Reservation} (sound : ledger.IsSound) (unversioned : r.expected = none)
    (found : ledger.findReservation? r.id = some current) (fulfils : Fulfils r current) :
    ∃ work, prepareChange r ledger = .ok work ∧ work.changes = [.putReservation current] := by
  have hlisted := List.mem_of_find?_eq_some found
  obtain ⟨hone, -⟩ := sound.reservations current hlisted
  have hsame : { current with needed := r.neededOf current } = current := by rw [fulfils.needed]
  have hstatus : (r.transition ledger current).status = current.status := by
    rw [ChangeRequest.transition, hsame]
    simp only [Snapshot.transition]
    rcases fulfils.status with hasked | hasked | hasked <;> simp [hasked]
  have hquantity : (r.transition ledger current).quantity = current.allocated := by
    rw [ChangeRequest.transition, hsame]
    exact fulfils.allocated
  have hvalid : (r.transition ledger current).conflicts = [] :=
    sound.conflicts_of_kept hlisted fulfils.active fulfils.out
      (by rw [ChangeRequest.transition, hsame]) hstatus hquantity
  have hstays : current.status ≠ ReservationStatus.returned.text :=
    of_decide_eq_true fulfils.active
  refine ⟨_, prepareChange_iff.2 ⟨by rw [unversioned]; rfl, current, found,
    fulfils.needed ▸ hone, hvalid, rfl⟩, ?_⟩
  rw [changeWork, if_neg (hstatus ▸ hstays), hstatus, hquantity, fulfils.needed, fulfils.notes]

end Reservations

namespace Order.Makes

variable {s₀ s t : Store} {today : Date} {m : Mutation Json} {work : Prepared Json} {now : Moment}
  {before after committed : Snapshot} {w : Worksheet}

lemma metBy_reserve {r : Reservations.ReserveRequest}
    (wide : ∀ row ∈ t.reservationsOf r.equipment, row.2.showId = r.showId → fitsWord row.1 = true)
    (makes : (Order.reserve r).Makes today s₀ m) (ready : m.Readies before work)
    (agrees : s₀.AgreesBeside m.equipment t)
    (commits : s.Commits (m.proposal work) now before after w t committed) :
    (Order.reserve r).MetBy m.equipment m.user t committed := by
  have hproper := makes.proper.of_readies commits.read ready
  have hsound := commits.isSound_of_proper hproper
  have hstore : after.inStore = committed.inStore := (commits.alike_of_proper hproper).inStore_eq
  obtain ⟨b, hbucket, htouches⟩ := makes.touches ready commits.read commits.applied
  cases makes with
  | reserve made =>
      obtain ⟨mapped, hmapped, rfl⟩ := ready.of_map
      have hmade := (Reservations.reserve_congr agrees.shows r).trans made
      obtain ⟨-, dates, -, rfl⟩ := Reservations.reserve_eq_ok made
      obtain ⟨plain, hplain, rfl⟩ := hmapped
      obtain ⟨hgranted, hwork⟩ := Reservations.prepareReserve_eq_ok hplain
      rw [hwork] at commits htouches
      obtain ⟨front, q, hputs, hmeets⟩ := Reservations.exists_put_of_reserve r dates before
      obtain ⟨id, row, hrow, hown, rfl, -, hholds, hsame⟩ :=
        commits.exists_recorded htouches front hputs
      have hshow : row.showId = r.showId :=
        Bucket.reservation.inj (Option.some.inj hbucket.symm)
      have hlisted : (id, row) ∈ t.reservationsOf r.equipment :=
        Store.mem_reservationsOf.2 ⟨Table.find?_eq_some_iff.1 hrow, hown⟩
      have hread := Store.mem_reservations_of_ledger? commits.reread hlisted
      -- the show finds the reservation that it has made
      have hfound : committed.reservationFor? r.showId = some (t.reservationOf (id, row)) :=
        find?_eq_some_of_unique hread (decide_eq_true hshow) fun other hother hasks =>
          List.inj_on_of_nodup_map hsound.shows hother hread
            ((of_decide_eq_true hasks).trans hshow.symm)
      have henough : r.needed ≤ committed.inStoreWith (t.reservationOf (id, row)).allocated := by
        rw [hsame.allocated, Snapshot.inStoreWith, ← hstore]
        exact Reservations.needed_le_of_granted commits.read hgranted commits.applied hputs
          (hstore ▸ hsound.inStore_nonneg)
      exact fun _ => ⟨_, _, .reserve hmade, rfl, rfl, (Mutation.readies_of_prepare rfl
        (Reservations.prepareReserve_of_meets hfound (hmeets.congr hsame hshow) henough)).map _,
        .putReservation _ id row rfl (Store.reservation?_eq_ok.2 ⟨wide _ hlisted hshow, hrow⟩)
          hown rfl (hholds.congr hsame)⟩

lemma metBy_change {r : Reservations.ChangeRequest}
    (stays : (t.reservations.find? r.id).isSome = true) (unversioned : r.expected = none)
    (makes : (Order.changeReservation r).Makes today s₀ m) (ready : m.Readies before work)
    (commits : s.Commits (m.proposal work) now before after w t committed) :
    (Order.changeReservation r).MetBy m.equipment m.user t committed := by
  have hsound := commits.isSound_of_proper (makes.proper.of_readies commits.read ready)
  obtain ⟨b, -, htouches⟩ := makes.touches ready commits.read commits.applied
  cases makes with
  | changeReservation made =>
      obtain ⟨mapped, hmapped, rfl⟩ := ready.of_map
      obtain ⟨asked, hasked, rfl⟩ := Reservations.change_eq_ok made
      obtain ⟨plain, hplain, rfl⟩ := hmapped
      obtain ⟨-, current, hcurrent, -, hvalid, rfl⟩ := Reservations.prepareChange_iff.1 hplain
      have hid : current.id = some r.id := of_decide_eq_true (List.find?_some hcurrent :)
      have hstays : (r.transition before current).status ≠ ReservationStatus.returned.text := by
        intro hreturned
        have hgone : t.reservations.find? r.id = none := commits.find?_of_drop htouches (by
          simp only [Mutation.proposal, Prepared.map, Reservations.changeWork, if_pos hreturned,
            hid, Option.getD_some]
          rfl)
        rw [hgone] at stays
        cases stays
      obtain ⟨id, row, hrow, hown, -, hsameId, hholds, hsame⟩ :=
        commits.exists_recorded htouches [] (by
          simp only [Mutation.proposal, Prepared.map, Reservations.changeWork, if_neg hstays]
          rfl)
      obtain rfl : id = r.id := hsameId _ hid
      have hfulfils := (Reservations.fulfils_changed rfl hvalid hstays).congr hsame
      have hread := Store.mem_reservations_of_find? commits.reread hrow hown
      obtain ⟨hfound, -⟩ := Reservations.find_of_listed commits.reread hread rfl
      obtain ⟨again, hagain, hputs⟩ :=
        Reservations.exists_prepareChange_of_fulfils hsound unversioned hfound hfulfils
      have hstored := Store.reservation?_eq_ok.2 ⟨(Store.reservation?_eq_ok.1 hasked).1, hrow⟩
      refine fun _ => ⟨_, _, .changeReservation (Reservations.change_eq hstored), hown, rfl,
        (Mutation.readies_of_prepare rfl hagain).map _, ?_⟩
      show Change.Settled t _ again.changes
      rw [hputs]
      exact .putReservation _ r.id row rfl hstored hown rfl (hholds.congr hsame)

/-- After a repeatable order has been committed, all that it would change is stored already. -/
theorem metBy {o : Order} (repeatable : o.Repeatable t) (makes : o.Makes today s₀ m)
    (ready : m.Readies before work) (agrees : s₀.AgreesBeside m.equipment s)
    (commits : s.Commits (m.proposal work) now before after w t committed) :
    o.MetBy m.equipment m.user t committed := by
  have hagrees : s₀.AgreesBeside m.equipment t := agrees.trans commits.agreesBeside
  cases repeatable with
  | setTotal e total user => exact metBy_setTotal makes ready commits
  | reserve r wide => exact metBy_reserve wide makes ready hagrees commits
  | changeReservation r stays unversioned =>
      exact metBy_change stays unversioned makes ready commits
  | replacePlacements r => exact metBy_replacePlacements makes ready hagrees commits
  | install r dated => exact metBy_install dated makes ready hagrees commits

end Order.Makes

/-! ### Orders that repeat -/

namespace Desk

variable {desk : Desk} {call again : Call} {o : Order} {e : Int} {user : Option Int}
  {current : Snapshot} {answer : Json}

/-- An order repeats what is stored: it succeeds and raises the version of the ledger, with an entry
in the audit trail, and changes nothing else but times of last changes. If the version cannot be
raised, it fails and changes nothing. -/
def Repeats (desk : Desk) (call : Call) (o : Order) (e : Int) : Prop :=
  ∃ current, desk.store.ledger? e = .ok current
    ∧ (fitsWord (current.version + 1) = true →
      (∃ answer, (desk.fulfil call o).result = .ok answer)
        ∧ desk.store.Restates e (desk.fulfil call o).desk.store
        ∧ (desk.fulfil call o).desk.store.ledger? e
          = .ok { current with version := current.version + 1 })
    ∧ (fitsWord (current.version + 1) = false →
      desk.fulfil call o = { result := .error .numberTooWide, desk })

/-- An order that is met repeats. -/
theorem repeats_of_metBy (met : o.MetBy e user desk.store current)
    (unhindered : desk.Unhindered call e) (stored : desk.store.fits = true)
    (read : desk.store.ledger? e = .ok current) (sound : current.IsSound)
    (known : fitsWord? user = true)
    (labelled : ∀ row, desk.store.equipments.find? e = some row →
      row.status = some current.status.text) : desk.Repeats call o e := by
  obtain ⟨m, work, hmakes, rfl, rfl, hready, hsettled⟩ := met call.now.date
  obtain ⟨after, happlied⟩ := hsettled.exists_applied current
  obtain ⟨w, hwritten, hsame⟩ :=
    hsettled.exists_written (a := ⟨m.equipment, m.user, call.now⟩) read sound
  obtain ⟨hexpected, hversion⟩ := hmakes.timely hready
  have hcommittable := Store.Committable.of_readies hmakes.proper hmakes.lawful hready hexpected
    hversion stored read sound happlied hwritten (hsettled.fits stored) known
  obtain ⟨request, hrequest⟩ :=
    o.exists_request? (o.isLocked_of_equipment? hmakes.equipment?_eq) call.now.date
  have hfulfil : desk.fulfil call o = desk.mutateWith call desk.lockRetries m :=
    (fulfil_eq_mutate hrequest).trans (mutate_of_request ((Order.makes_iff hrequest).2 hmakes))
  obtain ⟨hroom, hfull⟩ := mutateWith_of_committable desk.lockRetries unhindered
    (hmakes.answers.of_readies read hready) hready hcommittable
  refine ⟨current, read, fun room => ?_, fun full => hfulfil.trans (hfull full)⟩
  obtain ⟨t, committed, answer, hcommits, -, hresult, hdesk⟩ := hroom room
  rw [hfulfil, hdesk]
  refine ⟨⟨answer, hresult⟩,
    hcommits.restates (hmakes.proper.of_readies read hready) hsame labelled, ?_⟩
  rw [← hcommits.committed_eq_of_untimed hsame]
  exact hcommits.reread

/-- An order that has been committed repeats in the store that it has left. -/
lemma repeats_of_commit {s₀ s : Store} {today : Date} {m : Mutation Json} {work : Prepared Json}
    {now : Moment} {before after : Snapshot} {w : Worksheet}
    (repeatable : o.Repeatable desk.store) (makes : o.Makes today s₀ m)
    (ready : m.Readies before work) (agrees : s₀.AgreesBeside m.equipment s)
    (commits : s.Commits (m.proposal work) now before after w desk.store current)
    (unhindered : desk.Unhindered call m.equipment) : desk.Repeats call o m.equipment := by
  have hproper := makes.proper.of_readies commits.read ready
  exact repeats_of_metBy (makes.metBy repeatable ready agrees commits) unhindered commits.fits
    commits.reread (commits.isSound_of_proper hproper) commits.fitsWord_user
    (commits.status_of_proper hproper)

/-- An order that says how things are to be has made them so. Made again right after it has
succeeded, it succeeds again and leaves all rows as they are, with their ids, units, states, notes,
places and dates; only the version is raised once more. If the version cannot be raised, the second
order fails and changes nothing. -/
theorem fulfil_again (granted : (desk.fulfil call o).result = .ok answer)
    (repeatable : o.Repeatable (desk.fulfil call o).desk.store) (patient : again.cancelled = false)
    (alone : again.rivals = []) :
    ∃ e, o.equipment? desk.store = some e ∧ (desk.fulfil call o).desk.Repeats again o e := by
  obtain ⟨m, k, work, before, after, w, t, committed, hmakes, -, hready, hcommits, houtcome⟩ :=
    fulfil_ok repeatable.isLocked granted
  have hon := hmakes.equipment?_eq
  have hfree : desk.locks.isHeld m.equipment = false := isHeld_of_fulfil_ok hon granted
  have hagrees : desk.store.AgreesBeside m.equipment
      (o.afterRivals desk.store call.now (call.rivals.take k)) := by
    rw [Order.afterRivals, hon]
    exact Store.afterRivals_agreesBeside _ _
  rw [houtcome] at repeatable ⊢
  exact ⟨m.equipment, hon,
    repeats_of_commit repeatable hmakes hready hagrees hcommits ⟨hfree, patient, alone⟩⟩

/-- Six orders, each made twice for the lamps before a gala: the gala reserves two of them, the fair
takes out the one that it has, the lamp on the shelf is joined by one on a bench, one is installed
in the hall on some day, the lamps are made portable, and a sixth is bought. -/
theorem fulfil_again_lampsBeforeGala :
    let first : Desk := { store := .lampsBeforeGala 7 }
    let call : Call := { now := default }
    ∀ o ∈ [Order.reserve { showId := 1, equipment := 1, needed := 2 },
        .changeReservation { id := 1, status := some "checked-out", notes := some "By van" },
        .replacePlacements { equipment := 1, rows := [
          { place := { name := some "Shelf" }, quantity := 1 },
          { place := { name := some "Bench" }, quantity := 1 }] },
        .install { equipment := 1, kind := "fixed", target := { name := some "Hall" },
                   quantity := some 1, since := some ⟨4⟩ },
        .install { equipment := 1, kind := "portable" },
        .setTotal 1 6 none],
      let once := (first.fulfil call o).desk
      let twice := (once.fulfil call o).desk
      (first.fulfil call o).result.isOk = true ∧ (once.fulfil call o).result.isOk = true
        ∧ once.store.Restates 1 twice.store := by
  intro first call
  have hagain (o : Order) (granted : (first.fulfil call o).result.isOk = true)
      (on : o.equipment? first.store = some 1)
      (repeatable : o.Repeatable (first.fulfil call o).desk.store)
      (version : ((first.fulfil call o).desk.store.ledger? 1).toOption.map Snapshot.version
        = some 8) :
      (first.fulfil call o).result.isOk = true
        ∧ ((first.fulfil call o).desk.fulfil call o).result.isOk = true
        ∧ (first.fulfil call o).desk.store.Restates 1
          ((first.fulfil call o).desk.fulfil call o).desk.store := by
    obtain ⟨answer, hanswer⟩ := Outcome.exists_answer granted
    obtain ⟨e, he, current, hcurrent, hroom, -⟩ : ∃ e, o.equipment? first.store = some e
        ∧ (first.fulfil call o).desk.Repeats call o e := fulfil_again hanswer repeatable rfl rfl
    obtain rfl : 1 = e := Option.some.inj (on.symm.trans he)
    rw [hcurrent] at version
    obtain ⟨⟨answer', hanswer'⟩, hrestates, -⟩ := hroom (by
      rw [Option.some.inj version]
      decide)
    exact ⟨granted, by rw [hanswer']; rfl, hrestates⟩
  intro o ho
  simp only [List.mem_cons, List.not_mem_nil, or_false] at ho
  rcases ho with rfl | rfl | rfl | rfl | rfl | rfl
  · exact hagain _ (by decide +kernel) rfl (.reserve _ (by decide +kernel)) (by decide +kernel)
  · exact hagain _ (by decide +kernel) (by decide +kernel)
      (.changeReservation _ (by decide +kernel) rfl) (by decide +kernel)
  · exact hagain _ (by decide +kernel) rfl (.replacePlacements _) (by decide +kernel)
  · exact hagain _ (by decide +kernel) rfl (.install _ (Or.inr rfl)) (by decide +kernel)
  · exact hagain _ (by decide +kernel) rfl (.install _ (Or.inl rfl)) (by decide +kernel)
  · exact hagain _ (by decide +kernel) rfl (.setTotal _ _ _) (by decide +kernel)

/-- At the last version but one the gala gets its two lamps, but it cannot ask for them again. -/
theorem fulfil_again_full :
    let first : Desk := { store := .lampsBeforeGala 0x7FFFFFFFFFFFFFFE }
    let call : Call := { now := default }
    let two : Order := .reserve { showId := 1, equipment := 1, needed := 2 }
    let gala := (first.fulfil call two).desk
    (∃ start, first.store.ledger? 1 = .ok start ∧ start.violations = [])
      ∧ (first.fulfil call two).result.isOk = true
      ∧ gala.fulfil call two = { result := .error .numberTooWide, desk := gala } := by
  intro first call two gala
  obtain ⟨start, hstart⟩ : ∃ start, first.store.ledger? 1 = .ok start :=
    ⟨_, Store.ledger?_eq_ok.2 ⟨_, by decide, rfl, rfl⟩⟩
  have hviolations : (first.store.ledger? 1).toOption.map Snapshot.violations = some [] := by
    decide +kernel
  rw [hstart] at hviolations
  have hgranted : (first.fulfil call two).result.isOk = true := by decide +kernel
  obtain ⟨answer, hanswer⟩ := Outcome.exists_answer hgranted
  obtain ⟨m, work, after, w, committed, hmakes, hown, hready, hcommits⟩ :=
    exists_commit_of_granted rfl rfl hstart hanswer
  obtain ⟨current, hcurrent, -, hfull⟩ : gala.Repeats call two m.equipment :=
    repeats_of_commit (.reserve _ (by decide +kernel)) hmakes hready (.refl _ _) hcommits
      (hown ▸ ⟨by decide +kernel, rfl, rfl⟩)
  -- the version of the ledger is the largest that can be stored
  have hversion : (gala.store.ledger? 1).toOption.map Snapshot.version
      = some 0x7FFFFFFFFFFFFFFF := by decide +kernel
  rw [hown] at hcurrent
  rw [hcurrent] at hversion
  refine ⟨⟨start, hstart, Option.some.inj hviolations⟩, hgranted, hfull ?_⟩
  rw [Option.some.inj hversion]
  decide

end Desk

end StageStock
