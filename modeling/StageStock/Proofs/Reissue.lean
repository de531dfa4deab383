import Mathlib.Tactic.Lemma
import StageStock.Proofs.Buckets

/-!
The id of a reservation that has ended.

Nothing is found under the id of a reservation that was returned or removed, so that whoever still
asks for it is told that there is none, and nothing changes. This lasts until the id is given out
again. A new row gets the id after the largest one present, which is an old one only if the row that
had it was the last one and all rows entered after it are gone as well.

* `Store.Declines`: requests under an id are declined and change nothing
  (`Store.declines_of_dropped`);
* `Store.Reissues`: a reservation is made that gets a certain id;
* `Store.Becomes.dropped_or_reissues`: one order leaves an id without a row, or gives it out;
* `Store.Yields.declines_or_reissues`: so do rows of orders;
* `Desk.not_declines_fairDesk`: the id of a gala's reservation comes to name that of a fair.
-/

namespace StageStock

/-- Whoever asks for the reservation with this id is told that there is none, and nothing
changes. -/
structure Store.Declines (s : Store) (id : Int) : Prop where
  change : ∀ (desk : Desk) (call : Call) (r : Reservations.ChangeRequest), desk.store = s →
    r.id = id → desk.fulfil call (.changeReservation r)
      = { result := .error (.noReservation id), desk }
  remove : ∀ (desk : Desk) (call : Call) (user : Option Int), desk.store = s →
    desk.fulfil call (.removeReservation id user) = { result := .error (.noReservation id), desk }
  preview : ∀ (status : Option String) (quantity : Option Int),
    Reservations.preview s id status quantity = .error (.noReservation id)

/-- A reservation is made that gets this id, under which everybody was declined. -/
structure Store.Reissues (id : Int) (s t : Store) : Prop where
  declined : s.Declines id
  next : s.reservations.nextId = id
  made : ∃ (now : Moment) (r : Reservations.ReserveRequest) (row : ReservationRow),
    s.Becomes now (.reserve r) t ∧ t.reservations = s.reservations.insert row
      ∧ row.showId = r.showId ∧ row.equipment = r.equipment

/-! ### New reservations -/

/-- Only the order of a show makes a new reservation. -/
lemma Order.Makes.exists_reserve_of_new {o : Order} {today : Date} {s u : Store}
    {m : Mutation Json} {read : Snapshot} {work : Prepared Json} (h : o.Makes today s m)
    (ready : m.Readies read work) (hread : u.ledger? m.equipment = .ok read) {q : Reservation}
    (put : .putReservation q ∈ work.changes) (new : q.id = none) :
    ∃ r, o = .reserve r ∧ m.equipment = r.equipment := by
  have hnone (putsNone : m.PutsNone) : False := putsNone.of_readies hread ready q put
  cases h with
  | @reserve r _ made =>
      obtain ⟨-, row, -, rfl⟩ := Reservations.reserve_eq_ok made
      exact ⟨r, rfl, rfl⟩
  | changeReservation made =>
      obtain ⟨plain, hready, rfl⟩ := ready.of_map
      obtain ⟨row, -, rfl⟩ := Reservations.change_eq_ok made
      obtain ⟨plain, hplain, rfl⟩ := hready
      obtain ⟨current, needed, t, allocated, hcurrent, -, -, -, rfl⟩ :=
        Reservations.prepareChange_eq_ok hplain
      -- what is put is the reservation that was found, with its id
      have hid : current.id = some _ := of_decide_eq_true (List.find?_some hcurrent :)
      simp only [Prepared.map, Reservations.changeWork] at put
      split at put
      · simp at put
      · simp only [List.mem_singleton, Change.putReservation.injEq] at put
        rw [put, hid] at new
        cases new
  | setTotal made => exact (hnone ((Equipments.putsNone_setTotal made).map _)).elim
  | removeReservation made => exact (hnone ((Reservations.putsNone_remove made).map _)).elim
  | replacePlacements made => exact (hnone ((Placements.putsNone_replace made).map _)).elim
  | placeUnits made => exact (hnone ((Placements.putsNone_place made).map _)).elim
  | moveUnits made => exact (hnone ((Placements.putsNone_move made).map _)).elim
  | install made => exact (hnone ((Installations.putsNone_install made).map _)).elim
  | bringBack made => exact (hnone ((Installations.putsNone_bringBack made).map _)).elim

namespace Store

variable {s t : Store} {now : Moment} {o : Order} {id : Int}

/-- Without a row the id is declined. -/
lemma declines_of_dropped (wide : fitsWord id = true) (dropped : s.reservations.find? id = none) :
    s.Declines id := by
  have hread : s.reservation? id = .error (.noReservation id) := by
    rw [reservation?, if_pos wide, dropped]
  refine ⟨?_, ?_, fun status quantity => ?_⟩
  · rintro desk call r rfl rfl
    simp only [Desk.fulfil, Desk.mutate, Reservations.change, hread]
    rfl
  · rintro desk call user rfl
    simp only [Desk.fulfil, Desk.mutate, Reservations.remove, hread]
    rfl
  · rw [Reservations.preview, hread]

/-! ### Orders -/

/-- The table of reservations is left without the id by every write that does not enter a row. -/
lemma Writes.dropped_or_inserted {a : Worksheet.Author} {b : Bucket} {cs : List Change} {u : Store}
    (h : s.Writes a b cs u) (standing : s.Standing) (dropped : s.reservations.find? id = none) :
    u.reservations.find? id = none
      ∨ s.reservations.nextId = id ∧ ∃ r, .putReservation r ∈ cs ∧ r.id = none
        ∧ b = .reservation r.showId
        ∧ u.reservations = s.reservations.insert (Worksheet.newReservationRow a r) := by
  cases h with
  | setTotal total => exact Or.inl dropped
  | setInstallation i => exact Or.inl dropped
  | replacePlacements ps =>
      obtain ⟨placements, hflushed⟩ := Worksheet.flushed_replacePlacements { store := s } a ps
      rw [hflushed]
      exact Or.inl dropped
  | newReservation r new =>
      by_cases hnext : s.reservations.nextId = id
      · exact Or.inr ⟨hnext, r, List.mem_cons_self, new, rfl, rfl⟩
      · refine Or.inl ?_
        cases hfound : (s.reservations.insert (Worksheet.newReservationRow a r)).find? id with
        | none => rfl
        | some row =>
            rcases List.mem_append.1 (Table.find?_eq_some_iff.1 hfound) with hold | hnew
            · rw [Table.find?_of_mem hold] at dropped
              cases dropped
            · exact absurd (congrArg Prod.fst (List.mem_singleton.1 hnew)).symm hnext
  | editReservation id' row r stored own same =>
      refine Or.inl ?_
      show (s.reservations.modify id' _).find? id = none
      rw [Table.find?_modify, dropped]
      split <;> rfl
  | dropReservation id' showId row stored own =>
      refine Or.inl ?_
      show (s.reservations.erase id').find? id = none
      rw [Table.find?_erase, dropped]
      split <;> rfl
  | renewReservation id' showId row r stored own ended new same =>
      -- no row of a reservation that has ended is kept
      have hactive := (standing (id', row) (Table.find?_eq_some_iff.1 stored)).active
      rw [ended] at hactive
      cases hactive

/-- An order leaves an id that has no row without one, or it makes the reservation of a show at the
moment when this id is the next one. -/
theorem Becomes.dropped_or_reissues (h : s.Becomes now o t) (standing : s.Standing)
    (wide : fitsWord id = true) (dropped : s.reservations.find? id = none) :
    t.reservations.find? id = none ∨ s.Reissues id t := by
  have hbecomes := h
  cases h with
  | same => exact Or.inl dropped
  | entered enters => cases enters <;> exact Or.inl dropped
  | committed shows locations makes ready commits =>
      obtain ⟨b, hbucket, htouches⟩ := makes.touches ready commits.read commits.applied
      rw [commits.tables_eq.2]
      rcases (commits.writes htouches).dropped_or_inserted standing dropped with
        hnone | ⟨hnext, q, hput, hnew, hb, hinsert⟩
      · exact Or.inl hnone
      · obtain ⟨r, rfl, hequipment⟩ := makes.exists_reserve_of_new ready commits.read hput hnew
        rw [hb] at hbucket
        have hshow : r.showId = q.showId := Bucket.reservation.inj (Option.some.inj hbucket)
        exact Or.inr ⟨declines_of_dropped wide dropped, hnext, now, r, _, hbecomes,
          commits.tables_eq.2.trans hinsert, hshow.symm, hequipment⟩

/-- From the empty store on, and whatever is ordered once nothing has an id any more: the id is
declined, unless a show has made a reservation since at a moment when the id was the next one, that
is, when the largest id present was the one before it. -/
theorem Yields.declines_or_reissues (h : Store.empty.Yields s) (wide : fitsWord id = true)
    (dropped : s.reservations.find? id = none) (yields : s.Yields t) :
    t.Declines id ∨ ∃ u v, s.Leads u ∧ u.Reissues id v ∧ v.Leads t := by
  have hleads : t.reservations.find? id = none
      ∨ ∃ u v, s.Leads u ∧ u.Reissues id v ∧ v.Leads t := by
    refine yields.leads.preserves (I := fun w => w.reservations.find? id = none
      ∨ ∃ u v, s.Leads u ∧ u.Reissues id v ∧ v.Leads w) (Or.inl dropped) ?_
    rintro w now o w' hsofar becomes (hnone | ⟨u, v, hbefore, hreissues, hafter⟩)
    · rcases becomes.dropped_or_reissues (h.leads.trans hsofar).standing wide hnone with
        hstill | hreissues
      · exact Or.inl hstill
      · exact Or.inr ⟨w, w', hsofar, hreissues, .refl⟩
    · exact Or.inr ⟨u, v, hbefore, hreissues, hafter.stroke becomes⟩
  exact hleads.imp_left (declines_of_dropped wide)

end Store

/-- Ten lamps are registered, and a gala and a fair are listed. The gala asks for two lamps. -/
def Desk.galaBeforeFair : Desk :=
  ({} : Desk).fulfilAll
    [({ now := default }, .register { name := some "Lamp", total := 10 }),
      ({ now := default }, .addShow { name := "Gala" }),
      ({ now := default }, .addShow { name := "Fair" }),
      ({ now := default }, .reserve { showId := 1, equipment := 1, needed := 2 })]

/-- The gala does without its lamps. -/
def Desk.galaRemoved : Desk :=
  (galaBeforeFair.fulfil { now := default } (.removeReservation 1 none)).desk

/-- After that, the fair asks for three lamps. -/
def Desk.fairDesk : Desk :=
  (galaRemoved.fulfil { now := default }
    (.reserve { showId := 2, equipment := 1, needed := 3 })).desk

lemma Desk.yields_galaRemoved : Store.empty.Yields galaRemoved.store :=
  .alone _ _ _ (.alone _ _ _ (.alone _ _ _ (.alone _ _ _ (.alone _ _ _ .refl rfl) rfl) rfl) rfl) rfl

/-- Its reservation gets the id of that of the gala. -/
theorem Store.Yields.declines_or_reissues_fairDesk :
    Store.empty.Yields Desk.galaRemoved.store ∧ fitsWord 1 = true
      ∧ Desk.galaRemoved.store.reservations.find? 1 = none
      ∧ Desk.galaRemoved.store.Yields Desk.fairDesk.store
      ∧ ∃ u v, Desk.galaRemoved.store.Leads u ∧ u.Reissues 1 v ∧ v.Leads Desk.fairDesk.store := by
  have hdropped : Desk.galaRemoved.store.reservations.find? 1 = none := by decide +kernel
  have hyields : Desk.galaRemoved.store.Yields Desk.fairDesk.store := .alone _ _ _ .refl rfl
  refine ⟨Desk.yields_galaRemoved, by decide, hdropped, hyields, ?_⟩
  rcases declines_or_reissues Desk.yields_galaRemoved (by decide) hdropped hyields with
    hdeclines | hreissues
  · -- the fair's reservation can be previewed
    have hpreview := hdeclines.preview none none
    have hfound : (Reservations.preview Desk.fairDesk.store 1 none none).isOk = true := by
      decide +kernel
    rw [hpreview] at hfound
    cases hfound
  · exact hreissues

/-- Whoever still asks to remove the reservation of the gala then removes that of the fair. -/
theorem Desk.not_declines_fairDesk :
    let again := fairDesk.fulfil { now := default } (.removeReservation 1 none)
    Store.empty.Yields galaRemoved.store ∧ galaRemoved.store.Yields fairDesk.store
      ∧ galaBeforeFair.store.reservations.rows.map (fun row => (row.1, row.2.showId)) = [(1, 1)]
      ∧ galaRemoved.store.reservations.find? 1 = none
      ∧ fairDesk.store.reservations.rows.map (fun row => (row.1, row.2.showId)) = [(1, 2)]
      ∧ again.result.isOk = true ∧ again.desk.store.reservations.rows = []
      ∧ ¬ fairDesk.store.Declines 1 := by
  have hagain : (fairDesk.fulfil { now := default } (.removeReservation 1 none)).result.isOk
      = true := by decide +kernel
  refine ⟨yields_galaRemoved, .alone _ _ _ .refl rfl, by decide +kernel, by decide +kernel,
    by decide +kernel, hagain, by decide +kernel, fun hdeclines => ?_⟩
  rw [hdeclines.remove fairDesk { now := default } none rfl] at hagain
  cases hagain

end StageStock
