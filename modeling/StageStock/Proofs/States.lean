import Mathlib.Tactic.Lemma
import StageStock.Proofs.Buckets

/-!
The state that is stored of an equipment is the one that its ledger has.

What an equipment is doing follows from its ledger, and yet it is written down in the row of the
equipment. Whatever is committed to a ledger writes the state of the ledger that was checked in
memory. That is the state of the stored ledger too, since the order in which rows are read back does
not matter for it, nor do the days of shows, which new shows may bring.

* `Snapshot.Alike.status_congr`: ledgers that the rules do not tell apart have the same state;
* `Store.Labelled`: every equipment has the state of its ledger written down;
* `Store.Labelled.becomes`: an order keeps it so, whether it succeeds or fails;
* `Store.Yields.status_eq`: the state that is written down, after whatever orders.
-/

namespace StageStock

/-! ### The state of a ledger -/

/-- Ledgers that the rules do not tell apart have the same state. -/
lemma Snapshot.Alike.status_congr {m m' : Snapshot} (h : m.Alike m') : m.status = m'.status := by
  have hout : (m.reservations.any fun r => r.isActive && r.isOut)
      = m'.reservations.any fun r => r.isActive && r.isOut := by
    have hsame : ∀ r r' : Reservation, r.status = r'.status →
        (r.isActive && r.isOut) = (r'.isActive && r'.isOut) := by
      intro r r' hstatus
      simp only [Reservation.isActive, Reservation.isOut, hstatus]
    rw [Bool.eq_iff_iff, List.any_eq_true, List.any_eq_true]
    constructor
    · rintro ⟨r, hr, hisOut⟩
      obtain ⟨r', hr', -, -, -, hstatus⟩ := h.reservations.exists_right hr
      exact ⟨r', hr', hsame r r' hstatus ▸ hisOut⟩
    · rintro ⟨r', hr', hisOut⟩
      obtain ⟨r, hr, -, -, -, hstatus⟩ := h.reservations.exists_left hr'
      exact ⟨r, hr, (hsame r r' hstatus).symm ▸ hisOut⟩
  rw [status, status, h.isActive_eq, h.total, h.installed_eq, h.inStore_eq, hout]

/-- An equipment of which nothing is recorded is available. -/
lemma Snapshot.status_newRow (e : Int) {total : Int} (units : 1 ≤ total) :
    ({ equipment := e, total } : Snapshot).status = .available := by
  have hfree : 0 < ({ equipment := e, total } : Snapshot).inStore := by
    rw [Store.Sound.inStore_newRow]
    omega
  have hportable : ({} : Installation).isActive = false := by decide
  simp [status, hportable, hfree]

namespace Store

variable {s t : Store} {now : Moment} {o : Order}

/-- Every equipment has the state of its ledger written down. -/
def Labelled (s : Store) : Prop :=
  ∀ e row, s.equipments.find? e = some row → row.status = some (s.snapshot e row).status.text

namespace Labelled

lemma empty : Store.empty.Labelled :=
  fun _ _ h => nomatch h

/-! ### Entries -/

/-- A new equipment is available, and the others have the states that they had. -/
lemma insertEquipment (h : s.Labelled) (sound : s.Sound) (r : Equipments.RegisterRequest)
    (now : Moment) (units : 1 ≤ r.total) :
    ({ s with equipments := s.equipments.insert (Equipments.newRow r now) } : Store).Labelled := by
  intro e row hrow
  have hmem := Table.find?_eq_some_iff.1 hrow
  rw [Table.rows_insert, List.mem_append, List.mem_singleton] at hmem
  rcases hmem with hold | hnew
  · exact h e row (Table.find?_eq_some_iff.2 hold)
  · obtain ⟨rfl, rfl⟩ := Prod.mk.inj hnew
    obtain ⟨hplacements, hreservations⟩ := sound.unregistered _ (Table.find?_nextId s.equipments)
    have hsnapshot := Sound.snapshot_newRow r now hplacements hreservations
    show some EquipmentStatus.available.text
      = some (s.snapshot s.equipments.nextId (Equipments.newRow r now)).status.text
    rw [hsnapshot, Snapshot.status_newRow _ units]

/-- The days of a new show have no part in the state of an equipment. -/
lemma insertShow (h : s.Labelled) (added : ShowRow) :
    ({ s with shows := s.shows.insert added } : Store).Labelled := by
  intro e row hrow
  rw [← (Sound.alike_addShow s added e row).status_congr]
  exact h e row hrow

lemma enter (h : s.Labelled) (sound : s.Sound) (entered : s.Enters now o t) : t.Labelled := by
  cases entered with
  | equipment r audits units fits noted => exact h.insertEquipment sound r now units
  | event r row => exact h.insertShow row
  | location r row audits words name noted => exact h

/-! ### Commits -/

/-- A commit writes the state of the ledger that it stores, and leaves the other equipments
alone. -/
lemma commit (h : s.Labelled) {p : Proposal} {before after committed : Snapshot} {w : Worksheet}
    (commits : s.Commits p now before after w t committed)
    (proper : Change.Proper before p.changes) : t.Labelled := by
  have hbeside := commits.agreesBeside
  intro e row hrow
  by_cases he : e = p.equipment
  · obtain ⟨stored, hstored, hcommitted, -⟩ := commits.committed_eq
    obtain ⟨written, -, hwritten⟩ := commits.exists_written_row
    rw [he] at hrow ⊢
    obtain rfl : stored = row := Option.some.inj (hstored.symm.trans hrow)
    rw [← hcommitted, ← (commits.alike_of_proper proper).status_congr,
      Option.some.inj (hstored.symm.trans hwritten)]
  · rw [hbeside.snapshot_eq he]
    exact h e row (by rw [← hbeside.equipments e he, hrow])

/-- An order keeps the states up to date, whether it succeeds or fails. -/
theorem becomes (h : s.Labelled) (sound : s.Sound) (becomes : s.Becomes now o t) : t.Labelled := by
  cases becomes with
  | same => exact h
  | entered enters => exact h.enter sound enters
  | committed shows locations makes ready commits =>
      exact h.commit commits (makes.proper.of_readies commits.read ready)

end Labelled

/-! ### Rows of orders -/

lemma Leads.labelled (h : Store.empty.Leads s) : s.Labelled :=
  h.preserves Labelled.empty fun _ _ _ _ hsofar becomes hu => hu.becomes hsofar.sound becomes

/-- Whatever was ordered, by whom, and with whatever outcome: every equipment has the state of its
ledger written down. -/
theorem Yields.status_eq (h : Store.empty.Yields s) {e : Int} {row : EquipmentRow}
    (registered : s.equipments.find? e = some row) :
    row.status = some (s.snapshot e row).status.text :=
  h.leads.labelled e row registered

/-- Ladders stay in the store, both lamps are checked out for a gala, the only curtain is hung up
and the cables are all in a box. An order for another lamp comes to nothing. -/
def stageHands : Store :=
  (({} : Desk).fulfilAll
    [({ now := default }, .register { name := some "Ladder", total := 4 }),
      ({ now := default }, .register { name := some "Lamp", total := 2 }),
      ({ now := default }, .register { name := some "Curtain", total := 1 }),
      ({ now := default }, .register { name := some "Cable", total := 3 }),
      ({ now := default }, .addShow { name := "Gala" }),
      ({ now := default }, .reserve { showId := 1, equipment := 2, needed := 2 }),
      ({ now := default }, .changeReservation { id := 1, status := some "checked-out" }),
      ({ now := default }, .install
        { equipment := 3, kind := "fixed", target := { name := some "Stage" }
          quantity := some 1 }),
      ({ now := default }, .placeUnits
        { equipment := 4, target := { name := some "Box" }, quantity := 3 }),
      ({ now := default }, .placeUnits
        { equipment := 2, target := { name := some "Box" }, quantity := 1 })]).store

/-- The four equipments have four different states. -/
theorem Yields.status_eq_stageHands : Store.empty.Yields stageHands
    ∧ stageHands.equipments.rows.map (fun row => row.2.status)
      = [some "available", some "in-use", some "installed", some "allocated"]
    ∧ ∀ e row, stageHands.equipments.find? e = some row →
      row.status = some (stageHands.snapshot e row).status.text := by
  have hyields : Store.empty.Yields stageHands :=
    .alone _ _ _ (.alone _ _ _ (.alone _ _ _ (.alone _ _ _ (.alone _ _ _ (.alone _ _ _
      (.alone _ _ _ (.alone _ _ _ (.alone _ _ _ (.alone _ _ _ .refl rfl) rfl) rfl) rfl) rfl) rfl)
      rfl) rfl) rfl) rfl
  exact ⟨hyields, by decide +kernel, fun e row registered => hyields.status_eq registered⟩

end Store

end StageStock
