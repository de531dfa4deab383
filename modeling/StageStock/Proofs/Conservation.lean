import Mathlib.Tactic.Lemma
import StageStock.Proofs.Proper
import StageStock.Proofs.Steps

/-!
Every ledger is sound at all times.

* `Store.Sound`: all ledgers are sound, and rows belong to equipments that are registered;
* `Store.Sound.commit`: a commit of proper changes keeps the store sound;
* `Store.Sound.becomes`: so does every order, whether it succeeds or fails;
* `Store.Reached.conserves`: no order ever makes a ledger break a rule.
-/

namespace StageStock

namespace Store

/-- All ledgers are sound, and rows belong to equipments that are registered. -/
structure Sound (s : Store) : Prop where
  unregistered : ∀ e, s.equipments.find? e = none → s.placementsOf e = [] ∧ s.reservationsOf e = []
  ledgers : ∀ e row, s.equipments.find? e = some row → (s.snapshot e row).IsSound

namespace Sound

variable {s t : Store}

lemma empty : Store.empty.Sound where
  unregistered _ _ := ⟨rfl, rfl⟩
  ledgers _ _ h := nomatch h

/-! ### Rows -/

lemma equipment_of_placement (h : s.Sound) {row : Int × PlacementRow}
    (hrow : row ∈ s.placements.rows) :
    ∃ equipment, s.equipments.find? row.2.equipment = some equipment := by
  cases hfound : s.equipments.find? row.2.equipment with
  | some equipment => exact ⟨equipment, rfl⟩
  | none =>
      have hmem : row ∈ s.placementsOf row.2.equipment := mem_placementsOf.2 ⟨hrow, rfl⟩
      rw [(h.unregistered _ hfound).1] at hmem
      cases hmem

lemma equipment_of_reservation (h : s.Sound) {row : Int × ReservationRow}
    (hrow : row ∈ s.reservations.rows) :
    ∃ equipment, s.equipments.find? row.2.equipment = some equipment := by
  cases hfound : s.equipments.find? row.2.equipment with
  | some equipment => exact ⟨equipment, rfl⟩
  | none =>
      have hmem : row ∈ s.reservationsOf row.2.equipment := mem_reservationsOf.2 ⟨hrow, rfl⟩
      rw [(h.unregistered _ hfound).2] at hmem
      cases hmem

/-! ### Entries -/

/-- A new equipment has no rows but its own. -/
lemma snapshot_newRow (r : Equipments.RegisterRequest) (now : Moment) {e : Int}
    (placements : s.placementsOf e = []) (reservations : s.reservationsOf e = []) :
    s.snapshot e (Equipments.newRow r now) = { equipment := e, total := r.total } := by
  rw [snapshot, placements, reservations]
  rfl

/-- All its units are in the store. -/
lemma inStore_newRow (e total : Int) : ({ equipment := e, total } : Snapshot).inStore = total := by
  simp [Snapshot.inStore, Snapshot.committed, Snapshot.placed, Snapshot.reserved,
    Snapshot.installed, Installation.units, Installation.isActive, addUp]

lemma isSound_newRow {r : Equipments.RegisterRequest} {now : Moment} {e : Int}
    (units : ¬ r.total < 1) (placements : s.placementsOf e = [])
    (reservations : s.reservationsOf e = []) :
    (s.snapshot e (Equipments.newRow r now)).IsSound := by
  have hportable : Snapshot.InstallationSound {} :=
    ⟨by decide, by decide, by decide, by decide⟩
  rw [snapshot_newRow r now placements reservations]
  refine ⟨?_, by simp, by simp, by simp, by simp, hportable, ?_⟩
  · show 1 ≤ r.total
    omega
  · rw [inStore_newRow]
    omega

/-- The new equipment is the only one that the store did not have. -/
lemma insertEquipment (h : s.Sound) (r : Equipments.RegisterRequest) (now : Moment)
    (units : ¬ r.total < 1) :
    ({ s with equipments := s.equipments.insert (Equipments.newRow r now) } : Store).Sound where
  unregistered e he := by
    refine h.unregistered e ?_
    cases hrow : s.equipments.find? e with
    | none => rfl
    | some row =>
        rw [Table.find?_insert_of_find? _ hrow] at he
        cases he
  ledgers e row hrow := by
    have hmem := Table.find?_eq_some_iff.1 hrow
    rw [Table.rows_insert, List.mem_append, List.mem_singleton] at hmem
    rcases hmem with hold | hnew
    · exact h.ledgers e row (Table.find?_eq_some_iff.2 hold)
    · obtain ⟨rfl, rfl⟩ := Prod.mk.inj hnew
      obtain ⟨hplacements, hreservations⟩ := h.unregistered _ (Table.find?_nextId s.equipments)
      exact isSound_newRow units hplacements hreservations

/-- A new show changes nothing but the days of reservations. -/
lemma alike_addShow (s : Store) (added : ShowRow) (e : Int) (row : EquipmentRow) :
    (s.snapshot e row).Alike
      (({ s with shows := s.shows.insert added } : Store).snapshot e row) := by
  refine ⟨rfl, ?_, ?_, rfl, rfl, rfl⟩
  · exact (Matched.refl _).mono fun p _ q _ hpq => hpq ▸ ⟨rfl, rfl, rfl⟩
  · exact Matched.map_right (Matched.map_left fun row _ => ⟨rfl, rfl, rfl, rfl⟩)

/-- An entry keeps the store sound. -/
theorem enter (h : s.Sound) {now : Moment} {o : Order} (entered : s.Enters now o t) : t.Sound := by
  cases entered with
  | equipment r audits units fits noted =>
      have hregistered := h.insertEquipment r now (Int.not_lt.2 units)
      exact ⟨hregistered.unregistered, hregistered.ledgers⟩
  | event r row =>
      exact ⟨h.unregistered, fun e found hfound =>
        (alike_addShow s row e found).isSound (h.ledgers e found hfound)⟩
  | location r row audits words name noted => exact ⟨h.unregistered, h.ledgers⟩

/-! ### Commits -/

/-- A commit of proper changes leaves a sound ledger and does not touch the others. -/
theorem commit (h : s.Sound) {p : Proposal} {now : Moment} {before after committed : Snapshot}
    {w : Worksheet} (commits : s.Commits p now before after w t committed)
    (proper : Change.Proper before p.changes) : t.Sound := by
  have hbeside := commits.agreesBeside
  obtain ⟨row, hrow, hcommitted, -⟩ := commits.committed_eq
  refine ⟨fun e hnone => ?_, fun e row' hrow' => ?_⟩
  · have hne : e ≠ p.equipment := by
      rintro rfl
      rw [hrow] at hnone
      cases hnone
    rw [hbeside.placements e hne, hbeside.reservations e hne]
    exact h.unregistered e (by rw [← hbeside.equipments e hne, hnone])
  · by_cases he : e = p.equipment
    · subst he
      rw [hrow] at hrow'
      rw [← Option.some.inj hrow', ← hcommitted]
      exact commits.isSound_of_proper proper
    · rw [hbeside.snapshot_eq he]
      exact h.ledgers e row' (by rw [← hbeside.equipments e he, hrow'])

/-- An order keeps the store sound, whether it succeeds or fails. -/
theorem becomes (h : s.Sound) {now : Moment} {o : Order} (becomes : s.Becomes now o t) :
    t.Sound := by
  cases becomes with
  | same => exact h
  | entered enters => exact h.enter enters
  | committed shows locations makes ready commits =>
      exact h.commit commits (makes.proper.of_readies commits.read ready)

end Sound

lemma Leads.sound {s : Store} (h : Store.empty.Leads s) : s.Sound :=
  h.preserves Sound.empty fun _ _ _ _ _ becomes hu => hu.becomes becomes

/-- Whatever orders make of the empty store is sound. -/
lemma Reached.sound {s : Store} (h : s.Reached) : s.Sound :=
  h.leads.sound

/-- Orders never make a ledger break a rule. In particular there are never fewer than no units in
the store, and the total is what is in the store, at places, held for shows and installed. -/
theorem Reached.conserves {s : Store} (h : s.Reached) {e : Int} {row : EquipmentRow}
    (registered : s.equipments.find? e = some row) :
    (s.snapshot e row).violations = [] ∧ 0 ≤ (s.snapshot e row).inStore
      ∧ (s.snapshot e row).total = (s.snapshot e row).inStore + (s.snapshot e row).placed
        + (s.snapshot e row).reserved + (s.snapshot e row).installed := by
  have hsound := h.sound.ledgers e row registered
  exact ⟨(Snapshot.violations_eq_nil_iff_isSound _).2 hsound, hsound.inStore_nonneg,
    Snapshot.total_eq _⟩

/-- Three lamps are registered and a rack is listed, and two of the lamps are put there. -/
def lampStore : Store :=
  (({} : Desk).fulfilAll
    [({ now := default }, .register { name := some "Lamp", total := 3 }),
      ({ now := default }, .addLocation { name := "Rack A" }),
      ({ now := default },
        .placeUnits { equipment := 1, target := { id := some 1 }, quantity := 2 })]).store

/-- Two lamps at the rack leave one in the store. -/
theorem Reached.conserves_lampStore : ∃ row, lampStore.equipments.find? 1 = some row
    ∧ (lampStore.snapshot 1 row).placed = 2
    ∧ (lampStore.snapshot 1 row).violations = [] ∧ 0 ≤ (lampStore.snapshot 1 row).inStore
    ∧ (lampStore.snapshot 1 row).total = (lampStore.snapshot 1 row).inStore
      + (lampStore.snapshot 1 row).placed + (lampStore.snapshot 1 row).reserved
      + (lampStore.snapshot 1 row).installed := by
  have hreached : lampStore.Reached :=
    .order _ _ _ (.order _ _ _ (.order _ _ _ .empty rfl) rfl) rfl
  have hplaced : (lampStore.equipments.find? 1).map (fun row => (lampStore.snapshot 1 row).placed)
      = some 2 := by decide +kernel
  obtain ⟨row, hrow, htwo⟩ := Option.map_eq_some_iff.1 hplaced
  exact ⟨row, hrow, htwo, hreached.conserves hrow⟩

end Store

end StageStock
