import Mathlib.Tactic.Lemma
import StageStock.Proofs.Lifecycle

/-!
The version of a ledger is a token of it.

Callers are shown the version of a ledger and hand it back, to have their order refused if the
ledger has changed since. This is safe if nothing that a ledger shows can change under one version:
not by orders for other equipments, not by orders that fail, and not by new shows either, although a
ledger shows the days of the shows that its reservations are for. Since these shows exist, and none
is ever taken off the list, a new show is never one of them.

* `Store.Standing.snapshot_addShow`: a new show changes no ledger;
* `Store.Becomes.raises_or_keeps`: an order raises the version of a ledger or leaves the ledger as
  it was;
* `Store.Yields.ledger?_eq_of_version`: at two moments of a row of orders, the later version is not
  lower, and where the versions are the same the ledgers are.
-/

namespace StageStock.Store

variable {s t : Store} {now : Moment} {o : Order} {e : Int} {row : EquipmentRow}

/-- A new show is none of those that reservations are for, so that their days stay the same. -/
lemma Standing.snapshot_addShow (h : s.Standing) (added : ShowRow) (e : Int) (row : EquipmentRow) :
    ({ s with shows := s.shows.insert added } : Store).snapshot e row = s.snapshot e row := by
  have hsame : ∀ r ∈ s.reservationsOf e,
      ({ s with shows := s.shows.insert added } : Store).reservationOf r = s.reservationOf r := by
    intro r hr
    obtain ⟨found, hfound⟩ := (h r (mem_reservationsOf.1 hr).1).exists_show
    have hold : s.shows.find? r.2.showId = some found := hfound
    have hnew : (s.shows.insert added).find? r.2.showId = some found :=
      Table.find?_insert_of_find? added hold
    simp only [reservationOf, hold, hnew]
  simp only [snapshot]
  congr 1
  exact List.map_congr_left hsame

/-- An entry leaves the ledgers of the equipments that are there as they were. -/
lemma Enters.keeps (entered : s.Enters now o t) (standing : s.Standing)
    (registered : s.equipments.find? e = some row) :
    t.equipments.find? e = some row ∧ t.snapshot e row = s.snapshot e row := by
  cases entered with
  | equipment r audits units fits noted =>
      exact ⟨Table.find?_insert_of_find? _ registered, rfl⟩
  | event r added => exact ⟨registered, standing.snapshot_addShow added e row⟩
  | location r added audits words name noted => exact ⟨registered, rfl⟩

/-- An order raises the version of a ledger by one, or leaves the ledger as it was. -/
theorem Becomes.raises_or_keeps (becomes : s.Becomes now o t) (standing : s.Standing)
    (registered : s.equipments.find? e = some row) :
    (∃ raised, t.equipments.find? e = some raised ∧ raised.version = row.version + 1)
      ∨ t.equipments.find? e = some row ∧ t.snapshot e row = s.snapshot e row := by
  cases becomes with
  | same => exact Or.inr ⟨registered, rfl⟩
  | entered enters => exact Or.inr (enters.keeps standing registered)
  | @committed _ _ m _ _ _ _ _ _ _ makes ready commits =>
      by_cases he : e = m.equipment
      · obtain ⟨read, -, hread, hbefore⟩ := ledger?_eq_ok.1 commits.read
        obtain ⟨raised, hraised, -, hversion, -⟩ := commits.committed_eq
        rw [he] at registered ⊢
        obtain rfl : read = row := Option.some.inj (hread.symm.trans registered)
        rw [hbefore] at hversion
        exact Or.inl ⟨raised, hraised, hversion⟩
      · refine Or.inr ⟨?_, commits.agreesBeside.snapshot_eq he row⟩
        rw [commits.agreesBeside.equipments e he]
        exact registered

/-- At two moments of a row of orders, whatever was ordered before and in between and whoever was
overtaken: the version of a ledger is not lower at the later one, and if it is the same, so is
everything that is read of the ledger. -/
theorem Yields.ledger?_eq_of_version (h : Store.empty.Yields s) (yields : s.Yields t)
    (registered : s.equipments.find? e = some row) :
    ∃ later, t.equipments.find? e = some later ∧ row.version ≤ later.version
      ∧ (later.version = row.version → t.ledger? e = s.ledger? e) := by
  have hkept : ∃ later, t.equipments.find? e = some later ∧ row.version ≤ later.version
      ∧ (later.version = row.version → t.snapshot e later = s.snapshot e row) := by
    refine yields.leads.preserves (I := fun v => ∃ later, v.equipments.find? e = some later
        ∧ row.version ≤ later.version
        ∧ (later.version = row.version → v.snapshot e later = s.snapshot e row))
      ⟨row, registered, Int.le_refl _, fun _ => rfl⟩ ?_
    rintro u now o v hsofar becomes ⟨current, hcurrent, hle, hsame⟩
    rcases becomes.raises_or_keeps (h.leads.trans hsofar).standing hcurrent with
      ⟨raised, hraised, hversion⟩ | ⟨hkeeps, hledger⟩
    · exact ⟨raised, hraised, by omega, fun hequal => by omega⟩
    · exact ⟨current, hkeeps, hle, fun hequal => hledger.trans (hsame hequal)⟩
  obtain ⟨later, hlater, hle, hsame⟩ := hkept
  refine ⟨later, hlater, hle, fun hequal => ?_⟩
  simp only [ledger?, equipment?, registered, hlater]
  by_cases hfits : fitsWord e = true
  · simp only [if_pos hfits, hsame hequal]
  · simp only [if_neg hfits]

/-- After the gala, cables are registered and a premiere is listed, which asks for two cables and,
in vain, for twenty lamps. -/
def premiereStore : Store :=
  (({ store := galaStore } : Desk).fulfilAll
    [({ now := default }, .register { name := some "Cable", total := 4 }),
      ({ now := default }, .addShow { name := "Premiere" }),
      ({ now := default }, .reserve { showId := 2, equipment := 2, needed := 2 }),
      ({ now := default }, .reserve { showId := 2, equipment := 1, needed := 20 })]).store

/-- The ledger of the lamps has not changed, and neither has its version. -/
theorem Yields.ledger?_eq_of_version_premiereStore :
    Store.empty.Yields galaStore ∧ galaStore.Yields premiereStore
      ∧ (galaStore.equipments.find? 1).map EquipmentRow.version = some 3
      ∧ (premiereStore.equipments.find? 1).map EquipmentRow.version = some 3
      ∧ premiereStore.ledger? 1 = galaStore.ledger? 1 := by
  have hempty : Store.empty.Yields galaStore :=
    .alone _ _ _ (.alone _ _ _ (.alone _ _ _ (.alone _ _ _ (.alone _ _ _ .refl rfl) rfl) rfl) rfl)
      rfl
  have hgala : galaStore.Yields premiereStore :=
    .alone _ _ _ (.alone _ _ _ (.alone _ _ _ (.alone _ _ _ .refl rfl) rfl) rfl) rfl
  have hthree : (galaStore.equipments.find? 1).map EquipmentRow.version = some 3 := by
    decide +kernel
  have hthree' : (premiereStore.equipments.find? 1).map EquipmentRow.version = some 3 := by
    decide +kernel
  obtain ⟨row, hrow, hversion⟩ := Option.map_eq_some_iff.1 hthree
  obtain ⟨later, hlater, -, hsame⟩ := hempty.ledger?_eq_of_version hgala hrow
  rw [hlater] at hthree'
  refine ⟨hempty, hgala, hthree, by rw [hlater]; exact hthree', hsame ?_⟩
  rw [hversion]
  exact Option.some.inj hthree'

end StageStock.Store
