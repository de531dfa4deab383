import StageStock.Proofs.Rounding
import StageStock.Proofs.Tallies

/-!
A summary is a balance: what it gives for the store, the places, the shows and the installation adds
up to the total, and its two breakdowns by status add up to what it gives for places and shows.

The figures come from different sums over the same rows. The breakdowns are tallies, so an entry has
the units of all rows with its status (`Snapshot.tallied_tally`), and entries taken together have
the units of all their rows (`Snapshot.addUp_tally`), whatever the statuses and the quantities are.

* `Balance`: the figures of a summary as they are shown (`Balance.ShownBy`), and what makes them a
  balance of a ledger (`Balance.HoldsOf`);
* `Snapshot.addUp_placementsByStatus`, `Snapshot.addUp_reservationsByStatus`: the breakdowns add up;
* `Snapshot.holdsOf_balance`: the figures of a summary are a balance of its ledger;
* `Snapshot.balances_iff`: every ledger has a summary with such figures, except those that have none
  at all, as their total is too large for floating-point arithmetic.
-/

namespace StageStock

/-- The figures of a summary. -/
structure Balance where
  total : Int
  /-- The units that are free for any use. -/
  available : Int
  inStore : Int
  placed : Int
  reserved : Int
  installed : Int
  /-- The units held for shows under the status of their reservations. -/
  byReservation : List (String × Int)
  /-- The units at places under the status of their placements. -/
  byPlacement : List (String × Int)

namespace Balance

/-- An answer shows the figures. -/
structure ShownBy (b : Balance) (answer : Json) : Prop where
  total : answer.get? "total_quantity" = some (.int b.total)
  available : answer.get? "available_quantity" = some (.int b.available)
  inStore : answer.get? "default_storage_quantity" = some (.int b.inStore)
  placed : answer.get? "total_allocated" = some (.int b.placed)
  reserved : answer.get? "show_allocated" = some (.int b.reserved)
  installed : answer.get? "installation_allocated" = some (.int b.installed)
  byReservation : answer.get? "show_status_breakdown"
    = some (.obj (b.byReservation.map fun entry => (entry.1, .int entry.2)))
  byPlacement : answer.get? "inventory_status_breakdown"
    = some (.obj (b.byPlacement.map fun entry => (entry.1, .int entry.2)))

/-- The figures add up, and they are those of the rows of a ledger. -/
structure HoldsOf (b : Balance) (s : Snapshot) : Prop where
  total : b.total = s.total
  parts : b.total = b.available + b.placed + b.reserved + b.installed
  inStore : b.available = b.inStore
  installed : b.installed
    = if s.installation.kind = "portable" then 0 else s.installation.quantity
  byReservation : Snapshot.Tallied (s.reservations.map fun r => (r.status, r.allocated))
    b.byReservation
  byPlacement : Snapshot.Tallied (s.placements.map fun p => (p.status, p.quantity)) b.byPlacement
  /-- Units of returned reservations are listed, but no longer held. -/
  reserved : addUp ((b.byReservation.filter fun entry => entry.1 ≠ "returned").map Prod.snd)
    = b.reserved
  placed : addUp (b.byPlacement.map Prod.snd) = b.placed

end Balance

namespace Snapshot

variable (s : Snapshot)

/-! ### The breakdowns -/

/-- The breakdown of the units at places adds up to them. -/
lemma addUp_placementsByStatus : addUp (s.placementsByStatus.map Prod.snd) = s.placed := by
  have hall := addUp_tally (p := fun _ => true) (s.placements.map fun p => (p.status, p.quantity))
  rw [List.filter_true, List.filter_true, List.map_map] at hall
  exact hall

/-- Unknown statuses and negative quantities are counted like all others. -/
example : placementsByStatus
    { equipment := 1, total := 5
      placements := [{ id := none, place := .named 1, quantity := 3 },
        { id := none, place := .named 2, quantity := -1, status := "lost" },
        { id := none, place := .named 3, quantity := 2 }] }
    = [("allocated", 5), ("lost", -1)] := by
  decide

/-- The breakdown of the units for shows adds up to those that are held, but for the returned. -/
lemma addUp_reservationsByStatus :
    addUp ((s.reservationsByStatus.filter fun entry =>
      entry.1 ≠ ReservationStatus.returned.text).map Prod.snd) = s.reserved := by
  rw [reservationsByStatus, addUp_tally (p := fun status =>
    status ≠ ReservationStatus.returned.text), List.filter_map, List.map_map]
  rfl

/-! ### The figures -/

/-- The figures of the summary of a ledger. -/
def balance : Balance :=
  { total := s.total
    available := s.inStore
    inStore := s.inStore
    placed := s.placed
    reserved := s.reserved
    installed := s.installed
    byReservation := s.reservationsByStatus
    byPlacement := s.placementsByStatus }

lemma holdsOf_balance : s.balance.HoldsOf s where
  total := rfl
  parts := s.total_eq
  inStore := rfl
  installed := s.installation.units_eq
  byReservation := tallied_tally _
  byPlacement := tallied_tally _
  reserved := s.addUp_reservationsByStatus
  placed := s.addUp_placementsByStatus

variable {s}

/-- A summary shows the figures of its ledger. -/
lemma shownBy_balance {held : Int} {summary : Summary} (h : s.summary? held = .ok summary) :
    s.balance.ShownBy summary.toJson := by
  rw [summary?] at h
  split at h
  · cases h
  · cases h
    constructor <;> rfl

/-- The ledger has a summary whose figures are a balance of it. -/
def Balances (s : Snapshot) (held : Int) : Prop :=
  ∃ summary, s.summary? held = .ok summary ∧ ∃ b : Balance, b.ShownBy summary.toJson ∧ b.HoldsOf s

/-- A ledger has a summary whose figures balance exactly if its total is not too large for
floating-point arithmetic, or if nothing is left. Any other ledger has no summary, for that
reason. -/
theorem balances_iff (s : Snapshot) (held : Int) :
    (s.Balances held ↔ s.total < 2 ^ 1024 - 2 ^ 970 ∨ s.inStore ≤ 0)
      ∧ (s.Balances held ∨ s.summary? held = .error .totalTooLarge) := by
  by_cases hfits : s.total < 2 ^ 1024 - 2 ^ 970 ∨ s.inStore ≤ 0
  · obtain ⟨summary, hsummary⟩ := exists_summary? hfits held
    have hbalances : s.Balances held :=
      ⟨summary, hsummary, s.balance, shownBy_balance hsummary, s.holdsOf_balance⟩
    exact ⟨iff_of_true hbalances hfits, Or.inl hbalances⟩
  · obtain ⟨hlarge, hsome⟩ := not_or.1 hfits
    have herror : s.summary? held = .error .totalTooLarge :=
      summary?_eq_error (not_lt.1 hlarge) (not_le.1 hsome) held
    refine ⟨iff_of_false ?_ hfits, Or.inr herror⟩
    rintro ⟨summary, hsummary, -⟩
    rw [herror] at hsummary
    cases hsummary

/-- The smallest stock without a summary: all units are in the store. -/
def vast : Snapshot :=
  { equipment := 1, total := 2 ^ 1024 - 2 ^ 970 }

/-- Not every ledger has a summary, so not every ledger has one that balances. -/
theorem not_balances_vast :
    vast.summary? 0 = .error .totalTooLarge ∧ ¬ vast.Balances 0 := by
  have herror : vast.summary? 0 = .error .totalTooLarge :=
    summary?_eq_error (by decide +kernel) (by decide +kernel) 0
  refine ⟨herror, ?_⟩
  rintro ⟨summary, hsummary, -⟩
  rw [herror] at hsummary
  cases hsummary

end Snapshot

end StageStock
