import Mathlib.Tactic.Lemma
import StageStock.Proofs.ShowDays

/-!
Which shows are on the same days.

A show is on the days from its first to its last; without a first day it is on every day, and
without a last day on its first one only. Two periods that have a day in common have the later of
their first days in common. So if no show ends before it begins, two shows have a day in common
exactly if neither ends before the other begins, and the conflicts of days that a transition reports
are with those other shows, and only those, that have units out and a day in common with its own.

* `Date.exists_covers_iff`: two periods share a day exactly if they share the later first day;
* `Reservation.sharesDays_iff_sharesDay`: the comparison of first and last days tells whether there
  is such a day;
* `Snapshot.blocking`: the reservations whose units are out on such a day;
* `Snapshot.sameDays_transition`: exactly which conflicts of days a transition reports.
-/

namespace StageStock

/-! ### Periods -/

namespace Date

variable {first first' last last' : Option Date} {d e : Date}

lemma covers_some_iff {start : Date} :
    covers (some start) last d = true ↔ start.day ≤ d.day ∧ d.day ≤ (last.getD start).day := by
  rw [covers, Bool.and_eq_true, decide_eq_true_iff, decide_eq_true_iff]
  exact Iff.rfl

/-- The day on which a period begins; without a first day it has begun on the first day of all. -/
def opening (first : Option Date) : Date :=
  first.getD ⟨0⟩

lemma opening_le_of_covers (h : covers first last d = true) : (opening first).day ≤ d.day := by
  cases first with
  | none => exact Nat.zero_le _
  | some start => exact (covers_some_iff.1 h).1

/-- A period that holds a day holds all days before it from its beginning on. -/
lemma covers_of_between (h : covers first last d = true) (after : (opening first).day ≤ e.day)
    (before : e.day ≤ d.day) : covers first last e = true := by
  cases first with
  | none => rfl
  | some start => exact covers_some_iff.2 ⟨after, before.trans (covers_some_iff.1 h).2⟩

/-- The later one of two periods' first days. -/
def laterOpening (first first' : Option Date) : Date :=
  ⟨max (opening first).day (opening first').day⟩

/-- Two periods with a day in common have the later first day in common. -/
theorem exists_covers_iff :
    (∃ d, covers first last d = true ∧ covers first' last' d = true)
      ↔ covers first last (laterOpening first first') = true
        ∧ covers first' last' (laterOpening first first') = true := by
  constructor
  · rintro ⟨d, hd, hd'⟩
    have hlater : (laterOpening first first').day ≤ d.day :=
      Nat.max_le.2 ⟨opening_le_of_covers hd, opening_le_of_covers hd'⟩
    exact ⟨covers_of_between hd (Nat.le_max_left _ _) hlater,
      covers_of_between hd' (Nat.le_max_right _ _) hlater⟩
  · intro h
    exact ⟨_, h⟩

end Date

/-! ### Shows -/

namespace Reservation

variable {r other : Reservation}

/-- The show of a reservation is on a day. -/
def OnDay (r : Reservation) (d : Date) : Prop :=
  Date.covers r.first r.last d = true

/-- The shows of two reservations have a day in common. -/
def SharesDay (r other : Reservation) : Prop :=
  ∃ d, r.OnDay d ∧ other.OnDay d

/-- The later first day decides. -/
instance (r other : Reservation) : Decidable (r.SharesDay other) :=
  decidable_of_iff _ Date.exists_covers_iff.symm

/-- The show of a reservation, if it has a first and a last day, does not end before it begins. -/
def Orderly (r : Reservation) : Prop :=
  ∀ first ∈ r.first, ∀ last ∈ r.last, first ≤ last

instance : DecidablePred Orderly := fun r =>
  inferInstanceAs (Decidable (∀ first ∈ r.first, ∀ last ∈ r.last, first ≤ last))

lemma onDay_of_none (h : r.first = none) (d : Date) : r.OnDay d := by
  rw [OnDay, h]
  rfl

lemma Orderly.le_last (h : r.Orderly) {first : Date} (begins : r.first = some first) :
    first.day ≤ (r.last.getD first).day := by
  cases hlast : r.last with
  | none => exact Nat.le_refl _
  | some last => exact h first begins last hlast

/-- A show in order is on the day on which it begins. -/
lemma Orderly.onDay_opening (h : r.Orderly) : r.OnDay (Date.opening r.first) := by
  cases hfirst : r.first with
  | none => exact onDay_of_none hfirst _
  | some first =>
      rw [OnDay, hfirst]
      exact Date.covers_some_iff.2 ⟨Nat.le_refl _, h.le_last hfirst⟩

/-- Of two shows in order neither ends before the other begins exactly if they share a day. -/
theorem sharesDays_iff_sharesDay (h : r.Orderly) (h' : other.Orderly) :
    sharesDays r.first r.last other.first other.last = true ↔ r.SharesDay other := by
  cases hfirst : r.first with
  | none => exact iff_of_true rfl ⟨_, onDay_of_none hfirst _, h'.onDay_opening⟩
  | some first =>
      cases hfirst' : other.first with
      | none => exact iff_of_true rfl ⟨_, h.onDay_opening, onDay_of_none hfirst' _⟩
      | some first' =>
          have hlast := h.le_last hfirst
          have hlast' := h'.le_last hfirst'
          have hneither : sharesDays (some first) r.last (some first') other.last = true
              ↔ first.day ≤ (other.last.getD first').day
                ∧ first'.day ≤ (r.last.getD first).day := by
            rw [sharesDays, Bool.and_eq_true, decide_eq_true_iff, decide_eq_true_iff]
            exact Iff.rfl
          have hlater : (Date.laterOpening (some first) (some first')).day
              = max first.day first'.day := rfl
          rw [hneither, SharesDay]
          simp only [OnDay]
          rw [Date.exists_covers_iff, hfirst, hfirst', Date.covers_some_iff, Date.covers_some_iff,
            hlater]
          omega

end Reservation

/-! ### Conflicts of days -/

namespace Snapshot

variable {s : Snapshot} {r : Reservation}

/-- The other reservations whose units are out at a show that shares a day with this one's. -/
def blocking (s : Snapshot) (r : Reservation) : List Reservation :=
  s.reservations.filter fun other =>
    other.id ≠ r.id
      ∧ (other.status = ReservationStatus.checkedOut.text
        ∨ other.status = ReservationStatus.inUse.text)
      ∧ r.SharesDay other

lemma isOut_iff {status : String} : ReservationStatus.isOut status = true
    ↔ status = ReservationStatus.checkedOut.text ∨ status = ReservationStatus.inUse.text := by
  simp only [ReservationStatus.isOut, Bool.or_eq_true, decide_eq_true_eq]

/-- Where all shows are in order, they are the reservations that the transition looks at. -/
lemma outOnSameDays_eq_blocking (orderly : ∀ other ∈ r :: s.reservations, other.Orderly) :
    s.outOnSameDays r = s.blocking r := by
  rw [outOnSameDays, others, List.filter_filter, blocking]
  refine List.filter_congr fun other hother => Bool.eq_iff_iff.2 ?_
  have hshares := Reservation.sharesDays_iff_sharesDay (orderly r List.mem_cons_self)
    (orderly other (List.mem_cons_of_mem _ hother))
  have hactive : other.isOut = true → other.isActive = true := fun hout =>
    decide_eq_true (isOut_ne_returned hout)
  simp only [Bool.and_eq_true, decide_eq_true_eq, hshares, Reservation.isOut, isOut_iff]
    at hactive ⊢
  constructor
  · rintro ⟨⟨hout, hday⟩, hid, -⟩
    exact ⟨hid, hout, hday⟩
  · rintro ⟨hid, hout, hday⟩
    exact ⟨⟨hout, hday⟩, hid, hactive hout⟩

/-- No other conflict is of the kind of those with shows on the same days. -/
lemma filter_conflictsBesideDays (s : Snapshot) (r : Reservation) (status : String)
    (quantity : Int) :
    (s.conflictsBesideDays r status quantity).filter
      (fun c => c.kind = "allocation_conflict") = [] := by
  have hother (against : Bool) (c : Conflict) (hkind : c.kind ≠ "allocation_conflict") :
      (conflictIf against c).filter (fun c => c.kind = "allocation_conflict") = [] := by
    cases against <;> simp [conflictIf, hkind]
  simp only [conflictsBesideDays, List.filter_append, List.append_eq_nil_iff]
  refine ⟨⟨⟨⟨⟨?_, ?_⟩, ?_⟩, ?_⟩, ?_⟩, ?_⟩ <;> exact hother _ _ (by simp [Conflict.kind])

lemma filter_sameDaysConflicts (s : Snapshot) (r : Reservation) (quantity : Int) :
    (s.sameDaysConflicts r quantity).filter (fun c => c.kind = "allocation_conflict")
      = s.sameDaysConflicts r quantity := by
  refine List.filter_eq_self.2 fun c hc => decide_eq_true ?_
  simp only [sameDaysConflicts] at hc
  split at hc
  · obtain ⟨other, -, rfl⟩ := List.mem_map.1 hc
    rfl
  · cases hc

/-- The status stays as it is where none, or an empty one, is given. -/
lemma status_transition_eq (s : Snapshot) (r : Reservation) (status? : Option String)
    (quantity? : Option Int) :
    (s.transition r status? quantity?).status = (status?.filter (· ≠ "")).getD r.status := by
  cases status? with
  | none => rfl
  | some text =>
      show (if text = "" then r.status else text) = _
      by_cases hempty : text = ""
      · rw [if_pos hempty, Option.filter_some_neg (by simp [hempty])]
        rfl
      · rw [if_neg hempty, Option.filter_some_pos (by simp [hempty])]
        rfl

/-- A transition that takes units out of the store, or leaves them out, reports one conflict for
each other show that has units out on a day of its own, in their order and with the units that are
left beside all of them, if these do not suffice; and none otherwise. The ledger need not be sound,
but no show in it, that of the reservation among them, may end before it begins. -/
theorem sameDays_transition (orderly : ∀ other ∈ r :: s.reservations, other.Orderly)
    (status? : Option String) (quantity? : Option Int) :
    let target := (status?.filter (· ≠ "")).getD r.status
    let quantity := quantity?.getD r.allocated
    let out := addUp ((s.blocking r).map Reservation.allocated)
    (s.transition r status? quantity?).conflicts.filter (fun c => c.kind = "allocation_conflict")
      = if (target = ReservationStatus.checkedOut.text ∨ target = ReservationStatus.inUse.text)
            ∧ s.total < quantity + out then
          (s.blocking r).map fun other =>
            .sameDays other.id other.showId other.status other.allocated (max 0 (s.total - out))
        else [] := by
  intro target quantity out
  have htarget : (s.transition r status? quantity?).status = target :=
    status_transition_eq s r status? quantity?
  have hquantity : (s.transition r status? quantity?).quantity = quantity := rfl
  rw [conflicts_eq rfl, List.filter_append, filter_conflictsBesideDays, List.nil_append, htarget,
    hquantity]
  simp only [← isOut_iff]
  by_cases hout : ReservationStatus.isOut target = true
  · rw [if_pos hout, filter_sameDaysConflicts, sameDaysConflicts, outOnSameDays_eq_blocking orderly]
    simp only [hout, true_and]
    rfl
  · rw [if_neg hout, if_neg fun h => hout h.1]
    rfl

/-- A gala for which three of ten lamps are allocated, on the days 10 to 12. -/
def gala : Reservation :=
  { id := some 1, showId := 1, needed := 6, allocated := 3, status := "allocated"
    first := some ⟨10⟩, last := some ⟨12⟩ }

/-- The ledger beside the gala, which holds more lamps than there are: a fair that begins on its
last day, a tour without a first day, a market that is on the day 11 alone, a concert on the day
before the gala and a feast after it, and a ball on its days for which the lamps are still in the
store. -/
def crowdedStage : Snapshot :=
  { equipment := 1
    total := 10
    reservations :=
      [gala,
        { id := some 2, showId := 2, needed := 4, allocated := 4, status := "in-use"
          first := some ⟨12⟩, last := some ⟨15⟩ },
        { id := some 3, showId := 3, needed := 2, allocated := 2, status := "checked-out"
          last := some ⟨5⟩ },
        { id := some 4, showId := 4, needed := 1, allocated := 1, status := "in-use"
          first := some ⟨11⟩ },
        { id := some 5, showId := 5, needed := 5, allocated := 5, status := "in-use"
          first := some ⟨9⟩ },
        { id := some 6, showId := 6, needed := 2, allocated := 2, status := "checked-out"
          first := some ⟨13⟩, last := some ⟨14⟩ },
        { id := some 7, showId := 7, needed := 2, allocated := 2, status := "allocated"
          first := some ⟨10⟩, last := some ⟨12⟩ }] }

/-- Seven lamps are out on days of the gala. Three more for it are all that is left beside them, and
five are declined because of the fair, the tour and the market. -/
theorem sameDays_transition_gala :
    (∀ other ∈ gala :: crowdedStage.reservations, other.Orderly)
      ∧ (crowdedStage.transition gala (some "checked-out") (some 5)).conflicts.filter
          (fun c => c.kind = "allocation_conflict")
        = [.sameDays (some 2) 2 "in-use" 4 3, .sameDays (some 3) 3 "checked-out" 2 3,
          .sameDays (some 4) 4 "in-use" 1 3]
      ∧ (crowdedStage.transition gala (some "checked-out") none).conflicts.filter
          (fun c => c.kind = "allocation_conflict") = [] := by
  have horderly : ∀ other ∈ gala :: crowdedStage.reservations, other.Orderly := by decide
  refine ⟨horderly, (sameDays_transition horderly (some "checked-out") (some 5)).trans ?_,
    (sameDays_transition horderly (some "checked-out") none).trans ?_⟩ <;> decide

end Snapshot

end StageStock
