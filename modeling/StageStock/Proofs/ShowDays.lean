import Mathlib.Tactic.Lemma
import StageStock.Proofs.Lawful

/-!
The days of shows do not decide whether a reservation can be changed.

Units that are out at another show are not in the store. A change that asks for more than the shows
on the same days leave of the total therefore asks for more than the store can give, and is declined
on whatever days the shows are.

* `Snapshot.IsSound.outOnSameDays_add_held_le`: what is out on the same days and what the
  reservation holds itself are parts of what is reserved;
* `Snapshot.isValid_transition_iff`: so that a transition is valid exactly if nothing but days could
  speak against it;
* `Snapshot.isValid_transition_redate`: no conflict of days comes alone, and other days of the shows
  leave a transition as valid, or as invalid, as it was.
-/

namespace StageStock

namespace Reservation

/-- The reservation with other days of its show. -/
def redate (days : Int → Option Date × Option Date) (r : Reservation) : Reservation :=
  { r with first := (days r.showId).1, last := (days r.showId).2 }

end Reservation

namespace Snapshot

variable {s : Snapshot} {r candidate : Reservation} {quantity : Int} {t : Transition}
  {status? : Option String} {quantity? : Option Int} {days : Int → Option Date × Option Date}

/-- The ledger with other days of the shows. -/
def redate (days : Int → Option Date × Option Date) (s : Snapshot) : Snapshot :=
  { s with reservations := s.reservations.map (Reservation.redate days) }

/-- The rules do not look at days. -/
lemma alike_redate (days : Int → Option Date × Option Date) (s : Snapshot) :
    s.Alike (s.redate days) where
  total := rfl
  placements := (Matched.refl _).mono fun _ _ _ _ same => same ▸ ⟨rfl, rfl, rfl⟩
  reservations := Matched.map_right
    ((Matched.refl _).mono fun _ _ _ _ same => same ▸ ⟨rfl, rfl, rfl, rfl⟩)
  kind := rfl
  quantity := rfl
  place := rfl

/-! ### Units that are out elsewhere -/

/-- What is out on the same days and what the reservation holds itself are parts of what is
reserved. -/
lemma IsSound.outOnSameDays_add_held_le (h : s.IsSound) (listed : r ∈ s.reservations)
    (same : candidate.id = r.id) :
    addUp ((s.outOnSameDays candidate).map Reservation.allocated) + r.held ≤ s.reserved := by
  have hheld : (s.outOnSameDays candidate).map Reservation.allocated
      = (s.outOnSameDays candidate).map Reservation.held := by
    refine List.map_congr_left fun other hother => ?_
    have hactive := (List.mem_filter.1 (List.mem_filter.1 hother).1).2
    rw [Bool.and_eq_true] at hactive
    exact (if_pos hactive.2).symm
  rw [hheld, outOnSameDays, others, List.filter_filter, s.reserved_eq]
  exact addUp_filter_add_le h.held_nonneg listed (by simp [same])

/-- A conflict of days asks for more than the store can give. -/
lemma IsSound.inStoreWith_lt_of_sameDays (h : s.IsSound) (listed : r ∈ s.reservations)
    (same : candidate.id = r.id) (conflict : s.sameDaysConflicts candidate quantity ≠ []) :
    s.inStoreWith r.held < quantity := by
  have hmore : s.total
      < quantity + addUp ((s.outOnSameDays candidate).map Reservation.allocated) := by
    by_contra hless
    exact conflict (if_neg hless)
  have hreserved := h.outOnSameDays_add_held_le listed same
  have hplaced := h.placed_nonneg
  have hinstalled := h.installed_nonneg
  have htotal := s.total_eq
  rw [s.inStoreWith_held (h.reservations r listed)]
  omega

/-! ### Conflicts -/

/-- The conflicts of a transition in which no days are looked at. -/
def conflictsBesideDays (s : Snapshot) (r : Reservation) (status : String) (quantity : Int) :
    List Conflict :=
  conflictIf (!ReservationStatus.isKnown status) (.unknownStatus status)
    ++ conflictIf (!r.isActive && !decide (status = ReservationStatus.returned.text))
      (.returnedIsFinal r.id)
    ++ conflictIf (quantity < 0) .negativeQuantity
    ++ conflictIf (r.needed < quantity) (.exceedsNeeded quantity r.needed)
    ++ conflictIf (!decide (status = ReservationStatus.returned.text)
      && s.inStoreWith r.held < quantity) (.exceedsAvailable (s.inStoreWith r.held))
    ++ conflictIf (ReservationStatus.isOut status && quantity ≤ 0) .nothingToCheckOut

lemma conflicts_eq (ht : t = s.transition r status? quantity?) :
    t.conflicts = s.conflictsBesideDays r t.status t.quantity
      ++ if ReservationStatus.isOut t.status then s.sameDaysConflicts r t.quantity else [] := by
  rw [ht]
  rfl

lemma isOut_ne_returned {status : String} (out : ReservationStatus.isOut status = true) :
    status ≠ ReservationStatus.returned.text := by
  rintro rfl
  exact absurd out (by decide)

/-- Where days speak against a transition, the store does as well. -/
lemma IsSound.exceedsAvailable_mem (h : s.IsSound) (listed : r ∈ s.reservations)
    (same : candidate.id = r.id) (held : candidate.held = r.held) {status : String}
    (out : ReservationStatus.isOut status = true)
    (conflict : s.sameDaysConflicts candidate quantity ≠ []) :
    .exceedsAvailable (s.inStoreWith r.held)
      ∈ s.conflictsBesideDays candidate status quantity := by
  have hmore := h.inStoreWith_lt_of_sameDays listed same conflict
  rw [← held] at hmore ⊢
  simp [conflictsBesideDays, conflictIf, isOut_ne_returned out, hmore]

/-- A conflict of days is one of those with the shows on the same days. -/
lemma sameDaysConflicts_ne_nil (ht : t = s.transition r status? quantity?) {c : Conflict}
    (reported : c ∈ t.conflicts) (days : c.isSameDays = true) :
    ReservationStatus.isOut t.status = true ∧ s.sameDaysConflicts r t.quantity ≠ [] := by
  rw [conflicts_eq ht] at reported
  rcases List.mem_append.1 reported with hbeside | hdays
  · simp only [conflictsBesideDays, conflictIf, List.mem_append] at hbeside
    rcases hbeside with ((((hc | hc) | hc) | hc) | hc) | hc <;>
      · split at hc
        · rw [List.mem_singleton.1 hc] at days
          cases days
        · cases hc
  · split at hdays
    · rename_i hout
      exact ⟨hout, List.ne_nil_of_mem hdays⟩
    · cases hdays

/-- A transition is valid exactly if nothing but days could speak against it. -/
lemma IsSound.isValid_transition_iff (h : s.IsSound) (listed : r ∈ s.reservations)
    (same : candidate.id = r.id) (held : candidate.held = r.held)
    (ht : t = s.transition candidate status? quantity?) :
    t.isValid = true ↔ s.conflictsBesideDays candidate t.status t.quantity = [] := by
  rw [Transition.isValid, List.isEmpty_iff, conflicts_eq ht, List.append_eq_nil_iff]
  refine ⟨fun hvalid => hvalid.1, fun hbeside => ⟨hbeside, ?_⟩⟩
  by_contra hdays
  split at hdays
  · rename_i hout
    exact List.ne_nil_of_mem (h.exceedsAvailable_mem listed same held hout hdays) hbeside
  · exact hdays rfl

lemma conflictsBesideDays_redate (status : String) :
    (s.redate days).conflictsBesideDays (candidate.redate days) status quantity
      = s.conflictsBesideDays candidate status quantity := by
  have hstore : (s.redate days).inStoreWith (candidate.redate days).held
      = s.inStoreWith candidate.held := by
    rw [inStoreWith, inStoreWith, (s.alike_redate days).inStore_eq]
    rfl
  rw [conflictsBesideDays, hstore]
  rfl

/-- No conflict of days comes alone: the reservation would also hold more than it can. So other days
of the shows, that of the reservation among them, leave a transition as valid, or as invalid, as it
was. The need of the reservation may be another than the one that is recorded. -/
theorem isValid_transition_redate (lawful : s.violations = []) (listed : r ∈ s.reservations)
    (needed : Int) (status? : Option String) (quantity? : Option Int) :
    let candidate := { r with needed := needed }
    let t := s.transition candidate status? quantity?
    ((∃ c ∈ t.conflicts, c.isSameDays = true) →
        .exceedsAvailable (s.inStoreWith r.held) ∈ t.conflicts)
      ∧ ∀ days, ((s.redate days).transition (candidate.redate days) status? quantity?).isValid
          = t.isValid := by
  intro candidate t
  have hsound := (violations_eq_nil_iff_isSound s).1 lawful
  have hid : candidate.id = r.id := rfl
  have hheld : candidate.held = r.held := rfl
  have hvalid : t.isValid = true ↔ s.conflictsBesideDays candidate t.status t.quantity = [] :=
    hsound.isValid_transition_iff listed hid hheld rfl
  constructor
  · rintro ⟨c, hreported, hdays⟩
    obtain ⟨hout, hconflict⟩ := sameDaysConflicts_ne_nil rfl hreported hdays
    have hmem : .exceedsAvailable (s.inStoreWith r.held)
        ∈ s.conflictsBesideDays candidate t.status t.quantity :=
      hsound.exceedsAvailable_mem listed hid hheld hout hconflict
    rw [conflicts_eq rfl]
    exact List.mem_append_left _ hmem
  · intro days
    have hredated : ((s.redate days).transition (candidate.redate days) status? quantity?).isValid
        = true ↔ (s.redate days).conflictsBesideDays (candidate.redate days) t.status t.quantity
          = [] :=
      ((s.alike_redate days).isSound hsound).isValid_transition_iff (List.mem_map_of_mem listed)
        rfl rfl rfl
    rw [conflictsBesideDays_redate] at hredated
    exact Bool.eq_iff_iff.2 (hredated.trans hvalid.symm)

/-- Ten lamps, of which a fair has six in use and a gala has four allocated, on days that have two
in common. -/
def galaBesideFair : Snapshot :=
  { equipment := 1
    total := 10
    reservations :=
      [{ id := some 1, showId := 1, needed := 6, allocated := 4, status := "allocated"
         first := some ⟨1⟩, last := some ⟨5⟩ },
        { id := some 2, showId := 2, needed := 6, allocated := 6, status := "in-use"
          first := some ⟨4⟩, last := some ⟨8⟩ }] }

/-- The fair keeps its days, and the gala comes after it. -/
def galaAfterFair (showId : Int) : Option Date × Option Date :=
  if showId = 1 then (some ⟨9⟩, some ⟨12⟩) else (some ⟨4⟩, some ⟨8⟩)

/-- A fifth lamp for the gala is declined because of the fair, but also because there is none left,
and so it still is after the fair. -/
theorem isValid_transition_redate_gala :
    galaBesideFair.violations = [] ∧ ∃ r ∈ galaBesideFair.reservations,
      (galaBesideFair.transition r (some "checked-out") (some 5)).conflicts
          = [.exceedsAvailable 4, .sameDays (some 2) 2 "in-use" 6 4]
        ∧ ((galaBesideFair.redate galaAfterFair).transition (r.redate galaAfterFair)
          (some "checked-out") (some 5)).conflicts = [.exceedsAvailable 4]
        ∧ ((galaBesideFair.redate galaAfterFair).transition (r.redate galaAfterFair)
          (some "checked-out") (some 5)).isValid
            = (galaBesideFair.transition r (some "checked-out") (some 5)).isValid := by
  have hlawful : galaBesideFair.violations = [] := by decide
  obtain ⟨-, hsame⟩ := isValid_transition_redate hlawful List.mem_cons_self 6
    (some "checked-out") (some 5)
  exact ⟨hlawful, _, List.mem_cons_self, by decide, by decide, hsame galaAfterFair⟩

end Snapshot

end StageStock
