import Mathlib.Tactic.Lemma
import StageStock.Proofs.Reissue

/-!
The moment at which a reservation's units went out for the first time.

A row of a reservation is made without such a moment. It gets one at the first stroke that leaves it
checked out, and then keeps it: whatever is ordered later, the units may come back and go out
again, the row still tells when they went out first.

* `Reservation.IsLive`: a reservation that can be put; those that orders put are
  (`Order.Makes.putsLive`);
* `Store.Traces`: how a row that is there after a stroke has come about (`Store.Becomes.traces`);
* `Store.Lives`: the life of a row from the order that made it on, with the moment of the first
  stroke that left it checked out;
* `Store.checkedOutAt_written_once`: this is the moment that the row tells, and every row that was
  made on the way has such a life.
-/

namespace StageStock

/-! ### What orders put -/

/-- A reservation that can be put: it has not ended, and it is a new one that waits for its units,
or one that is recorded already and has not ended. -/
structure Reservation.IsLive (before : Snapshot) (r : Reservation) : Prop where
  active : r.isActive = true
  origin : (r.id = none ∧ r.status = ReservationStatus.requested.text)
    ∨ ∃ current ∈ before.reservations, current.id = r.id ∧ current.isActive = true

/-- All reservations that are put are live. -/
def Change.PutsLive (before : Snapshot) (cs : List Change) : Prop :=
  ∀ r, .putReservation r ∈ cs → r.IsLive before

lemma Mutation.PutsNone.putsLive {α : Type} {m : Mutation α} (h : m.PutsNone) :
    m.Prepares Change.PutsLive := by
  obtain ⟨e, user, preparation⟩ := m
  cases preparation with
  | known work => exact fun s read hread r hput => absurd hput (h s read hread r)
  | fromLedger prepare =>
      exact fun s read work hread hwork r hput => absurd hput (h s read work hread hwork r)

namespace Reservations

variable {s : Store} {m : Mutation Answer}

lemma putsLive_reserve {r : ReserveRequest} (h : reserve r s = .ok m) :
    m.Prepares Change.PutsLive := by
  obtain ⟨-, row, -, rfl⟩ := reserve_eq_ok h
  intro _ read work hread hwork
  rw [(prepareReserve_eq_ok hwork).2]
  intro q hput
  have hfresh : (fresh r row).IsLive read := ⟨rfl, Or.inl ⟨rfl, rfl⟩⟩
  simp only [reserveChanges] at hput
  split at hput
  · simp only [List.mem_singleton, Change.putReservation.injEq] at hput
    exact hput ▸ hfresh
  · rename_i current hcurrent
    split at hput
    · rename_i hactive
      simp only [List.mem_singleton, Change.putReservation.injEq] at hput
      rw [hput]
      exact ⟨hactive, Or.inr ⟨current, List.mem_of_find?_eq_some hcurrent, rfl, hactive⟩⟩
    · simp only [List.mem_cons, reduceCtorEq, List.not_mem_nil, or_false, false_or,
        Change.putReservation.injEq] at hput
      exact hput ▸ hfresh

/-- A reservation that has ended does not begin again. -/
lemma isActive_of_transition {ledger : Snapshot} {current : Reservation} {t : Transition}
    {status? : Option String} {quantity? : Option Int}
    (ht : t = ledger.transition current status? quantity?) (valid : t.conflicts = [])
    (stays : t.status ≠ ReservationStatus.returned.text) : current.isActive = true := by
  subst ht
  simp only [Snapshot.transition, List.append_eq_nil_iff, conflictIf_eq_nil] at valid stays
  obtain ⟨⟨⟨⟨⟨⟨-, hfinal⟩, -⟩, -⟩, -⟩, -⟩, -⟩ := valid
  simpa [stays] using hfinal

lemma putsLive_change {r : ChangeRequest} (h : change r s = .ok m) :
    m.Prepares Change.PutsLive := by
  obtain ⟨row, -, rfl⟩ := change_eq_ok h
  intro _ read work _ hwork
  obtain ⟨current, needed, t, allocated, hcurrent, -, ht, hvalid, rfl⟩ := prepareChange_eq_ok hwork
  intro q hput
  rw [changeWork] at hput
  split at hput
  · simp at hput
  · rename_i hstays
    simp only [List.mem_singleton, Change.putReservation.injEq] at hput
    have hactive : ({ current with needed := needed } : Reservation).isActive = true :=
      isActive_of_transition ht hvalid hstays
    rw [hput]
    exact ⟨decide_eq_true hstays,
      Or.inr ⟨current, List.mem_of_find?_eq_some hcurrent, rfl, hactive⟩⟩

end Reservations

/-- What an order records of a reservation is live. -/
lemma Order.Makes.putsLive {o : Order} {today : Date} {s : Store} {m : Mutation Json}
    (h : o.Makes today s m) : m.Prepares Change.PutsLive := by
  cases h with
  | setTotal made => exact (Equipments.putsNone_setTotal made).putsLive.map _
  | reserve made => exact (Reservations.putsLive_reserve made).map _
  | changeReservation made => exact (Reservations.putsLive_change made).map _
  | removeReservation made => exact (Reservations.putsNone_remove made).putsLive.map _
  | replacePlacements made => exact (Placements.putsNone_replace made).putsLive.map _
  | placeUnits made => exact (Placements.putsNone_place made).putsLive.map _
  | moveUnits made => exact (Placements.putsNone_move made).putsLive.map _
  | install made => exact (Installations.putsNone_install made).putsLive.map _
  | bringBack made => exact (Installations.putsNone_bringBack made).putsLive.map _

/-! ### Where a row comes from -/

namespace Store

variable {s t : Store} {now : Moment} {o : Order} {id : Int} {row' : ReservationRow}

/-- How a row of a reservation that is there after a stroke has come about. -/
inductive Traces (s : Store) (now : Moment) (o : Order) (id : Int) (row' : ReservationRow) : Prop
  where
  | untouched (found : s.reservations.find? id = some row')
  /-- A row that was there before, and had not ended, has been written. -/
  | edited (row : ReservationRow) (a : Worksheet.Author) (q : Reservation)
      (found : s.reservations.find? id = some row)
      (standing : row.status ≠ ReservationStatus.returned.text) (time : a.now = now)
      (active : q.isActive = true) (same : row' = Worksheet.reservationRow a q row)
  /-- A show has asked for units, and had no reservation or one that has ended. -/
  | made (r : Reservations.ReserveRequest) (order : o = .reserve r)
      (ended : ∀ old, s.reservations.find? id = some old →
        old.status = ReservationStatus.returned.text)
      (waits : row'.status = ReservationStatus.requested.text) (undated : row'.checkedOutAt = none)

section Live

variable {before : Snapshot} {e : Int} {q : Reservation}

lemma requested_of_isLive (live : q.IsLive before) (read : s.ledger? e = .ok before)
    (new : q.id = none) : q.status = ReservationStatus.requested.text := by
  rcases live.origin with ⟨-, hrequested⟩ | ⟨current, hlisted, hid, -⟩
  · exact hrequested
  · obtain ⟨id, hsome⟩ := Reservations.exists_id_of_mem read hlisted
    rw [hid, new] at hsome
    cases hsome

/-- The row of a live reservation has not ended. -/
lemma ne_returned_of_isLive (live : q.IsLive before) (read : s.ledger? e = .ok before)
    {row : ReservationRow} (same : q.id = some id) (stored : s.reservations.find? id = some row) :
    row.status ≠ ReservationStatus.returned.text := by
  rcases live.origin with ⟨hnone, -⟩ | ⟨current, hlisted, hid, hactive⟩
  · rw [same] at hnone
    cases hnone
  · obtain ⟨-, row', hrow', -, rfl⟩ := Reservations.find_of_listed read hlisted (hid.trans same)
    obtain rfl : row = row' := Option.some.inj (stored.symm.trans hrow')
    rw [isActive_reservationOf] at hactive
    exact of_decide_eq_true hactive

end Live

/-- A new row waits for its units. -/
lemma newReservationRow_of_requested (a : Worksheet.Author) {q : Reservation}
    (requested : q.status = ReservationStatus.requested.text) :
    (Worksheet.newReservationRow a q).status = ReservationStatus.requested.text
      ∧ (Worksheet.newReservationRow a q).checkedOutAt = none := by
  refine ⟨requested, ?_⟩
  rw [Worksheet.newReservationRow, Worksheet.reservationRow, requested]
  rfl

/-- Where a row comes from that is found after the changes of one bucket are written. -/
lemma Writes.traces {a : Worksheet.Author} {b : Bucket} {cs : List Change} {before : Snapshot}
    (h : s.Writes a b cs t) (read : s.ledger? a.equipment = .ok before) (time : a.now = now)
    (live : Change.PutsLive before cs)
    (order : ∀ q, .putReservation q ∈ cs → q.id = none → ∃ r, o = .reserve r)
    (found : t.reservations.find? id = some row') : s.Traces now o id row' := by
  cases h with
  | setTotal total => exact .untouched found
  | setInstallation i => exact .untouched found
  | replacePlacements ps =>
      obtain ⟨placements, hflushed⟩ := Worksheet.flushed_replacePlacements { store := s } a ps
      rw [hflushed] at found
      exact .untouched found
  | newReservation q new =>
      obtain ⟨r, horder⟩ := order q List.mem_cons_self new
      obtain ⟨hwaits, hundated⟩ :=
        newReservationRow_of_requested a (requested_of_isLive (live q List.mem_cons_self) read new)
      rcases List.mem_append.1 (Table.find?_eq_some_iff.1 found) with hold | hnew
      · exact .untouched (Table.find?_of_mem hold)
      · obtain ⟨rfl, rfl⟩ := Prod.mk.inj (List.mem_singleton.1 hnew)
        refine .made r horder (fun old hold => ?_) hwaits hundated
        rw [Table.find?_nextId] at hold
        cases hold
  | editReservation id' row q stored own same =>
      change (s.reservations.modify id' _).find? id = some row' at found
      rw [Table.find?_modify] at found
      split at found
      · rename_i hid
        rw [hid] at found ⊢
        rw [stored] at found
        have hlive := live q List.mem_cons_self
        have hstanding := ne_returned_of_isLive hlive read same stored
        exact .edited row a q stored hstanding time hlive.active (Option.some.inj found).symm
      · exact .untouched found
  | dropReservation id' showId row stored own =>
      change (s.reservations.erase id').find? id = some row' at found
      rw [Table.find?_erase] at found
      split at found
      · cases found
      · exact .untouched found
  | renewReservation id' showId row q stored own ended new same =>
      have hput : Change.putReservation q ∈ [.dropReservation id' showId, .putReservation q] := by
        simp
      obtain ⟨r, horder⟩ := order q hput new
      obtain ⟨hwaits, hundated⟩ :=
        newReservationRow_of_requested a (requested_of_isLive (live q hput) read new)
      rcases List.mem_append.1 (Table.find?_eq_some_iff.1 found) with hold | hnew
      · have hfound := Table.find?_of_mem hold
        rw [Table.find?_erase] at hfound
        split at hfound
        · cases hfound
        · exact .untouched hfound
      · -- the new row gets an id that no row has, or that of the row that made room for it
        obtain ⟨hid, rfl⟩ := Prod.mk.inj (List.mem_singleton.1 hnew)
        refine .made r horder (fun old hold => ?_) hwaits hundated
        have hfree := Table.find?_nextId (s.reservations.erase id')
        rw [← hid, Table.find?_erase] at hfree
        split at hfree
        · rename_i hsame
          rw [hsame] at hold
          obtain rfl : row = old := Option.some.inj (stored.symm.trans hold)
          simpa [isActive_reservationOf] using ended
        · rw [hfree] at hold
          cases hold

/-- Where a row comes from that is found after a stroke. -/
theorem Becomes.traces (h : s.Becomes now o t) (found : t.reservations.find? id = some row') :
    s.Traces now o id row' := by
  cases h with
  | same => exact .untouched found
  | entered enters => cases enters <;> exact .untouched found
  | committed shows locations makes ready commits =>
      obtain ⟨b, -, htouches⟩ := makes.touches ready commits.read commits.applied
      have hlive := makes.putsLive.of_readies commits.read ready
      rw [commits.tables_eq.2] at found
      refine (commits.writes htouches).traces commits.read rfl hlive (fun q hput hnew => ?_) found
      obtain ⟨r, horder, -⟩ := makes.exists_reserve_of_new ready commits.read hput hnew
      exact ⟨r, horder⟩

/-! ### The life of a row -/

/-- The life of the row under an id, from the order of the show that made it, over all strokes as
long as the row is there. It comes with the moment of the first stroke that left the row checked
out, if there was one. -/
inductive Lives (id : Int) : Store → Option Moment → Prop where
  | made {s t : Store} {now : Moment} {r : Reservations.ReserveRequest} {row : ReservationRow}
      (becomes : s.Becomes now (.reserve r) t)
      (ended : ∀ old, s.reservations.find? id = some old →
        old.status = ReservationStatus.returned.text)
      (found : t.reservations.find? id = some row)
      (active : row.status ≠ ReservationStatus.returned.text) : Lives id t none
  | waits {s t : Store} {now : Moment} {o : Order} {row : ReservationRow} (h : Lives id s none)
      (becomes : s.Becomes now o t) (found : t.reservations.find? id = some row)
      (inside : row.status ≠ ReservationStatus.checkedOut.text) : Lives id t none
  | goesOut {s t : Store} {now : Moment} {o : Order} {row : ReservationRow} (h : Lives id s none)
      (becomes : s.Becomes now o t) (found : t.reservations.find? id = some row)
      (outside : row.status = ReservationStatus.checkedOut.text) : Lives id t (some now)
  | goesOn {s t : Store} {now first : Moment} {o : Order} {row : ReservationRow}
      (h : Lives id s (some first)) (becomes : s.Becomes now o t)
      (found : t.reservations.find? id = some row) : Lives id t (some first)

/-- What a row tells of the first time that its units went out. -/
structure TellsFirst (s : Store) (id : Int) (first : Option Moment) (row : ReservationRow) : Prop
  where
  found : s.reservations.find? id = some row
  active : row.status ≠ ReservationStatus.returned.text
  tells : row.checkedOutAt = first
  inside : first = none → row.status ≠ ReservationStatus.checkedOut.text

/-- One stroke: as long as the row is there, it goes on telling the moment of the first stroke that
left it checked out, and gets it at that stroke. -/
lemma TellsFirst.step {first : Option Moment} {row : ReservationRow}
    (h : s.TellsFirst id first row) (becomes : s.Becomes now o t)
    (found : t.reservations.find? id = some row') :
    t.TellsFirst id
      (if first = none ∧ row'.status = ReservationStatus.checkedOut.text then some now else first)
      row' := by
  have hfound := h.found
  cases becomes.traces found with
  | untouched same =>
      obtain rfl : row = row' := Option.some.inj (hfound.symm.trans same)
      have hno : ¬ (first = none ∧ row.status = ReservationStatus.checkedOut.text) :=
        fun ⟨hnone, hout⟩ => h.inside hnone hout
      rw [if_neg hno]
      exact ⟨found, h.active, h.tells, h.inside⟩
  | edited old a q same standing time active hrow =>
      obtain rfl : row = old := Option.some.inj (hfound.symm.trans same)
      have hstatus : row'.status = q.status := by rw [hrow]; rfl
      have hdate : row'.checkedOutAt = if q.status = ReservationStatus.checkedOut.text
          ∧ row.checkedOutAt = none then some a.now else row.checkedOutAt := by rw [hrow]; rfl
      refine ⟨found, hstatus ▸ of_decide_eq_true active, ?_, fun hnone hout => ?_⟩
      · rw [hdate, hstatus, time, h.tells]
        simp only [and_comm]
      · cases first with
        | none => simp [hout] at hnone
        | some moment => simp at hnone
  | made r order ended waits undated => exact absurd (ended row hfound) h.active

/-- The row tells the moment of the first stroke that left it checked out. -/
lemma Lives.exists_tellsFirst {first : Option Moment} (h : Lives id s first) :
    ∃ row, s.TellsFirst id first row := by
  induction h with
  | @made s t now r row becomes ended found active =>
      refine ⟨row, ?_⟩
      cases becomes.traces found with
      | untouched same => exact absurd (ended row same) active
      | edited old a q same standing time live hrow => exact absurd (ended old same) standing
      | made r' order ended' waits undated =>
          exact ⟨found, active, undated, fun _ hout => absurd (waits.symm.trans hout) (by decide)⟩
  | waits h becomes found inside ih =>
      obtain ⟨row, htells⟩ := ih
      have hstep := htells.step becomes found
      rw [if_neg fun hout => inside hout.2] at hstep
      exact ⟨_, hstep⟩
  | goesOut h becomes found outside ih =>
      obtain ⟨row, htells⟩ := ih
      have hstep := htells.step becomes found
      rw [if_pos ⟨rfl, outside⟩] at hstep
      exact ⟨_, hstep⟩
  | goesOn h becomes found ih =>
      obtain ⟨row, htells⟩ := ih
      have hstep := htells.step becomes found
      rw [if_neg fun hnone => by cases hnone.1] at hstep
      exact ⟨_, hstep⟩

/-- Every stroke goes on with the life of a row that is still there. -/
lemma Lives.step {first : Option Moment} (h : Lives id s first) (becomes : s.Becomes now o t)
    (found : t.reservations.find? id = some row') : ∃ first', Lives id t first' := by
  cases first with
  | some moment => exact ⟨some moment, h.goesOn becomes found⟩
  | none =>
      by_cases hout : row'.status = ReservationStatus.checkedOut.text
      · exact ⟨some now, h.goesOut becomes found hout⟩
      · exact ⟨none, h.waits becomes found hout⟩

/-- A row that is there after a row of strokes, and under whose id there was none before, has a life
that began on the way. -/
lemma Leads.exists_lives (h : s.Leads t) (fresh : s.reservations.find? id = none)
    (found : t.reservations.find? id = some row') : ∃ first, Lives id t first := by
  refine h.preserves (I := fun u => ∀ row, u.reservations.find? id = some row →
    ∃ first, Lives id u first) (fun row hrow => ?_) (fun u now o v _ becomes hu row hrow => ?_)
    row' found
  · rw [fresh] at hrow
    cases hrow
  · cases becomes.traces hrow with
    | untouched same =>
        obtain ⟨first, hlives⟩ := hu row same
        exact hlives.step becomes hrow
    | edited old a q same standing time active edit =>
        obtain ⟨first, hlives⟩ := hu old same
        exact hlives.step becomes hrow
    | made r order ended waits undated =>
        subst order
        refine ⟨none, .made becomes ended hrow ?_⟩
        rw [waits]
        decide

/-- The moment at which a reservation's units went out is written once.

In the life of a row that a show's order has made, the row tells no such moment as long as no stroke
has left it checked out, and then that of the first stroke which did, whatever became of it later;
so a row that is checked out tells one. Every row that is made in a row of orders has such a life,
and from the empty store on these are all rows. -/
theorem checkedOutAt_written_once (id : Int) :
    (∀ s first, Lives id s first → ∃ row, s.reservations.find? id = some row
      ∧ row.checkedOutAt = first
      ∧ (row.status = ReservationStatus.checkedOut.text → ∃ moment, first = some moment))
    ∧ (∀ s t : Store, s.Yields t → s.reservations.find? id = none →
      ∀ row, t.reservations.find? id = some row → ∃ first, Lives id t first)
    ∧ ∀ s, Store.empty.Yields s → ∀ row, s.reservations.find? id = some row →
      row.status = ReservationStatus.checkedOut.text →
      ∃ moment, row.checkedOutAt = some moment := by
  have htells : ∀ s first, Lives id s first → ∃ row, s.reservations.find? id = some row
      ∧ row.checkedOutAt = first
      ∧ (row.status = ReservationStatus.checkedOut.text → ∃ moment, first = some moment) := by
    intro s first hlives
    obtain ⟨row, hrow⟩ := hlives.exists_tellsFirst
    refine ⟨row, hrow.found, hrow.tells, fun hout => ?_⟩
    cases first with
    | none => exact absurd hout (hrow.inside rfl)
    | some moment => exact ⟨moment, rfl⟩
  have hlives : ∀ s t : Store, s.Yields t → s.reservations.find? id = none →
      ∀ row, t.reservations.find? id = some row → ∃ first, Lives id t first :=
    fun s t hyields hfresh row hrow => hyields.leads.exists_lives hfresh hrow
  refine ⟨htells, hlives, fun s hyields row hrow hout => ?_⟩
  obtain ⟨first, hlife⟩ := hlives _ s hyields rfl row hrow
  obtain ⟨row', hrow', hfirst, hsome⟩ := htells s first hlife
  obtain rfl : row = row' := Option.some.inj (hrow.symm.trans hrow')
  obtain ⟨moment, rfl⟩ := hsome hout
  exact ⟨moment, hfirst⟩

end Store

namespace Desk

/-- Ten lamps are registered and a gala is listed. -/
def lampsAndGala : Desk :=
  ({} : Desk).fulfilAll
    [({ now := default }, .register { name := some "Lamp", total := 10 }),
      ({ now := default }, .addShow { name := "Gala" })]

/-- The gala asks for two lamps, -/
def galaAsks : Desk :=
  (lampsAndGala.fulfil { now := default }
    (.reserve { showId := 1, equipment := 1, needed := 2 })).desk

/-- checks them out a minute later, -/
def galaOut : Desk :=
  (galaAsks.fulfil { now := ⟨default, 60⟩ }
    (.changeReservation { id := 1, status := some "checked-out" })).desk

/-- brings them back after another minute, -/
def galaBack : Desk :=
  (galaOut.fulfil { now := ⟨default, 120⟩ }
    (.changeReservation { id := 1, status := some "allocated" })).desk

/-- and checks them out again. -/
def galaOutAgain : Desk :=
  (galaBack.fulfil { now := ⟨default, 180⟩ }
    (.changeReservation { id := 1, status := some "checked-out" })).desk

lemma yields_galaOutAgain : lampsAndGala.store.Yields galaOutAgain.store :=
  .alone _ _ _ (.alone _ _ _ (.alone _ _ _ (.alone _ _ _ .refl rfl) rfl) rfl) rfl

end Desk

/-- The row of a gala that has checked out lamps twice tells of the first time. -/
theorem Store.checkedOutAt_written_once_gala :
    Lives 1 Desk.galaAsks.store none ∧ Lives 1 Desk.galaOutAgain.store (some ⟨default, 60⟩)
      ∧ (∃ row, Desk.galaOutAgain.store.reservations.find? 1 = some row
        ∧ row.status = "checked-out" ∧ row.checkedOutAt = some ⟨default, 60⟩)
      ∧ Desk.lampsAndGala.store.Yields Desk.galaOutAgain.store
      ∧ Desk.lampsAndGala.store.reservations.find? 1 = none
      ∧ (∃ first, Lives 1 Desk.galaOutAgain.store first)
      ∧ Store.empty.Yields Desk.galaOutAgain.store
      ∧ ∃ row moment, Desk.galaOutAgain.store.reservations.find? 1 = some row
        ∧ row.checkedOutAt = some moment := by
  have hnone : Desk.lampsAndGala.store.reservations.find? 1 = none := by decide +kernel
  have hout : (Desk.galaOut.store.reservations.find? 1).map ReservationRow.status
      = some "checked-out" := by decide +kernel
  have hback : (Desk.galaBack.store.reservations.find? 1).isSome = true := by decide +kernel
  have hagain : (Desk.galaOutAgain.store.reservations.find? 1).map ReservationRow.status
      = some "checked-out" := by decide +kernel
  have hasked : (Desk.galaAsks.store.reservations.find? 1).map ReservationRow.status
      = some "requested" := by decide +kernel
  obtain ⟨asked, hasked, haskedStatus⟩ := Option.map_eq_some_iff.1 hasked
  obtain ⟨out, hout, houtStatus⟩ := Option.map_eq_some_iff.1 hout
  obtain ⟨back, hback⟩ := Option.isSome_iff_exists.1 hback
  obtain ⟨again, hagain, hagainStatus⟩ := Option.map_eq_some_iff.1 hagain
  have hmade : Lives 1 Desk.galaAsks.store none := by
    refine .made (Desk.lampsAndGala.becomes_fulfil rfl _) (fun old hold => ?_) hasked ?_
    · rw [hnone] at hold
      cases hold
    · rw [haskedStatus]
      decide
  have hlives : Lives 1 Desk.galaOutAgain.store (some ⟨default, 60⟩) :=
    ((hmade.goesOut (Desk.galaAsks.becomes_fulfil rfl _) hout houtStatus).goesOn
      (Desk.galaOut.becomes_fulfil rfl _) hback).goesOn (Desk.galaBack.becomes_fulfil rfl _) hagain
  obtain ⟨htells, hlife, hdated⟩ := checkedOutAt_written_once 1
  have hyields : Store.empty.Yields Desk.galaOutAgain.store :=
    .alone _ _ _ (.alone _ _ _ (.alone _ _ _ (.alone _ _ _ (.alone _ _ _ (.alone _ _ _ .refl rfl)
      rfl) rfl) rfl) rfl) rfl
  obtain ⟨row, hrow, hfirst, -⟩ := htells _ _ hlives
  obtain rfl : again = row := Option.some.inj (hagain.symm.trans hrow)
  obtain ⟨moment, hmoment⟩ := hdated _ hyields again hagain hagainStatus
  exact ⟨hmade, hlives, ⟨again, hagain, hagainStatus, hfirst⟩, Desk.yields_galaOutAgain, hnone,
    hlife _ _ Desk.yields_galaOutAgain hnone again hagain, hyields, again, moment, hagain, hmoment⟩

end StageStock
