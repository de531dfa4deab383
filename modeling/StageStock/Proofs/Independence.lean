import Mathlib.Tactic.Lemma
import StageStock.Proofs.Locality
import StageStock.Proofs.Versions

/-!
Orders for different equipments do not interact.

Of two orders for different equipments, each fails or succeeds as if the other had not been made:
what it asks of the catalogue is not changed by orders under a lock, and what it reads and writes
besides is one ledger. So they may be made in either order. Only the ids of new rows tell which came
first, since all equipments share them, and the id of a row that was dropped from the end of its
table is given out again.

* `Store.SameLedger`: a ledger that two stores hold, but for the ids of what is new since another
  store;
* `Order.request_congr`: what an order makes of a store that an order for another equipment left;
* `Desk.fulfil_beside`: one order, before and after another equipment has changed;
* `Desk.fulfil_independent`: two orders, made in either order.
-/

namespace StageStock

namespace Store

/-- What has become of a ledger in two ways is the same, but for the ids of what is new. -/
inductive SameLedger (s : Store) (e : Int) (t t' : Store) : Prop where
  | missing (failure : Failure) (none : s.ledger? e = .error failure)
      (first : t.ledger? e = .error failure) (second : t'.ledger? e = .error failure)
  | found (start m m' : Snapshot) (read : s.ledger? e = .ok start) (first : t.ledger? e = .ok m)
      (second : t'.ledger? e = .ok m') (renumbered : start.Renumbered m m')

namespace SameLedger

variable {s t t' u u' : Store} {e : Int}

lemma of_eq (first : t.ledger? e = s.ledger? e) (second : t'.ledger? e = s.ledger? e) :
    s.SameLedger e t t' := by
  cases h : s.ledger? e with
  | error failure => exact .missing failure h (first.trans h) (second.trans h)
  | ok start => exact .found start start start h (first.trans h) (second.trans h) (.refl _ _)

lemma symm (h : s.SameLedger e t t') : s.SameLedger e t' t := by
  cases h with
  | missing failure none first second => exact .missing failure none second first
  | found start m m' read first second renumbered =>
      exact .found start m' m read second first renumbered.symm

/-- Whoever changes other ledgers makes no difference. -/
lemma congr (h : s.SameLedger e t t') (first : u.ledger? e = t.ledger? e)
    (second : u'.ledger? e = t'.ledger? e) : s.SameLedger e u u' := by
  cases h with
  | missing failure none ht ht' => exact .missing failure none (first.trans ht) (second.trans ht')
  | found start m m' read ht ht' renumbered =>
      exact .found start m m' read (first.trans ht) (second.trans ht') renumbered

end SameLedger

end Store

/-! ### Requests -/

namespace Store.AgreesBeside

variable {e e' id : Int} {s t : Store}

lemma find?_reservation (h : s.AgreesBeside e t) (apart : e' ≠ e)
    (named : (s.reservations.find? id).map ReservationRow.equipment = some e') :
    t.reservations.find? id = s.reservations.find? id := by
  obtain ⟨row, hrow, hown⟩ := Option.map_eq_some_iff.1 named
  have hmem := mem_reservationsOf.2 ⟨Table.find?_eq_some_iff.1 hrow, hown⟩
  rw [← h.reservations e' apart] at hmem
  rw [hrow]
  exact Table.find?_of_mem (mem_reservationsOf.1 hmem).1

lemma find?_placement (h : s.AgreesBeside e t) (apart : e' ≠ e)
    (named : (s.placements.find? id).map PlacementRow.equipment = some e') :
    t.placements.find? id = s.placements.find? id := by
  obtain ⟨row, hrow, hown⟩ := Option.map_eq_some_iff.1 named
  have hmem := mem_placementsOf.2 ⟨Table.find?_eq_some_iff.1 hrow, hown⟩
  rw [← h.placements e' apart] at hmem
  rw [hrow]
  exact Table.find?_of_mem (mem_placementsOf.1 hmem).1

lemma equipment?_eq (h : s.AgreesBeside e t) (apart : e' ≠ e) :
    t.equipment? e' = s.equipment? e' := by
  simp only [equipment?, h.equipments e' apart]

end Store.AgreesBeside

namespace Order

variable {o : Order} {today : Date} {s t : Store} {e e' : Int}

/-- An order is for the same equipment once another one has changed. -/
lemma equipment?_congr (on : o.equipment? s = some e') (beside : s.AgreesBeside e t)
    (apart : e' ≠ e) : o.equipment? t = some e' := by
  cases o with
  | changeReservation _ | removeReservation _ _ =>
      rw [equipment?] at on ⊢
      rw [beside.find?_reservation apart on, on]
  | moveUnits _ =>
      rw [equipment?] at on ⊢
      rw [beside.find?_placement apart on, on]
  | _ => exact on

/-- An order makes the same of a store in which another equipment has changed. -/
theorem request_congr {request : Store → Except Failure (Mutation Json)}
    (h : o.request? today = some request) (on : o.equipment? s = some e')
    (beside : s.AgreesBeside e t) (apart : e' ≠ e) : request t = request s := by
  cases o with
  | register _ | addShow _ | addLocation _ => cases on
  | setTotal equipment total user =>
      cases h
      rfl
  | reserve r =>
      cases h
      exact congrArg _ (Reservations.reserve_congr beside.shows r)
  | changeReservation r =>
      cases h
      simp only [Reservations.change, Store.reservation?, beside.find?_reservation apart on]
  | removeReservation id user =>
      cases h
      simp only [Reservations.remove, Store.reservation?, beside.find?_reservation apart on]
  | replacePlacements r =>
      cases h
      obtain rfl : r.equipment = e' := Option.some.inj on
      simp only [Placements.replace, beside.equipment?_eq apart,
        Placements.readRows_congr beside.locations]
  | placeUnits r =>
      cases h
      obtain rfl : r.equipment = e' := Option.some.inj on
      simp only [Placements.place, beside.equipment?_eq apart,
        Store.findPlace_congr beside.locations]
  | moveUnits r =>
      cases h
      simp only [Placements.move, Store.placement?, beside.find?_placement apart on,
        Store.findPlace_congr beside.locations]
  | install r =>
      cases h
      obtain rfl : r.equipment = e' := Option.some.inj on
      simp only [Installations.install, beside.equipment?_eq apart,
        Installations.requested_congr beside.locations]
  | bringBack equipment quantity user =>
      cases h
      obtain rfl : equipment = e' := Option.some.inj on
      simp only [Installations.bringBack, beside.equipment?_eq apart]

end Order

/-! ### Attempts -/

namespace Mutation

variable {α : Type} {m : Mutation α} {now : Moment} {s : Store} {read : Snapshot}
  {failure : Failure}

/-- A ledger that has been read speaks against the mutation, or the mutation has changes ready for
it. -/
lemma declines_or_readies (m : Mutation α) (read : Snapshot) :
    (∃ prepare failure, m.preparation = .fromLedger prepare ∧ prepare read = .error failure)
      ∨ ∃ work, m.Readies read work := by
  obtain ⟨e, user, preparation⟩ := m
  cases preparation with
  | known work => exact Or.inr ⟨work, rfl⟩
  | fromLedger prepare =>
      cases h : prepare read with
      | error failure => exact Or.inl ⟨prepare, failure, rfl, h⟩
      | ok work => exact Or.inr ⟨_, work, h, rfl⟩

lemma attempt_of_ledger?_error (failed : s.ledger? m.equipment = .error failure) :
    m.attempt now ⟨s, []⟩ = (.error failure, ⟨s, []⟩) := by
  obtain ⟨e, user, preparation⟩ := m
  cases preparation with
  | known work =>
      have hprepare :
          s.prepare (Mutation.proposal ⟨e, user, .known work⟩ work) = .error failure := by
        simp only [Store.prepare, proposal, failed]
      simp only [attempt, finish_eq, Store.commit, hprepare]
  | fromLedger prepare => simp only [attempt, failed]

end Mutation

namespace Order.Makes

variable {o : Order} {today : Date} {s s₀ s' : Store} {m : Mutation Json} {e : Int}

/-- One attempt of an order on two stores that differ in another ledger: it fails on both in the
same way, or it succeeds on both and leaves the same ledger. -/
theorem attempt_beside (makes : o.Makes today s₀ m) (beside : s.AgreesBeside e s')
    (apart : m.equipment ≠ e) (stored : s.fits = true) (stored' : s'.fits = true) (now : Moment) :
    (∃ failure, m.attempt now ⟨s, []⟩ = (.error failure, ⟨s, []⟩)
        ∧ m.attempt now ⟨s', []⟩ = (.error failure, ⟨s', []⟩))
      ∨ ∃ told told' t t', m.attempt now ⟨s, []⟩ = (.ok told, ⟨t, []⟩)
        ∧ m.attempt now ⟨s', []⟩ = (.ok told', ⟨t', []⟩) ∧ s.SameLedger m.equipment t t' := by
  have hledger := beside.ledger?_eq apart
  cases hread : s.ledger? m.equipment with
  | error failure =>
      exact Or.inl ⟨failure, Mutation.attempt_of_ledger?_error hread,
        Mutation.attempt_of_ledger?_error (hledger.trans hread)⟩
  | ok read =>
      have hread' := hledger.trans hread
      rcases m.declines_or_readies read with
        ⟨prepare, failure, hprepared, hdeclined⟩ | ⟨work, hready⟩
      · exact Or.inl ⟨failure, Mutation.attempt_alone_of_prepare_error hprepared hread hdeclined,
          Mutation.attempt_alone_of_prepare_error hprepared hread' hdeclined⟩
      · have hanswers := makes.answers.of_readies hread hready
        have hcommit := Store.sameVerdict_commit (m.proposal work) now beside apart stored stored'
          fun before after hbefore happlied => by
            obtain rfl : read = before := Except.ok.inj (hread.symm.trans hbefore)
            obtain ⟨b, -, htouches⟩ := makes.touches hready hread happlied
            exact ⟨makes.proper.of_readies hread hready, b, htouches⟩
        rw [Desk.attempt_of_readies hread hready, Desk.attempt_of_readies hread' hready,
          Mutation.finish_eq, Mutation.finish_eq]
        rcases hcommit.outcomes with ⟨failure, hs, hs'⟩ |
          ⟨⟨t, c⟩, ⟨t', c'⟩, hs, hs', start, hstart, hreread, hreread', hrenumbered⟩
        · simp only [hs, hs']
          exact Or.inl ⟨failure, rfl, rfl⟩
        · obtain ⟨_, _, _, hcommits⟩ := Store.commits_of_commit hs
          obtain ⟨_, _, _, hcommits'⟩ := Store.commits_of_commit hs'
          obtain ⟨answer, hanswer⟩ := hanswers t c hreread hcommits.fitsWord_total
          obtain ⟨answer', hanswer'⟩ := hanswers t' c' hreread' hcommits'.fitsWord_total
          simp only [hs, hs', hanswer, hanswer']
          exact Or.inr ⟨_, _, t, t', rfl, rfl,
            .found start c c' hstart hreread hreread' hrenumbered⟩

end Order.Makes

/-! ### Whole orders -/

namespace Desk

variable {desk : Desk} {call call₁ call₂ : Call} {o o₁ o₂ : Order} {e e₁ e₂ : Int} {s' : Store}

/-- Whether a call gets the lock of an equipment does not depend on the store. -/
lemma mutateWith_hindered {α : Type} {m : Mutation α} (retries : Int) (alone : call.rivals = [])
    (hindered : ¬ desk.Unhindered call m.equipment) : ∃ failure, ∀ s,
      ({ desk with store := s } : Desk).mutateWith call retries m
        = { result := .error failure, desk := { desk with store := s } } := by
  cases hlock : desk.locks.acquire (desk.lockRequest call retries m.equipment) with
  | ok taken =>
      refine absurd ⟨Locks.isHeld_of_acquire hlock, ?_, alone⟩ hindered
      rw [Locks.acquire] at hlock
      split at hlock
      · cases hlock
      · rename_i hpatient
        simpa [lockRequest] using hpatient
  | error failure =>
      refine ⟨failure, fun s => ?_⟩
      have hrun : ({ desk with store := s } : Desk).runFrom call retries m ⟨s, call.rivals⟩
          = ⟨.error failure, desk.locks, ⟨s, []⟩⟩ := by
        rw [runFrom_eq, alone]
        exact Locks.repeatAttempts_of_unchanged (Locks.attempt_of_acquire_error hlock _)
      rw [mutateWith_eq, hrun]

/-- A mutation on two stores that differ in another ledger. -/
lemma mutateWith_beside {m : Mutation Json} {today : Date} {s₀ : Store} (retries : Int)
    (makes : o.Makes today s₀ m) (alone : call.rivals = [])
    (beside : desk.store.AgreesBeside e s') (apart : m.equipment ≠ e)
    (stored : desk.store.fits = true) (stored' : s'.fits = true) :
    let first := desk.mutateWith call retries m
    let second := ({ desk with store := s' } : Desk).mutateWith call retries m
    SameVerdict (fun _ _ => True) first.result second.result
      ∧ desk.store.SameLedger m.equipment first.desk.store second.desk.store := by
  intro first second
  have hsame : desk.store.SameLedger m.equipment desk.store s' :=
    .of_eq rfl (beside.ledger?_eq apart)
  by_cases hfree : desk.Unhindered call m.equipment
  · have hfree' : ({ desk with store := s' } : Desk).Unhindered call m.equipment :=
      ⟨hfree.free, hfree.patient, hfree.alone⟩
    rcases makes.attempt_beside beside apart stored stored' call.now with
      ⟨failure, h, h'⟩ | ⟨⟨answer, event⟩, ⟨answer', event'⟩, t, t', h, h', hledger⟩
    · have hfirst : first = _ := mutateWith_of_attempt_error hfree h
      have hsecond : second = _ := mutateWith_of_attempt_error hfree' h'
      rw [hfirst, hsecond]
      exact ⟨.failed failure, hsame⟩
    · have hfirst : first = _ := mutateWith_of_attempt_ok hfree h
      have hsecond : second = _ := mutateWith_of_attempt_ok hfree' h'
      rw [hfirst, hsecond]
      exact ⟨.passed trivial, hledger⟩
  · obtain ⟨failure, hfails⟩ := mutateWith_hindered (m := m) retries alone hfree
    have hfirst : first = _ := hfails desk.store
    have hsecond : second = _ := hfails s'
    rw [hfirst, hsecond]
    exact ⟨.failed failure, hsame⟩

/-- An order on two stores that differ in the ledger of another equipment. -/
theorem fulfil_beside (alone : call.rivals = []) (on : o.equipment? desk.store = some e₁)
    (beside : desk.store.AgreesBeside e s') (apart : e₁ ≠ e) (stored : desk.store.fits = true)
    (stored' : s'.fits = true) :
    let first := desk.fulfil call o
    let second := ({ desk with store := s' } : Desk).fulfil call o
    SameVerdict (fun _ _ => True) first.result second.result
      ∧ desk.store.SameLedger e₁ first.desk.store second.desk.store := by
  intro first second
  obtain ⟨request, hrequest⟩ := o.exists_request? (o.isLocked_of_equipment? on) call.now.date
  have hsame := Order.request_congr hrequest on beside apart
  have hfirst : first = desk.mutate call request := fulfil_eq_mutate hrequest
  have hsecond : second = ({ desk with store := s' } : Desk).mutate call request :=
    fulfil_eq_mutate hrequest
  rw [hfirst, hsecond, mutate, mutate, hsame]
  cases hmade : request desk.store with
  | error failure => exact ⟨.failed failure, .of_eq rfl (beside.ledger?_eq apart)⟩
  | ok m =>
      have hmakes := (Order.makes_iff hrequest).1 hmade
      obtain rfl : e₁ = m.equipment := Option.some.inj (on.symm.trans hmakes.equipment?_eq)
      exact mutateWith_beside desk.lockRetries hmakes alone beside apart stored stored'

/-- An order without other workers changes the ledger of its equipment only. -/
lemma exists_store_of_fulfil (alone : call.rivals = []) (on : o.equipment? desk.store = some e)
    (stored : desk.store.fits = true) :
    ∃ t, (desk.fulfil call o).desk = { desk with store := t } ∧ desk.store.AgreesBeside e t
      ∧ t.fits = true := by
  obtain ⟨t, hdesk, rfl | ⟨m, work, before, after, w, committed, hmakes, -, hcommits⟩⟩ :=
    desk.fulfil_alone alone (o.isLocked_of_equipment? on)
  · exact ⟨desk.store, hdesk, .refl _ _, stored⟩
  · obtain rfl : e = m.equipment := Option.some.inj (on.symm.trans hmakes.equipment?_eq)
    exact ⟨t, hdesk, hcommits.agreesBeside, hcommits.fits⟩

/-- Two orders for different equipments, made in either order, on whatever store. Each of them
succeeds in both cases, or fails in both with the very same failure, and all ledgers are the same
after both, but for the ids of what the two orders have entered. -/
theorem fulfil_independent (stored : desk.store.fits = true) (alone₁ : call₁.rivals = [])
    (alone₂ : call₂.rivals = []) (on₁ : o₁.equipment? desk.store = some e₁)
    (on₂ : o₂.equipment? desk.store = some e₂) (apart : e₁ ≠ e₂) :
    let first₁ := desk.fulfil call₁ o₁
    let then₂ := first₁.desk.fulfil call₂ o₂
    let first₂ := desk.fulfil call₂ o₂
    let then₁ := first₂.desk.fulfil call₁ o₁
    SameVerdict (fun _ _ => True) first₁.result then₁.result
      ∧ SameVerdict (fun _ _ => True) first₂.result then₂.result
      ∧ ∀ e, desk.store.SameLedger e then₂.desk.store then₁.desk.store := by
  intro first₁ then₂ first₂ then₁
  obtain ⟨t₁, hdesk₁, hbeside₁, hstored₁⟩ := exists_store_of_fulfil alone₁ on₁ stored
  obtain ⟨t₂, hdesk₂, hbeside₂, hstored₂⟩ := exists_store_of_fulfil alone₂ on₂ stored
  obtain ⟨hverdict₁, hledger₁⟩ := fulfil_beside alone₁ on₁ hbeside₂ apart stored hstored₂
  obtain ⟨hverdict₂, hledger₂⟩ := fulfil_beside alone₂ on₂ hbeside₁ apart.symm stored hstored₁
  have honLater₂ : o₂.equipment? ({ desk with store := t₁ } : Desk).store = some e₂ :=
    Order.equipment?_congr on₂ hbeside₁ apart.symm
  have honLater₁ : o₁.equipment? ({ desk with store := t₂ } : Desk).store = some e₁ :=
    Order.equipment?_congr on₁ hbeside₂ apart
  obtain ⟨u₂, hthen₂, hlast₂, -⟩ := exists_store_of_fulfil alone₂ honLater₂ hstored₁
  obtain ⟨u₁, hthen₁, hlast₁, -⟩ := exists_store_of_fulfil alone₁ honLater₁ hstored₂
  rw [← hdesk₁] at hverdict₂ hledger₂ hthen₂
  rw [← hdesk₂] at hverdict₁ hledger₁ hthen₁
  have hstore₁ : first₁.desk.store = t₁ := congrArg Desk.store hdesk₁
  have hstore₂ : first₂.desk.store = t₂ := congrArg Desk.store hdesk₂
  have hall₂ : then₂.desk.store = u₂ := congrArg Desk.store hthen₂
  have hall₁ : then₁.desk.store = u₁ := congrArg Desk.store hthen₁
  refine ⟨hverdict₁, hverdict₂, fun e => ?_⟩
  by_cases he₁ : e = e₁
  · obtain rfl := he₁
    refine hledger₁.congr ?_ rfl
    rw [hall₂, hstore₁]
    exact hlast₂.ledger?_eq apart
  · by_cases he₂ : e = e₂
    · obtain rfl := he₂
      refine hledger₂.symm.congr rfl ?_
      rw [hall₁, hstore₂]
      exact hlast₁.ledger?_eq apart.symm
    · refine .of_eq ?_ ?_
      · rw [hall₂, hlast₂.ledger?_eq he₂, hbeside₁.ledger?_eq he₁]
      · rw [hall₁, hlast₁.ledger?_eq he₁, hbeside₂.ledger?_eq he₂]

/-- The premiere gives its cables back and asks for three lamps, in either order. The lamps are
entered under the id that the cables had, or under the next one. -/
theorem fulfil_independent_premiereStore :
    let desk : Desk := { store := Store.premiereStore }
    let back : Order := .removeReservation 2 none
    let lamps : Order := .reserve { showId := 2, equipment := 1, needed := 3 }
    let first := (desk.fulfil { now := default } back).desk.fulfil { now := default } lamps
    let second := (desk.fulfil { now := default } lamps).desk.fulfil { now := default } back
    first.result.isOk = true ∧ second.result.isOk = true
      ∧ (∀ e, desk.store.SameLedger e first.desk.store second.desk.store)
      ∧ (first.desk.store.reservationsOf 1).map Prod.fst = [1, 2]
      ∧ (second.desk.store.reservationsOf 1).map Prod.fst = [1, 3] := by
  intro desk back lamps first second
  have halone : ({ now := default } : Call).rivals = [] := rfl
  have hcables : back.equipment? desk.store = some 2 := by decide +kernel
  have hlamps : lamps.equipment? desk.store = some 1 := rfl
  obtain ⟨-, -, hledgers⟩ :=
    fulfil_independent (by decide +kernel) halone halone hcables hlamps (by decide)
  exact ⟨by decide +kernel, by decide +kernel, hledgers, by decide +kernel, by decide +kernel⟩

end Desk

end StageStock
