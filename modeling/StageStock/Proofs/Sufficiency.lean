import Mathlib.Tactic.Lemma
import StageStock.Proofs.Interleaving
import StageStock.Proofs.Lawful

/-!
On a lawful ledger orders fail in ordinary ways only.

The rules are checked before every commit, and a show can have one row for an equipment. An order on
a ledger that breaks no rule never fails for either reason: its own checks have declined it before.

* `Store.isOrdinary_of_commit`: a commit of proper and lawful changes fails in ordinary ways only;
* `Mutation.isOrdinary_of_attempt`: so does an attempt, with or without other workers;
* `Desk.fulfil_error_isOrdinary`: so does an order, however often it is tried.
-/

namespace StageStock

variable {failure : Failure}

/-! ### What writing can fail with -/

lemma Change.isOrdinary_of_applyAll {cs : List Change} {m : Snapshot}
    (h : applyAll m cs = .error failure) : failure.IsOrdinary := by
  induction cs generalizing m with
  | nil => cases h
  | cons c rest ih =>
      rw [applyAll] at h
      split at h
      · rename_i e he
        obtain rfl := Except.error.inj h
        cases c with
        | dropReservation id showId =>
            simp only [apply] at he
            split at he <;> cases he
            exact Or.inr ⟨_, rfl, rfl⟩
        | _ => cases he
      · exact ih h

namespace Worksheet

variable {w : Worksheet} {a : Author}

/-- At most one reservation waits to be entered, and no row stands in its way. -/
def Enterable (w : Worksheet) : Prop :=
  w.newReservations = [] ∨ ∃ row, w.newReservations = [row] ∧ ∀ old ∈ w.store.reservations.rows,
    ¬ (old.2.showId = row.showId ∧ old.2.equipment = row.equipment)

/-- A flush of such a worksheet fails only if a number is too wide. -/
lemma Enterable.flush_eq (h : w.Enterable) :
    w.flush = if w.flushed.fits then .ok w.flushed else .error .numberTooWide := by
  have hentered : w.store.enterReservations w.newReservations
      = .ok { w.store with
          reservations := w.newReservations.foldl Table.insert w.store.reservations } := by
    rcases h with hnone | ⟨row, hone, hfree⟩
    · rw [hnone]
      rfl
    · have hnew : ¬ w.store.reservations.rows.any (fun old =>
          decide (old.2.showId = row.showId) && decide (old.2.equipment = row.equipment)) := by
        intro hany
        obtain ⟨old, hold, hsame⟩ := List.any_eq_true.1 hany
        exact hfree old hold (by simpa using hsame)
      rw [hone, Store.enterReservations, Store.enterReservation]
      simp only [hnew]
      rfl
  rw [flush, hentered]
  rfl

lemma Enterable.isOrdinary_of_flush (h : w.Enterable) (failed : w.flush = .error failure) :
    failure.IsOrdinary := by
  rw [h.flush_eq] at failed
  split at failed <;> cases failed
  exact Or.inl rfl

lemma isOrdinary_of_write {c : Change} (none : w.newReservations = [])
    (failed : w.write a c = .error failure) : failure.IsOrdinary := by
  cases c with
  | putReservation r =>
      simp only [write, putReservation] at failed
      split at failed
      · cases failed
      · split at failed
        · rename_i e he
          exact Except.error.inj failed ▸ Store.isOrdinary_of_reservation? he
        · split at failed <;> cases failed
          exact Or.inr ⟨_, rfl, rfl⟩
  | dropReservation id showId =>
      simp only [write, dropReservation] at failed
      split at failed
      · rename_i e he
        exact Except.error.inj failed ▸ Store.isOrdinary_of_reservation? he
      · split at failed
        · rename_i e he
          exact Except.error.inj failed ▸ Enterable.isOrdinary_of_flush (Or.inl none) he
        · cases failed
  | _ => cases failed

/-- One change written on an empty worksheet leaves at most one reservation to be entered. -/
lemma enterable_of_wrote {w' : Worksheet} {c : Change} (none : w.newReservations = [])
    (wrote : Wrote a w c w')
    (free : ∀ r, c = .putReservation r → r.id = .none → ∀ old ∈ w.store.reservations.rows,
      old.2.equipment = a.equipment → old.2.showId ≠ r.showId) : w'.Enterable := by
  cases wrote with
  | newReservation r new =>
      refine Or.inr ⟨newReservationRow a r, by rw [none]; rfl, fun old hold => ?_⟩
      rintro ⟨hshow, hown⟩
      exact free r rfl new old hold hown hshow
  | replacePlacements ps =>
      obtain ⟨placements, new, hput⟩ := putPlacements_eq a ps w (w.kept a.equipment)
      refine Or.inl ?_
      rw [replacePlacements_eq, hput]
      exact none
  | dropReservation id showId => exact Or.inl rfl
  | _ => exact Or.inl none

end Worksheet

/-! ### What a commit can fail with -/

namespace Change.Proper

variable {before after : Snapshot} {cs : List Change} {s : Store} {a : Worksheet.Author}
  {w : Worksheet}

lemma isOrdinary_of_writeAll (h : Proper before cs)
    (failed : Worksheet.writeAll { store := s } a cs = .error failure) : failure.IsOrdinary := by
  have hone : ∀ (w : Worksheet) c, w.newReservations = [] → w.writeAll a [c] = .error failure →
      failure.IsOrdinary := by
    intro w c hnone hfailed
    rw [Worksheet.writeAll] at hfailed
    split at hfailed
    · rename_i e he
      exact Except.error.inj hfailed ▸ Worksheet.isOrdinary_of_write hnone he
    · cases hfailed
  cases h with
  | renewReservation id showId r new =>
      rw [Worksheet.writeAll] at failed
      split at failed
      · rename_i e he
        exact Except.error.inj failed ▸ Worksheet.isOrdinary_of_write rfl he
      · rename_i dropped hdropped
        cases Worksheet.wrote_of_write hdropped with
        | dropReservation id showId => exact hone _ _ rfl failed
  | _ => exact hone _ _ rfl failed

/-- A new reservation of a sound ledger is the only one of its show. -/
lemma showId_ne_of_put {m m' : Snapshot} {r : Reservation}
    (applied : apply m (.putReservation r) = .ok m') (sound : m'.IsSound) (new : r.id = none) :
    ∀ other ∈ m.reservations, other.showId ≠ r.showId := by
  obtain rfl := Except.ok.inj applied
  have hshows := sound.shows
  rw [List.map_append] at hshows
  intro other hother
  have hkept : other ∈ m.reservations.filter fun other => r.id = none || other.id ≠ r.id :=
    List.mem_filter.2 ⟨hother, by simp [new]⟩
  exact (List.nodup_append.1 hshows).2.2 _ (List.mem_map_of_mem hkept) _ (List.mem_singleton.2 rfl)

/-- Where a reservation waits to be entered, its show has no row. -/
lemma enterable (h : Proper before cs) (read : s.ledger? a.equipment = .ok before)
    (applied : applyAll before cs = .ok after) (sound : after.IsSound)
    (written : Worksheet.writeAll { store := s } a cs = .ok w) : w.Enterable := by
  have hread : ∀ row ∈ s.reservations.rows, row.2.equipment = a.equipment →
      s.reservationOf row ∈ before.reservations := fun row hrow hown =>
    Store.mem_reservations_of_ledger? read (Store.mem_reservationsOf.2 ⟨hrow, hown⟩)
  cases h with
  | putReservation r known =>
      obtain ⟨next, hput, hnext⟩ := exists_apply_of_applyAll applied
      obtain rfl := Except.ok.inj hnext
      refine Worksheet.enterable_of_wrote rfl (Worksheet.wrote_of_writeAll written)
        fun r' hr' new row hrow hown => ?_
      cases hr'
      exact showId_ne_of_put hput sound new _ (hread row hrow hown)
  | renewReservation id showId r new =>
      rw [Worksheet.writeAll] at written
      split at written
      · cases written
      · rename_i dropped hdropped
        obtain ⟨next, hdrop, hput⟩ := exists_apply_of_applyAll applied
        obtain ⟨-, rfl⟩ := dropped_of_apply hdrop
        obtain ⟨last, hput, hlast⟩ := exists_apply_of_applyAll hput
        obtain rfl := Except.ok.inj hlast
        cases Worksheet.wrote_of_write hdropped with
        | dropReservation id showId =>
            refine Worksheet.enterable_of_wrote rfl (Worksheet.wrote_of_writeAll written)
              fun r' hr' _ row hrow hown => ?_
            cases hr'
            obtain ⟨hstored, hkept⟩ := List.mem_filter.1 hrow
            refine showId_ne_of_put hput sound new (s.reservationOf row)
              (List.mem_filter.2 ⟨hread row hstored hown, ?_⟩)
            simpa [Store.reservationOf] using hkept
  | _ =>
      refine Worksheet.enterable_of_wrote rfl (Worksheet.wrote_of_writeAll written)
        fun r' hr' => ?_
      cases hr'

end Change.Proper

namespace Store

variable {s : Store} {p : Proposal} {now : Moment}

lemma isOrdinary_of_prepare (failed : s.prepare p = .error failure)
    (lawful : ∀ before after, s.ledger? p.equipment = .ok before →
      Change.applyAll before p.changes = .ok after → after.violations = []) :
    failure.IsOrdinary := by
  rw [prepare] at failed
  split at failed
  · rename_i e he
    exact Except.error.inj failed ▸ isOrdinary_of_ledger? he
  · rename_i before hread
    split at failed
    · rename_i e he
      exact Except.error.inj failed ▸ (checkExpected_error he).isOrdinary
    · split at failed
      · rename_i e he
        obtain rfl := Except.error.inj failed
        rw [Proposal.checkRead] at he
        split at he
        · split at he <;> cases he
          exact Or.inr ⟨_, rfl, rfl⟩
        · cases he
      · split at failed
        · rename_i e he
          exact Except.error.inj failed ▸ Change.isOrdinary_of_applyAll he
        · rename_i after happlied
          rw [lawful before after hread happlied] at failed
          cases failed

/-- A commit of proper changes that lead from a sound ledger to a sound one fails in ordinary ways
only. -/
theorem isOrdinary_of_commit (failed : s.commit p now = .error failure)
    (sound : ∀ before, s.ledger? p.equipment = .ok before → before.IsSound)
    (proper : ∀ before, s.ledger? p.equipment = .ok before → Change.Proper before p.changes)
    (lawful : ∀ before, s.ledger? p.equipment = .ok before → Change.Lawful before p.changes) :
    failure.IsOrdinary := by
  have hsound : ∀ before after, s.ledger? p.equipment = .ok before →
      Change.applyAll before p.changes = .ok after → after.IsSound :=
    fun before after hread => lawful before hread (sound before hread) after
  rw [commit] at failed
  split at failed
  · rename_i e he
    refine Except.error.inj failed ▸ isOrdinary_of_prepare he fun before after hread happlied => ?_
    exact (Snapshot.violations_eq_nil_iff_isSound after).2 (hsound before after hread happlied)
  · rename_i before after hprepared
    obtain ⟨hread, -, -, happlied, -⟩ := prepare_eq_ok hprepared
    simp only at failed
    split at failed
    · rename_i e he
      exact Except.error.inj failed ▸ (proper before hread).isOrdinary_of_writeAll he
    · rename_i w hwritten
      have hwrote : w.Enterable := (proper before hread).enterable (a := p.author now) hread
        happlied (hsound before after hread happlied) hwritten
      have henterable : (complete w (p.author now) p before after).Enterable := hwrote
      split at failed
      · rename_i e he
        exact Except.error.inj failed ▸ henterable.isOrdinary_of_flush he
      · split at failed
        · rename_i e he
          exact Except.error.inj failed ▸ isOrdinary_of_ledger? he
        · cases failed

end Store

/-! ### What an attempt can fail with -/

lemma Store.AllCommit.append {s : Store} {e : Int} {now : Moment} {earlier rest : List Rival}
    (h : s.AllCommit e now (earlier ++ rest)) :
    (s.afterRivals e now earlier).AllCommit e now rest := by
  induction earlier generalizing s with
  | nil => exact h
  | cons r later ih =>
      rw [afterRivals_cons]
      exact ih h.2

namespace Mutation

variable {α : Type} {m : Mutation α} {now : Moment} {scene : Scene}

lemma isOrdinary_of_finish {work : Prepared α} (answers : work.Answers m.equipment)
    (sound : ∀ ledger, scene.store.ledger? m.equipment = .ok ledger → ledger.IsSound)
    (proper : ∀ ledger, scene.store.ledger? m.equipment = .ok ledger →
      Change.Proper ledger work.changes)
    (lawful : ∀ ledger, scene.store.ledger? m.equipment = .ok ledger →
      Change.Lawful ledger work.changes)
    (failed : (m.finish work now scene).1 = .error failure) : failure.IsOrdinary :=
  Store.isOrdinary_of_commit (finish_error answers failed).2 sound proper lawful

/-- A mutation that is prepared in an orderly way fails in ordinary ways only, whether another
worker commits meanwhile or not. -/
theorem isOrdinary_of_attempt (answers : m.Answers) (proper : m.Proper) (lawful : m.Lawful)
    (orderly : ∀ prepare, m.preparation = .fromLedger prepare → Orderly m.equipment prepare)
    (sound : ∀ ledger, scene.store.ledger? m.equipment = .ok ledger → ledger.IsSound)
    (commits : scene.store.AllCommit m.equipment now scene.rivals)
    (failed : (m.attempt now scene).1 = .error failure) : failure.IsOrdinary := by
  obtain ⟨e, user, preparation⟩ := m
  cases preparation with
  | known work =>
      exact isOrdinary_of_finish answers sound (proper scene.store) (lawful scene.store) failed
  | fromLedger prepare =>
      obtain ⟨s, rivals⟩ := scene
      have horderly := orderly prepare rfl
      cases hread : s.ledger? e with
      | error failure' =>
          simp only [attempt, hread, Except.error.injEq] at failed
          exact failed ▸ Store.isOrdinary_of_ledger? hread
      | ok read =>
          cases rivals with
          | cons r rest =>
              obtain ⟨⟨t, committed, hcommit⟩, -⟩ := commits
              rw [attempt_overtaken rfl horderly hread rest hcommit] at failed
              split at failed
              · rename_i declined hdeclined
                exact Except.error.inj failed ▸ (horderly.final read declined hdeclined).isOrdinary
              · exact Except.error.inj failed ▸ Or.inr ⟨_, rfl, rfl⟩
          | nil =>
              simp only [attempt, hread, Scene.advance] at failed
              cases hwork : prepare read with
              | error declined =>
                  simp only [hwork, Except.error.injEq] at failed
                  exact failed ▸ (horderly.final read declined hwork).isOrdinary
              | ok work =>
                  simp only [hwork] at failed
                  have hsame : ∀ ledger, s.ledger? e = .ok ledger → read = ledger :=
                    fun ledger hledger => Except.ok.inj (hread.symm.trans hledger)
                  have hanswers : ({ work with read := some read.version } : Prepared α).Answers e
                    := answers s read work hread hwork
                  refine isOrdinary_of_finish hanswers sound
                    (fun ledger hledger => ?_) (fun ledger hledger => ?_) failed
                  · exact hsame ledger hledger ▸ proper s read work hread hwork
                  · exact hsame ledger hledger ▸ lawful s read work hread hwork

end Mutation

/-! ### What an order can fail with -/

namespace Order

variable {o : Order} {today : Date} {s : Store} {m : Mutation Json}

/-- An order that is declined before its lock is taken is declined in an ordinary way. -/
lemma isOrdinary_of_request {request : Store → Except Failure (Mutation Json)}
    (h : o.request? today = some request) (failed : request s = .error failure) :
    failure.IsOrdinary := by
  cases o with
  | register _ | addShow _ | addLocation _ => cases h
  | setTotal e total user =>
      cases h
      exact Equipments.setTotal_error (map_eq_error failed)
  | reserve r =>
      cases h
      exact Reservations.reserve_error (map_eq_error failed)
  | changeReservation r =>
      cases h
      exact Reservations.change_error (map_eq_error failed)
  | removeReservation id user =>
      cases h
      exact Reservations.remove_error (map_eq_error failed)
  | replacePlacements r =>
      cases h
      exact Placements.replace_error (map_eq_error failed)
  | placeUnits r =>
      cases h
      exact Placements.place_error (map_eq_error failed)
  | moveUnits r =>
      cases h
      exact Placements.move_error (map_eq_error failed)
  | install r =>
      cases h
      exact Installations.install_error (map_eq_error failed)
  | bringBack e quantity user =>
      cases h
      exact Installations.bringBack_error (map_eq_error failed)

/-- Whatever an order prepares from the ledger is prepared in an orderly way. -/
lemma Makes.orderly (h : o.Makes today s m) (prepare : Snapshot → Except Failure (Prepared Json))
    (prepared : m.preparation = .fromLedger prepare) : Orderly m.equipment prepare := by
  by_cases reads : o.readsLedger = true
  · obtain ⟨prepare', hprepare, horderly⟩ := h.exists_orderly reads
    rw [prepared] at hprepare
    cases hprepare
    exact horderly
  · cases h with
    | removeReservation made =>
        obtain ⟨row, answer, -, rfl, -⟩ := Reservations.remove_eq_ok made
        cases prepared
    | _ => exact absurd rfl reads

end Order

namespace Desk

variable {α : Type}

/-- A run of attempts, each on a lawful ledger, fails in ordinary ways only. -/
theorem isOrdinary_of_mutateWith {desk : Desk} {call : Call} {retries : Int} {m : Mutation α}
    (answers : m.Answers) (proper : m.Proper) (lawful : m.Lawful)
    (orderly : ∀ prepare, m.preparation = .fromLedger prepare → Orderly m.equipment prepare)
    (commits : desk.store.AllCommit m.equipment call.now call.rivals)
    (sound : ∀ earlier ledger, earlier <+: call.rivals →
      (desk.store.afterRivals m.equipment call.now earlier).ledger? m.equipment = .ok ledger →
      ledger.IsSound)
    (failed : (desk.mutateWith call retries m).result = .error failure) : failure.IsOrdinary := by
  rw [mutateWith_eq] at failed
  cases hresult : (desk.runFrom call retries m ⟨desk.store, call.rivals⟩).result with
  | ok told =>
      rw [hresult] at failed
      cases failed
  | error e =>
      rw [hresult] at failed
      obtain rfl := Except.error.inj failed
      -- before every attempt some of the rivals have committed, and the others are still to come
      refine (Locks.repeatAttempts_error (Q := Failure.IsOrdinary)
        (P := fun scene : Scene => ∃ earlier, earlier ++ scene.rivals = call.rivals
          ∧ scene.store = desk.store.afterRivals m.equipment call.now earlier)
        hresult ⟨[], rfl, rfl⟩ (Or.inr ⟨_, rfl, rfl⟩) (fun held hheld => ?_)
        fun _ scene e' hfailed hscene => ?_).1
      · rw [Locks.acquire] at hheld
        split at hheld
        · cases hheld
          exact Or.inr ⟨_, rfl, rfl⟩
        · split at hheld <;> cases hheld
          exact Or.inr ⟨_, rfl, rfl⟩
      · obtain ⟨earlier, hrivals, hstore⟩ := hscene
        refine ⟨Mutation.isOrdinary_of_attempt answers proper lawful orderly
          (fun ledger hledger => ?_) ?_ hfailed, ?_⟩
        · rw [hstore] at hledger
          exact sound earlier ledger ⟨scene.rivals, hrivals⟩ hledger
        · rw [hstore]
          exact Store.AllCommit.append (hrivals ▸ commits)
        · rcases Mutation.attempt_error answers hfailed with hsame | ⟨-, hnext⟩
          · exact ⟨earlier, by rw [hsame, hrivals], by rw [hsame, hstore]⟩
          · refine ⟨earlier ++ scene.rivals.take 1, ?_, ?_⟩
            · rw [hnext, Scene.advance_snd, List.append_assoc, List.take_append_drop, hrivals]
            · rw [hnext, Scene.advance_snd, hstore, Store.afterRivals_append]

/-- An order whose ledger breaks no rule, at first and after each commit of other workers, fails
with a failure that its caller has to expect, if it fails at all: it would never have broken a rule
and never entered a second row for a show. -/
theorem fulfil_error_isOrdinary {desk : Desk} {call : Call} {o : Order}
    (locked : o.isLocked = true)
    (commits : ∀ e, o.equipment? desk.store = some e →
      desk.store.AllCommit e call.now call.rivals)
    (lawful : ∀ e earlier ledger, o.equipment? desk.store = some e → earlier <+: call.rivals →
      (desk.store.afterRivals e call.now earlier).ledger? e = .ok ledger → ledger.violations = [])
    (failed : (desk.fulfil call o).result = .error failure) :
    failure.IsOrdinary
      ∧ (∀ e action violations, failure ≠ .wouldBreak e action violations)
      ∧ ∀ showId e, failure ≠ .reservationExists showId e := by
  have hordinary : failure.IsOrdinary := by
    obtain ⟨request, hrequest⟩ := o.exists_request? locked call.now.date
    rw [fulfil_eq_mutate hrequest, mutate] at failed
    cases hmade : request desk.store with
    | error e =>
        rw [hmade] at failed
        have hsame : e = failure := Except.error.inj failed
        exact Order.isOrdinary_of_request hrequest (hsame ▸ hmade)
    | ok m =>
        rw [hmade] at failed
        have hmakes := (Order.makes_iff hrequest).1 hmade
        have hequipment := hmakes.equipment?_eq
        refine isOrdinary_of_mutateWith hmakes.answers hmakes.proper hmakes.lawful hmakes.orderly
          (commits m.equipment hequipment) (fun earlier ledger hearlier hledger => ?_) failed
        exact (Snapshot.violations_eq_nil_iff_isSound ledger).1
          (lawful m.equipment earlier ledger hequipment hearlier hledger)
  exact ⟨hordinary, hordinary.ne_wouldBreak, hordinary.ne_reservationExists⟩

/-- Four lamps cannot be put in a rack when there are three, though another worker finds a fourth
one meanwhile. -/
theorem fulfil_error_isOrdinary_fourLamps :
    let desk : Desk := { store := .threeLamps }
    let call : Call := { now := default, rivals := [.recount] }
    let o : Order :=
      .placeUnits { equipment := 1, target := { name := some "Rack A" }, quantity := 4 }
    (desk.fulfil call o).result = .error (.storeTooSmall 4 3)
      ∧ (Failure.storeTooSmall 4 3).IsOrdinary
      ∧ (∀ e action violations, Failure.storeTooSmall 4 3 ≠ .wouldBreak e action violations)
      ∧ ∀ showId e, Failure.storeTooSmall 4 3 ≠ .reservationExists showId e := by
  intro desk call o
  have hfailed : (desk.fulfil call o).result = .error (.storeTooSmall 4 3) := rfl
  refine ⟨hfailed, fulfil_error_isOrdinary rfl (fun e he => ?_)
    (fun e earlier ledger he hearlier hledger => ?_) hfailed⟩
  · obtain rfl : 1 = e := Option.some.inj he
    exact ⟨⟨_, _, rfl⟩, trivial⟩
  · obtain rfl : 1 = e := Option.some.inj he
    have hrules : ∀ earlier ∈ [[], [Rival.recount]],
        ((Store.threeLamps.afterRivals 1 default earlier).ledger? 1).toOption.map
          Snapshot.violations = some [] := by decide +kernel
    have hmem : earlier ∈ [[], [Rival.recount]] := by
      rcases List.prefix_cons_iff.1 hearlier with rfl | ⟨rest, rfl, hrest⟩
      · exact List.mem_cons_self
      · rw [List.prefix_nil.1 hrest]
        exact List.mem_cons_of_mem _ List.mem_cons_self
    have hrule := hrules earlier hmem
    rw [show (Store.threeLamps.afterRivals 1 default earlier).ledger? 1 = .ok ledger
      from hledger] at hrule
    exact Option.some.inj hrule

end Desk

end StageStock
