import Mathlib.Tactic.Lemma
import StageStock.Proofs.Atomic

/-!
What an order that succeeds has done.

An order that succeeds has made one commit, in the last of its attempts, of changes that it had
ready for the very ledger it committed to: when another worker commits between its reading and its
writing, the version has moved on and the attempt fails. The attempts before have written nothing.

* `Locks.exists_attempt_of_ok`: a run that succeeds ends with an attempt that does;
* `Mutation.Readies`: what a mutation has ready to commit once it has read a ledger;
* `Mutation.commits_of_attempt_ok`: an attempt that succeeds has committed it;
* `Desk.mutateWith_ok`, `Desk.fulfil_ok`: so a mutation and an order that succeed have made this one
  commit, and its event is the one that is told, with the lock given back;
* `Desk.fulfil_alone`: without other workers, an order makes one commit or none, and keeps what each
  commit keeps (`Desk.fulfil_keeps`).
-/

namespace StageStock

lemma eq_ok_of_toOption {α : Type} {x : Except Failure α} {a : α} (h : x.toOption = some a) :
    x = .ok a := by
  cases x with
  | error failure => cases h
  | ok a => exact congrArg Except.ok (Option.some.inj h)

/-- An outcome that is no failure is an answer. -/
lemma Outcome.exists_answer {α : Type} {o : Outcome α} (h : o.result.isOk = true) :
    ∃ answer, o.result = .ok answer := by
  cases hresult : o.result with
  | error failure => simp [hresult, Except.isOk, Except.toBool] at h
  | ok answer => exact ⟨answer, rfl⟩

/-- A run that succeeds ends with an attempt that does, and that starts from what failing attempts
have left. -/
theorem Locks.exists_attempt_of_ok {σ α : Type} {request : LockRequest}
    {operation : Locks → σ → Except Failure α × σ} {P : σ → Prop} {n : Nat} {l : Locks} {state : σ}
    {answer : α} (succeeded : (repeatAttempts request operation n l state).result = .ok answer)
    (start : P state)
    (step : ∀ l state failure, (operation l state).1 = .error failure → P state →
      P (operation l state).2) :
    ∃ taken last, l.acquire request = .ok taken ∧ P last ∧ (operation taken last).1 = .ok answer
      ∧ repeatAttempts request operation n l state = ⟨.ok answer, l, (operation taken last).2⟩ := by
  induction n generalizing state with
  | zero => cases succeeded
  | succ n ih =>
      cases hfree : l.acquire request with
      | error held =>
          have hlocked : ∀ n, (repeatAttempts request operation (n + 1) l state).result
              = .error held := fun n => by
            rw [repeatAttempts_of_unchanged (attempt_of_acquire_error hfree state)]
          rw [hlocked] at succeeded
          cases succeeded
      | ok taken =>
          have hattempt : attempt request operation l state
              = ⟨(operation taken state).1, l, (operation taken state).2⟩ :=
            attempt_of_acquire hfree state
          cases hfirst : (operation taken state).1 with
          | ok first =>
              rw [hfirst] at hattempt
              rw [repeatAttempts_of_ok (by rw [hattempt]), hattempt] at succeeded ⊢
              obtain rfl := Except.ok.inj succeeded
              exact ⟨taken, state, rfl, start, hfirst, rfl⟩
          | error failure =>
              rw [hfirst] at hattempt
              rw [repeatAttempts, hattempt] at succeeded ⊢
              simp only at succeeded ⊢
              split
              · rename_i hagain
                rw [if_pos hagain] at succeeded
                obtain ⟨taken', last, htaken, hlast⟩ :=
                  ih succeeded (step taken state failure hfirst start)
                rw [hfree] at htaken
                exact ⟨taken', last, htaken, hlast⟩
              · rename_i hlast
                rw [if_neg hlast] at succeeded
                cases succeeded

/-- A lock that can be taken is free. -/
lemma Locks.isHeld_of_acquire {l taken : Locks} {request : LockRequest}
    (h : l.acquire request = .ok taken) : l.isHeld request.equipment = false := by
  rw [acquire] at h
  split at h
  · cases h
  · split at h
    · cases h
    · rename_i hfree
      simpa using hfree

namespace Mutation

variable {α : Type} {m : Mutation α} {now : Moment}

/-- The mutation has these changes ready to commit, once it has read this ledger: those that are
known beforehand, or those that are prepared from the ledger, with its version. -/
def Readies (m : Mutation α) (read : Snapshot) (work : Prepared α) : Prop :=
  match m.preparation with
  | .known known => work = known
  | .fromLedger prepare => ∃ plain, prepare read = .ok plain
      ∧ work = { plain with read := some read.version }

lemma readies_of_prepare {prepare : Snapshot → Except Failure (Prepared α)} {read : Snapshot}
    {plain : Prepared α} (prepared : m.preparation = .fromLedger prepare)
    (ready : prepare read = .ok plain) :
    m.Readies read { plain with read := some read.version } := by
  rw [Readies, prepared]
  exact ⟨plain, ready, rfl⟩

/-- What holds of all changes that the mutation prepares, holds of those that it has ready. -/
lemma Prepares.of_readies {P : Snapshot → List Change → Prop} (h : m.Prepares P) {s : Store}
    {read : Snapshot} {work : Prepared α} (ledger : s.ledger? m.equipment = .ok read)
    (ready : m.Readies read work) : P read work.changes := by
  obtain ⟨e, user, preparation⟩ := m
  cases preparation with
  | known known =>
      obtain rfl : work = known := ready
      exact h s read ledger
  | fromLedger prepare =>
      obtain ⟨plain, hplain, rfl⟩ := ready
      exact h s read plain ledger hplain

/-- A commit of what is ready is answered. -/
lemma Answers.of_readies (answers : m.Answers) {s : Store} {read : Snapshot} {work : Prepared α}
    (ledger : s.ledger? m.equipment = .ok read) (ready : m.Readies read work) :
    work.Answers m.equipment := by
  obtain ⟨e, user, preparation⟩ := m
  cases preparation with
  | known known =>
      obtain rfl : work = known := ready
      exact answers
  | fromLedger prepare =>
      obtain ⟨plain, hplain, rfl⟩ := ready
      exact answers s read plain ledger hplain

/-- What the finishing of an attempt has committed. -/
lemma commits_of_finish_ok {work : Prepared α} {scene : Scene} {told : α × Event}
    (succeeded : (m.finish work now scene).1 = .ok told) :
    ∃ before after w t committed,
      scene.store.Commits (m.proposal work) now before after w t committed
        ∧ told.2 = .ofChange m.equipment (m.proposal work).showIds work.action committed.version
        ∧ (m.finish work now scene).2.store = t := by
  rw [finish_eq] at succeeded ⊢
  cases hcommit : scene.store.commit (m.proposal work) now with
  | error failure => simp [hcommit] at succeeded
  | ok stored =>
      obtain ⟨t, committed⟩ := stored
      obtain ⟨before, after, w, hcommits⟩ := Store.commits_of_commit hcommit
      simp only [hcommit] at succeeded
      cases hanswer : work.answer t committed with
      | error failure => simp [hanswer] at succeeded
      | ok answer =>
          simp only [hanswer, Except.ok.injEq] at succeeded
          exact ⟨before, after, w, t, committed, hcommits, by rw [← succeeded], by simp [hanswer]⟩

/-- An attempt that succeeds has committed what it had ready for the ledger that it committed to. No
other worker has committed while it was at work. -/
theorem commits_of_attempt_ok {scene : Scene} {told : α × Event}
    (succeeded : (m.attempt now scene).1 = .ok told) :
    ∃ work before after w t committed, m.Readies before work
      ∧ scene.store.Commits (m.proposal work) now before after w t committed
      ∧ told.2 = .ofChange m.equipment (m.proposal work).showIds work.action committed.version
      ∧ (m.attempt now scene).2.store = t := by
  cases hpreparation : m.preparation with
  | known work =>
      have hattempt : m.attempt now scene = m.finish work now scene := by
        simp only [attempt, hpreparation]
      rw [hattempt] at succeeded ⊢
      obtain ⟨before, after, w, t, committed, hcommits, htold⟩ := commits_of_finish_ok succeeded
      exact ⟨work, before, after, w, t, committed, by rw [Readies, hpreparation], hcommits, htold⟩
  | fromLedger prepare =>
      obtain ⟨read, next, plain, hread, hadvance, hplain, hattempt⟩ :=
        attempt_eq_ok hpreparation succeeded
      rw [hattempt] at succeeded ⊢
      obtain ⟨before, after, w, t, committed, hcommits, htold⟩ := commits_of_finish_ok succeeded
      have hversion : read.version = before.version := hcommits.version_eq_of_read rfl
      rcases Scene.advance_eq_ok hadvance with rfl | ⟨r, moved, hrival⟩
      · obtain rfl : read = before := Except.ok.inj (hread.symm.trans hcommits.read)
        refine ⟨_, read, after, w, t, committed, ?_, hcommits, htold⟩
        rw [Readies, hpreparation]
        exact ⟨plain, hplain, rfl⟩
      · -- the version that was read is no longer the current one
        obtain ⟨read', after', w', hmoves⟩ := Store.commits_of_commit hrival
        obtain rfl : read = read' := Except.ok.inj (hread.symm.trans hmoves.read)
        obtain rfl : moved = before := Except.ok.inj (hmoves.reread.symm.trans hcommits.read)
        rw [hmoves.version_eq] at hversion
        omega

end Mutation

/-! ### What orders propose -/

/-- What is ready of a mutation with its answer changed. -/
lemma Mutation.Readies.of_map {α β : Type} {m : Mutation α} {f : α → β} {read : Snapshot}
    {work : Prepared β} (h : (m.map f).Readies read work) :
    ∃ plain, m.Readies read plain ∧ work = plain.map f := by
  obtain ⟨e, user, preparation⟩ := m
  cases preparation with
  | known known => exact ⟨known, rfl, h⟩
  | fromLedger prepare =>
      obtain ⟨mapped, hmapped, rfl⟩ := h
      obtain ⟨plain, hplain, rfl⟩ := map_eq_ok hmapped
      exact ⟨_, ⟨plain, hplain, rfl⟩, rfl⟩

lemma Mutation.Readies.map {α β : Type} {m : Mutation α} {read : Snapshot} {plain : Prepared α}
    (h : m.Readies read plain) (f : α → β) : (m.map f).Readies read (plain.map f) := by
  obtain ⟨e, user, preparation⟩ := m
  cases preparation with
  | known known => exact congrArg (Prepared.map f) h
  | fromLedger prepare =>
      obtain ⟨work, hwork, rfl⟩ := h
      exact ⟨work.map f, congrArg (Except.map (Prepared.map f)) hwork, rfl⟩

/-- The changes that an order proposes once it has read a ledger, and what the audit trail is to
call them. -/
inductive Order.Proposes (today : Date) (s : Store) (read : Snapshot) :
    Order → String → List Change → Prop where
  | setTotal (e total : Int) (user : Option Int) :
      Proposes today s read (.setTotal e total user) "EditTotalQuantity" [.setTotal total]
  | reserve (r : Reservations.ReserveRequest) (row : ShowRow) :
      Proposes today s read (.reserve r) "AllocateToShow" (Reservations.reserveChanges r row read).1
  /-- A reservation that is returned is dropped. -/
  | returned (r : Reservations.ChangeRequest) (current : Reservation)
      (found : read.findReservation? r.id = some current) :
      Proposes today s read (.changeReservation r) "ReturnShowAllocation"
        [.dropReservation (current.id.getD 0) (some current.showId)]
  | changed (r : Reservations.ChangeRequest) (current changed : Reservation) (action : String)
      (found : read.findReservation? r.id = some current) (showId : changed.showId = current.showId)
      (named : action ∈ ["UpdateShowAllocation", "ShowStatusChange"]) :
      Proposes today s read (.changeReservation r) action [.putReservation changed]
  | removeReservation (id : Int) (user : Option Int) (row : ReservationRow)
      (found : s.reservations.find? id = some row) :
      Proposes today s read (.removeReservation id user) "RemoveShowAllocation"
        [.dropReservation id (some row.showId)]
  | replacePlacements (r : Placements.ReplaceRequest) (ps : List Placement) :
      Proposes today s read (.replacePlacements r) "ReplaceLocations" [.replacePlacements ps]
  | placeUnits (r : Placements.PlaceRequest) (ps : List Placement) :
      Proposes today s read (.placeUnits r) "AllocateToLocation" [.replacePlacements ps]
  | moveUnits (r : Placements.MoveRequest) (ps : List Placement) :
      Proposes today s read (.moveUnits r) "MoveLocationAllocation" [.replacePlacements ps]
  | install (r : Installations.InstallRequest) (i : Installation)
      (known : InstallationKind.isKnown r.kind = true)
      (requested : Installations.requested r today s = .ok i) :
      Proposes today s read (.install r) "SetInstallation" [.setInstallation i]
  /-- All installed units come back, or some of them stay as they are installed. -/
  | bringBack (e : Int) (quantity user : Option Int) (i : Installation)
      (left : i = {} ∨ ∃ remaining, 1 ≤ remaining ∧ read.installation.isActive = true
        ∧ i = { read.installation with quantity := remaining }) :
      Proposes today s read (.bringBack e quantity user) "ReturnFromInstallation"
        [.setInstallation i]

/-- What a change of a reservation makes ready is its return, or a change that keeps its show. -/
lemma Reservations.proposes_changeWork {today : Date} {s : Store} {read : Snapshot}
    {r : ChangeRequest} {current : Reservation} {needed : Int} {t : Transition}
    (found : read.findReservation? r.id = some current) :
    Order.Proposes today s read (.changeReservation r) (changeWork r current needed t).action
      (changeWork r current needed t).changes := by
  rw [changeWork]
  split
  · exact .returned r current found
  · refine .changed r current _ _ found rfl ?_
    split <;> simp

/-- What an order has ready once it has read a ledger is what it proposes. -/
theorem Order.Makes.proposes {o : Order} {today : Date} {s : Store} {m : Mutation Json}
    {read : Snapshot} {work : Prepared Json} (h : o.Makes today s m) (ready : m.Readies read work) :
    o.Proposes today s read work.action work.changes := by
  cases h with
  | setTotal made =>
      obtain ⟨plain, hready, rfl⟩ := ready.of_map
      rw [(Equipments.setTotal_eq_ok made).2] at hready
      obtain ⟨plain, hplain, rfl⟩ := hready
      rw [(Equipments.prepareTotal_eq_ok hplain).2]
      exact .setTotal _ _ _
  | reserve made =>
      obtain ⟨plain, hready, rfl⟩ := ready.of_map
      obtain ⟨-, row, -, rfl⟩ := Reservations.reserve_eq_ok made
      obtain ⟨plain, hplain, rfl⟩ := hready
      rw [(Reservations.prepareReserve_eq_ok hplain).2]
      exact .reserve _ row
  | changeReservation made =>
      obtain ⟨plain, hready, rfl⟩ := ready.of_map
      obtain ⟨row, -, rfl⟩ := Reservations.change_eq_ok made
      obtain ⟨plain, hplain, rfl⟩ := hready
      obtain ⟨current, needed, t, allocated, hcurrent, -, -, -, rfl⟩ :=
        Reservations.prepareChange_eq_ok hplain
      exact Reservations.proposes_changeWork hcurrent
  | removeReservation made =>
      obtain ⟨plain, hready, rfl⟩ := ready.of_map
      obtain ⟨row, answer, hrow, rfl, -⟩ := Reservations.remove_eq_ok made
      obtain rfl := hready
      exact .removeReservation _ _ row (Store.reservation?_eq_ok.1 hrow).2
  | replacePlacements made =>
      obtain ⟨plain, hready, rfl⟩ := ready.of_map
      obtain ⟨row, placements, -, -, rfl⟩ := Placements.replace_eq_ok made
      obtain ⟨plain, hplain, rfl⟩ := hready
      rw [(Placements.prepareReplace_eq_ok hplain).2]
      exact .replacePlacements _ _
  | placeUnits made =>
      obtain ⟨plain, hready, rfl⟩ := ready.of_map
      obtain ⟨-, -, row, target, -, -, rfl⟩ := Placements.place_eq_ok made
      obtain ⟨plain, hplain, rfl⟩ := hready
      rw [(Placements.preparePlace_eq_ok hplain).2]
      exact .placeUnits _ _
  | moveUnits made =>
      obtain ⟨plain, hready, rfl⟩ := ready.of_map
      obtain ⟨row, target, -, -, rfl⟩ := Placements.move_eq_ok made
      obtain ⟨plain, hplain, rfl⟩ := hready
      obtain ⟨source, moved, -, -, -, -, rfl⟩ := Placements.prepareMove_eq_ok hplain
      exact .moveUnits _ _
  | install made =>
      obtain ⟨plain, hready, rfl⟩ := ready.of_map
      obtain ⟨hknown, row, i, -, hi, rfl⟩ := Installations.install_eq_ok made
      obtain ⟨plain, hplain, rfl⟩ := hready
      rw [(Installations.prepareInstall_eq_ok hplain).2]
      exact .install _ i hknown hi
  | bringBack made =>
      obtain ⟨plain, hready, rfl⟩ := ready.of_map
      obtain ⟨row, -, rfl⟩ := Installations.bringBack_eq_ok made
      obtain ⟨plain, hplain, rfl⟩ := hready
      obtain ⟨i, hi, rfl⟩ := Installations.prepareReturn_eq_ok hplain
      refine .bringBack _ _ _ i (hi.imp_right ?_)
      rintro ⟨remaining, hsome, -, hactive, rfl⟩
      exact ⟨remaining, hsome, hactive, rfl⟩

/-! ### Mutations and orders that succeed -/

namespace Desk

variable {α : Type} {desk : Desk} {call : Call} {retries : Int}

/-- A mutation that succeeds has made one commit, after some commits of other workers if it reads
the ledger, and tells it once, with the lock given back. -/
theorem mutateWith_ok {m : Mutation α} {answer : α} (answers : m.Answers)
    (succeeded : (desk.mutateWith call retries m).result = .ok answer) :
    ∃ k work before after w t committed, (∀ known, m.preparation = .known known → k = 0)
      ∧ m.Readies before work
      ∧ (desk.store.afterRivals m.equipment call.now (call.rivals.take k)).Commits
          (m.proposal work) call.now before after w t committed
      ∧ desk.mutateWith call retries m
        = { result := .ok answer
            desk := { desk with store := t }
            deliveries := [(desk.notifier.publish (.ofChange m.equipment
              (m.proposal work).showIds work.action committed.version), false)] } := by
  rw [mutateWith_eq] at succeeded ⊢
  cases hresult : (desk.runFrom call retries m ⟨desk.store, call.rivals⟩).result with
  | error failure => simp [hresult] at succeeded
  | ok told =>
      simp only [hresult, Except.ok.injEq] at succeeded ⊢
      obtain ⟨taken, last, hfree, ⟨k, rfl, hknown⟩, hattempt, hrun⟩ := Locks.exists_attempt_of_ok
        (P := fun scene : Scene => ∃ k, scene = ⟨desk.store.afterRivals m.equipment call.now
          (call.rivals.take k), call.rivals.drop k⟩ ∧ ∀ known, m.preparation = .known known → k = 0)
        hresult ⟨0, rfl, fun _ _ => rfl⟩
        fun _ _ _ hfailed => Mutation.exists_rivals_of_attempt_error answers hfailed
      obtain ⟨work, before, after, w, t, committed, hready, hcommits, hevent, hstore⟩ :=
        Mutation.commits_of_attempt_ok hattempt
      have hheld : desk.locks.isHeld m.equipment = false := Locks.isHeld_of_acquire hfree
      refine ⟨k, work, before, after, w, t, committed, hknown, hready, hcommits, ?_⟩
      rw [runFrom, Locks.run, hrun, hheld, ← hevent, ← hstore, succeeded]

/-- An order under a lock that succeeds has made one commit, after some commits of other workers to
its equipment if it reads the ledger, and tells it once, with the lock given back. -/
theorem fulfil_ok {o : Order} {answer : Json} (locked : o.isLocked = true)
    (succeeded : (desk.fulfil call o).result = .ok answer) :
    ∃ m k work before after w t committed, o.Makes call.now.date desk.store m
      ∧ (o.readsLedger = false → k = 0) ∧ m.Readies before work
      ∧ (o.afterRivals desk.store call.now (call.rivals.take k)).Commits
          (m.proposal work) call.now before after w t committed
      ∧ desk.fulfil call o
        = { result := .ok answer
            desk := { desk with store := t }
            deliveries := [(desk.notifier.publish (.ofChange m.equipment
              (m.proposal work).showIds work.action committed.version), false)] } := by
  obtain ⟨request, hrequest⟩ := o.exists_request? locked call.now.date
  rw [fulfil_eq_mutate hrequest, mutate] at succeeded ⊢
  cases hmade : request desk.store with
  | error failure => simp [hmade] at succeeded
  | ok m =>
      simp only [hmade] at succeeded ⊢
      have hmakes := (Order.makes_iff hrequest).1 hmade
      obtain ⟨k, work, before, after, w, t, committed, hknown, hready, hcommits, houtcome⟩ :=
        mutateWith_ok hmakes.answers succeeded
      refine ⟨m, k, work, before, after, w, t, committed, hmakes, fun reads => ?_, hready, ?_,
        houtcome⟩
      · obtain ⟨known, hprepared⟩ := hmakes.exists_known reads
        exact hknown known hprepared
      · rw [Order.afterRivals, hmakes.equipment?_eq]
        exact hcommits

/-- An order that succeeds has found the lock free. -/
lemma isHeld_of_fulfil_ok {o : Order} {e : Int} {answer : Json}
    (on : o.equipment? desk.store = some e) (succeeded : (desk.fulfil call o).result = .ok answer) :
    desk.locks.isHeld e = false := by
  obtain ⟨request, hrequest⟩ := o.exists_request? (o.isLocked_of_equipment? on) call.now.date
  rw [fulfil_eq_mutate hrequest, mutate] at succeeded
  cases hmade : request desk.store with
  | error failure => simp [hmade] at succeeded
  | ok m =>
      simp only [hmade, mutateWith_eq] at succeeded
      have hown := ((Order.makes_iff hrequest).1 hmade).equipment?_eq
      obtain rfl : e = m.equipment := Option.some.inj (on.symm.trans hown)
      cases hresult : (desk.runFrom call desk.lockRetries m ⟨desk.store, call.rivals⟩).result with
      | error failure => simp [hresult] at succeeded
      | ok told =>
          obtain ⟨taken, -, hfree, -⟩ := Locks.exists_attempt_of_ok (P := fun _ => True) hresult
            trivial fun _ _ _ _ _ => trivial
          exact Locks.isHeld_of_acquire hfree

/-- An order that no other worker overtakes leaves the store as it was, or has made one commit to
it. Nothing else at the desk changes. -/
theorem fulfil_alone {o : Order} (alone : call.rivals = []) (locked : o.isLocked = true) :
    ∃ t, (desk.fulfil call o).desk = { desk with store := t }
      ∧ (t = desk.store ∨ ∃ m work before after w committed, o.Makes call.now.date desk.store m
        ∧ m.Readies before work
        ∧ desk.store.Commits (m.proposal work) call.now before after w t committed) := by
  cases hresult : (desk.fulfil call o).result with
  | error failure =>
      obtain ⟨k, houtcome⟩ := fulfil_of_error locked hresult
      rw [alone, List.take_nil, o.afterRivals_nil] at houtcome
      exact ⟨desk.store, by rw [houtcome], Or.inl rfl⟩
  | ok answer =>
      obtain ⟨m, k, work, before, after, w, t, committed, hmakes, -, hready, hcommits, houtcome⟩ :=
        fulfil_ok locked hresult
      rw [alone, List.take_nil, o.afterRivals_nil] at hcommits
      exact ⟨t, by rw [houtcome],
        Or.inr ⟨m, work, before, after, w, committed, hmakes, hready, hcommits⟩⟩

/-- What every commit of an order keeps, the order keeps if no other worker overtakes it. -/
theorem fulfil_keeps {o : Order} {e : Int} {I : Store → Prop} (alone : call.rivals = [])
    (on : o.equipment? desk.store = some e) (start : I desk.store)
    (step : ∀ {m work before after w t committed}, o.Makes call.now.date desk.store m →
      m.equipment = e → m.Readies before work →
      desk.store.Commits (m.proposal work) call.now before after w t committed → I t) :
    I (desk.fulfil call o).desk.store := by
  obtain ⟨t, hdesk, rfl | ⟨m, work, before, after, w, committed, hmakes, hready, hcommits⟩⟩ :=
    desk.fulfil_alone alone (o.isLocked_of_equipment? on)
  · rwa [hdesk]
  · rw [hdesk]
    exact step hmakes (Option.some.inj (hmakes.equipment?_eq.symm.trans on)) hready hcommits

end Desk

end StageStock
