import Mathlib.Tactic.Lemma
import StageStock.Desk
import StageStock.Proofs.Frame
import StageStock.Proofs.Refusal

/-!
Mutations that run under a lock while other workers commit.

* `Store.afterRivals`: the store after commits of other workers, of which some may fail;
  `Store.AllCommit` says that none does;
* `Locks.repeatAttempts_error`: what failing attempts preserve and are told of, a failing run
  preserves and is told of;
* `Mutation.Answers`: every commit of the mutation is answered, so that an attempt that fails has
  written nothing (`Mutation.attempt_error`);
* `Mutation.Prepares`: what holds of all changes that the mutation prepares;
* `Desk.mutateWith_error`: a mutation that fails leaves the desk as it was, apart from the commits
  of other workers.
-/

namespace StageStock

/-! ### Other workers -/

/-- What another worker proposes. -/
def Rival.proposal (r : Rival) (equipment : Int) : Proposal :=
  { equipment, action := r.action, changes := r.changes, user := r.user }

namespace Store

/-- The store after the commit of another worker; one that fails changes nothing. -/
def afterRival (equipment : Int) (now : Moment) (s : Store) (r : Rival) : Store :=
  match s.commit (r.proposal equipment) now with
  | .ok (t, _) => t
  | .error _ => s

/-- The store after commits of other workers. -/
def afterRivals (s : Store) (equipment : Int) (now : Moment) (rivals : List Rival) : Store :=
  rivals.foldl (afterRival equipment now) s

/-- Every commit of the other workers succeeds, each on the store that those before it left. -/
def AllCommit (equipment : Int) (now : Moment) : Store → List Rival → Prop
  | _, [] => True
  | s, r :: rest =>
    (∃ t committed, s.commit (r.proposal equipment) now = .ok (t, committed))
      ∧ AllCommit equipment now (s.afterRivals equipment now [r]) rest

variable {e : Int} {now : Moment}

lemma afterRivals_cons (s : Store) (r : Rival) (rest : List Rival) :
    s.afterRivals e now (r :: rest) = (s.afterRivals e now [r]).afterRivals e now rest :=
  rfl

lemma afterRivals_append (s : Store) (rivals rivals' : List Rival) :
    s.afterRivals e now (rivals ++ rivals')
      = (s.afterRivals e now rivals).afterRivals e now rivals' :=
  List.foldl_append

lemma afterRivals_of_commit {s t : Store} {r : Rival} {committed : Snapshot}
    (h : s.commit (r.proposal e) now = .ok (t, committed)) : s.afterRivals e now [r] = t := by
  simp only [afterRivals, List.foldl_cons, List.foldl_nil, afterRival, h]

lemma afterRivals_of_error {s : Store} {r : Rival} {failure : Failure}
    (h : s.commit (r.proposal e) now = .error failure) : s.afterRivals e now [r] = s := by
  simp only [afterRivals, List.foldl_cons, List.foldl_nil, afterRival, h]

/-- Other workers leave the ledgers of other equipments alone. -/
lemma afterRivals_agreesBeside (s : Store) (rivals : List Rival) :
    s.AgreesBeside e (s.afterRivals e now rivals) := by
  induction rivals generalizing s with
  | nil => exact AgreesBeside.refl e s
  | cons r rest ih =>
      rw [afterRivals_cons]
      refine AgreesBeside.trans ?_ (ih _)
      cases h : s.commit (r.proposal e) now with
      | error failure =>
          rw [afterRivals_of_error h]
          exact AgreesBeside.refl e s
      | ok stored =>
          obtain ⟨t, committed⟩ := stored
          obtain ⟨before, after, w, hcommits⟩ := commits_of_commit h
          rw [afterRivals_of_commit h]
          exact hcommits.agreesBeside

end Store

namespace Scene

variable {s t : Store} {r : Rival} {e : Int} {now : Moment}

lemma advance_of_commit {committed : Snapshot}
    (h : s.commit (r.proposal e) now = .ok (t, committed)) (rest : List Rival) :
    advance ⟨s, r :: rest⟩ e now = (.ok (), ⟨t, rest⟩) := by
  rw [Rival.proposal] at h
  simp only [advance, h]

lemma advance_of_commit_error {failure : Failure}
    (h : s.commit (r.proposal e) now = .error failure) (rest : List Rival) :
    advance ⟨s, r :: rest⟩ e now = (.error failure, ⟨s, rest⟩) := by
  rw [Rival.proposal] at h
  simp only [advance, h]

/-- The next worker has committed, or there was none. -/
lemma advance_eq_ok {scene after : Scene} (h : scene.advance e now = (.ok (), after)) :
    after = scene ∨ ∃ (r : Rival) (committed : Snapshot),
      scene.store.commit (r.proposal e) now = .ok (after.store, committed) := by
  obtain ⟨s, rivals⟩ := scene
  cases rivals with
  | nil => exact Or.inl (Prod.mk.inj h).2.symm
  | cons r rest =>
      cases hcommit : s.commit (r.proposal e) now with
      | error failure =>
          rw [advance_of_commit_error hcommit] at h
          cases h
      | ok stored =>
          obtain ⟨t, committed⟩ := stored
          rw [advance_of_commit hcommit] at h
          cases h
          exact Or.inr ⟨r, committed, hcommit⟩

lemma advance_snd (scene : Scene) (e : Int) (now : Moment) :
    (scene.advance e now).2 = { store := scene.store.afterRivals e now (scene.rivals.take 1)
                                rivals := scene.rivals.drop 1 } := by
  obtain ⟨s, rivals⟩ := scene
  cases rivals with
  | nil => rfl
  | cons r rest =>
      simp only [List.take_succ_cons, List.take_zero, List.drop_succ_cons, List.drop_zero,
        Store.afterRivals, List.foldl_cons, List.foldl_nil, Store.afterRival]
      cases h : s.commit (r.proposal e) now with
      | error failure => rw [advance_of_commit_error h]
      | ok stored => rw [advance_of_commit h]

end Scene

/-! ### Attempts under a lock -/

namespace Locks

variable {σ α : Type} {request : LockRequest} {operation : Locks → σ → Except Failure α × σ}

/-- A run leaves the locks as they were. -/
theorem locks_repeatAttempts (n : Nat) (l : Locks) (state : σ) :
    (repeatAttempts request operation n l state).locks = l := by
  induction n generalizing state with
  | zero => rfl
  | succ n ih =>
      simp only [repeatAttempts]
      split
      · exact locks_attempt _ _ _ _
      · split
        · rw [locks_attempt, ih]
        · exact locks_attempt _ _ _ _

/-- An attempt is that of the operation, if the lock can be taken. -/
lemma attempt_of_acquire {l taken : Locks} (h : l.acquire request = .ok taken) (state : σ) :
    attempt request operation l state
      = ⟨(operation taken state).1, l, (operation taken state).2⟩ := by
  have hlocks := locks_attempt request operation l state
  simp only [attempt, h] at hlocks ⊢
  rw [hlocks]

lemma attempt_of_acquire_error {l : Locks} {failure : Failure}
    (h : l.acquire request = .error failure) (state : σ) :
    attempt request operation l state = ⟨.error failure, l, state⟩ := by
  simp only [attempt, h]

/-- What failing attempts preserve, a failing run preserves, and what their failures have in common,
its failure has as well. -/
theorem repeatAttempts_error {P : σ → Prop} {Q : Failure → Prop} {n : Nat} {l : Locks} {state : σ}
    {failure : Failure}
    (failed : (repeatAttempts request operation n l state).result = .error failure)
    (start : P state) (busy : Q (.busy request.equipment))
    (held : ∀ failure, l.acquire request = .error failure → Q failure)
    (step : ∀ l state failure, (operation l state).1 = .error failure → P state →
      Q failure ∧ P (operation l state).2) :
    Q failure ∧ P (repeatAttempts request operation n l state).state := by
  have hattempt : ∀ state failure, (attempt request operation l state).result = .error failure →
      P state → Q failure ∧ P (attempt request operation l state).state := by
    intro state failure herror hstate
    cases h : l.acquire request with
    | error e =>
        rw [attempt_of_acquire_error h] at herror ⊢
        exact ⟨Except.error.inj herror ▸ held e h, hstate⟩
    | ok taken =>
        rw [attempt_of_acquire h] at herror ⊢
        exact step taken state failure herror hstate
  induction n generalizing state with
  | zero => exact ⟨Except.error.inj failed ▸ busy, start⟩
  | succ n ih =>
      simp only [repeatAttempts] at failed ⊢
      cases hresult : (attempt request operation l state).result with
      | ok answer =>
          simp only [hresult] at failed
          cases failed
      | error first =>
          obtain ⟨hfirst, hafter⟩ := hattempt state first hresult start
          simp only [hresult] at failed ⊢
          split
          · rename_i hagain
            rw [if_pos hagain] at failed
            rw [locks_attempt] at failed ⊢
            exact ih failed hafter
          · rename_i hlast
            rw [if_neg hlast, hresult] at failed
            exact ⟨Except.error.inj failed ▸ hfirst, hafter⟩

/-- An attempt that would be made in the same way again is not helped by further attempts. -/
lemma repeatAttempts_of_unchanged {n : Nat} {l : Locks} {state : σ} {failure : Failure}
    (h : attempt request operation l state = ⟨.error failure, l, state⟩) :
    repeatAttempts request operation (n + 1) l state = ⟨.error failure, l, state⟩ := by
  induction n with
  | zero => simp [repeatAttempts, h]
  | succ n ih =>
      rw [repeatAttempts]
      simp only [h, ih]
      split <;> rfl

/-- The first answer ends the run. -/
lemma repeatAttempts_of_ok {n : Nat} {l : Locks} {state : σ} {answer : α}
    (h : (attempt request operation l state).result = .ok answer) :
    repeatAttempts request operation (n + 1) l state = attempt request operation l state := by
  simp only [repeatAttempts, h]

end Locks

/-! ### Answers -/

/-- A commit of prepared changes is answered, whatever it left, as long as its total could be
stored. -/
def Prepared.Answers {α : Type} (work : Prepared α) (equipment : Int) : Prop :=
  ∀ s ledger, s.ledger? equipment = .ok ledger → fitsWord ledger.total = true →
    ∃ answer, work.answer s ledger = .ok answer

/-- A preparation that leaves nothing to chance: its commits are answered, a ledger that speaks
against it is no reason to try again, and it asks for no version but the one it was given. -/
structure Orderly {α : Type} (equipment : Int) (prepare : Snapshot → Except Failure (Prepared α)) :
    Prop where
  answers : ∀ (s : Store) read work, s.ledger? equipment = .ok read → prepare read = .ok work →
    work.Answers equipment
  final : ∀ read failure, prepare read = .error failure → failure.IsRefusal
  unexpected : ∀ read work, prepare read = .ok work → work.expected = none

namespace Mutation

variable {α : Type}

/-- Every commit of the mutation is answered. -/
def Answers (m : Mutation α) : Prop :=
  match m.preparation with
  | .known work => work.Answers m.equipment
  | .fromLedger prepare => ∀ (s : Store) read work, s.ledger? m.equipment = .ok read →
    prepare read = .ok work → work.Answers m.equipment

/-- Whatever changes the mutation prepares, they are right for the ledger that they were prepared
from. -/
def Prepares (m : Mutation α) (P : Snapshot → List Change → Prop) : Prop :=
  match m.preparation with
  | .known work => ∀ (s : Store) read, s.ledger? m.equipment = .ok read → P read work.changes
  | .fromLedger prepare => ∀ (s : Store) read work, s.ledger? m.equipment = .ok read →
    prepare read = .ok work → P read work.changes

lemma answers_of_orderly {m : Mutation α} {prepare : Snapshot → Except Failure (Prepared α)}
    (h : m.preparation = .fromLedger prepare) (orderly : Orderly m.equipment prepare) :
    m.Answers := by
  rw [Answers, h]
  exact orderly.answers

/-- What a mutation proposes to commit. -/
def proposal (m : Mutation α) (work : Prepared α) : Proposal :=
  { equipment := m.equipment, action := work.action, changes := work.changes
    expected := work.expected, read := work.read, user := m.user }

lemma finish_eq (m : Mutation α) (work : Prepared α) (now : Moment) (scene : Scene) :
    m.finish work now scene
      = match scene.store.commit (m.proposal work) now with
        | .error e => (.error e, scene)
        | .ok (store, committed) =>
          match work.answer store committed with
          | .error e => (.error e, { scene with store := store })
          | .ok answer =>
            (.ok (answer, Event.ofChange m.equipment (m.proposal work).showIds work.action
              committed.version), { scene with store := store }) :=
  rfl

/-- An attempt that succeeds has read the ledger, prepared changes from it and finished with
them. -/
lemma attempt_eq_ok {m : Mutation α} {prepare : Snapshot → Except Failure (Prepared α)}
    {now : Moment} {scene : Scene} {told : α × Event}
    (prepared : m.preparation = .fromLedger prepare)
    (succeeded : (m.attempt now scene).1 = .ok told) :
    ∃ read after plain, scene.store.ledger? m.equipment = .ok read
      ∧ scene.advance m.equipment now = (.ok (), after) ∧ prepare read = .ok plain
      ∧ m.attempt now scene = m.finish { plain with read := some read.version } now after := by
  simp only [attempt, prepared] at succeeded ⊢
  cases hread : scene.store.ledger? m.equipment with
  | error failure => simp [hread] at succeeded
  | ok read =>
      simp only [hread] at succeeded ⊢
      split at succeeded
      · cases succeeded
      · rename_i after hadvance
        split at succeeded
        · cases succeeded
        · rename_i plain hplain
          exact ⟨read, after, plain, rfl, hadvance, hplain, rfl⟩

/-- A commit that fails changes nothing, and one that succeeds is answered. -/
lemma finish_error {m : Mutation α} {work : Prepared α} {now : Moment} {scene : Scene}
    {failure : Failure} (answers : work.Answers m.equipment)
    (failed : (m.finish work now scene).1 = .error failure) :
    m.finish work now scene = (.error failure, scene)
      ∧ scene.store.commit (m.proposal work) now = .error failure := by
  rw [finish_eq] at failed ⊢
  cases hcommit : scene.store.commit (m.proposal work) now with
  | error e =>
      simp only [hcommit, Except.error.injEq] at failed
      rw [failed]
      exact ⟨rfl, rfl⟩
  | ok stored =>
      obtain ⟨t, committed⟩ := stored
      obtain ⟨before, after, w, hcommits⟩ := Store.commits_of_commit hcommit
      obtain ⟨answer, hanswer⟩ := answers t committed hcommits.reread hcommits.fitsWord_total
      simp only [hcommit, hanswer] at failed
      cases failed

/-- An attempt that fails has written nothing, though another worker may have, if the attempt read
the ledger. -/
theorem attempt_error {m : Mutation α} {now : Moment} {scene : Scene} {failure : Failure}
    (answers : m.Answers) (failed : (m.attempt now scene).1 = .error failure) :
    (m.attempt now scene).2 = scene
      ∨ (∃ prepare, m.preparation = .fromLedger prepare)
        ∧ (m.attempt now scene).2 = (scene.advance m.equipment now).2 := by
  rw [attempt, Answers] at *
  cases hpreparation : m.preparation with
  | known work =>
      simp only [hpreparation] at answers failed ⊢
      exact Or.inl (congrArg Prod.snd (finish_error answers failed).1)
  | fromLedger prepare =>
      simp only [hpreparation] at answers failed ⊢
      cases hread : scene.store.ledger? m.equipment with
      | error e => exact Or.inl rfl
      | ok read =>
          refine Or.inr ⟨⟨prepare, rfl⟩, ?_⟩
          simp only [hread] at failed ⊢
          cases hadvance : scene.advance m.equipment now with
          | mk outcome after =>
              cases outcome with
              | error e => rfl
              | ok _ =>
                  simp only [hadvance] at failed ⊢
                  cases hwork : prepare read with
                  | error e => rfl
                  | ok work =>
                      simp only [hwork] at failed ⊢
                      have hanswers : ({ work with read := some read.version } :
                          Prepared α).Answers m.equipment :=
                        answers scene.store read work hread hwork
                      exact congrArg Prod.snd (finish_error hanswers failed).1

/-- After an attempt that fails, some of the other workers have committed, and the others are still
to come. If the changes are known beforehand, no one else has committed. -/
lemma exists_rivals_of_attempt_error {m : Mutation α} {now : Moment} {s : Store}
    {rivals : List Rival} {scene : Scene} {failure : Failure} (answers : m.Answers)
    (failed : (m.attempt now scene).1 = .error failure)
    (h : ∃ k, scene = ⟨s.afterRivals m.equipment now (rivals.take k), rivals.drop k⟩
      ∧ ∀ work, m.preparation = .known work → k = 0) :
    ∃ k, (m.attempt now scene).2
        = ⟨s.afterRivals m.equipment now (rivals.take k), rivals.drop k⟩
      ∧ ∀ work, m.preparation = .known work → k = 0 := by
  obtain ⟨k, rfl, hknown⟩ := h
  rcases attempt_error answers failed with hsame | ⟨⟨prepare, hprepared⟩, hnext⟩
  · exact ⟨k, hsame, hknown⟩
  · refine ⟨k + 1, hnext.trans ?_, fun work hwork => ?_⟩
    · rw [Scene.advance_snd, ← Store.afterRivals_append, List.drop_drop, List.take_add]
    · rw [hprepared] at hwork
      cases hwork

end Mutation

/-! ### Whole runs -/

namespace Desk

variable {α : Type}

/-- What a mutation asks of the lock. -/
def lockRequest (desk : Desk) (call : Call) (retries : Int) (e : Int) : LockRequest :=
  { equipment := e, wait := desk.lockWait, retries, cancelled := call.cancelled }

/-- The attempts of a mutation, from a scene on. -/
def runFrom (desk : Desk) (call : Call) (retries : Int) (m : Mutation α) (scene : Scene) :
    Locks.Run Scene (α × Event) :=
  desk.locks.run (desk.lockRequest call retries m.equipment)
    (fun _ scene => m.attempt call.now scene) scene

lemma mutateWith_eq (desk : Desk) (call : Call) (retries : Int) (m : Mutation α) :
    desk.mutateWith call retries m
      = match (desk.runFrom call retries m ⟨desk.store, call.rivals⟩).result with
        | .error e =>
          { result := .error e
            desk := { desk with
              store := (desk.runFrom call retries m ⟨desk.store, call.rivals⟩).state.store } }
        | .ok (answer, event) =>
          { result := .ok answer
            desk := { desk with
              store := (desk.runFrom call retries m ⟨desk.store, call.rivals⟩).state.store }
            deliveries := [(desk.notifier.publish event, desk.locks.isHeld m.equipment)] } := by
  have hlocks : (desk.runFrom call retries m ⟨desk.store, call.rivals⟩).locks = desk.locks :=
    Locks.locks_repeatAttempts _ _ _
  have hrun : desk.mutateWith call retries m
      = match (desk.runFrom call retries m ⟨desk.store, call.rivals⟩).result with
        | .error e =>
          { result := .error e
            desk := { desk with
              store := (desk.runFrom call retries m ⟨desk.store, call.rivals⟩).state.store
              locks := (desk.runFrom call retries m ⟨desk.store, call.rivals⟩).locks } }
        | .ok (answer, event) =>
          { result := .ok answer
            desk := { desk with
              store := (desk.runFrom call retries m ⟨desk.store, call.rivals⟩).state.store
              locks := (desk.runFrom call retries m ⟨desk.store, call.rivals⟩).locks }
            deliveries := [(desk.notifier.publish event,
              (desk.runFrom call retries m ⟨desk.store, call.rivals⟩).locks.isHeld
                m.equipment)] } := rfl
  rw [hrun, hlocks]

/-- A mutation that fails leaves the desk as it was, apart from the commits of other workers, and
tells nobody. -/
theorem mutateWith_error {desk : Desk} {call : Call} {retries : Int} {m : Mutation α}
    {failure : Failure} (answers : m.Answers)
    (failed : (desk.mutateWith call retries m).result = .error failure) :
    ∃ k, desk.mutateWith call retries m
      = { result := .error failure
          desk := { desk with
            store := desk.store.afterRivals m.equipment call.now (call.rivals.take k) } } := by
  rw [mutateWith_eq] at failed ⊢
  cases hresult : (desk.runFrom call retries m ⟨desk.store, call.rivals⟩).result with
  | ok answer =>
      simp only [hresult] at failed
      cases failed
  | error e =>
      simp only [hresult, Except.error.injEq] at failed ⊢
      obtain ⟨-, k, hk, -⟩ := Locks.repeatAttempts_error (Q := fun _ => True)
        (P := fun scene : Scene => ∃ k, scene = ⟨desk.store.afterRivals m.equipment call.now
          (call.rivals.take k), call.rivals.drop k⟩ ∧ ∀ work, m.preparation = .known work → k = 0)
        hresult ⟨0, rfl, fun _ _ => rfl⟩ trivial (fun _ _ => trivial) fun _ _ _ hfailed hscene =>
          ⟨trivial, Mutation.exists_rivals_of_attempt_error answers hfailed hscene⟩
      exact ⟨k, by rw [runFrom, Locks.run, hk, failed]⟩

end Desk

end StageStock
