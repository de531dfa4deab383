import Mathlib.Tactic.Lemma
import StageStock.Proofs.Mutation

/-!
How often an operation is called under a lock, and what it leaves.

An operation works in a session: it changes what it sees and commits when it chooses. Every call
starts from the last commit, and what a failing call has not committed is given up.

* `Session.transaction`: a call of an operation in its session;
* `Locks.tries`: attempts of which at least one is left, so that running out of them is no case
  (`Locks.run_eq_tries`);
* `Session.Attempted`: the calls of an operation that can have its lock, with their number, their
  outcomes and what they leave;
* `Session.run_transaction`: a run makes these calls, and gives the lock back; if the lock is held
  or the caller has given up, it makes none;
* `Locks.repeatAttempts_alike`: operations that answer alike run alike, so that notes of the calls
  change nothing (`Locks.run_noting`), and an operation that commits all it does runs in a session
  as without one (`Session.run_atOnce`).
-/

namespace StageStock

variable {σ α : Type}

/-! ### Sessions -/

/-- What is committed, and what an operation sees, which may have changes that are not committed. -/
structure Session (σ : Type) where
  committed : σ
  working : σ

namespace Session

/-- A session in which everything is committed. -/
def settled (state : σ) : Session σ :=
  ⟨state, state⟩

/-- Give up what is not committed. -/
def rollback (s : Session σ) : Session σ :=
  settled s.committed

/-- A call of an operation: it starts from the last commit, and if it fails, what it has not
committed is given up. -/
def transaction (operation : Locks → Session σ → Except Failure α × Session σ) (l : Locks)
    (s : Session σ) : Except Failure α × Session σ :=
  match operation l s.rollback with
  | (.error e, after) => (.error e, after.rollback)
  | (.ok answer, after) => (.ok answer, after)

variable {operation : Locks → Session σ → Except Failure α × Session σ} {l : Locks} {s : Session σ}

lemma transaction_fst : (transaction operation l s).1 = (operation l s.rollback).1 := by
  rw [transaction]
  split <;> simp_all

lemma transaction_of_error {failure : Failure}
    (failed : (operation l s.rollback).1 = .error failure) :
    (transaction operation l s).2 = (operation l s.rollback).2.rollback := by
  rw [transaction]
  split <;> simp_all

lemma transaction_of_ok {answer : α} (succeeded : (operation l s.rollback).1 = .ok answer) :
    (transaction operation l s).2 = (operation l s.rollback).2 := by
  rw [transaction]
  split <;> simp_all

lemma transaction_snd_of_settled {state : σ}
    (committed : (operation l s.rollback).2 = settled state) :
    (transaction operation l s).2 = settled state := by
  cases hresult : (operation l s.rollback).1 with
  | error e =>
      rw [transaction_of_error hresult, committed]
      rfl
  | ok answer => rw [transaction_of_ok hresult, committed]

end Session

/-! ### Calls of an operation -/

namespace Locks

/-- Whether the outcome of an attempt is a reason to make another one. -/
def asksAgain : Except Failure α → Bool
  | .ok _ => false
  | .error e => e.isRetryable

/-- An operation that notes for each of its calls whether the lock was held. -/
def noting (equipment : Int) (operation : Locks → σ → Except Failure α × σ) (l : Locks)
    (noted : σ × List Bool) : Except Failure α × (σ × List Bool) :=
  ((operation l noted.1).1, (operation l noted.1).2, noted.2 ++ [l.isHeld equipment])

/-- The state before the call with this number, counted from zero. -/
def before (call : σ → Except Failure α × σ) : Nat → σ → σ
  | 0, start => start
  | n + 1, start => (call (before call n start)).2

/-- The outcome of the call with this number. -/
def outcome (call : σ → Except Failure α × σ) (n : Nat) (start : σ) : Except Failure α :=
  (call (before call n start)).1

lemma before_succ (call : σ → Except Failure α × σ) (n : Nat) (start : σ) :
    before call (n + 1) start = before call n (call start).2 := by
  induction n with
  | zero => rfl
  | succ n ih => rw [before, ih, before]

lemma outcome_succ (call : σ → Except Failure α × σ) (n : Nat) (start : σ) :
    outcome call (n + 1) start = outcome call n (call start).2 := by
  rw [outcome, before_succ, outcome]

/-- Run an operation once, and up to `n` times more. -/
def tries (request : LockRequest) (operation : Locks → σ → Except Failure α × σ) :
    (n : Nat) → Locks → σ → Run σ α
  | 0, l, state => attempt request operation l state
  | n + 1, l, state =>
    let run := attempt request operation l state
    if asksAgain run.result then tries request operation n run.locks run.state else run

variable {request : LockRequest} {l : Locks}

lemma repeatAttempts_succ (operation : Locks → σ → Except Failure α × σ) (n : Nat) (l : Locks)
    (state : σ) :
    repeatAttempts request operation (n + 1) l state = tries request operation n l state := by
  induction n generalizing l state with
  | zero =>
      rw [repeatAttempts, tries]
      split <;> simp
  | succ n ih =>
      rw [repeatAttempts, tries]
      cases hresult : (attempt request operation l state).result with
      | ok answer => simp [asksAgain]
      | error e => cases hagain : e.isRetryable <;> simp [asksAgain, ih, hagain]

/-- A run never gets to where no attempt is left. -/
theorem run_eq_tries (request : LockRequest) (operation : Locks → σ → Except Failure α × σ)
    (l : Locks) (state : σ) :
    l.run request operation state = tries request operation request.retries.toNat l state := by
  rw [run, LockRequest.attempts, Nat.add_comm, repeatAttempts_succ]

/-- Operations that answer alike in related states, and leave related states, run alike. -/
lemma repeatAttempts_alike {τ : Type} {R : σ → τ → Prop}
    {operation : Locks → σ → Except Failure α × σ} {operation' : Locks → τ → Except Failure α × τ}
    (step : ∀ l s t, R s t → (operation l s).1 = (operation' l t).1
      ∧ R (operation l s).2 (operation' l t).2) (n : Nat) {s : σ} {t : τ} (start : R s t) :
    (repeatAttempts request operation n l s).result
        = (repeatAttempts request operation' n l t).result
      ∧ R (repeatAttempts request operation n l s).state
        (repeatAttempts request operation' n l t).state := by
  induction n generalizing s t with
  | zero => exact ⟨rfl, start⟩
  | succ n ih =>
      have hattempt : (attempt request operation l s).result
            = (attempt request operation' l t).result
          ∧ R (attempt request operation l s).state (attempt request operation' l t).state := by
        cases hacquire : l.acquire request with
        | error held =>
            rw [attempt_of_acquire_error hacquire, attempt_of_acquire_error hacquire]
            exact ⟨rfl, start⟩
        | ok taken =>
            rw [attempt_of_acquire hacquire, attempt_of_acquire hacquire]
            exact step taken s t start
      obtain ⟨hresult, hstate⟩ := hattempt
      rw [repeatAttempts, repeatAttempts]
      simp only [locks_attempt, ← hresult]
      cases hfirst : (attempt request operation l s).result with
      | ok answer => exact ⟨hresult, hstate⟩
      | error e =>
          dsimp only
          split
          · exact ih hstate
          · exact ⟨hresult, hstate⟩

/-- Notes of the calls change nothing else. -/
lemma run_noting (equipment : Int) (operation : Locks → σ → Except Failure α × σ) (l : Locks)
    (start : σ) (noted : List Bool) :
    (l.run request (noting equipment operation) (start, noted)).result
        = (l.run request operation start).result
      ∧ (l.run request (noting equipment operation) (start, noted)).state.1
        = (l.run request operation start).state := by
  refine repeatAttempts_alike (R := fun (noted : σ × List Bool) state => noted.1 = state) ?_ _ rfl
  rintro l s t rfl
  exact ⟨rfl, rfl⟩

/-- Attempts under a lock that is free: all calls but the last one ask for another, the last one
does not unless no attempt is left, and the run answers and leaves what the last one does. -/
lemma tries_noting (operation : Locks → σ → Except Failure α × σ)
    (free : l.acquire request = .ok (l.take request.equipment)) (n : Nat) (start : σ)
    (noted : List Bool) :
    ∃ k ≤ n, (∀ j < k, asksAgain (outcome (operation (l.take request.equipment)) j start) = true)
      ∧ (k < n → asksAgain (outcome (operation (l.take request.equipment)) k start) = false)
      ∧ tries request (noting request.equipment operation) n l (start, noted)
        = ⟨outcome (operation (l.take request.equipment)) k start, l,
            before (operation (l.take request.equipment)) (k + 1) start,
            noted ++ List.replicate (k + 1) true⟩ := by
  have hheld : (l.take request.equipment).isHeld request.equipment = true := by simp [take, isHeld]
  have hattempt : ∀ start noted, attempt request (noting request.equipment operation) l
      (start, noted)
        = ⟨outcome (operation (l.take request.equipment)) 0 start, l,
            before (operation (l.take request.equipment)) 1 start, noted ++ [true]⟩ := by
    intro start noted
    rw [attempt_of_acquire free]
    simp only [noting, hheld]
    rfl
  induction n generalizing start noted with
  | zero => exact ⟨0, Nat.le_refl 0, by simp, by simp, hattempt start noted⟩
  | succ n ih =>
      rw [tries, hattempt]
      cases hagain : asksAgain (outcome (operation (l.take request.equipment)) 0 start) with
      | false => exact ⟨0, by simp, by simp, fun _ => hagain, by simp⟩
      | true =>
          obtain ⟨k, hk, hearlier, hlast, hrun⟩ :=
            ih (before (operation (l.take request.equipment)) 1 start) (noted ++ [true])
          refine ⟨k + 1, by omega, fun j hj => ?_, fun hlt => ?_, ?_⟩
          · cases j with
            | zero => exact hagain
            | succ j =>
                rw [outcome_succ]
                exact hearlier j (by omega)
          · rw [outcome_succ]
            exact hlast (by omega)
          · simp only [if_true, hrun]
            rw [outcome_succ, before_succ _ (k + 1), List.append_assoc]
            rfl

lemma tries_of_acquire_error {failure : Failure} (held : l.acquire request = .error failure)
    (operation : Locks → σ → Except Failure α × σ) (n : Nat) (state : σ) :
    tries request operation n l state = ⟨.error failure, l, state⟩ := by
  rw [← repeatAttempts_succ]
  exact repeatAttempts_of_unchanged (attempt_of_acquire_error held state)

end Locks

/-! ### Runs in a session -/

namespace Session

open Locks

/-- An operation that commits the number of its calls, and whose outcomes are these. -/
def scripted (outcomes : Nat → Except Failure α) (_ : Locks) (s : Session Nat) :
    Except Failure α × Session Nat :=
  (outcomes s.working, settled (s.working + 1))

/-- The calls of an operation can have any outcomes. -/
lemma outcome_scripted (outcomes : Nat → Except Failure α) (taken : Locks) (n : Nat) :
    outcome (transaction (scripted outcomes) taken) n (settled 0) = outcomes n := by
  have hbefore : ∀ n, before (transaction (scripted outcomes) taken) n (settled 0) = settled n := by
    intro n
    induction n with
    | zero => rfl
    | succ n ih =>
        rw [before, ih]
        exact transaction_snd_of_settled rfl
  rw [outcome, hbefore, transaction_fst]
  rfl

/-- The calls of an operation in its session, up to `1 + retries` of them. -/
structure Attempted (operation : Locks → Session σ → Except Failure α × Session σ) (taken : Locks)
    (retries : Int) (start : Session σ) (calls : Nat) (result : Except Failure α)
    (left : Session σ) : Prop where
  /-- The first outcome that does not ask for another call is the last one, if so many calls are
  allowed. -/
  first : ∀ i, (∀ j < i, asksAgain (outcome (transaction operation taken) j start) = true) →
    asksAgain (outcome (transaction operation taken) i start) = false →
    (calls : Int) = min ((i : Int) + 1) (1 + max 0 retries)
  /-- If all outcomes ask for another call, there are as many as are allowed. -/
  all : (∀ j, asksAgain (outcome (transaction operation taken) j start) = true) →
    (calls : Int) = 1 + max 0 retries
  /-- There is a last call, and its outcome is the answer. -/
  last : ∃ k, calls = k + 1 ∧ result = outcome (transaction operation taken) k start
    ∧ left = before (transaction operation taken) (k + 1) start
  /-- Every call starts from the last commit. -/
  fresh : ∀ j < calls, outcome (transaction operation taken) j start
    = (operation taken (settled (before (transaction operation taken) j start).committed)).1
  /-- What a failing call has not committed is given up. -/
  discarded : ∀ j < calls, ∀ failure,
    outcome (transaction operation taken) j start = .error failure →
    before (transaction operation taken) (j + 1) start
      = settled (operation taken
          (settled (before (transaction operation taken) j start).committed)).2.committed
  /-- A call that succeeds leaves what the operation leaves. -/
  kept : ∀ j < calls, ∀ answer, outcome (transaction operation taken) j start = .ok answer →
    before (transaction operation taken) (j + 1) start
      = (operation taken (settled (before (transaction operation taken) j start).committed)).2

/-- The calls up to the first one that does not ask for another, or to the last allowed one. -/
lemma attempted_of_last {operation : Locks → Session σ → Except Failure α × Session σ}
    {taken : Locks} {retries : Int} {start : Session σ} {k : Nat} (allowed : k ≤ retries.toNat)
    (earlier : ∀ j < k, asksAgain (outcome (transaction operation taken) j start) = true)
    (final : k < retries.toNat →
      asksAgain (outcome (transaction operation taken) k start) = false) :
    Attempted operation taken retries start (k + 1) (outcome (transaction operation taken) k start)
      (before (transaction operation taken) (k + 1) start) where
  first i hbefore hfinal := by
    -- `k` is neither before `i`, since it would have asked again, nor after it
    have hik : ¬ i < k := fun hlt => by simp [earlier i hlt] at hfinal
    have hki : k < i → ¬ k < retries.toNat := fun hlt hallowed => by
      simp [hbefore k hlt] at final
      omega
    omega
  all hall := by
    have hspent : ¬ k < retries.toNat := fun hlt => by simp [hall k] at final; omega
    omega
  last := ⟨k, rfl, rfl, rfl⟩
  fresh _ _ := transaction_fst
  discarded _ _ _ failed := transaction_of_error (transaction_fst.symm.trans failed)
  kept _ _ _ succeeded := transaction_of_ok (transaction_fst.symm.trans succeeded)

/-- Under a lock that is free the operation is called. -/
lemma run_transaction_of_free {request : LockRequest} {l : Locks}
    (free : l.acquire request = .ok (l.take request.equipment))
    (operation : Locks → Session σ → Except Failure α × Session σ) (start : Session σ) :
    let run := l.run request (noting request.equipment (transaction operation)) (start, [])
    ∃ calls, run.state.2 = List.replicate calls true
      ∧ Attempted operation (l.take request.equipment) request.retries start calls run.result
        run.state.1 := by
  intro run
  obtain ⟨k, hallowed, hearlier, hfinal, hrun⟩ :=
    tries_noting (transaction operation) free request.retries.toNat start []
  have hrun : run = _ := (run_eq_tries _ _ _ _).trans hrun
  rw [hrun]
  exact ⟨k + 1, rfl, attempted_of_last hallowed hearlier hfinal⟩

/-- Under a lock that is not, it is not. -/
lemma run_transaction_of_acquire_error {request : LockRequest} {l : Locks} {failure : Failure}
    (declined : l.acquire request = .error failure)
    (operation : Locks → Session σ → Except Failure α × Session σ) (start : Session σ) :
    l.run request (noting request.equipment (transaction operation)) (start, [])
      = ⟨.error failure, l, start, []⟩ := by
  rw [run_eq_tries]
  exact tries_of_acquire_error declined _ _ _

/-- An operation under a lock.

If the lock is free and the caller has not given up, the operation is called until an outcome does
not ask for another call, `1 + retries` times at most; the lock is held in every call. If the lock
is held, or the caller has given up, the operation is not called. The locks are afterwards as they
were, and a run fails for want of attempts only if the operation itself does. -/
theorem run_transaction (request : LockRequest) (l : Locks)
    (operation : Locks → Session σ → Except Failure α × Session σ) (start : Session σ) :
    let run := l.run request (noting request.equipment (transaction operation)) (start, [])
    run.locks = l
      ∧ (request.cancelled = false → l.isHeld request.equipment = false →
        run.locks.isHeld request.equipment = false
          ∧ ∃ calls, run.state.2 = List.replicate calls true
            ∧ Attempted operation (l.take request.equipment) request.retries start calls run.result
              run.state.1)
      ∧ (request.cancelled = false → l.isHeld request.equipment = true →
        run = ⟨.error (.lockTimeout request.equipment request.wait), l, start, []⟩
          ∧ (Failure.lockTimeout request.equipment request.wait).isRetryable = true
          ∧ run.locks.isHeld request.equipment = true)
      ∧ (request.cancelled = true → run = ⟨.error .cancelled, l, start, []⟩)
      ∧ run = tries request (noting request.equipment (transaction operation))
        request.retries.toNat l (start, [])
      ∧ (run.result = .error (.busy request.equipment) → ∃ j,
        outcome (transaction operation (l.take request.equipment)) j start
          = .error (.busy request.equipment)) := by
  intro run
  have hlocks : run.locks = l := locks_repeatAttempts _ _ _
  have hheld : request.cancelled = false → l.isHeld request.equipment = true →
      run = ⟨.error (.lockTimeout request.equipment request.wait), l, start, []⟩ :=
    fun hpatient hclosed =>
      run_transaction_of_acquire_error (by simp [acquire, hpatient, hclosed]) operation start
  have hcancelled : request.cancelled = true → run = ⟨.error .cancelled, l, start, []⟩ :=
    fun hgone => run_transaction_of_acquire_error (by simp [acquire, hgone]) operation start
  have hfree : request.cancelled = false → l.isHeld request.equipment = false →
      ∃ calls, run.state.2 = List.replicate calls true
        ∧ Attempted operation (l.take request.equipment) request.retries start calls run.result
          run.state.1 :=
    fun hpatient hopen =>
      run_transaction_of_free (by simp [acquire, hpatient, hopen]) operation start
  refine ⟨hlocks, fun hpatient hopen => ⟨hlocks ▸ hopen, hfree hpatient hopen⟩,
    fun hpatient hclosed => ⟨hheld hpatient hclosed, rfl, hlocks ▸ hclosed⟩, hcancelled,
    run_eq_tries _ _ _ _, fun hbusy => ?_⟩
  cases hgone : request.cancelled with
  | true => simp [hcancelled hgone] at hbusy
  | false =>
      cases hclosed : l.isHeld request.equipment with
      | true => simp [hheld hgone hclosed] at hbusy
      | false =>
          obtain ⟨calls, -, hattempted⟩ := hfree hgone hclosed
          obtain ⟨k, -, hresult, -⟩ := hattempted.last
          exact ⟨k, hresult.symm.trans hbusy⟩

/-- An operation that is overtaken once is called twice; one whose lock is held, and one whose
caller has given up, is not called. -/
theorem run_transaction_overtaken :
    let outcomes : Nat → Except Failure String := fun n =>
      if n = 0 then .error (.overtaken 1 "Install" 0 1) else .ok "done"
    let run (l : Locks) (cancelled : Bool) :=
      l.run { equipment := 1, wait := 5, retries := 2, cancelled }
        (noting 1 (transaction (scripted outcomes))) (settled 0, [])
    (run {} false).result = .ok "done" ∧ (run {} false).state.2 = [true, true]
      ∧ (run {} false).locks.isHeld 1 = false
      ∧ (run ⟨[1]⟩ false).result = .error (.lockTimeout 1 5) ∧ (run ⟨[1]⟩ false).state.2 = []
      ∧ (run {} true).result = .error .cancelled ∧ (run {} true).state.2 = [] := by
  intro outcomes run
  obtain ⟨-, hfree, -⟩ := run_transaction { equipment := 1, wait := 5, retries := 2 } {}
    (scripted outcomes) (settled 0)
  obtain ⟨-, -, hheld, -⟩ := run_transaction { equipment := 1, wait := 5, retries := 2 } ⟨[1]⟩
    (scripted outcomes) (settled 0)
  obtain ⟨-, -, -, hcancelled, -⟩ := run_transaction
    { equipment := 1, wait := 5, retries := 2, cancelled := true } {} (scripted outcomes)
    (settled 0)
  obtain ⟨hafter, calls, hcalls, hattempted⟩ := hfree rfl rfl
  have hfirst : (calls : Int) = min ((1 : Nat) + 1) (1 + max 0 2) := by
    refine hattempted.first 1 (fun j hj => ?_) ?_
    · obtain rfl : j = 0 := by omega
      rw [outcome_scripted]
      rfl
    · rw [outcome_scripted]
      rfl
  obtain rfl : calls = 2 := by omega
  obtain ⟨k, hk, hresult, -⟩ := hattempted.last
  obtain rfl : k = 1 := by omega
  rw [outcome_scripted] at hresult
  refine ⟨hresult, hcalls, hafter, ?_, ?_, ?_, ?_⟩
  · exact congrArg Run.result (hheld rfl rfl).1
  · exact congrArg (fun run => run.state.2) (hheld rfl rfl).1
  · exact congrArg Run.result (hcancelled rfl)
  · exact congrArg (fun run => run.state.2) (hcancelled rfl)

/-- An operation that commits all it does. -/
def atOnce (operation : Locks → σ → Except Failure α × σ) (l : Locks) (s : Session σ) :
    Except Failure α × Session σ :=
  ((operation l s.working).1, settled (operation l s.working).2)

/-- An operation that commits all it does runs in a session as without one. -/
theorem run_atOnce (request : LockRequest) (operation : Locks → σ → Except Failure α × σ)
    (l : Locks) (start : σ) :
    l.run request (transaction (atOnce operation)) (settled start)
      = ⟨(l.run request operation start).result, l,
          settled (l.run request operation start).state⟩ := by
  have hlocks : (l.run request (transaction (atOnce operation)) (settled start)).locks = l :=
    locks_repeatAttempts _ _ _
  obtain ⟨hresult, hstate⟩ : (l.run request operation start).result
        = (l.run request (transaction (atOnce operation)) (settled start)).result
      ∧ (l.run request (transaction (atOnce operation)) (settled start)).state
        = settled (l.run request operation start).state := by
    refine repeatAttempts_alike (R := fun s t => t = settled s) ?_ _ rfl
    rintro l s t rfl
    refine ⟨?_, transaction_snd_of_settled rfl⟩
    rw [transaction_fst]
    rfl
  calc l.run request (transaction (atOnce operation)) (settled start)
      = ⟨(l.run request (transaction (atOnce operation)) (settled start)).result,
          (l.run request (transaction (atOnce operation)) (settled start)).locks,
          (l.run request (transaction (atOnce operation)) (settled start)).state⟩ := rfl
    _ = _ := by rw [hlocks, hstate, hresult]

end Session

end StageStock
