import StageStock.Failure

/-!
# Locks

A change of an equipment's ledger runs while the lock of that equipment is held. `Locks.run` takes
the lock, runs an operation and gives the lock back, whatever the operation answers. When the lock
is not free in time, or the operation finds that it was overtaken, the whole attempt is made again,
as often as the caller allows.

* `Locks.attempt`: one attempt; a caller that has given up is turned away before the lock is taken;
* `Locks.run`: the first attempt and the repeated ones, `attempts` of them at most;
* an operation may change a state of its own, which is passed from attempt to attempt.
-/

namespace StageStock

/-- The equipments whose lock is held. -/
structure Locks where
  held : List Int := []
  deriving DecidableEq, Repr

/-- What a caller asks of a lock. -/
structure LockRequest where
  equipment : Int
  /-- How many seconds to wait for the lock. -/
  wait : Rat
  /-- How often to try again; a negative number counts as zero. -/
  retries : Int
  /-- Whether the caller has given up already. -/
  cancelled : Bool := false

namespace LockRequest

/-- The largest number of attempts. -/
def attempts (r : LockRequest) : Nat :=
  1 + r.retries.toNat

end LockRequest

namespace Locks

/-- Whether a lock is held. -/
def isHeld (l : Locks) (equipment : Int) : Bool :=
  l.held.contains equipment

/-- The locks with one more held. -/
def take (l : Locks) (equipment : Int) : Locks :=
  ⟨equipment :: l.held⟩

/-- The locks with one given back. -/
def release (l : Locks) (equipment : Int) : Locks :=
  ⟨l.held.erase equipment⟩

/-- Take a lock, if the caller has not given up and the lock is free. -/
def acquire (l : Locks) (request : LockRequest) : Except Failure Locks :=
  if request.cancelled then .error .cancelled
  else if l.isHeld request.equipment then .error (.lockTimeout request.equipment request.wait)
  else .ok (l.take request.equipment)

theorem release_take (l : Locks) (equipment : Int) : (l.take equipment).release equipment = l := by
  simp [take, release]

/-- The answer of an operation, with the locks and the operation's own state after it. -/
structure Run (σ α : Type) where
  result : Except Failure α
  locks : Locks
  state : σ

variable {σ α : Type}

/-- Run an operation once while the lock is held. -/
def attempt (request : LockRequest) (operation : Locks → σ → Except Failure α × σ) (l : Locks)
    (state : σ) : Run σ α :=
  match l.acquire request with
  | .error e => ⟨.error e, l, state⟩
  | .ok taken =>
    let (result, after) := operation taken state
    ⟨result, taken.release request.equipment, after⟩

/-- Run an operation up to `n` times, until it answers or fails for good. -/
def repeatAttempts (request : LockRequest) (operation : Locks → σ → Except Failure α × σ) :
    (n : Nat) → Locks → σ → Run σ α
  | 0, l, state => ⟨.error (.busy request.equipment), l, state⟩
  | n + 1, l, state =>
    let run := attempt request operation l state
    match run.result with
    | .ok _ => run
    | .error e =>
      if e.isRetryable && n ≠ 0 then repeatAttempts request operation n run.locks run.state
      else run

/-- Run an operation while the lock is held, again if need be. -/
def run (request : LockRequest) (operation : Locks → σ → Except Failure α × σ) (l : Locks)
    (state : σ) : Run σ α :=
  repeatAttempts request operation request.attempts l state

/-- An attempt leaves the locks as they were. -/
theorem locks_attempt (request : LockRequest) (operation : Locks → σ → Except Failure α × σ)
    (l : Locks) (state : σ) : (attempt request operation l state).locks = l := by
  unfold attempt acquire
  by_cases hc : request.cancelled
  · simp [hc]
  · by_cases hh : l.isHeld request.equipment
    · simp [hc, hh]
    · simp [hc, hh, release_take]

end Locks

end StageStock
