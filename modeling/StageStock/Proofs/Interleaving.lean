import Mathlib.Tactic.Lemma
import StageStock.Proofs.Atomic

/-!
Orders among other workers.

An order that reads the ledger prepares its changes from the version it has read. Another worker who
commits in between raises the version, so that the order is overtaken and tried again on the ledger
that the other worker left.

* `Mutation.attempt_overtaken`: an attempt in which another worker commits writes nothing;
* `Mutation.Course`: how the attempts of a mutation go among other workers: every attempt is
  overtaken, or a ledger speaks against the mutation, or the others have all committed before the
  last attempts (`Mutation.course_repeatAttempts`);
* `Desk.mutateWith_interleaved`, `Desk.fulfil_interleaved`: no commit of another worker is lost, and
  an order answers as it would have answered after some of them.
-/

namespace StageStock

/-- A commit from a version that is no longer the current one is overtaken. -/
lemma Store.commit_overtaken {s : Store} {p : Proposal} {now : Moment} {current : Snapshot}
    {version : Int} (ledger : s.ledger? p.equipment = .ok current) (expected : p.expected = none)
    (read : p.read = some version) (moved : version ≠ current.version) :
    s.commit p now = .error (.overtaken p.equipment p.action version current.version) := by
  have hprepare : s.prepare p
      = .error (.overtaken p.equipment p.action version current.version) := by
    simp only [prepare, ledger, expected, checkExpected, Proposal.checkRead, read, if_neg moved]
  simp only [commit, hprepare]

namespace Mutation

variable {α : Type} {m : Mutation α} {prepare : Snapshot → Except Failure (Prepared α)}
  {now : Moment} {s t : Store} {read : Snapshot}

/-- An attempt in which another worker commits writes nothing: the ledger that was read speaks
against the mutation, or the version has moved on. -/
lemma attempt_overtaken (prepared : m.preparation = .fromLedger prepare)
    (orderly : Orderly m.equipment prepare) (hread : s.ledger? m.equipment = .ok read)
    {r : Rival} {committed : Snapshot} (rest : List Rival)
    (hcommit : s.commit (r.proposal m.equipment) now = .ok (t, committed)) :
    m.attempt now ⟨s, r :: rest⟩
      = match prepare read with
        | .error failure => (.error failure, ⟨t, rest⟩)
        | .ok work => (.error (.overtaken m.equipment work.action read.version committed.version),
            ⟨t, rest⟩) := by
  obtain ⟨before, after, w, hcommits⟩ := Store.commits_of_commit hcommit
  have hbefore : read = before := Except.ok.inj (hread.symm.trans hcommits.read)
  have hadvance : Scene.advance ⟨s, r :: rest⟩ m.equipment now = (.ok (), ⟨t, rest⟩) :=
    Scene.advance_of_commit hcommit rest
  simp only [attempt, prepared, hread, hadvance]
  cases hwork : prepare read with
  | error failure => rfl
  | ok work =>
      have hmoved : read.version ≠ committed.version := by
        rw [hcommits.version_eq, hbefore]
        omega
      have hovertaken := @Store.commit_overtaken t
        (m.proposal { work with read := some read.version }) now committed read.version
        hcommits.reread (orderly.unexpected read work hwork) rfl hmoved
      simp only [finish_eq, hovertaken]
      rfl

/-- How the attempts of a mutation go among other workers, when it may be tried `n` times again. -/
inductive Course (m : Mutation α) (prepare : Snapshot → Except Failure (Prepared α)) (now : Moment)
    (request : LockRequest) (l : Locks) (s : Store) (rivals : List Rival) (n : Nat) :
    Locks.Run Scene (α × Event) → Prop where
  /-- Every attempt is overtaken. -/
  | overtaken (action : String) (read current : Int) (enough : n + 1 ≤ rivals.length) :
      Course m prepare now request l s rivals n
        ⟨.error (.overtaken m.equipment action read current), l,
          ⟨s.afterRivals m.equipment now (rivals.take (n + 1)), rivals.drop (n + 1)⟩⟩
  /-- A ledger that one of the attempts reads speaks against the mutation. -/
  | declined (earlier : List Rival) (r : Rival) (rest : List Rival) (read : Snapshot)
      (failure : Failure) (split : rivals = earlier ++ r :: rest)
      (ledger : (s.afterRivals m.equipment now earlier).ledger? m.equipment = .ok read)
      (against : prepare read = .error failure) :
      Course m prepare now request l s rivals n
        ⟨.error failure, l, ⟨s.afterRivals m.equipment now (earlier ++ [r]), rest⟩⟩
  /-- All others have committed, and what is left are attempts without them. -/
  | alone (k : Nat) : Course m prepare now request l s rivals n
      (Locks.repeatAttempts request (fun _ scene => m.attempt now scene) (k + 1) l
        ⟨s.afterRivals m.equipment now rivals, []⟩)

/-- An attempt that is overtaken comes before the others. -/
lemma Course.cons {request : LockRequest} {l : Locks} {rest : List Rival} {n : Nat}
    {run : Locks.Run Scene (α × Event)} (h : Course m prepare now request l t rest n run)
    {r : Rival} {committed : Snapshot}
    (hcommit : s.commit (r.proposal m.equipment) now = .ok (t, committed)) :
    Course m prepare now request l s (r :: rest) (n + 1) run := by
  have hafter : ∀ rivals, t.afterRivals m.equipment now rivals
      = s.afterRivals m.equipment now (r :: rivals) := by
    intro rivals
    rw [Store.afterRivals_cons, Store.afterRivals_of_commit hcommit]
  cases h with
  | overtaken action read current enough =>
      rw [hafter]
      exact .overtaken action read current (by simpa using enough)
  | declined earlier r' rest' read failure hsplit ledger against =>
      rw [hafter] at ledger ⊢
      exact .declined (r :: earlier) r' rest' read failure (by rw [hsplit]; rfl) ledger against
  | alone k =>
      rw [hafter]
      exact .alone k

/-- The attempts of a mutation whose lock can be taken, among other workers who all commit. -/
theorem course_repeatAttempts (prepared : m.preparation = .fromLedger prepare)
    (orderly : Orderly m.equipment prepare) {request : LockRequest} {l taken : Locks}
    (free : l.acquire request = .ok taken) {rivals : List Rival}
    (commits : s.AllCommit m.equipment now rivals) (n : Nat) :
    Course m prepare now request l s rivals n (Locks.repeatAttempts request
      (fun _ scene => m.attempt now scene) (n + 1) l ⟨s, rivals⟩) := by
  induction rivals generalizing s n with
  | nil => exact .alone n
  | cons r rest ih =>
      obtain ⟨⟨t, committed, hcommit⟩, hrest⟩ := commits
      obtain ⟨read, after, w, hcommits⟩ := Store.commits_of_commit hcommit
      have hone := Store.afterRivals_of_commit hcommit
      rw [hone] at hrest
      have hattempt : Locks.attempt request (fun _ scene => m.attempt now scene) l ⟨s, r :: rest⟩
          = ⟨(m.attempt now ⟨s, r :: rest⟩).1, l, (m.attempt now ⟨s, r :: rest⟩).2⟩ :=
        Locks.attempt_of_acquire free _
      rw [attempt_overtaken prepared orderly hcommits.read rest hcommit] at hattempt
      cases hwork : prepare read with
      | error failure =>
          -- the ledger speaks against the mutation, and the failure is final
          have hfinal := (orderly.final read failure hwork).isRetryable_eq
          simp only [Locks.repeatAttempts, hattempt, hwork, hfinal, Bool.false_and,
            Bool.false_eq_true, if_false, ← hone]
          exact .declined [] r rest read failure rfl hcommits.read hwork
      | ok work =>
          have hretry : (Failure.overtaken m.equipment work.action read.version
              committed.version).isRetryable = true := rfl
          rw [Locks.repeatAttempts]
          cases n with
          | zero =>
              simp only [hattempt, hwork, ne_eq, not_true_eq_false, decide_false, Bool.and_false,
                Bool.false_eq_true, if_false, ← hone]
              exact .overtaken work.action read.version committed.version (by simp)
          | succ n =>
              simp only [hattempt, hwork, hretry, ne_eq, Nat.add_one_ne_zero, not_false_eq_true,
                decide_true, Bool.and_self, if_true]
              exact (ih hrest n).cons hcommit

/-! ### Attempts without other workers -/

/-- An attempt that fails without other workers leaves everything as it was. -/
lemma attempt_alone_error (answers : m.Answers) {failure : Failure}
    (failed : (m.attempt now ⟨s, []⟩).1 = .error failure) :
    m.attempt now ⟨s, []⟩ = (.error failure, ⟨s, []⟩) := by
  have hstate : (m.attempt now ⟨s, []⟩).2 = ⟨s, []⟩ := by
    rcases attempt_error answers failed with hsame | ⟨-, hsame⟩
    · exact hsame
    · exact hsame
  exact Prod.ext failed hstate

lemma attempt_alone_of_prepare_error (prepared : m.preparation = .fromLedger prepare)
    (hread : s.ledger? m.equipment = .ok read) {failure : Failure}
    (declined : prepare read = .error failure) :
    m.attempt now ⟨s, []⟩ = (.error failure, ⟨s, []⟩) := by
  simp only [attempt, prepared, hread, Scene.advance, declined]

variable {request : LockRequest} {l : Locks}

/-- Without other workers, a failing run fails in the first attempt and changes nothing. -/
lemma repeatAttempts_alone_error (answers : m.Answers) {failure : Failure} {k : Nat}
    (failed : (Locks.repeatAttempts request (fun _ scene => m.attempt now scene) (k + 1) l
      ⟨s, []⟩).result = .error failure) (k' : Nat) :
    Locks.repeatAttempts request (fun _ scene => m.attempt now scene) (k' + 1) l ⟨s, []⟩
      = ⟨.error failure, l, ⟨s, []⟩⟩ := by
  cases hfirst : (Locks.attempt request (fun _ scene => m.attempt now scene) l
      (⟨s, []⟩ : Scene)).result with
  | ok told =>
      rw [Locks.repeatAttempts_of_ok hfirst, hfirst] at failed
      cases failed
  | error e =>
      have hunchanged : Locks.attempt request (fun _ scene => m.attempt now scene) l
          (⟨s, []⟩ : Scene) = ⟨.error e, l, ⟨s, []⟩⟩ := by
        cases hfree : l.acquire request with
        | error held =>
            rw [Locks.attempt_of_acquire_error hfree] at hfirst ⊢
            obtain rfl : held = e := Except.error.inj hfirst
            rfl
        | ok taken =>
            rw [Locks.attempt_of_acquire hfree] at hfirst ⊢
            rw [attempt_alone_error answers hfirst]
      rw [Locks.repeatAttempts_of_unchanged hunchanged] at failed ⊢
      obtain rfl : e = failure := Except.error.inj failed
      rfl

/-- Without other workers, a run that succeeds succeeds in the first attempt. -/
lemma repeatAttempts_alone_ok (answers : m.Answers) {told : α × Event} {k : Nat}
    (succeeded : (Locks.repeatAttempts request (fun _ scene => m.attempt now scene) (k + 1) l
      ⟨s, []⟩).result = .ok told) :
    (Locks.attempt request (fun _ scene => m.attempt now scene) l (⟨s, []⟩ : Scene)).result
      = .ok told := by
  cases hfirst : (Locks.attempt request (fun _ scene => m.attempt now scene) l
      (⟨s, []⟩ : Scene)).result with
  | ok first =>
      rw [Locks.repeatAttempts_of_ok hfirst, hfirst] at succeeded
      exact succeeded
  | error e =>
      have hone : (Locks.repeatAttempts request (fun _ scene => m.attempt now scene) (0 + 1) l
          ⟨s, []⟩).result = .error e := by
        simp [Locks.repeatAttempts, hfirst]
      rw [repeatAttempts_alone_error answers hone k] at succeeded
      cases succeeded

end Mutation

namespace Desk

variable {α : Type}

/-- The mutation on the store that other workers left, without further ones. -/
def undisturbed (desk : Desk) (call : Call) (retries : Int) (m : Mutation α)
    (rivals : List Rival) : Outcome α :=
  ({ desk with store := desk.store.afterRivals m.equipment call.now rivals } : Desk).mutateWith
    { call with rivals := [] } retries m

section Run

variable {desk : Desk} {call : Call} {retries : Int} {m : Mutation α}

lemma undisturbed_of_run {rivals : List Rival}
    (same : desk.runFrom call retries m ⟨desk.store, call.rivals⟩
      = desk.runFrom call retries m ⟨desk.store.afterRivals m.equipment call.now rivals, []⟩) :
    desk.mutateWith call retries m = desk.undisturbed call retries m rivals := by
  rw [undisturbed, mutateWith_eq, mutateWith_eq, same]
  rfl

lemma result_mutateWith {run : Locks.Run Scene (α × Event)}
    (h : desk.runFrom call retries m ⟨desk.store, call.rivals⟩ = run) {failure : Failure}
    (failed : run.result = .error failure) :
    (desk.mutateWith call retries m).result = .error failure
      ∧ (desk.mutateWith call retries m).desk = { desk with store := run.state.store } := by
  rw [mutateWith_eq, h, failed]
  exact ⟨rfl, rfl⟩

lemma result_undisturbed {rivals : List Rival} {failure : Failure}
    (failed : (desk.runFrom call retries m
      ⟨desk.store.afterRivals m.equipment call.now rivals, []⟩).result = .error failure) :
    (desk.undisturbed call retries m rivals).result = .error failure :=
  (@result_mutateWith α { desk with store := desk.store.afterRivals m.equipment call.now rivals }
    { call with rivals := [] } retries m _ rfl failure failed).1

lemma runFrom_eq (scene : Scene) :
    desk.runFrom call retries m scene
      = Locks.repeatAttempts (desk.lockRequest call retries m.equipment)
        (fun _ scene => m.attempt call.now scene) (retries.toNat + 1) desk.locks scene := by
  rw [runFrom, Locks.run, LockRequest.attempts, Nat.add_comm]
  rfl

/-- What a mutation comes to among other workers, of whom those in `fired` have committed while it
was at work. If it succeeds, it does so as it would have after them. If it fails, exactly their
commits are stored, and it fails as it would have after some of them, or because every attempt was
overtaken. -/
structure Interleaved (desk : Desk) (call : Call) (retries : Int) (m : Mutation α)
    (prepare : Snapshot → Except Failure (Prepared α)) (fired : List Rival) : Prop where
  first : fired <+: call.rivals
  succeeded : ∀ answer, (desk.mutateWith call retries m).result = .ok answer →
    desk.mutateWith call retries m = desk.undisturbed call retries m fired
      ∧ ∃ read work, (desk.store.afterRivals m.equipment call.now fired).ledger? m.equipment
          = .ok read ∧ prepare read = .ok work
  failed : ∀ failure, (desk.mutateWith call retries m).result = .error failure →
    (desk.mutateWith call retries m).desk
        = { desk with store := desk.store.afterRivals m.equipment call.now fired }
      ∧ ((∃ earlier, earlier <+: fired
          ∧ (desk.undisturbed call retries m earlier).result = .error failure)
        ∨ (fired.length = 1 + retries.toNat
          ∧ ∃ action read current, failure = .overtaken m.equipment action read current))

variable {prepare : Snapshot → Except Failure (Prepared α)}

/-- A run that has failed with a known failure. -/
lemma interleaved_of_error {fired : List Rival} {run : Locks.Run Scene (α × Event)}
    (h : desk.runFrom call retries m ⟨desk.store, call.rivals⟩ = run) {failure : Failure}
    (failed : run.result = .error failure)
    (stored : run.state.store = desk.store.afterRivals m.equipment call.now fired)
    (first : fired <+: call.rivals)
    (reason : (∃ earlier, earlier <+: fired
        ∧ (desk.undisturbed call retries m earlier).result = .error failure)
      ∨ (fired.length = 1 + retries.toNat
        ∧ ∃ action read current, failure = .overtaken m.equipment action read current)) :
    desk.Interleaved call retries m prepare fired := by
  obtain ⟨hresult, hdesk⟩ := result_mutateWith h failed
  refine ⟨first, fun answer hok => ?_, fun other hother => ?_⟩
  · rw [hresult] at hok
    cases hok
  · rw [hresult] at hother
    obtain rfl : failure = other := Except.error.inj hother
    exact ⟨by rw [hdesk, stored], reason⟩

/-- If the lock cannot be taken, no attempt reads the ledger, and it makes no difference whether
others would commit. -/
lemma interleaved_of_held {held : Failure}
    (busy : desk.locks.acquire (desk.lockRequest call retries m.equipment) = .error held) :
    desk.Interleaved call retries m prepare [] := by
  have hrun : ∀ scene, desk.runFrom call retries m scene = ⟨.error held, desk.locks, scene⟩ := by
    intro scene
    rw [runFrom_eq]
    exact Locks.repeatAttempts_of_unchanged (Locks.attempt_of_acquire_error busy scene)
  refine interleaved_of_error (hrun _) rfl rfl List.nil_prefix (Or.inl ⟨[], List.nil_prefix, ?_⟩)
  exact result_undisturbed (by rw [hrun])

/-- All others had committed, and the last attempts were made without them. -/
lemma interleaved_of_alone {taken : Locks} (answers : m.Answers)
    (prepared : m.preparation = .fromLedger prepare)
    (free : desk.locks.acquire (desk.lockRequest call retries m.equipment) = .ok taken) {k : Nat}
    (alone : desk.runFrom call retries m ⟨desk.store, call.rivals⟩
      = Locks.repeatAttempts (desk.lockRequest call retries m.equipment)
        (fun _ scene => m.attempt call.now scene) (k + 1) desk.locks
        ⟨desk.store.afterRivals m.equipment call.now call.rivals, []⟩) :
    desk.Interleaved call retries m prepare call.rivals := by
  cases hresult : (desk.runFrom call retries m ⟨desk.store, call.rivals⟩).result with
  | error failure =>
      rw [alone] at hresult
      have hsame := Mutation.repeatAttempts_alone_error answers hresult
      refine interleaved_of_error (alone.trans (hsame k)) rfl rfl (List.prefix_refl _)
        (Or.inl ⟨call.rivals, List.prefix_refl _, result_undisturbed ?_⟩)
      rw [runFrom_eq, hsame retries.toNat]
  | ok told =>
      have hfirst := Mutation.repeatAttempts_alone_ok answers (alone ▸ hresult)
      refine ⟨List.prefix_refl _, fun answer _ => ⟨undisturbed_of_run ?_, ?_⟩,
        fun failure hfailed => ?_⟩
      · rw [alone, runFrom_eq, Locks.repeatAttempts_of_ok hfirst,
          Locks.repeatAttempts_of_ok hfirst]
      · rw [Locks.attempt_of_acquire free] at hfirst
        obtain ⟨read, after, work, hread, -, hwork, -⟩ := Mutation.attempt_eq_ok prepared hfirst
        exact ⟨read, work, hread, hwork⟩
      · rw [mutateWith_eq, hresult] at hfailed
        cases hfailed

/-- A mutation that is prepared in an orderly way, among other workers who all commit. -/
theorem mutateWith_interleaved (prepared : m.preparation = .fromLedger prepare)
    (orderly : Orderly m.equipment prepare)
    (commits : desk.store.AllCommit m.equipment call.now call.rivals) :
    ∃ fired, desk.Interleaved call retries m prepare fired := by
  cases hfree : desk.locks.acquire (desk.lockRequest call retries m.equipment) with
  | error held => exact ⟨[], interleaved_of_held hfree⟩
  | ok taken =>
      have hcourse :=
        Mutation.course_repeatAttempts prepared orderly hfree commits retries.toNat
      rw [← runFrom_eq] at hcourse
      generalize hrun : desk.runFrom call retries m ⟨desk.store, call.rivals⟩ = run at hcourse
      cases hcourse with
      | overtaken action read current enough =>
          refine ⟨_, interleaved_of_error hrun rfl rfl (List.take_prefix _ _)
            (Or.inr ⟨?_, action, read, current, rfl⟩)⟩
          rw [List.length_take]
          omega
      | declined earlier r rest read failure split ledger against =>
          refine ⟨earlier ++ [r], interleaved_of_error hrun rfl rfl ⟨rest, by rw [split]; simp⟩
            (Or.inl ⟨earlier, List.prefix_append _ _, result_undisturbed ?_⟩)⟩
          rw [runFrom_eq, Locks.repeatAttempts_of_unchanged]
          rw [Locks.attempt_of_acquire hfree,
            Mutation.attempt_alone_of_prepare_error prepared ledger against]
      | alone k =>
          exact ⟨call.rivals, interleaved_of_alone
            (Mutation.answers_of_orderly prepared orderly) prepared hfree hrun⟩

end Run

/-- An order that reads the ledger, among other workers who all commit; `fired` are those that have
committed while it was at work.

If it succeeds, all it comes to is what it would have come to after them. If it fails, exactly their
commits are stored; it was declined before the lock was taken, or it fails as it would have after
some of them, or every attempt was overtaken. -/
theorem fulfil_interleaved {desk : Desk} {call : Call} {o : Order} (reads : o.readsLedger = true)
    (commits : ∀ e, o.equipment? desk.store = some e →
      desk.store.AllCommit e call.now call.rivals) :
    ∃ request fired, o.request? call.now.date = some request ∧ fired <+: call.rivals
      ∧ (∀ answer, (desk.fulfil call o).result = .ok answer →
        desk.fulfil call o
          = ({ desk with store := o.afterRivals desk.store call.now fired } : Desk).fulfil
            { call with rivals := [] } o)
      ∧ ∀ failure, (desk.fulfil call o).result = .error failure →
        (desk.fulfil call o).desk
            = { desk with store := o.afterRivals desk.store call.now fired }
          ∧ ((fired = [] ∧ request desk.store = .error failure)
            ∨ ∃ m, request desk.store = .ok m
              ∧ ((∃ earlier, earlier <+: fired
                  ∧ (desk.undisturbed call desk.lockRetries m earlier).result = .error failure)
                ∨ (fired.length = 1 + desk.lockRetries.toNat ∧ failure.isRetryable = true
                  ∧ ∃ action read current,
                    failure = .overtaken m.equipment action read current))) := by
  have hlocked : o.isLocked = true := by
    cases o with
    | register _ | addShow _ | addLocation _ => cases reads
    | _ => rfl
  obtain ⟨request, hrequest⟩ := o.exists_request? hlocked call.now.date
  cases hmade : request desk.store with
  | error e =>
      have hfulfil : desk.fulfil call o = { result := .error e, desk } := by
        rw [fulfil_eq_mutate hrequest, mutate, hmade]
      refine ⟨request, [], hrequest, List.nil_prefix, fun answer hok => ?_,
        fun failure hfailed => ?_⟩
      · rw [hfulfil] at hok
        cases hok
      · rw [hfulfil] at hfailed ⊢
        obtain rfl : e = failure := Except.error.inj hfailed
        exact ⟨by rw [o.afterRivals_nil], Or.inl ⟨rfl, hmade⟩⟩
  | ok m =>
      have hmakes := (Order.makes_iff hrequest).1 hmade
      obtain ⟨prepare, hprepare, horderly⟩ := hmakes.exists_orderly reads
      have hequipment := hmakes.equipment?_eq
      have hafter : ∀ rivals, o.afterRivals desk.store call.now rivals
          = desk.store.afterRivals m.equipment call.now rivals := by
        intro rivals
        rw [Order.afterRivals, hequipment]
      have hfulfil : desk.fulfil call o = desk.mutateWith call desk.lockRetries m := by
        rw [fulfil_eq_mutate hrequest, mutate, hmade]
      obtain ⟨fired, hfired, hok, herror⟩ :=
        @mutateWith_interleaved _ desk call desk.lockRetries m prepare hprepare horderly
          (commits m.equipment hequipment)
      rw [hfulfil]
      refine ⟨request, fired, hrequest, hfired, fun answer hanswer => ?_, fun failure hfailed => ?_⟩
      · obtain ⟨hsame, read, work, hread, hwork⟩ := hok answer hanswer
        have hagain : request (desk.store.afterRivals m.equipment call.now fired) = .ok m :=
          (Order.makes_iff hrequest).2
            (hmakes.of_agreesBeside (Store.afterRivals_agreesBeside _ _) hprepare hread hwork)
        have hquiet : o.request? ({ call with rivals := [] } : Call).now.date = some request :=
          hrequest
        rw [hsame, hafter, fulfil_eq_mutate hquiet, mutate, hagain]
        rfl
      · obtain ⟨hdesk, hreason⟩ := herror failure hfailed
        refine ⟨by rw [hdesk, hafter], Or.inr ⟨m, hmade, hreason.imp_right ?_⟩⟩
        rintro ⟨hlength, action, version, current, rfl⟩
        exact ⟨hlength, rfl, action, version, current, rfl⟩

/-- An order that is overtaken once is tried again, and answers as if it had come second. -/
theorem fulfil_interleaved_retried :
    let desk : Desk := { store := .threeLamps }
    let call : Call := { now := default, rivals := [.recount] }
    let o : Order := .setTotal 1 5 none
    ∃ fired, fired <+: call.rivals ∧ desk.fulfil call o
      = ({ desk with store := o.afterRivals desk.store default fired } : Desk).fulfil
        { call with rivals := [] } o := by
  have hcommits : ∀ e, (Order.setTotal 1 5 none).equipment? .threeLamps = some e →
      Store.threeLamps.AllCommit e default [.recount] := by
    intro e he
    obtain rfl : 1 = e := Option.some.inj he
    exact ⟨⟨_, _, rfl⟩, trivial⟩
  obtain ⟨request, fired, -, hfired, hok, -⟩ := @fulfil_interleaved { store := .threeLamps }
    { now := default, rivals := [.recount] } (.setTotal 1 5 none) rfl hcommits
  have hsucceeded : (({ store := .threeLamps } : Desk).fulfil
      { now := default, rivals := [.recount] } (.setTotal 1 5 none)).result.isOk = true := by
    decide +kernel
  cases hresult : (({ store := .threeLamps } : Desk).fulfil
      { now := default, rivals := [.recount] } (.setTotal 1 5 none)).result with
  | error failure =>
      rw [hresult] at hsucceeded
      cases hsucceeded
  | ok answer => exact ⟨fired, hfired, hok answer hresult⟩

end Desk

end StageStock
