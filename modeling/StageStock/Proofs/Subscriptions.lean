import Mathlib.Data.List.Induction
import Mathlib.Data.List.Nodup
import Mathlib.Tactic.Lemma
import StageStock.Notifier

/-!
Which subscription a handle ends.

Whoever begins to listen is given a handle by which to end that subscription. A notifier keeps no
handles: what it ends is the first subscription of the same listener to the same topic. As long as
every handle is used for what it was given for, nobody can tell the difference, since equal
subscriptions are told the same. A handle whose subscription has ended already is harmless too,
unless an equal one is still there: that one is ended in its place, and its listener misses what it
still should be told.

* `Event.nodup_topics`: no listener is told an event twice for one topic;
* `Notifier.served`: the subscriptions that an event is told to;
* `Audience.step`: the moves of those who use a notifier, with all handles that were given out;
* `Audience.Exact.step_iff`: one move keeps notifier and handles in agreement unless it misfires;
* `Audience.tellsExactly_iff`: a row of moves in which each event is told as often as the handles
  say.
-/

namespace StageStock

/-! ### The topics of an event -/

namespace Event

variable {n k : Int} {ns : List Int}

lemma mem_insertOnce : k ∈ insertOnce n ns ↔ k = n ∨ k ∈ ns := by
  induction ns with
  | nil => simp [insertOnce]
  | cons m rest ih =>
      rw [insertOnce]
      split
      · simp
      · split
        · rename_i hsame
          simp [hsame]
        · rw [List.mem_cons, ih, List.mem_cons, or_left_comm]

lemma pairwise_insertOnce (h : ns.Pairwise (· < ·)) : (insertOnce n ns).Pairwise (· < ·) := by
  induction ns with
  | nil => exact List.pairwise_singleton _ _
  | cons m rest ih =>
      obtain ⟨hm, hrest⟩ := List.pairwise_cons.1 h
      rw [insertOnce]
      split
      · rename_i hlt
        refine List.pairwise_cons.2 ⟨fun k hk => ?_, h⟩
        rcases List.mem_cons.1 hk with rfl | hk
        · exact hlt
        · exact Int.lt_trans hlt (hm k hk)
      · split
        · exact h
        · refine List.pairwise_cons.2 ⟨fun k hk => ?_, ih hrest⟩
          rcases mem_insertOnce.1 hk with rfl | hk
          · omega
          · exact hm k hk

/-- The shows of an event are in ascending order, each of them once. -/
lemma pairwise_ascending (ns : List Int) : (ascending ns).Pairwise (· < ·) := by
  induction ns with
  | nil => exact List.Pairwise.nil
  | cons n rest ih => exact pairwise_insertOnce ih

/-- No topic is told an event twice. -/
theorem nodup_topics (equipment : Int) (showIds : List Int) (action : String) (version : Int) :
    (ofChange equipment showIds action version).topics.Nodup := by
  have hshows : (ascending showIds).Nodup := (pairwise_ascending showIds).imp Int.ne_of_lt
  refine List.nodup_cons.2 ⟨by simp, hshows.map fun n m hsame => ?_⟩
  injection hsame

end Event

/-! ### Who is told -/

namespace Notifier

/-- The subscriptions that an event is told to, in order. -/
def served (n : Notifier) (e : Event) : List Subscription :=
  e.topics.flatMap fun topic => n.subscriptions.filter fun s => s.topic = topic

lemma told_publish (n : Notifier) (e : Event) :
    (n.publish e).told = (n.served e).map Subscription.listener := by
  rw [publish, targets, served, List.map_flatMap]
  rfl

/-- A subscription is told an event of its topic as often as it is there, and no other event. -/
lemma count_served (n : Notifier) {e : Event} (nodup : e.topics.Nodup) (s : Subscription) :
    (n.served e).count s = if s.topic ∈ e.topics then n.subscriptions.count s else 0 := by
  rw [served]
  generalize e.topics = topics at nodup
  induction topics with
  | nil => simp
  | cons topic rest ih =>
      obtain ⟨hnew, hrest⟩ := List.nodup_cons.1 nodup
      rw [List.flatMap_cons, List.count_append, ih hrest]
      by_cases htopic : s.topic = topic
      · have hother : s.topic ∉ rest := fun hmem => hnew (htopic ▸ hmem)
        rw [List.count_filter (by simpa using htopic), if_neg hother, if_pos (by simp [htopic]),
          Nat.add_zero]
      · have hnone : s ∉ n.subscriptions.filter fun s => s.topic = topic := by
          simp [htopic]
        rw [List.count_eq_zero.2 hnone, Nat.zero_add]
        simp [htopic]

end Notifier

/-! ### Handles -/

/-- The handle of a subscription, with whether it still stands: it was neither used nor given out
before everything was cleared. -/
structure Handle where
  subscription : Subscription
  isLive : Bool := true
  deriving DecidableEq, Repr

/-- A notifier with all handles that were given out for it, in order. -/
structure Audience where
  notifier : Notifier := {}
  handles : List Handle := []
  deriving DecidableEq, Repr

namespace Audience

/-- What users of a notifier do. Handles are counted from zero. -/
inductive Move where
  | subscribe (kind : String) (id : Int) (listener : Listener)
  | unsubscribe (handle : Nat)
  | clear
  | publish (equipment : Int) (showIds : List Int) (action : String) (version : Int)

/-- One move. Whoever asks for a topic of an unknown kind is given no handle. -/
def step (a : Audience) : Move → Audience
  | .subscribe kind id listener =>
    match Topic.ofKind? kind id with
    | .error _ => a
    | .ok topic =>
      let s : Subscription := { topic, listener }
      { notifier := a.notifier.subscribe s, handles := a.handles ++ [{ subscription := s }] }
  | .unsubscribe handle =>
    match a.handles[handle]? with
    | none => a
    | some h =>
      { notifier := a.notifier.unsubscribe h.subscription
        handles := a.handles.set handle { h with isLive := false } }
  | .clear =>
    { notifier := a.notifier.clear
      handles := a.handles.map fun h => { h with isLive := false } }
  | .publish .. => a

/-- What moves make of a notifier that nobody has used yet. -/
def after (moves : List Move) : Audience :=
  moves.foldl step {}

lemma after_concat (moves : List Move) (m : Move) :
    after (moves ++ [m]) = (after moves).step m := by
  rw [after, List.foldl_append]
  rfl

/-- How many handles stand for a subscription. -/
def live (a : Audience) (s : Subscription) : Nat :=
  a.handles.countP fun h => h.isLive && h.subscription = s

/-- A handle misfires if it does not stand any more, but one for an equal subscription does. -/
def Misfires (a : Audience) (handle : Nat) : Prop :=
  ∃ h, a.handles[handle]? = some h ∧ h.isLive = false ∧ 0 < a.live h.subscription

/-- Each subscription is there as often as handles stand for it. -/
def Exact (a : Audience) : Prop :=
  ∀ s, a.notifier.subscriptions.count s = a.live s

/-- No subscription is there more often than handles stand for it. -/
def Bounded (a : Audience) : Prop :=
  ∀ s, a.notifier.subscriptions.count s ≤ a.live s

/-- Whatever is told, it is told to every subscription of its topics as often as handles stand for
that, and to no other subscription. -/
def TellsExactly (a : Audience) : Prop :=
  ∀ equipment showIds action version s,
    let e := Event.ofChange equipment showIds action version
    (a.notifier.served e).count s = if s.topic ∈ e.topics then a.live s else 0

variable {a : Audience} {handle : Nat} {h : Handle}

/-! ### One move -/

lemma count_subscribe (n : Notifier) (q s : Subscription) :
    (n.subscribe q).subscriptions.count s
      = n.subscriptions.count s + if q = s then 1 else 0 := by
  simp [Notifier.subscribe, List.count_append, List.count_singleton]

lemma count_unsubscribe (n : Notifier) (q s : Subscription) :
    (n.unsubscribe q).subscriptions.count s
      = n.subscriptions.count s - if q = s then 1 else 0 := by
  simp [Notifier.unsubscribe, List.count_erase]

lemma live_append (n : Notifier) (q s : Subscription) :
    live { notifier := n, handles := a.handles ++ [{ subscription := q }] } s
      = a.live s + if q = s then 1 else 0 := by
  simp [live, List.countP_append, List.countP_singleton]

/-- A handle that is used stands no more. -/
lemma live_set (found : a.handles[handle]? = some h) (n : Notifier) (s : Subscription) :
    live { notifier := n, handles := a.handles.set handle { h with isLive := false } } s
      = a.live s - if h.isLive = true ∧ h.subscription = s then 1 else 0 := by
  obtain ⟨hlt, hget⟩ := List.getElem?_eq_some_iff.1 found
  simp [live, List.countP_set, hlt, hget]

lemma live_cleared (n : Notifier) (s : Subscription) :
    live { notifier := n, handles := a.handles.map fun h => { h with isLive := false } } s = 0 := by
  simp [live]

/-- What a move does to the number of times that each subscription is there, and to the number of
handles that stand for it. -/
inductive Shifts (a b : Audience) : Move → Prop where
  | none {m : Move} (same : b = a)
      (unknown : ∀ handle, m = .unsubscribe handle → a.handles[handle]? = Option.none) :
      Shifts a b m
  | begun {m : Move} (q : Subscription) (other : ∀ handle, m ≠ .unsubscribe handle)
      (count : ∀ s, b.notifier.subscriptions.count s
        = a.notifier.subscriptions.count s + if q = s then 1 else 0)
      (live : ∀ s, b.live s = a.live s + if q = s then 1 else 0) : Shifts a b m
  | ended (handle : Nat) (h : Handle) (found : a.handles[handle]? = some h)
      (count : ∀ s, b.notifier.subscriptions.count s
        = a.notifier.subscriptions.count s - if h.subscription = s then 1 else 0)
      (live : ∀ s, b.live s
        = a.live s - if h.isLive = true ∧ h.subscription = s then 1 else 0) :
      Shifts a b (.unsubscribe handle)
  | cleared (count : ∀ s, b.notifier.subscriptions.count s = 0) (live : ∀ s, b.live s = 0) :
      Shifts a b .clear

lemma shifts_step (a : Audience) (m : Move) : Shifts a (a.step m) m := by
  cases m with
  | subscribe kind id listener =>
      rw [step]
      cases Topic.ofKind? kind id with
      | error e => exact .none rfl nofun
      | ok topic => exact .begun _ nofun (count_subscribe _ _) (live_append _ _)
  | unsubscribe handle =>
      rw [step]
      cases hfound : a.handles[handle]? with
      | none =>
          refine .none rfl fun other hsame => ?_
          cases hsame
          exact hfound
      | some h => exact .ended handle h hfound (count_unsubscribe _ _) (live_set hfound _)
  | clear => exact .cleared (fun _ => rfl) (live_cleared _)
  | publish equipment showIds action version => exact .none rfl nofun

/-- Whatever is done, no subscription comes to be there more often than handles stand for it. -/
lemma Bounded.step (bounded : a.Bounded) (m : Move) : (a.step m).Bounded := by
  intro s
  have hs := bounded s
  cases a.shifts_step m with
  | none same unknown => rw [same]; exact hs
  | begun q other count live => rw [count, live]; omega
  | ended handle h found count live =>
      rw [count, live]
      split
      · split <;> omega
      · rw [if_neg (by rintro ⟨-, hsame⟩; contradiction)]
        exact hs
  | cleared count live => exact Nat.le_trans (Nat.le_of_eq (count s)) (Nat.zero_le _)

/-- A move that does not misfire keeps notifier and handles in agreement, and only such a move
does. -/
lemma Exact.step_iff (exact : a.Exact) (m : Move) :
    (a.step m).Exact ↔ ∀ handle, m = .unsubscribe handle → ¬ a.Misfires handle := by
  cases a.shifts_step m with
  | none same unknown =>
      rw [same]
      refine iff_of_true exact ?_
      rintro handle hm ⟨h, hfound, -⟩
      rw [unknown handle hm] at hfound
      cases hfound
  | begun q other count live =>
      refine iff_of_true (fun s => ?_) fun handle hm => absurd hm (other handle)
      rw [count, live, exact s]
  | cleared count live =>
      exact iff_of_true (fun s => by rw [count, live]) nofun
  | ended handle h found count live =>
      have hmisfires : a.Misfires handle ↔ h.isLive = false ∧ 0 < a.live h.subscription := by
        rw [Misfires, found]
        simp
      constructor
      · rintro hexact other hsame hmis
        cases hsame
        obtain ⟨hended, hstanding⟩ := hmisfires.1 hmis
        have hcount := hexact h.subscription
        rw [count, live, exact, hended, if_pos rfl, if_neg (by simp)] at hcount
        omega
      · intro hsafe s
        have hnot := mt hmisfires.2 (hsafe handle rfl)
        rw [count, live, exact]
        by_cases hs : h.subscription = s
        · subst hs
          cases hlive : h.isLive with
          | true => simp
          | false =>
              have hzero : a.live h.subscription = 0 :=
                Nat.eq_zero_of_not_pos fun hpos => hnot ⟨hlive, hpos⟩
              simp [hzero]
        · rw [if_neg hs, if_neg fun hboth => hs hboth.2]

/-- Notifier and handles agree exactly if every event is told as the handles say. -/
lemma tellsExactly_iff_exact : a.TellsExactly ↔ a.Exact := by
  constructor
  · intro htells s
    obtain ⟨topic, listener⟩ := s
    -- an event that has the topic of the subscription
    cases topic with
    | equipment id =>
        have htold := htells id [] "" 0 ⟨.equipment id, listener⟩
        have hmem : Topic.equipment id ∈ (Event.ofChange id [] "" 0).topics :=
          List.mem_cons_self
        simpa [Notifier.count_served _ (Event.nodup_topics _ _ _ _), hmem] using htold
    | «show» id =>
        have htold := htells 0 [id] "" 0 ⟨.show id, listener⟩
        have hmem : Topic.show id ∈ (Event.ofChange 0 [id] "" 0).topics := by
          simp [Event.topics, Event.ofChange, Event.ascending, Event.insertOnce]
        simpa [Notifier.count_served _ (Event.nodup_topics _ _ _ _), hmem] using htold
  · intro hexact equipment showIds action version s
    simp only
    rw [Notifier.count_served _ (Event.nodup_topics _ _ _ _), hexact s]

/-! ### Rows of moves -/

lemma bounded_after (moves : List Move) : (after moves).Bounded := by
  induction moves using List.reverseRecOn with
  | nil => exact fun s => Nat.le_refl 0
  | append_singleton front m ih =>
      rw [after_concat]
      exact ih.step m

/-- In a row of moves in which none misfires, notifier and handles agree at the end. -/
lemma exact_after {moves : List Move}
    (safe : ∀ front handle rest, moves = front ++ .unsubscribe handle :: rest →
      ¬ (after front).Misfires handle) : (after moves).Exact := by
  induction moves using List.reverseRecOn with
  | nil => exact fun s => rfl
  | append_singleton front m ih =>
      have hfront : (after front).Exact := by
        refine ih fun before handle rest hsplit => safe before handle (rest ++ [m]) ?_
        rw [hsplit, List.append_assoc, List.cons_append]
      rw [after_concat]
      refine (hfront.step_iff m).2 fun handle hm => safe front handle [] ?_
      rw [hm]

/-- Whatever moves are made: those who are told an event are the listeners of the subscriptions that
it is told to, and no subscription is told it more often than handles stand for it. It is told every
event of its topic exactly that often, at every moment, if and only if no handle misfires: none is
used after it has been used before or everything was cleared, while a handle for an equal
subscription still stands. -/
theorem tellsExactly_iff (moves : List Move) :
    (∀ equipment showIds action version,
        let n := (after moves).notifier
        let e := Event.ofChange equipment showIds action version
        (n.publish e).told = (n.served e).map Subscription.listener
          ∧ ∀ s, (n.served e).count s ≤ (after moves).live s)
      ∧ ((∀ front rest, moves = front ++ rest → (after front).TellsExactly)
        ↔ ∀ front handle rest, moves = front ++ .unsubscribe handle :: rest →
          ¬ (after front).Misfires handle) := by
  refine ⟨fun equipment showIds action version => ⟨Notifier.told_publish _ _, fun s => ?_⟩, ?_, ?_⟩
  · have hbounded := bounded_after moves s
    rw [Notifier.count_served _ (Event.nodup_topics _ _ _ _)]
    split <;> omega
  · intro htells front handle rest hsplit
    have hfront : (after front).Exact := tellsExactly_iff_exact.1 (htells front _ hsplit)
    have hnext : (after (front ++ [.unsubscribe handle])).Exact := by
      refine tellsExactly_iff_exact.1 (htells _ rest ?_)
      rw [hsplit, List.append_assoc, List.singleton_append]
    rw [after_concat] at hnext
    exact (hfront.step_iff _).1 hnext handle rfl
  · intro hsafe front rest hsplit
    refine tellsExactly_iff_exact.2 (exact_after fun before handle middle hmiddle => ?_)
    refine hsafe before handle (middle ++ rest) ?_
    rw [hsplit, hmiddle, List.append_assoc, List.cons_append]

/-- A board that shows one equipment. -/
def board : Listener :=
  { name := "Board" }

/-- The board listens to the first equipment twice, and the first of its handles is used twice. -/
def usedTwice : List Move :=
  [.subscribe "equipment" 1 board, .subscribe "equipment" 1 board, .unsubscribe 0, .unsubscribe 0]

/-- The board listens to the first equipment, everything is cleared, and it listens again. Then the
handle from before is used. -/
def usedAfterClear : List Move :=
  [.subscribe "equipment" 1 board, .clear, .subscribe "equipment" 1 board, .unsubscribe 0]

lemma not_tellsExactly_of_live {s : Subscription} (live : a.live s = 1)
    (gone : a.notifier = {}) : ¬ a.TellsExactly := by
  intro htells
  have hexact := tellsExactly_iff_exact.1 htells s
  rw [live, gone] at hexact
  cases hexact

/-- Both times one subscription stands whose handle was not used, and the board is not told. -/
theorem not_tellsExactly_usedTwice_usedAfterClear :
    ((after usedTwice).live ⟨.equipment 1, board⟩ = 1
      ∧ ((after usedTwice).notifier.publish (Event.ofChange 1 [] "EditTotalQuantity" 1)).told = []
      ∧ ¬ (after usedTwice).TellsExactly)
    ∧ (after usedAfterClear).live ⟨.equipment 1, board⟩ = 1
      ∧ ((after usedAfterClear).notifier.publish
          (Event.ofChange 1 [] "EditTotalQuantity" 1)).told = []
      ∧ ¬ (after usedAfterClear).TellsExactly := by
  have htwice : (after usedTwice).live ⟨.equipment 1, board⟩ = 1
      ∧ (after usedTwice).notifier = {} := by
    decide
  have hclear : (after usedAfterClear).live ⟨.equipment 1, board⟩ = 1
      ∧ (after usedAfterClear).notifier = {} := by
    decide
  refine ⟨⟨htwice.1, ?_, not_tellsExactly_of_live htwice.1 htwice.2⟩,
    hclear.1, ?_, not_tellsExactly_of_live hclear.1 hclear.2⟩
  · rw [htwice.2]
    rfl
  · rw [hclear.2]
    rfl

end Audience

end StageStock
