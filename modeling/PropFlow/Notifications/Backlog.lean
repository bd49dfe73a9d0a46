import PropFlow.Notifications.NothingLost
import Mathlib.Data.Set.Finite.Basic

/-!
# Working off the queues

`NothingLost` says where an event can be.  Here it is shown that it need not stay there:
whatever the process and the broker have come to, deliveries whose sends succeed
settle every event, so that its notification has been sent, unless its attempts have
run out and it is in its dead-letter queue (`Settled`).

## The argument

* An event that waits in its retry queue expires there, one that a delivery keeps is
  requeued when the consumer is lost, and one that is ready is delivered
  (`Working.exists_settled`).
* It is delivered to a process that still has a number for the delivery: only finitely
  many are in use (`finite_busy`).
* What is settled stays settled (`Settled.step`), so the events can be settled one after
  another (`Working.exists_settled_all`).

Only such actions are used as are no fault and bring nothing new
(`NotificationsAction.Handles`), so no event enters meanwhile, and at the end all are
settled (`Working.exists_workedOff`).
-/

namespace PropFlow

open Library

/-- Messages expire or are requeued, and are delivered, and sends succeed. -/
def NotificationsAction.Handles : NotificationsAction → Prop
  | .deliver _ _ _ | .sendOk _ | .expire _ _ | .redeliver _ => True
  | .arrive _ | .mark _ | .sendFail _ _ | .accept _ | .publishOk _ | .publishFail _ | .settle _
  | .crash => False

/-- The notification of the event has been sent, or is up to a human. -/
def Settled (s : NotificationsState) (queue : WorkQueue) (event : WorkOrderEvent) : Prop :=
  Notified s queue event ∨ InQueue s queue event .deadLetter

section

variable {s s' : NotificationsState} {a : NotificationsAction} {queue : WorkQueue}
  {event : WorkOrderEvent}

/-! ## Settled is settled -/

/-- Nothing takes a message from a dead-letter queue. -/
theorem mem_deadLetter_of_effect (effect : DeliveryEffect s a s') {id : QueueId}
    (deadLetter : id.stage = .deadLetter) {m : QueuedMessage} (member : m ∈ s.ready id) :
    m ∈ s'.ready id := by
  have routed : ∀ {t : NotificationsState} {ids message}, m ∈ t.ready id →
      m ∈ (t.enqueue ids message).ready id :=
    fun before => mem_ready_enqueue.mpr (Or.inl before)
  cases effect with
  | @delivered d queue' message =>
      rcases mem_ready_dequeue message ⟨.work, queue'⟩ member with stays | ⟨rfl, -⟩
      · exact stays
      · cases deadLetter
  | @expired queue' message =>
      rcases mem_ready_dequeue message ⟨.retry, queue'⟩ member with stays | ⟨rfl, -⟩
      · exact routed stays
      · cases deadLetter
  | arrived => exact routed member
  | accepted => exact routed member
  | requeued => exact routed member
  | redelivered => exact routed member
  | _ => exact member

/-- What has been sent has been sent, and nothing leaves a dead-letter queue. -/
theorem Settled.step (settled : Settled s queue event)
    (moved : notifications.step s a = some s') : Settled s' queue event := by
  have effect := deliveryEffect_of_step moved
  refine settled.imp (mem_history_of_effect effect) ?_
  rintro ⟨m, member, same⟩
  exact ⟨m, mem_deadLetter_of_effect effect rfl member, same⟩

/-! ## Numbers for deliveries -/

/-- The number is in use, by a delivery or by a publish that is not accepted yet. -/
def Busy (s : NotificationsState) (d : DeliveryId) : Prop :=
  s.deliveries d ≠ none ∨ s.outstanding d ≠ none

/-- An action concerns one delivery at most, unless it is a crash. -/
theorem finite_concerns (notCrash : a ≠ .crash) : {d | a.Concerns d}.Finite := by
  cases a with
  | crash => exact absurd rfl notCrash
  | _ => simp [NotificationsAction.Concerns]

/-- Only finitely many numbers are in use. -/
theorem finite_busy (reached : notifications.Reachable .initial s) : {d | Busy s d}.Finite := by
  refine Machine.Reachable.invariant notifications (I := fun s => {d | Busy s d}.Finite)
    (fun {s s' a} finite moved => ?_) (by simp [Busy, NotificationsState.initial]) reached
  have effect := deliveryEffect_of_step moved
  by_cases crash : a = .crash
  · subst crash
    cases effect
    refine finite.subset fun d busy => busy.imp_left fun held none_ => held ?_
    show (s.deliveries d).map _ = none
    rw [none_]
    rfl
  · refine (finite.union (finite_concerns crash)).subset fun d busy => ?_
    by_cases concerns : a.Concerns d
    · exact Or.inr concerns
    · obtain ⟨deliveries, outstanding⟩ := effect.frame concerns
      unfold Busy at busy
      rw [Set.mem_ofPred_eq, deliveries, outstanding] at busy
      exact Or.inl busy

/-- So there is a number for another delivery. -/
theorem exists_idle (reached : notifications.Reachable .initial s) :
    ∃ d, s.deliveries d = none ∧ s.outstanding d = none := by
  obtain ⟨d, idle⟩ := (finite_busy reached).infinite_compl.nonempty
  obtain ⟨deliveries, outstanding⟩ := not_or.mp idle
  exact ⟨d, not_not.mp deliveries, not_not.mp outstanding⟩

/-! ## Every event can be settled -/

/-- The event that has entered. -/
def Happening.entered? : Happening → Option WorkOrderEvent
  | .entered event => some event
  | .checked _ | .sent _ _ | .marked _ => none

/-- The entries that are arrivals. -/
theorem Happening.entered?_eq_some {happening : Happening} :
    happening.entered? = some event ↔ happening = .entered event := by
  cases happening <;> simp [entered?]

/-- Events enter by arriving. -/
theorem entered_iff_of_step (notArrival : ∀ arriving, a ≠ .arrive arriving)
    (moved : notifications.step s a = some s') : Entered s' event ↔ Entered s event := by
  have recorded : ∀ {t : NotificationsState} {h : Happening}, t.history = s.history →
      h ≠ .entered event → (Entered (t.record h) event ↔ Entered s event) := by
    intro t h same other
    unfold Entered NotificationsState.record
    rw [same, List.mem_append, List.mem_singleton, or_iff_left other.symm]
  cases deliveryEffect_of_step moved with
  | arrived => exact absurd rfl (notArrival _)
  | unrouted => exact absurd rfl (notArrival _)
  | delivered => exact recorded rfl (by simp)
  | sent => exact recorded rfl (by simp)
  | marked => exact recorded rfl (by simp)
  | _ => exact Iff.rfl

/-- What is true before and after anything is handled. -/
structure Working (s : NotificationsState) : Prop where
  /-- The state is one of a run, with whatever failures before. -/
  reached : notifications.Reachable .initial s
  /-- Each event has an id of its own. -/
  unique : UniqueEventIds s

namespace Working

/-- Nothing has been lost so far. -/
theorem conserved (working : Working s) : Conserved s :=
  Machine.Reachable.invariant notifications (fun conserved moved => conserved.step moved)
    Conserved.initial working.reached

/-- No event enters while the queues are worked off. -/
theorem entered_iff (handles : a.Handles) (moved : notifications.step s a = some s') :
    Entered s' event ↔ Entered s event := by
  refine entered_iff_of_step ?_ moved
  rintro arriving rfl
  exact handles

/-- Every step of the work keeps it, -/
theorem step (working : Working s) (handles : a.Handles)
    (moved : notifications.step s a = some s') : Working s' where
  reached := working.reached.step notifications moved
  unique := by
    intro event event' entered entered'
    rw [entered_iff handles moved] at entered entered'
    exact working.unique event event' entered entered'

/-- An event that is ready can be delivered, and its send can succeed. -/
theorem exists_notified (working : Working s) (here : InQueue s queue event .work) :
    ∃ t, notifications.ReachableBy NotificationsAction.Handles s t ∧ Notified t queue event := by
  obtain ⟨m, member, rfl⟩ := here
  have conserved := working.conserved
  by_cases duplicate : s.store.has m.event.eventId = true
  · exact ⟨s, notifications.reachableBy_refl _ s, conserved.sentFirst.notified_of_has
      working.unique (conserved.sorted.ready member) duplicate⟩
  · obtain ⟨d, fresh, idle⟩ := exists_idle working.reached
    have delivered : notifications.step s (.deliver d queue m) = some (s.deliver d queue m) :=
      if_pos ⟨fresh, idle, member⟩
    have held : (s.deliver d queue m).deliveries d =
        some { queue, message := m, phase := .sending, live := true } := by
      unfold NotificationsState.deliver
      rw [if_neg duplicate]
      exact Function.update_self _ _ _
    obtain ⟨t, sent, notified⟩ : ∃ t, notifications.step (s.deliver d queue m) (.sendOk d) =
        some t ∧ Notified t queue m.event :=
      ⟨_, NotificationsState.onDelivery_eq_some.mpr ⟨_, held, rfl, rfl⟩,
        List.mem_append_right _ List.mem_cons_self⟩
    have handled : ∀ a ∈ [NotificationsAction.deliver d queue m, .sendOk d], a.Handles := by
      simp [NotificationsAction.Handles]
    refine ⟨t, ⟨_, handled, ?_⟩, notified⟩
    rw [Machine.run_cons, delivered, Option.bind_some, Machine.run_singleton, sent]

/-- Wherever an event is, it can be settled. -/
theorem exists_settled (working : Working s) (known : Known s queue event) :
    ∃ t, notifications.ReachableBy NotificationsAction.Handles s t ∧ Settled t queue event := by
  -- an event that is requeued is settled like one that was ready
  have requeued : ∀ {a : NotificationsAction} {t : NotificationsState}, a.Handles →
      notifications.step s a = some t → InQueue t queue event .work →
        ∃ t, notifications.ReachableBy NotificationsAction.Handles s t ∧
          Settled t queue event := by
    intro a t handles moved here
    obtain ⟨t', later, notified⟩ := (working.step handles moved).exists_notified here
    exact ⟨t', .head notifications handles moved later, Or.inl notified⟩
  rcases (working.conserved.nothingLost working.unique).kept queue event known.type_eq
    known.entered with ready | unacknowledged | waiting | deadLetter | notified
  · obtain ⟨t, reached, notified⟩ := working.exists_notified ready
    exact ⟨t, reached, Or.inl notified⟩
  · obtain ⟨d, delivery, held, live, rfl, rfl⟩ := unacknowledged
    have redelivers : NotificationsAction.Handles (.redeliver d) := trivial
    exact requeued redelivers (NotificationsState.onDelivery_eq_some.mpr ⟨_, held, live, rfl⟩)
      ⟨delivery.message, mem_ready_enqueue.mpr (Or.inr ⟨List.mem_cons_self, rfl⟩), rfl⟩
  · obtain ⟨m, member, rfl⟩ := waiting
    have expires : NotificationsAction.Handles (.expire ⟨.retry, queue⟩ m) := trivial
    refine requeued expires ((if_pos member).trans rfl)
      ⟨m, mem_ready_enqueue.mpr (Or.inr ⟨?_, rfl⟩), rfl⟩
    exact route_expired queue ▸ List.mem_cons_self
  · exact ⟨s, notifications.reachableBy_refl _ s, Or.inr deadLetter⟩
  · exact ⟨s, notifications.reachableBy_refl _ s, Or.inl notified⟩

/-- and so does all of it. -/
theorem run (working : Working s) {t : NotificationsState}
    (reached : notifications.ReachableBy NotificationsAction.Handles s t) : Working t :=
  reached.invariant notifications (fun working handles moved => working.step handles moved) working

/-- One event after another. -/
theorem exists_settled_all (working : Working s) (events : List WorkOrderEvent)
    (entered : ∀ event ∈ events, Entered s event) :
    ∃ t, notifications.ReachableBy NotificationsAction.Handles s t ∧
      ∀ event ∈ events, ∀ queue, queue.eventType = event.type → Settled t queue event := by
  induction events generalizing s with
  | nil => exact ⟨s, notifications.reachableBy_refl _ s, fun _ member => nomatch member⟩
  | cons event rest ih =>
      obtain ⟨t, near, settled⟩ : ∃ t, notifications.ReachableBy NotificationsAction.Handles s t ∧
          ∀ queue, queue.eventType = event.type → Settled t queue event := by
        by_cases subscribed : ∃ queue : WorkQueue, queue.eventType = event.type
        · obtain ⟨queue, type⟩ := subscribed
          obtain ⟨t, near, settled⟩ :=
            working.exists_settled ⟨type, entered event List.mem_cons_self⟩
          refine ⟨t, near, fun queue' type' => ?_⟩
          rwa [WorkQueue.eventType_injective (type'.trans type.symm)]
        · exact ⟨s, notifications.reachableBy_refl _ s, fun queue type =>
            absurd ⟨queue, type⟩ subscribed⟩
      have still : ∀ other ∈ rest, Entered t other := fun other member =>
        near.invariant notifications (I := fun s => Entered s other)
          (fun before _ moved => mem_history_of_effect (deliveryEffect_of_step moved) before)
          (entered other (List.mem_cons_of_mem event member))
      obtain ⟨t', far, settled'⟩ := ih (working.run near) still
      refine ⟨t', near.trans notifications far, List.forall_mem_cons.mpr ⟨?_, settled'⟩⟩
      intro queue type
      exact far.invariant notifications (I := fun s => Settled s queue event)
        (fun before _ moved => before.step moved) (settled queue type)

/-- **The queues can be worked off.** -/
theorem exists_workedOff (working : Working s) :
    ∃ t, notifications.ReachableBy NotificationsAction.Handles s t ∧
      ∀ queue event, queue.eventType = event.type → Entered s event → Settled t queue event := by
  obtain ⟨t, reached, settled⟩ := working.exists_settled_all
    (s.history.filterMap Happening.entered?) fun event member => by
      obtain ⟨happening, here, isEvent⟩ := List.mem_filterMap.mp member
      rwa [Happening.entered?_eq_some.mp isEvent] at here
  refine ⟨t, reached, fun queue event type entered => settled event ?_ queue type⟩
  exact List.mem_filterMap.mpr ⟨_, entered, rfl⟩

end Working

end

end PropFlow
