import PropFlow.Notifications.Consumer

/-!
# No notification is lost

A delivery is always acknowledged in the end, so what keeps its event is never
the delivery alone: it is the copy that was accepted before, or a send that has
succeeded.

## The invariant

It makes that precise, in three layers.

* `Sorted` — whatever is in a queue or a delivery is an event that has entered, and
  belongs to that queue.
* `SentFirst` — what is marked has been sent.  That a skipped duplicate owes nothing rests
  on the order in `notifyCreated`: an event is marked after it has been sent.
* `Safe` — an event is safe if it is ready in one of its queues, or has been sent, or is
  held by a live delivery that still owes it; and a delivery owes its event until it has
  resolved, or the broker has accepted the copy it published (`Owes`).

`Safe.step` follows an event through every action: through an acknowledgement, which
ends a delivery that owes nothing, and through a crash, after which the broker still has
what was not acknowledged.

## The result

`Conserved` puts the layers together for all events that have entered, and
`nothingLost_of_reachable` reads off it where an event can be.  Event ids are supposed to
be unique, as they are where the outbox draws them: the store tells events apart by
nothing else.
-/

namespace PropFlow

open Library

section

variable (s : NotificationsState) (queue : WorkQueue) (event : WorkOrderEvent)

/-- The event has reached its work queue. -/
def Entered : Prop := Happening.entered event ∈ s.history

/-- The notification of the event has been sent. -/
def Notified : Prop :=
  Happening.sent event (WorkOrderEventsConsumer.notification queue event) ∈ s.history

/-- The event is ready in a queue. -/
def InQueue (stage : Stage) : Prop := ∃ m ∈ s.ready ⟨stage, queue⟩, m.event = event

/-- The event has been delivered from its work queue, and the broker waits for the
acknowledgement. -/
def Unacknowledged : Prop :=
  ∃ d delivery, s.deliveries d = some delivery ∧ delivery.live = true ∧ delivery.queue = queue ∧
    delivery.message.event = event

/-- Equal event ids are equal events. -/
def UniqueEventIds : Prop :=
  ∀ event event', Entered s event → Entered s event' → event.eventId = event'.eventId →
    event = event'

end

/-- **Nothing is lost.** -/
structure NothingLost (s : NotificationsState) : Prop where
  /-- An event that has entered its work queue is in it, ready or unacknowledged,
  in its retry queue, in its dead-letter queue, or has been sent. -/
  kept : ∀ queue event, queue.eventType = event.type → Entered s event →
    InQueue s queue event .work ∨ Unacknowledged s queue event ∨ InQueue s queue event .retry ∨
      InQueue s queue event .deadLetter ∨ Notified s queue event
  /-- What is in the store has been sent. -/
  marked : ∀ eventId, s.store.has eventId = true →
    ∃ queue event, event.eventId = eventId ∧ Notified s queue event
  /-- What would be skipped as a duplicate has been sent. -/
  skipped : ∀ queue event, queue.eventType = event.type → Entered s event →
    s.store.has event.eventId = true → Notified s queue event

/-! ## Where messages come from -/

/-- The event belongs to the queue, and has entered it. -/
structure Known (s : NotificationsState) (queue : WorkQueue) (event : WorkOrderEvent) : Prop where
  /-- The queue is bound to its type. -/
  type_eq : queue.eventType = event.type
  /-- It has arrived there at some time. -/
  entered : Entered s event

/-- Every message is a copy of an event that has entered its queue, and has stayed
with that queue. -/
structure Sorted (s : NotificationsState) : Prop where
  /-- So it is of the messages in the queues, -/
  ready : ∀ {id m}, m ∈ s.ready id → Known s id.queue m.event
  /-- of those that have been delivered, -/
  held : ∀ {d delivery}, s.deliveries d = some delivery →
    Known s delivery.queue delivery.message.event
  /-- and of the copies that are on their way. -/
  copied : ∀ {d copy}, s.outstanding d = some copy → ∃ stage queue,
    route copy.exchange copy.routingKey = [⟨stage, queue⟩] ∧ Known s queue copy.message.event
  /-- A copy is of the event of its delivery. -/
  matched : ∀ {d copy delivery}, s.outstanding d = some copy → s.deliveries d = some delivery →
    ∃ stage, route copy.exchange copy.routingKey = [⟨stage, delivery.queue⟩] ∧
      copy.message.event = delivery.message.event

variable {s s' : NotificationsState} {a : NotificationsAction} {queue : WorkQueue}
  {event : WorkOrderEvent}

/-- What is ready after a message was added to some queues, -/
theorem mem_ready_enqueue {ids : List QueueId} {message m : QueuedMessage} {id : QueueId} :
    m ∈ (s.enqueue ids message).ready id ↔ m ∈ s.ready id ∨ (id ∈ ids ∧ m = message) := by
  show m ∈ (if id ∈ ids then s.ready id ++ [message] else s.ready id) ↔ _
  split_ifs with routed
  · simp [routed]
  · simp [routed]

/-- and what is left after one was taken. -/
theorem mem_ready_of_dequeue {message m : QueuedMessage} {id id' : QueueId}
    (member : m ∈ (s.dequeue id message).ready id') : m ∈ s.ready id' := by
  change m ∈ Function.update s.ready id ((s.ready id).erase message) id' at member
  by_cases same : id' = id
  · subst same
    rw [Function.update_self] at member
    exact List.mem_of_mem_erase member
  · rwa [Function.update_of_ne same] at member

/-- A message that has left its queue is the one that was taken. -/
theorem mem_ready_dequeue (message : QueuedMessage) (id : QueueId) {m : QueuedMessage}
    {id' : QueueId} (member : m ∈ s.ready id') :
    m ∈ (s.dequeue id message).ready id' ∨ (id' = id ∧ m = message) := by
  show m ∈ Function.update s.ready id ((s.ready id).erase message) id' ∨ _
  by_cases same : id' = id
  · subst same
    rw [Function.update_self]
    by_cases taken : m = message
    · exact Or.inr ⟨rfl, taken⟩
    · exact Or.inl ((List.mem_erase_of_ne taken).mpr member)
  · rw [Function.update_of_ne same]
    exact Or.inl member

/-- An event stays known. -/
theorem Known.step (known : Known s queue event) (effect : DeliveryEffect s a s') :
    Known s' queue event :=
  ⟨known.type_eq, mem_history_of_effect effect known.entered⟩

namespace Sorted

/-- Nothing is anywhere at first. -/
theorem initial : Sorted .initial where
  ready := fun absent => nomatch absent
  held := fun absent => nomatch absent
  copied := fun absent => nomatch absent
  matched := fun absent => nomatch absent

/-- What is ready afterwards was ready before, or comes from where it was known. -/
theorem ready_step (sorted : Sorted s) (effect : DeliveryEffect s a s') {id : QueueId}
    {m : QueuedMessage} (member : m ∈ s'.ready id) : Known s' id.queue m.event := by
  have keeps : ∀ {queue event}, Known s queue event → Known s' queue event :=
    fun known => known.step effect
  have old : m ∈ s.ready id → Known s' id.queue m.event :=
    fun before => keeps (sorted.ready before)
  cases effect with
  | arrived type =>
      rcases mem_ready_enqueue.mp member with before | ⟨here, rfl⟩
      · exact old before
      · rw [List.mem_singleton.mp here]
        exact ⟨type, List.mem_append_right _ List.mem_cons_self⟩
  | delivered => exact old (mem_ready_of_dequeue member)
  | @accepted d copy sent =>
      rcases mem_ready_enqueue.mp member with before | ⟨here, rfl⟩
      · exact old before
      · obtain ⟨stage, queue, routed, known⟩ := sorted.copied sent
        rw [routed] at here
        rw [List.mem_singleton.mp here]
        exact keeps known
  | requeued held =>
      rcases mem_ready_enqueue.mp member with before | ⟨here, rfl⟩
      · exact old before
      · rw [List.mem_singleton.mp here]
        exact keeps (sorted.held held)
  | redelivered held =>
      rcases mem_ready_enqueue.mp member with before | ⟨here, rfl⟩
      · exact old before
      · rw [List.mem_singleton.mp here]
        exact keeps (sorted.held held)
  | expired taken =>
      rcases mem_ready_enqueue.mp member with before | ⟨here, rfl⟩
      · exact old (mem_ready_of_dequeue before)
      · have known := sorted.ready taken
        rw [List.mem_singleton.mp here]
        exact keeps known
  | sent => exact old member
  | marked => exact old member
  | unrouted => exact old member
  | publishing => exact old member
  | published => exact old member
  | unpublished => exact old member
  | acknowledged => exact old member
  | crashed => exact old member

end Sorted

/-- Where a delivery comes from: it was there, on the same message, or it is new.
Either way it is not waiting to be marked unless its event has been sent. -/
inductive DeliveryOrigin (s s' : NotificationsState) (d : DeliveryId) (delivery : Delivery) :
    Prop where
  /-- It was there, for the same message of the same queue. -/
  | earlier {before} (held : s.deliveries d = some before)
      (queue_eq : before.queue = delivery.queue) (message_eq : before.message = delivery.message)
      (sent : delivery.phase = .sent →
        before.phase = .sent ∨ Notified s' delivery.queue delivery.message.event)
  /-- It is new, of a message that was ready. -/
  | new (fresh : s.deliveries d = none) (idle : s.outstanding d = none)
      (member : delivery.message ∈ s.ready ⟨.work, delivery.queue⟩)
      (unsent : delivery.phase ≠ .sent)

/-- **Where a delivery comes from.** -/
theorem deliveryOrigin_of_effect (effect : DeliveryEffect s a s') {d : DeliveryId}
    {delivery : Delivery} (held : s'.deliveries d = some delivery) :
    DeliveryOrigin s s' d delivery := by
  have old : s.deliveries d = some delivery → DeliveryOrigin s s' d delivery :=
    fun before => .earlier before rfl rfl Or.inl
  cases effect with
  | delivered fresh idle member =>
      rcases update_some_eq_some.mp held with ⟨rfl, rfl⟩ | ⟨-, before⟩
      · refine .new fresh idle member ?_
        show (if s.store.has _ then HandlerPhase.resolved else .sending) ≠ .sent
        split_ifs
        · exact nofun
        · exact nofun
      · exact old before
  | sent here =>
      rcases update_some_eq_some.mp held with ⟨rfl, rfl⟩ | ⟨-, before⟩
      · refine .earlier here rfl rfl fun _ => Or.inr ?_
        exact List.mem_append_right _ List.mem_cons_self
      · exact old before
  | marked here =>
      rcases update_some_eq_some.mp held with ⟨rfl, rfl⟩ | ⟨-, before⟩
      · exact .earlier here rfl rfl nofun
      · exact old before
  | publishing here =>
      rcases update_some_eq_some.mp held with ⟨rfl, rfl⟩ | ⟨-, before⟩
      · exact .earlier here rfl rfl nofun
      · exact old before
  | published here =>
      rcases update_some_eq_some.mp held with ⟨rfl, rfl⟩ | ⟨-, before⟩
      · exact .earlier here rfl rfl nofun
      · exact old before
  | unpublished here =>
      rcases update_some_eq_some.mp held with ⟨rfl, rfl⟩ | ⟨-, before⟩
      · exact .earlier here rfl rfl nofun
      · exact old before
  | redelivered here =>
      rcases update_some_eq_some.mp held with ⟨rfl, rfl⟩ | ⟨-, before⟩
      · exact .earlier here rfl rfl Or.inl
      · exact old before
  | acknowledged => exact old (update_none_eq_some.mp held).2
  | requeued => exact old (update_none_eq_some.mp held).2
  | crashed =>
      obtain ⟨before, here, rfl⟩ := Option.map_eq_some_iff.mp held
      exact .earlier here rfl rfl nofun
  | arrived => exact old held
  | unrouted => exact old held
  | accepted => exact old held
  | expired => exact old held

/-- Where a publish comes from. -/
theorem outstanding_of_effect (effect : DeliveryEffect s a s') {d : DeliveryId} {copy : Publish}
    (sent : s'.outstanding d = some copy) :
    s.outstanding d = some copy ∨ ∃ delivery error, s.deliveries d = some delivery ∧
      copy = EventRetryHandler.republish delivery.queue delivery.message error := by
  cases effect with
  | publishing here =>
      rcases update_some_eq_some.mp sent with ⟨rfl, rfl⟩ | ⟨-, before⟩
      · exact Or.inr ⟨_, _, here, rfl⟩
      · exact Or.inl before
  | accepted => exact Or.inl (update_none_eq_some.mp sent).2
  | delivered => exact Or.inl sent
  | sent => exact Or.inl sent
  | marked => exact Or.inl sent
  | published => exact Or.inl sent
  | unpublished => exact Or.inl sent
  | redelivered => exact Or.inl sent
  | acknowledged => exact Or.inl sent
  | requeued => exact Or.inl sent
  | crashed => exact Or.inl sent
  | arrived => exact Or.inl sent
  | unrouted => exact Or.inl sent
  | expired => exact Or.inl sent

/-- Every step keeps it: no message is routed to another queue than its own. -/
theorem Sorted.step (sorted : Sorted s) (effect : DeliveryEffect s a s') : Sorted s' where
  ready := sorted.ready_step effect
  held := by
    intro d delivery held
    cases deliveryOrigin_of_effect effect held with
    | earlier here queue message =>
        rw [← queue, ← message]
        exact (sorted.held here).step effect
    | new _ _ member => exact (sorted.ready member).step effect
  copied := by
    intro d copy sent
    rcases outstanding_of_effect effect sent with before | ⟨delivery, error, held, rfl⟩
    · obtain ⟨stage, queue, routed, known⟩ := sorted.copied before
      exact ⟨stage, queue, routed, known.step effect⟩
    · obtain ⟨event, stage, -, routed⟩ :=
        EventRetryHandler.republish_spec delivery.queue delivery.message error
      exact ⟨stage, _, routed, event ▸ (sorted.held held).step effect⟩
  matched := by
    intro d copy delivery sent held
    cases deliveryOrigin_of_effect effect held with
    | @earlier before here queue message =>
        rw [← queue, ← message]
        rcases outstanding_of_effect effect sent with sent | ⟨delivery', error, here', rfl⟩
        · exact sorted.matched sent here
        · cases here.symm.trans here'
          obtain ⟨event, stage, -, routed⟩ :=
            EventRetryHandler.republish_spec before.queue before.message error
          exact ⟨stage, routed, event⟩
    | new fresh idle =>
        rcases outstanding_of_effect effect sent with sent | ⟨delivery', error, here', rfl⟩
        · rw [idle] at sent
          cases sent
        · rw [fresh] at here'
          cases here'

/-! ## What is marked has been sent -/

/-- What is about to be marked, and what has been, has been sent. -/
structure SentFirst (s : NotificationsState) : Prop where
  /-- Between `send` and `mark`, the event has been sent. -/
  marking : ∀ {d delivery}, s.deliveries d = some delivery → delivery.phase = .sent →
    Notified s delivery.queue delivery.message.event
  /-- An id in the store is the id of an event that has been sent. -/
  marked : ∀ {eventId}, eventId ∈ s.store.seen →
    ∃ queue event, event.eventId = eventId ∧ Known s queue event ∧ Notified s queue event

namespace SentFirst

/-- Nothing is marked at first. -/
theorem initial : SentFirst .initial where
  marking := fun absent => nomatch absent
  marked := fun absent => nomatch absent

/-- A delivery that is about to mark has sent. -/
theorem marking_step (sentFirst : SentFirst s) (effect : DeliveryEffect s a s') {d : DeliveryId}
    {delivery : Delivery} (held : s'.deliveries d = some delivery)
    (phase : delivery.phase = .sent) :
    Notified s' delivery.queue delivery.message.event := by
  cases deliveryOrigin_of_effect effect held with
  | earlier here queue message sent =>
      rcases sent phase with already | notified
      · rw [← queue, ← message]
        exact mem_history_of_effect effect (sentFirst.marking here already)
      · exact notified
  | new _ _ _ unsent => exact absurd phase unsent

/-- Every step keeps it, because only a delivery that has sent marks. -/
theorem step (sentFirst : SentFirst s) (sorted : Sorted s) (effect : DeliveryEffect s a s') :
    SentFirst s' where
  marking := sentFirst.marking_step effect
  marked := by
    intro eventId member
    have old : eventId ∈ s.store.seen → ∃ queue event, event.eventId = eventId ∧
        Known s' queue event ∧ Notified s' queue event := by
      intro before
      obtain ⟨queue, event, same, known, notified⟩ := sentFirst.marked before
      exact ⟨queue, event, same, known.step effect, mem_history_of_effect effect notified⟩
    have keeps : ∀ {queue event}, Known s queue event ∧ Notified s queue event →
        Known s' queue event ∧ Notified s' queue event :=
      fun both => ⟨both.1.step effect, mem_history_of_effect effect both.2⟩
    cases effect with
    | @marked d delivery held phase =>
        rcases mem_of_mem_remember member with before | rfl
        · exact old before
        · exact ⟨_, _, rfl, keeps ⟨sorted.held held, sentFirst.marking held phase⟩⟩
    | crashed => cases member
    | delivered => exact old member
    | sent => exact old member
    | publishing => exact old member
    | published => exact old member
    | unpublished => exact old member
    | redelivered => exact old member
    | acknowledged => exact old member
    | requeued => exact old member
    | arrived => exact old member
    | unrouted => exact old member
    | accepted => exact old member
    | expired => exact old member

/-- A duplicate has been sent. -/
theorem notified_of_has (sentFirst : SentFirst s) (unique : UniqueEventIds s)
    (known : Known s queue event) (duplicate : s.store.has event.eventId = true) :
    Notified s queue event := by
  obtain ⟨queue', event', same, known', notified⟩ :=
    sentFirst.marked (ProcessedEventsStore.has_iff.mp duplicate)
  cases unique event' event known'.entered known.entered same
  have queues : queue' = queue :=
    WorkQueue.eventType_injective (known'.type_eq.trans known.type_eq.symm)
  exact queues ▸ notified

end SentFirst

/-! ## Following an event -/

/-- The delivery still owes its event: it has not resolved, and if it has published
a copy, the broker has yet to accept it. -/
def Owes (s : NotificationsState) (d : DeliveryId) (delivery : Delivery) : Prop :=
  delivery.live = true ∧ delivery.phase ≠ .resolved ∧
    (delivery.phase = .publishing → ∃ copy, s.outstanding d = some copy)

/-- The event is ready somewhere, or sent, or owed. -/
inductive Safe (s : NotificationsState) (queue : WorkQueue) (event : WorkOrderEvent) : Prop where
  /-- It is in one of the three queues. -/
  | ready (stage : Stage) (here : InQueue s queue event stage)
  /-- It has been sent. -/
  | notified (sent : Notified s queue event)
  /-- The broker, or the publish of a handler, will bring it back. -/
  | owed (d : DeliveryId) (delivery : Delivery) (held : s.deliveries d = some delivery)
      (owes : Owes s d delivery) (queue_eq : delivery.queue = queue)
      (event_eq : delivery.message.event = event)

namespace Safe

/-- A ready message after one action. -/
theorem ready_step (sorted : Sorted s) (sentFirst : SentFirst s) (unique : UniqueEventIds s)
    (effect : DeliveryEffect s a s') {stage : Stage} {m : QueuedMessage}
    (member : m ∈ s.ready ⟨stage, queue⟩) : Safe s' queue m.event := by
  have routed : ∀ {t : NotificationsState} {ids message}, m ∈ t.ready ⟨stage, queue⟩ →
      m ∈ (t.enqueue ids message).ready ⟨stage, queue⟩ :=
    fun before => mem_ready_enqueue.mpr (Or.inl before)
  cases effect with
  | @delivered d queue' message fresh idle taken =>
      rcases mem_ready_dequeue message ⟨.work, queue'⟩ member with stays | ⟨here, rfl⟩
      · exact .ready stage ⟨m, stays, rfl⟩
      · cases here
        by_cases duplicate : s.store.has m.event.eventId = true
        · -- skipped, and acknowledged without a send of its own
          have notified := sentFirst.notified_of_has unique (sorted.ready member) duplicate
          exact .notified (List.mem_append_left _ notified)
        · have held : (s.deliver d queue m).deliveries d =
              some { queue, message := m, phase := .sending, live := true } := by
            unfold NotificationsState.deliver
            rw [if_neg duplicate]
            exact Function.update_self _ _ _
          exact .owed d _ held ⟨rfl, nofun, nofun⟩ rfl rfl
  | @expired queue' message taken =>
      rcases mem_ready_dequeue message ⟨.retry, queue'⟩ member with stays | ⟨here, rfl⟩
      · exact .ready stage ⟨m, routed stays, rfl⟩
      · cases here
        exact .ready .work ⟨m, mem_ready_enqueue.mpr (Or.inr ⟨List.mem_cons_self, rfl⟩), rfl⟩
  | arrived => exact .ready stage ⟨m, routed member, rfl⟩
  | accepted => exact .ready stage ⟨m, routed member, rfl⟩
  | requeued => exact .ready stage ⟨m, routed member, rfl⟩
  | redelivered => exact .ready stage ⟨m, routed member, rfl⟩
  | sent => exact .ready stage ⟨m, member, rfl⟩
  | marked => exact .ready stage ⟨m, member, rfl⟩
  | unrouted => exact .ready stage ⟨m, member, rfl⟩
  | publishing => exact .ready stage ⟨m, member, rfl⟩
  | published => exact .ready stage ⟨m, member, rfl⟩
  | unpublished => exact .ready stage ⟨m, member, rfl⟩
  | acknowledged => exact .ready stage ⟨m, member, rfl⟩
  | crashed => exact .ready stage ⟨m, member, rfl⟩

/-- A delivery that an action leaves alone still owes its event. -/
theorem owed_of_eq {d : DeliveryId} {delivery : Delivery} (held : s.deliveries d = some delivery)
    (owes : Owes s d delivery) (deliveries : s'.deliveries d = s.deliveries d)
    (outstanding : s'.outstanding d = s.outstanding d) :
    Safe s' delivery.queue delivery.message.event := by
  refine .owed d delivery (deliveries.trans held) ⟨owes.1, owes.2.1, fun phase => ?_⟩ rfl rfl
  rw [outstanding]
  exact owes.2.2 phase

/-- An owed event after an action about its delivery, which pays or goes on owing. -/
theorem owed_concerned (sorted : Sorted s) (sentFirst : SentFirst s)
    (effect : DeliveryEffect s a s') {d : DeliveryId} (concerns : a.Concerns d)
    {delivery : Delivery} (held : s.deliveries d = some delivery) (owes : Owes s d delivery) :
    Safe s' delivery.queue delivery.message.event := by
  have ⟨live, unresolved, unaccepted⟩ := owes
  -- the actions on this delivery: whatever it owed is owed still, or has been paid
  cases effect with
  | delivered fresh =>
      cases concerns
      rw [held] at fresh
      cases fresh
  | sent held' =>
      cases concerns
      cases held.symm.trans held'
      exact .notified (List.mem_append_right _ List.mem_cons_self)
  | marked held' phase =>
      cases concerns
      cases held.symm.trans held'
      exact .notified (List.mem_append_left _ (sentFirst.marking held phase))
  | publishing held' =>
      cases concerns
      cases held.symm.trans held'
      exact .owed d _ (Function.update_self _ _ _)
        ⟨live, nofun, fun _ => ⟨_, Function.update_self _ _ _⟩⟩ rfl rfl
  | @accepted _ copy sent =>
      cases concerns
      -- the copy takes over, in the queue it is routed to
      obtain ⟨stage, routed, event⟩ := sorted.matched sent held
      exact .ready stage ⟨copy.message,
        mem_ready_enqueue.mpr (Or.inr ⟨routed ▸ List.mem_cons_self, rfl⟩), event⟩
  | published held' phase accepted =>
      cases concerns
      cases held.symm.trans held'
      -- a publish that has resolved was accepted, and then nothing was owed
      obtain ⟨copy, sent⟩ := unaccepted phase
      rw [accepted] at sent
      cases sent
  | unpublished held' =>
      cases concerns
      cases held.symm.trans held'
      exact .owed d _ (Function.update_self _ _ _) ⟨live, nofun, nofun⟩ rfl rfl
  | acknowledged held' phase ended =>
      cases concerns
      cases held.symm.trans held'
      rcases ended with resolved | lost
      · exact absurd resolved unresolved
      · rw [live] at lost
        cases lost
  | requeued held' =>
      cases concerns
      cases held.symm.trans held'
      exact .ready .work ⟨delivery.message,
        mem_ready_enqueue.mpr (Or.inr ⟨List.mem_cons_self, rfl⟩), rfl⟩
  | redelivered held' =>
      cases concerns
      cases held.symm.trans held'
      exact .ready .work ⟨delivery.message,
        mem_ready_enqueue.mpr (Or.inr ⟨List.mem_cons_self, rfl⟩), rfl⟩
  | crashed =>
      -- the broker still waits for the acknowledgement of a dead process
      exact .owed d { delivery with phase := .gone } (Option.map_eq_some_iff.mpr ⟨_, held, rfl⟩)
        ⟨live, nofun, nofun⟩ rfl rfl
  | arrived => cases concerns
  | unrouted => cases concerns
  | expired => cases concerns

/-- An owed event after one action. -/
theorem owed_step (sorted : Sorted s) (sentFirst : SentFirst s) (effect : DeliveryEffect s a s')
    {d : DeliveryId} {delivery : Delivery} (held : s.deliveries d = some delivery)
    (owes : Owes s d delivery) : Safe s' delivery.queue delivery.message.event := by
  by_cases concerns : a.Concerns d
  · exact owed_concerned sorted sentFirst effect concerns held owes
  · obtain ⟨deliveries, outstanding⟩ := effect.frame concerns
    exact owed_of_eq held owes deliveries outstanding

/-- **One action**: an event that was safe stays safe. -/
theorem step (safe : Safe s queue event) (sorted : Sorted s) (sentFirst : SentFirst s)
    (unique : UniqueEventIds s) (effect : DeliveryEffect s a s') : Safe s' queue event := by
  cases safe with
  | ready stage here =>
      obtain ⟨m, member, rfl⟩ := here
      exact ready_step sorted sentFirst unique effect member
  | notified sent => exact .notified (mem_history_of_effect effect sent)
  | owed d delivery held owes queue_eq event_eq =>
      subst queue_eq event_eq
      exact owed_step sorted sentFirst effect held owes

end Safe

/-! ## Every run -/

/-- An event that has just entered is in its work queue. -/
theorem entered_of_effect (effect : DeliveryEffect s a s') (entered : Entered s' event) :
    Entered s event ∨
      ∃ queue, queue.eventType = event.type ∧ InQueue s' queue event .work := by
  have recorded : ∀ {h : Happening} {t : NotificationsState}, t.history = s.history →
      Entered (t.record h) event → Entered s event ∨ h = .entered event := by
    intro h t same entered
    rcases List.mem_append.mp entered with before | last
    · exact Or.inl (by rwa [same] at before)
    · exact Or.inr (List.mem_singleton.mp last).symm
  cases effect with
  | @arrived event' queue type =>
      rcases recorded rfl entered with before | same
      · exact Or.inl before
      · cases same
        exact Or.inr ⟨queue, type, _, mem_ready_enqueue.mpr (Or.inr ⟨List.mem_cons_self, rfl⟩), rfl⟩
  | delivered => exact Or.inl ((recorded rfl entered).resolve_right nofun)
  | sent => exact Or.inl ((recorded rfl entered).resolve_right nofun)
  | marked => exact Or.inl ((recorded rfl entered).resolve_right nofun)
  | unrouted => exact Or.inl entered
  | publishing => exact Or.inl entered
  | accepted => exact Or.inl entered
  | published => exact Or.inl entered
  | unpublished => exact Or.inl entered
  | acknowledged => exact Or.inl entered
  | requeued => exact Or.inl entered
  | expired => exact Or.inl entered
  | redelivered => exact Or.inl entered
  | crashed => exact Or.inl entered

/-- Ids that are unique now were unique before. -/
theorem UniqueEventIds.before (unique : UniqueEventIds s') (effect : DeliveryEffect s a s') :
    UniqueEventIds s := fun event event' entered entered' =>
  unique event event' (mem_history_of_effect effect entered) (mem_history_of_effect effect entered')

/-- Every event that has entered is safe, as long as event ids are unique. -/
structure Conserved (s : NotificationsState) : Prop where
  /-- No message is of an event that never came. -/
  sorted : Sorted s
  /-- Nothing is taken for a duplicate that has not been sent. -/
  sentFirst : SentFirst s
  /-- Then no step can lose an event. -/
  safe : UniqueEventIds s → ∀ queue event, Known s queue event → Safe s queue event

/-- No event has entered at first. -/
theorem Conserved.initial : Conserved .initial where
  sorted := .initial
  sentFirst := .initial
  safe := fun _ _ _ known => nomatch known.entered

/-- Every step keeps it: an event enters into a queue, and is safe from there on. -/
theorem Conserved.step (conserved : Conserved s) (moved : notifications.step s a = some s') :
    Conserved s' where
  sorted := conserved.sorted.step (deliveryEffect_of_step moved)
  sentFirst := conserved.sentFirst.step conserved.sorted (deliveryEffect_of_step moved)
  safe := by
    intro unique queue event known
    have effect := deliveryEffect_of_step moved
    rcases entered_of_effect effect known.entered with before | ⟨queue', type, here⟩
    · have unique := unique.before effect
      exact (conserved.safe unique queue event ⟨known.type_eq, before⟩).step conserved.sorted
        conserved.sentFirst unique effect
    · cases WorkQueue.eventType_injective (type.trans known.type_eq.symm)
      exact .ready .work here

/-- Where a safe event can be. -/
theorem Conserved.nothingLost (conserved : Conserved s) (unique : UniqueEventIds s) :
    NothingLost s where
  kept := by
    intro queue event type entered
    cases conserved.safe unique queue event ⟨type, entered⟩ with
    | ready stage here =>
        cases stage with
        | work => exact Or.inl here
        | retry => exact Or.inr (Or.inr (Or.inl here))
        | deadLetter => exact Or.inr (Or.inr (Or.inr (Or.inl here)))
    | notified sent => exact Or.inr (Or.inr (Or.inr (Or.inr sent)))
    | owed d delivery held owes queue_eq event_eq =>
        exact Or.inr (Or.inl ⟨d, delivery, held, owes.1, queue_eq, event_eq⟩)
  marked := by
    intro eventId has
    obtain ⟨queue, event, same, -, notified⟩ :=
      conserved.sentFirst.marked (ProcessedEventsStore.has_iff.mp has)
    exact ⟨queue, event, same, notified⟩
  skipped := fun queue event type entered duplicate =>
    conserved.sentFirst.notified_of_has unique ⟨type, entered⟩ duplicate

/-- **No notification is lost**, in any run: whatever fails, is redelivered or
crashes, and whatever was handled at the same time. -/
theorem nothingLost_of_reachable (s : NotificationsState)
    (reached : notifications.Reachable .initial s) (unique : UniqueEventIds s) : NothingLost s :=
  (Machine.Reachable.invariant notifications (fun conserved moved => conserved.step moved)
    Conserved.initial reached).nothingLost unique

/-- A send fails, its copy is accepted, and the original is acknowledged. -/
def failedSend : List NotificationsAction :=
  [ .arrive tapCreated, .deliver 0 .created tapMessage, .sendFail 0 (.error "smtp down"),
    .accept 0, .publishOk 0, .settle 0 ]

/-- A send has failed; its event is not lost. -/
theorem nothingLost_failedSend :
    NothingLost ((notifications.run .initial failedSend).get (by decide)) := by
  refine nothingLost_of_reachable _ ⟨failedSend, (Option.some_get _).symm⟩ ?_
  intro event event' entered entered' _
  have history : ((notifications.run .initial failedSend).get (by decide)).history =
      [.entered tapCreated, .checked tapCreated] := by decide
  unfold Entered at entered entered'
  rw [history] at entered entered'
  simp at entered entered'
  rw [entered, entered']

end PropFlow
