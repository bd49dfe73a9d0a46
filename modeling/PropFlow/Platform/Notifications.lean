import PropFlow.Platform.System
import PropFlow.Relay.Recovery
import PropFlow.WorkOrders.StatusLog

/-!
# Notifications, from the write to the mail

A work order and its event commit together, a relay publishes the event until it has been
accepted, and the notifications consumer keeps what was accepted until a mail has been
sent.  Each of these is known of one part.  What a client can be told is what they come
to together (`Notifies`): there is no state of the platform in which an order is stored
whose manager is not notified, waiting to be, or in a dead-letter queue; and no mail about
a write that did not commit.

## The argument

* the outbox has the event that is due for an order (`exists_due`), because every status
  has its event;
* a row that is not `Waiting` to be published has been published, so its event has entered
  (`known_of_published`);
* an event that has entered is `Kept` by the consumer.  This has a condition, that event
  ids are unique, which is a fact here: `outbox_events.event_id` is (`uniqueEventIds`);
* what has been sent had entered (`SentKnown`), so it was committed.

## Progress

`exists_allSettled`: from every state, one relay and the consumer can by themselves settle
every event that is committed; no client and no service has a part in that
(`PlatformAction.Delivers`).
-/

namespace PropFlow

open Library Library.CivilTime

/-! ## What is promised -/

/-- The event has yet to be published. -/
def RelayState.Waiting (s : RelayState) (row : OutboxEvent) : Prop :=
  ∃ row' ∈ s.table, row'.event = row.event ∧ row'.publishedAt = none

/-- The event is in one of its queues, with a delivery, or settled. -/
def Kept (s : NotificationsState) (queue : WorkQueue) (event : WorkOrderEvent) : Prop :=
  InQueue s queue event .work ∨ Unacknowledged s queue event ∨ InQueue s queue event .retry ∨
    Settled s queue event

/-- A notification is due about the order: of its creation, and of its completion. -/
def Due (row : WorkOrder) : WorkQueue → Prop
  | .created => True
  | .completed => row.status = .completed

/-- **Whoever is to be notified is being notified, of what has happened.** -/
structure Notifies (s : PlatformState) : Prop where
  /-- No stored order is forgotten. -/
  due : ∀ id row, s.service.row id = some row → ∀ queue, Due row queue →
    ∃ event ∈ s.service.eventsOf id, event.type = queue.eventType ∧
      (s.relays.Waiting event ∨ Kept s.notifications queue event.payload)
  /-- No committed event is lost. -/
  kept : ∀ event ∈ s.service.db.outbox.rows, ∀ queue, queue.eventType = event.type →
    s.relays.Waiting event ∨ Kept s.notifications queue event.payload
  /-- What has been sent is the notification of a committed event. -/
  sent : ∀ event notification, .sent event notification ∈ s.notifications.history →
    (∃ row ∈ s.service.db.outbox.rows, row.payload = event) ∧
      ∃ queue, queue.eventType = event.type ∧
        notification = WorkOrderEventsConsumer.notification queue event

/-! ## What is sent has entered -/

section

variable {n n' : NotificationsState} {a : NotificationsAction}

/-- A notification is about an event that has entered its queue. -/
structure SentKnown (n : NotificationsState) : Prop where
  /-- No message is of an event that never came. -/
  sorted : Sorted n
  /-- Nor is a notification, and its words are those of the queue. -/
  sent : ∀ event notification, .sent event notification ∈ n.history →
    ∃ queue, Known n queue event ∧
      notification = WorkOrderEventsConsumer.notification queue event

/-- Every step keeps it: a delivery sends the event of a message that has entered. -/
theorem SentKnown.step (invariant : SentKnown n) (moved : notifications.step n a = some n') :
    SentKnown n' where
  sorted := invariant.sorted.step (deliveryEffect_of_step moved)
  sent := by
    intro event notification member
    have effect := deliveryEffect_of_step moved
    have keeps : ∀ {queue event}, Known n queue event → Known n' queue event :=
      fun known => known.step effect
    have old : .sent event notification ∈ n.history → ∃ queue, Known n' queue event ∧
        notification = WorkOrderEventsConsumer.notification queue event := by
      intro before
      obtain ⟨queue, known, same⟩ := invariant.sent event notification before
      exact ⟨queue, keeps known, same⟩
    have recorded : ∀ {h : Happening}, .sent event notification ∈ n.history ++ [h] →
        .sent event notification ∈ n.history ∨ h = .sent event notification :=
      fun here => (List.mem_append.mp here).imp_right fun last => (List.mem_singleton.mp last).symm
    cases effect with
    | @sent d delivery held phase =>
        rcases recorded member with before | same
        · exact old before
        · cases same
          exact ⟨_, keeps (invariant.sorted.held held), rfl⟩
    | arrived => exact old ((recorded member).resolve_right (by simp))
    | delivered => exact old ((recorded member).resolve_right (by simp))
    | marked => exact old ((recorded member).resolve_right (by simp))
    | _ => exact old member

/-- So it holds in every run of the consumer. -/
theorem SentKnown.of_reachable (reached : notifications.Reachable .initial n) : SentKnown n :=
  Machine.Reachable.invariant notifications (fun invariant moved => invariant.step moved)
    ⟨.initial, fun _ _ absent => nomatch absent⟩ reached

end

/-! ## Events of the outbox -/

namespace PlatformInvariant

variable {s : PlatformState} {event event' : WorkOrderEvent}

/-- What the relays know of their rows. -/
theorem rows (invariant : PlatformInvariant s) : RowInvariant s.relays :=
  Machine.Reachable.invariant relays (fun rows moved => rows.step moved) RowInvariant.initial
    invariant.relaying

/-- What the outbox knows of the orders. -/
theorem log (invariant : PlatformInvariant s) : FaithfulLog s.service := invariant.logged.log

/-- What a broker has accepted is about a committed event. -/
theorem exists_of_accepted (invariant : PlatformInvariant s) {message : Message}
    (accepted : message ∈ s.relays.accepted) :
    ∃ row ∈ s.service.db.outbox.rows, ∃ broker, message = OutboxRelay.message row broker := by
  obtain ⟨row, member, broker, rfl⟩ := invariant.rows.accepted _ accepted
  obtain ⟨row', member', same⟩ := invariant.table.exists_mem member
  exact ⟨row', member', broker, (message_eq same broker).symm⟩

/-- What is published has been committed, -/
theorem exists_of_published (invariant : PlatformInvariant s)
    (published : s.relays.Published event) :
    ∃ row ∈ s.service.db.outbox.rows, row.payload = event := by
  obtain ⟨message, accepted, rfl⟩ := published
  obtain ⟨row, member, broker, same⟩ := invariant.exists_of_accepted accepted
  cases broker with
  | rabbit =>
      cases same
      exact ⟨row, member, rfl⟩
  | kafka => cases same

/-- and so has what is recorded, -/
theorem exists_of_recorded (invariant : PlatformInvariant s)
    (accepted : .kafka (WorkOrderAuditProducer.record event) ∈ s.relays.accepted) :
    ∃ row ∈ s.service.db.outbox.rows, row.payload = event := by
  obtain ⟨row, member, broker, same⟩ := invariant.exists_of_accepted accepted
  cases broker with
  | rabbit => cases same
  | kafka =>
      have read := congrArg parseEvent (congrArg KafkaRecord.value (Message.kafka.inj same))
      unfold WorkOrderAuditProducer.record at read
      rw [parseEvent_stringifyEvent, parseEvent_stringifyEvent, Option.some_inj] at read
      exact ⟨row, member, read.symm⟩

/-- and what has entered a queue. -/
theorem exists_of_entered (invariant : PlatformInvariant s)
    (entered : Entered s.notifications event) :
    ∃ row ∈ s.service.db.outbox.rows, row.payload = event :=
  invariant.exists_of_published ((invariant.entered_iff event).mp entered).1

/-- No event id is there twice. -/
theorem nodup_eventIds (invariant : PlatformInvariant s) :
    (s.service.db.outbox.rows.map OutboxEvent.eventId).Nodup := by
  have nodup : (s.relays.table.map OutboxEvent.eventId).Nodup := by
    refine Machine.Reachable.invariant relays
      (I := fun r => (r.table.map OutboxEvent.eventId).Nodup)
      (fun nodup moved => eventIds_of_effect (relayEffect_of_step moved) nodup) ?_
      invariant.relaying
    exact List.nodup_nil
  have same := congrArg (List.map fun event => event.2.1) invariant.table
  rw [List.map_map, List.map_map] at same
  exact (congrArg List.Nodup same).mp nodup

/-- Two events with one id are one event. -/
theorem eq_of_eventId (invariant : PlatformInvariant s) {row row' : OutboxEvent}
    (member : row ∈ s.service.db.outbox.rows) (member' : row' ∈ s.service.db.outbox.rows)
    (same : row.payload.eventId = row'.payload.eventId) : row = row' := by
  rw [← (invariant.log.wellTyped row member).eventId_eq,
    ← (invariant.log.wellTyped row' member').eventId_eq] at same
  exact List.inj_on_of_nodup_map invariant.nodup_eventIds member member' same

/-- So the consumer can tell events apart by their ids, -/
theorem uniqueEventIds (invariant : PlatformInvariant s) : UniqueEventIds s.notifications := by
  intro event event' entered entered' same
  obtain ⟨row, member, rfl⟩ := invariant.exists_of_entered entered
  obtain ⟨row', member', rfl⟩ := invariant.exists_of_entered entered'
  rw [invariant.eq_of_eventId member member' same]

/-- and its queues can be worked off. -/
theorem working (invariant : PlatformInvariant s) : Working s.notifications :=
  ⟨invariant.notifying, invariant.uniqueEventIds⟩

/-- A committed event is in the table of the relays, and there it is waiting or published. -/
theorem waiting_or_published (invariant : PlatformInvariant s) {row : OutboxEvent}
    (member : row ∈ s.service.db.outbox.rows) :
    s.relays.Waiting row ∨ s.relays.Published row.payload := by
  obtain ⟨row', member', same⟩ := invariant.table.symm.exists_mem member
  cases stamp : row'.publishedAt with
  | none => exact Or.inl ⟨row', member', same, stamp⟩
  | some at_ =>
      have accepted := invariant.rows.stamped row' member' (by rw [stamp]; rfl) .rabbit
      exact Or.inr ⟨_, accepted, OutboxEvent.payload_eq same⟩

/-- Once it is published it has entered the queue for its type. -/
theorem known_of_published (invariant : PlatformInvariant s) {row : OutboxEvent}
    (member : row ∈ s.service.db.outbox.rows) (published : s.relays.Published row.payload)
    {queue : WorkQueue} (type : queue.eventType = row.type) :
    Known s.notifications queue row.payload := by
  have type' := type.trans (invariant.log.wellTyped row member).type_eq
  exact ⟨type', (invariant.entered_iff row.payload).mpr ⟨published, queue, type'⟩⟩

/-- It is kept until it is settled. -/
theorem kept (invariant : PlatformInvariant s) {row : OutboxEvent}
    (member : row ∈ s.service.db.outbox.rows) {queue : WorkQueue}
    (type : queue.eventType = row.type) :
    s.relays.Waiting row ∨ Kept s.notifications queue row.payload := by
  refine (invariant.waiting_or_published member).imp_right fun published => ?_
  have known := invariant.known_of_published member published type
  have lost := invariant.working.conserved.nothingLost invariant.uniqueEventIds
  rcases lost.kept queue row.payload known.type_eq known.entered with
    ready | held | waiting | deadLetter | notified
  · exact Or.inl ready
  · exact Or.inr (Or.inl held)
  · exact Or.inr (Or.inr (Or.inl waiting))
  · exact Or.inr (Or.inr (Or.inr (Or.inr deadLetter)))
  · exact Or.inr (Or.inr (Or.inr (Or.inl notified)))

/-- The event that a notification is due about has been staged. -/
theorem exists_due (invariant : PlatformInvariant s) {id : Uuid} {row : WorkOrder}
    (stored : s.service.row id = some row) {queue : WorkQueue} (due : Due row queue) :
    ∃ event ∈ s.service.eventsOf id, event.type = queue.eventType := by
  cases queue with
  | created =>
      obtain ⟨first, rest, events, created, -⟩ :=
        (invariant.log.recorded id row stored).created_first
      exact ⟨first, events ▸ List.mem_cons_self, created⟩
  | completed =>
      have logged := StatusLogged.of_reachable invariant.serving
      have isId : row.id = id := s.service.db.workOrders.keyed stored
      have staged := logged.stored id row stored .completed
      rw [show row.status = .completed from due, isId] at staged
      exact staged rfl

/-- The three parts of the promise. -/
theorem notifies (invariant : PlatformInvariant s) : Notifies s where
  due := by
    intro id row stored queue due
    obtain ⟨event, member, type⟩ := invariant.exists_due stored due
    exact ⟨event, member, type, invariant.kept (List.mem_filter.mp member).1 type.symm⟩
  kept := fun row member queue type => invariant.kept member type
  sent := by
    intro event notification member
    obtain ⟨queue, known, same⟩ :=
      (SentKnown.of_reachable invariant.notifying).sent event notification member
    exact ⟨invariant.exists_of_entered known.entered, queue, known.type_eq, same⟩

end PlatformInvariant

/-! ## Progress -/

/-- One relay by itself, the others having died, and deliveries whose sends succeed. -/
def PlatformAction.Delivers {Body Answer : Type} (i : InstanceId) :
    PlatformAction Body Answer → Prop
  | .relay a => a.Recovers i
  | .notify a => a.Handles
  | .request _ _ _ | .triage _ _ _ _ | .service _ => False

section

variable {Body Answer : Type} (validator : ClassValidator) (json : JsonText Body)
  (jwt : JwtService) {s : PlatformState} (i : InstanceId)

/-- What a relay can do by itself it can do on the platform. -/
theorem exists_relayed {r : RelayState}
    (reached : relays.ReachableBy (RelayAction.Recovers i) s.relays r) :
    ∃ t, (platform Answer validator json jwt).ReachableBy (PlatformAction.Delivers i) s t ∧
      t.relays = r ∧ t.service = s.service := by
  refine reached.simulate (platform Answer validator json jwt)
    (R := fun t r => t.relays = r ∧ t.service = s.service) ?_ ⟨rfl, rfl⟩
  rintro t _ r b ⟨rfl, service⟩ recovers moved
  have isWrite : b.isWrite = false := by
    cases b with
    | write => exact recovers.elim
    | _ => rfl
  obtain ⟨t', stepped, relayed, kept⟩ :=
    step_relay validator json jwt isWrite moved
  exact ⟨t', .head _ (a := .relay b) recovers stepped (Machine.reachableBy_refl _ _ _), relayed,
    kept.trans service⟩

/-- So can the consumer. -/
theorem exists_handled {n : NotificationsState}
    (reached : notifications.ReachableBy NotificationsAction.Handles s.notifications n) :
    ∃ t, (platform Answer validator json jwt).ReachableBy (PlatformAction.Delivers i) s t ∧
      t.notifications = n ∧ t.service = s.service ∧ t.relays = s.relays := by
  refine reached.simulate (platform Answer validator json jwt)
    (R := fun t n => t.notifications = n ∧ t.service = s.service ∧ t.relays = s.relays) ?_
    ⟨rfl, rfl, rfl⟩
  rintro t _ n b ⟨rfl, service, relays⟩ handles moved
  have isArrival : b.isArrival = false := by
    cases b with
    | arrive => exact handles.elim
    | _ => rfl
  obtain ⟨t', stepped, notified, service', relays'⟩ :=
    step_notify validator json jwt isArrival moved
  exact ⟨t', .head _ (a := .notify b) handles stepped (Machine.reachableBy_refl _ _ _), notified,
    service'.trans service, relays'.trans relays⟩

end

/-- **End to end, safety.**  Whatever clients send, whatever fails and in whichever order
things happen: a stored order whose manager or tenant is to be notified has a committed
event, every committed event is waiting to be published or is kept by the consumer
until it is settled, and nobody is notified of a write that has not committed. -/
theorem notifies_of_reachable {Body Answer : Type} (validator : ClassValidator)
    (json : JsonText Body) (jwt : JwtService) (s : PlatformState)
    (reached : (platform Answer validator json jwt).Reachable .initial s) : Notifies s :=
  (PlatformInvariant.of_reachable reached).notifies

/-- The order that was opened is one of those whose manager has been notified. -/
theorem notifies_tapNotified : Notifies tapNotified :=
  notifies_of_reachable plainValidator jsonBodies residentTokens _ reached_tapNotified

/-- **End to end, progress.**  From every state of the platform, one relay that works and
deliveries whose sends succeed are enough to settle every committed event, without any
further request, and without a change to an order. -/
theorem exists_allSettled {Body Answer : Type} (validator : ClassValidator)
    (json : JsonText Body) (jwt : JwtService) (s : PlatformState) (i : InstanceId)
    (reached : (platform Answer validator json jwt).Reachable .initial s) :
    ∃ t, (platform Answer validator json jwt).ReachableBy (PlatformAction.Delivers i) s t ∧
      t.service = s.service ∧ (∀ row ∈ t.relays.table, row.publishedAt.isSome = true) ∧
      ∀ event ∈ t.service.db.outbox.rows, ∀ queue, queue.eventType = event.type →
        Settled t.notifications queue event.payload := by
  have invariant := PlatformInvariant.of_reachable reached
  -- the relay publishes what is waiting
  obtain ⟨r, died, calm, -, -⟩ := exists_calm invariant.relaying i
  obtain ⟨r', drained, -, queue⟩ := calm.exists_published i
  obtain ⟨u, near, rfl, service⟩ :=
    @exists_relayed Body Answer validator json jwt s i r' (died.trans relays drained)
  have published := published_of_unpublished queue
  have invariant' := PlatformInvariant.of_reachable (reached.trans _ (near.reachable _))
  -- and the consumer handles what has arrived
  obtain ⟨n, handled, settled⟩ := invariant'.working.exists_workedOff
  obtain ⟨t, far, rfl, service', same⟩ :=
    @exists_handled Body Answer validator json jwt u i n handled
  refine ⟨t, near.trans _ far, service'.trans service, same ▸ published, ?_⟩
  intro event member queue type
  rw [service'] at member
  rcases invariant'.waiting_or_published member with ⟨row, isRow, -, unstamped⟩ | arrived
  · have stamped := published row isRow
    rw [unstamped] at stamped
    cases stamped
  · have known := invariant'.known_of_published member arrived type
    exact settled queue event.payload known.type_eq known.entered

/-- Its row still has no stamp, and is published again. -/
theorem exists_allSettled_tapNotified :
    ∃ t, tapPlatform.ReachableBy (PlatformAction.Delivers 1) tapNotified t ∧
      ∀ event ∈ t.service.db.outbox.rows, ∀ queue, queue.eventType = event.type →
        Settled t.notifications queue event.payload :=
  have ⟨t, reached, _, _, settled⟩ :=
    exists_allSettled plainValidator jsonBodies residentTokens _ 1 reached_tapNotified
  ⟨t, reached, settled⟩

end PropFlow
