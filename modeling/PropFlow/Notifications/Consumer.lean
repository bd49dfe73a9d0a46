import PropFlow.Library.Machine
import PropFlow.Library.PartialMap
import PropFlow.Notifications.Handlers

/-!
# Deliveries

The notifications consumer as a machine: its queues on the broker, the deliveries
its process is handling, and the deduplication store they share.

## The model

* `HandlerPhase` — a delivery is cut at its two awaits, `sender.send` and, if that has
  failed, `amqp.publish`; the duplicate check runs together with the call of `send`, and
  the mark is a continuation of its own;
* `NotificationsState` — the messages that are ready, the deliveries, the copies that the
  broker has yet to accept, the store, and a record of what has happened, by which the
  properties are stated;
* `notifications` — the machine.  Its actions are those of handlers, of the broker, of the
  relay that publishes, and the faults.

How many deliveries are handled at once is not limited here; `prefetchCount`
only excludes schedules.

## What the transport does

It acknowledges a delivery whose promise has resolved and requeues one whose promise was
rejected, or whose consumer it has lost.  In the last case the process may be alive, and
then it goes on with a delivery that has been requeued behind its back.  A crash loses the
store as well, which is in memory, and what the process has awaited.

`DeliveryEffect` says once what an action can do, and `deliveryEffect_of_step`
that the machine does nothing else.
-/

namespace PropFlow

open Library

/-- Deliveries are told apart by a number. -/
abbrev DeliveryId := ℕ

/-- Where the handler of a delivery is. -/
inductive HandlerPhase where
  /-- `sender.send` is awaited. -/
  | sending
  /-- `sender.send` has resolved, `mark` has not run. -/
  | sent
  /-- `amqp.publish` of the copy is awaited. -/
  | publishing
  /-- The handler has resolved; the transport will acknowledge. -/
  | resolved
  /-- The copy could not be published; the transport will requeue. -/
  | rejected
  /-- Its process has died. -/
  | gone
deriving DecidableEq, Repr

/-- A delivery that has reached the process.  While it is `live` the broker keeps
the message, unacknowledged. -/
structure Delivery where
  /-- the queue it came from -/
  queue : WorkQueue
  /-- the message, with its headers -/
  message : QueuedMessage
  /-- where its handler is -/
  phase : HandlerPhase
  /-- whether the broker still waits for an answer -/
  live : Bool
deriving DecidableEq

/-- What has happened, for the record. -/
inductive Happening where
  /-- An event has reached its work queue. -/
  | entered (event : WorkOrderEvent)
  /-- A delivery of an event has made its duplicate check. -/
  | checked (event : WorkOrderEvent)
  /-- `sender.send` has resolved. -/
  | sent (event : WorkOrderEvent) (notification : Notification)
  /-- An id has been put into the store. -/
  | marked (eventId : Uuid)
deriving DecidableEq

/-- The messages ready in each queue, the deliveries in the process, the publishes
the broker has yet to accept, the store, and the record. -/
structure NotificationsState where
  /-- what the broker can deliver -/
  ready : QueueId → List QueuedMessage
  /-- what it has delivered, and where the handlers are -/
  deliveries : DeliveryId → Option Delivery
  /-- the publish of a delivery, until the broker has it -/
  outstanding : DeliveryId → Option Publish
  /-- the memory of the process, which a crash empties -/
  store : ProcessedEventsStore
  /-- what has happened so far -/
  history : List Happening

/-- The scheduler's choices. -/
inductive NotificationsAction where
  /-- The relay's message arrives at the events exchange. -/
  | arrive (event : WorkOrderEvent)
  /-- A message is delivered, and its handler runs to its first await. -/
  | deliver (d : DeliveryId) (queue : WorkQueue) (message : QueuedMessage)
  /-- `sender.send` resolves. -/
  | sendOk (d : DeliveryId)
  /-- The handler goes on: `mark` runs, and it resolves. -/
  | mark (d : DeliveryId)
  /-- `sender.send` is rejected, and the copy is published. -/
  | sendFail (d : DeliveryId) (error : Thrown)
  /-- The broker accepts a publish. -/
  | accept (d : DeliveryId)
  /-- `amqp.publish` resolves: the broker has confirmed. -/
  | publishOk (d : DeliveryId)
  /-- `amqp.publish` is rejected, whether the broker has the copy or not. -/
  | publishFail (d : DeliveryId)
  /-- The transport acknowledges, or rejects with requeue. -/
  | settle (d : DeliveryId)
  /-- A message of a queue with a TTL expires. -/
  | expire (id : QueueId) (message : QueuedMessage)
  /-- The broker loses the consumer of a delivery and requeues its message. -/
  | redeliver (d : DeliveryId)
  /-- The process dies, and a new one starts. -/
  | crash
deriving DecidableEq

namespace NotificationsState

/-- Empty queues and a fresh process. -/
def initial : NotificationsState where
  ready := fun _ => []
  deliveries := fun _ => none
  outstanding := fun _ => none
  store := .empty
  history := []

/-- A message is added to the queues it is routed to. -/
def enqueue (s : NotificationsState) (ids : List QueueId) (message : QueuedMessage) :
    NotificationsState :=
  { s with ready := fun id => if id ∈ ids then s.ready id ++ [message] else s.ready id }

/-- A message leaves a queue. -/
def dequeue (s : NotificationsState) (id : QueueId) (message : QueuedMessage) :
    NotificationsState :=
  { s with ready := Function.update s.ready id ((s.ready id).erase message) }

/-- Update a delivery, or let it end. -/
def put (s : NotificationsState) (d : DeliveryId) (delivery : Option Delivery) :
    NotificationsState :=
  { s with deliveries := Function.update s.deliveries d delivery }

/-- Something has happened. -/
def record (s : NotificationsState) (happening : Happening) : NotificationsState :=
  { s with history := s.history ++ [happening] }

/-- The relay publishes without headers. -/
def arrive (s : NotificationsState) (event : WorkOrderEvent) : NotificationsState :=
  let ids := route Exchanges.events event.type.text
  let arrived := s.enqueue ids { event, attempt := .absent, lastError := none }
  if ids = [] then arrived else arrived.record (.entered event)

/-- `onWorkOrderCreated` and `onWorkOrderCompleted`, up to `await sender.send(…)`:
a duplicate is skipped, and the handler resolves. -/
def deliver (s : NotificationsState) (d : DeliveryId) (queue : WorkQueue)
    (message : QueuedMessage) : NotificationsState :=
  let phase := if s.store.has message.event.eventId then .resolved else .sending
  ((s.dequeue ⟨.work, queue⟩ message).put d (some { queue, message, phase, live := true })).record
    (.checked message.event)

/-- The end of a delivery: an acknowledged message is gone, a rejected one goes
back to its queue.  What a lost consumer says is ignored. -/
def settle (s : NotificationsState) (d : DeliveryId) (delivery : Delivery) : NotificationsState :=
  if delivery.phase = .rejected ∧ delivery.live = true then
    (s.enqueue [⟨.work, delivery.queue⟩] delivery.message).put d none
  else s.put d none

/-- A message whose time is up goes where its queue says, or is dropped. -/
def expire (s : NotificationsState) (id : QueueId) (message : QueuedMessage) :
    Option NotificationsState :=
  match id.config.messageTtl with
  | none => none
  | some _ =>
      match id.config.deadLetterExchange, id.config.deadLetterRoutingKey with
      | some exchange, some routingKey =>
          some ((s.dequeue id message).enqueue (route exchange routingKey) message)
      | _, _ => some (s.dequeue id message)

/-- An action on a delivery, under a condition. -/
def onDelivery (s : NotificationsState) (d : DeliveryId) (enabled : Delivery → Prop)
    [DecidablePred enabled] (next : Delivery → NotificationsState) : Option NotificationsState :=
  (s.deliveries d).bind fun delivery => if enabled delivery then some (next delivery) else none

/-- One action. -/
def step (s : NotificationsState) : NotificationsAction → Option NotificationsState
  | .arrive event => some (s.arrive event)
  | .deliver d queue message =>
      if s.deliveries d = none ∧ s.outstanding d = none ∧ message ∈ s.ready ⟨.work, queue⟩ then
        some (s.deliver d queue message)
      else none
  | .sendOk d =>
      s.onDelivery d (fun delivery => delivery.phase = .sending) fun delivery =>
        (s.put d (some { delivery with phase := .sent })).record (.sent delivery.message.event
          (WorkOrderEventsConsumer.notification delivery.queue delivery.message.event))
  | .mark d =>
      s.onDelivery d (fun delivery => delivery.phase = .sent) fun delivery =>
        ({ s with store := s.store.mark delivery.message.event.eventId }.put d
          (some { delivery with phase := .resolved })).record
          (.marked delivery.message.event.eventId)
  | .sendFail d error =>
      s.onDelivery d (fun delivery => delivery.phase = .sending) fun delivery =>
        { s with
          outstanding := Function.update s.outstanding d
            (some (EventRetryHandler.republish delivery.queue delivery.message error)) }.put d
          (some { delivery with phase := .publishing })
  | .accept d =>
      (s.outstanding d).map fun copy =>
        { s with outstanding := Function.update s.outstanding d none }.enqueue
          (route copy.exchange copy.routingKey) copy.message
  | .publishOk d =>
      s.onDelivery d (fun delivery => delivery.phase = .publishing ∧ s.outstanding d = none)
        fun delivery => s.put d (some { delivery with phase := .resolved })
  | .publishFail d =>
      s.onDelivery d (fun delivery => delivery.phase = .publishing) fun delivery =>
        s.put d (some { delivery with phase := .rejected })
  | .settle d =>
      s.onDelivery d (fun delivery => delivery.phase = .resolved ∨ delivery.phase = .rejected)
        (s.settle d)
  | .expire id message => if message ∈ s.ready id then s.expire id message else none
  | .redeliver d =>
      s.onDelivery d (fun delivery => delivery.live = true) fun delivery =>
        (s.enqueue [⟨.work, delivery.queue⟩] delivery.message).put d
          (some { delivery with live := false })
  | .crash =>
      some
        { s with
          deliveries := fun d => (s.deliveries d).map fun delivery =>
            { delivery with phase := .gone }
          store := .empty }

end NotificationsState

/-- The notifications consumer. -/
def notifications : Machine NotificationsState NotificationsAction where
  step := NotificationsState.step

/-! ## What an action does -/

/-- What one action can do to a state. -/
inductive DeliveryEffect (s : NotificationsState) :
    NotificationsAction → NotificationsState → Prop where
  /-- The event is in the queue that its type is bound to. -/
  | arrived {event queue} (type : queue.eventType = event.type) :
      DeliveryEffect s (.arrive event)
        ((s.enqueue [⟨.work, queue⟩] { event, attempt := .absent, lastError := none }).record
          (.entered event))
  /-- Nothing is subscribed to the event. -/
  | unrouted {event} : DeliveryEffect s (.arrive event) s
  /-- The handler runs to its first await: past the duplicate check, if it is new. -/
  | delivered {d queue message} (fresh : s.deliveries d = none) (idle : s.outstanding d = none)
      (member : message ∈ s.ready ⟨.work, queue⟩) :
      DeliveryEffect s (.deliver d queue message) (s.deliver d queue message)
  /-- The notification is out; the id is not in the store yet. -/
  | sent {d delivery} (held : s.deliveries d = some delivery) (phase : delivery.phase = .sending) :
      DeliveryEffect s (.sendOk d)
        ((s.put d (some { delivery with phase := .sent })).record (.sent delivery.message.event
          (WorkOrderEventsConsumer.notification delivery.queue delivery.message.event)))
  /-- The id is in the store, and the handler is done. -/
  | marked {d delivery} (held : s.deliveries d = some delivery) (phase : delivery.phase = .sent) :
      DeliveryEffect s (.mark d)
        (({ s with store := s.store.mark delivery.message.event.eventId }.put d
          (some { delivery with phase := .resolved })).record
          (.marked delivery.message.event.eventId))
  /-- The copy, with its next attempt, is on its way. -/
  | publishing {d error delivery} (held : s.deliveries d = some delivery)
      (phase : delivery.phase = .sending) :
      DeliveryEffect s (.sendFail d error)
        ({ s with
          outstanding := Function.update s.outstanding d
            (some (EventRetryHandler.republish delivery.queue delivery.message error)) }.put d
          (some { delivery with phase := .publishing }))
  /-- The copy is in the queue it is routed to. -/
  | accepted {d copy} (sent : s.outstanding d = some copy) :
      DeliveryEffect s (.accept d)
        ({ s with outstanding := Function.update s.outstanding d none }.enqueue
          (route copy.exchange copy.routingKey) copy.message)
  /-- The broker has the copy, so the original may be acknowledged. -/
  | published {d delivery} (held : s.deliveries d = some delivery)
      (phase : delivery.phase = .publishing) (accepted : s.outstanding d = none) :
      DeliveryEffect s (.publishOk d) (s.put d (some { delivery with phase := .resolved }))
  /-- The original has to be delivered again. -/
  | unpublished {d delivery} (held : s.deliveries d = some delivery)
      (phase : delivery.phase = .publishing) :
      DeliveryEffect s (.publishFail d) (s.put d (some { delivery with phase := .rejected }))
  /-- The message is gone, unless it has been requeued before. -/
  | acknowledged {d delivery} (held : s.deliveries d = some delivery)
      (phase : delivery.phase = .resolved ∨ delivery.phase = .rejected)
      (ended : delivery.phase = .resolved ∨ delivery.live = false) :
      DeliveryEffect s (.settle d) (s.put d none)
  /-- The message is ready again, with the attempt it had. -/
  | requeued {d delivery} (held : s.deliveries d = some delivery)
      (phase : delivery.phase = .rejected) (live : delivery.live = true) :
      DeliveryEffect s (.settle d)
        ((s.enqueue [⟨.work, delivery.queue⟩] delivery.message).put d none)
  /-- The message goes from the retry queue back to its work queue. -/
  | expired {queue message} (member : message ∈ s.ready ⟨.retry, queue⟩) :
      DeliveryEffect s (.expire ⟨.retry, queue⟩ message)
        ((s.dequeue ⟨.retry, queue⟩ message).enqueue [⟨.work, queue⟩] message)
  /-- The message is ready again, while its first handler runs on. -/
  | redelivered {d delivery} (held : s.deliveries d = some delivery) (live : delivery.live = true) :
      DeliveryEffect s (.redeliver d)
        ((s.enqueue [⟨.work, delivery.queue⟩] delivery.message).put d
          (some { delivery with live := false }))
  /-- All handlers die and the store is empty.  The messages are still with the broker. -/
  | crashed :
      DeliveryEffect s .crash
        { s with
          deliveries := fun d => (s.deliveries d).map fun delivery =>
            { delivery with phase := .gone }
          store := .empty }

/-- Such an action needs its delivery. -/
theorem NotificationsState.onDelivery_eq_some {s s' : NotificationsState} {d : DeliveryId}
    {enabled : Delivery → Prop} [DecidablePred enabled] {next : Delivery → NotificationsState} :
    s.onDelivery d enabled next = some s' ↔
      ∃ delivery, s.deliveries d = some delivery ∧ enabled delivery ∧ next delivery = s' := by
  simp [onDelivery, Option.bind_eq_some_iff]

/-- Only the retry queues have a TTL, and what expires there goes back to work. -/
theorem NotificationsState.expire_eq_some {s s' : NotificationsState} {id : QueueId}
    {message : QueuedMessage} (expired : s.expire id message = some s') :
    id.stage = .retry ∧ s' = (s.dequeue id message).enqueue [⟨.work, id.queue⟩] message := by
  obtain ⟨stage, queue⟩ := id
  cases stage with
  | work => cases expired
  | deadLetter => cases expired
  | retry =>
      have moved : s.expire ⟨.retry, queue⟩ message =
          some ((s.dequeue ⟨.retry, queue⟩ message).enqueue (route "" queue.text) message) := rfl
      rw [moved, route_expired] at expired
      exact ⟨rfl, (Option.some.inj expired).symm⟩

/-- **Nothing else happens.** -/
theorem deliveryEffect_of_step {s s' : NotificationsState} {a : NotificationsAction}
    (moved : notifications.step s a = some s') : DeliveryEffect s a s' := by
  -- one case for each action: what `step` asks for are the hypotheses of the effect
  cases a with
  | arrive event =>
      cases moved
      unfold NotificationsState.arrive
      rcases route_events event.type with ⟨queue, type, routed⟩ | unrouted
      · simp only [routed, List.cons_ne_nil, if_false]
        exact .arrived type
      · simp only [unrouted, if_true]
        exact .unrouted
  | deliver d queue message =>
      simp only [notifications, NotificationsState.step] at moved
      split_ifs at moved with enabled
      cases moved
      exact .delivered enabled.1 enabled.2.1 enabled.2.2
  | sendOk d =>
      obtain ⟨delivery, held, phase, rfl⟩ := NotificationsState.onDelivery_eq_some.mp moved
      exact .sent held phase
  | mark d =>
      obtain ⟨delivery, held, phase, rfl⟩ := NotificationsState.onDelivery_eq_some.mp moved
      exact .marked held phase
  | sendFail d error =>
      obtain ⟨delivery, held, phase, rfl⟩ := NotificationsState.onDelivery_eq_some.mp moved
      exact .publishing held phase
  | accept d =>
      obtain ⟨copy, sent, rfl⟩ := Option.map_eq_some_iff.mp moved
      exact .accepted sent
  | publishOk d =>
      obtain ⟨delivery, held, ⟨phase, accepted⟩, rfl⟩ :=
        NotificationsState.onDelivery_eq_some.mp moved
      exact .published held phase accepted
  | publishFail d =>
      obtain ⟨delivery, held, phase, rfl⟩ := NotificationsState.onDelivery_eq_some.mp moved
      exact .unpublished held phase
  | settle d =>
      obtain ⟨delivery, held, phase, rfl⟩ := NotificationsState.onDelivery_eq_some.mp moved
      unfold NotificationsState.settle
      split_ifs with requeue
      · exact .requeued held requeue.1 requeue.2
      · refine .acknowledged held phase (phase.imp_right fun rejected => ?_)
        exact Bool.eq_false_of_not_eq_true fun live => requeue ⟨rejected, live⟩
  | expire id message =>
      simp only [notifications, NotificationsState.step] at moved
      split_ifs at moved with member
      obtain ⟨stage, queue⟩ := id
      obtain ⟨rfl, rfl⟩ := NotificationsState.expire_eq_some moved
      exact .expired member
  | redeliver d =>
      obtain ⟨delivery, held, live, rfl⟩ := NotificationsState.onDelivery_eq_some.mp moved
      exact .redelivered held live
  | crash =>
      cases moved
      exact .crashed

/-- The action is about this delivery. -/
def NotificationsAction.Concerns (d : DeliveryId) : NotificationsAction → Prop
  | .deliver d' _ _ | .sendOk d' | .mark d' | .sendFail d' _ | .accept d' | .publishOk d'
  | .publishFail d' | .settle d' | .redeliver d' => d' = d
  | .crash => True
  | .arrive _ | .expire _ _ => False

/-- The other deliveries are as before. -/
theorem DeliveryEffect.frame {s s' : NotificationsState} {a : NotificationsAction}
    (effect : DeliveryEffect s a s') {d : DeliveryId} (elsewhere : ¬ a.Concerns d) :
    s'.deliveries d = s.deliveries d ∧ s'.outstanding d = s.outstanding d := by
  have other : ∀ {d'}, ¬ d' = d → d ≠ d' := fun different same => different same.symm
  cases effect with
  | delivered => exact ⟨Function.update_of_ne (other elsewhere) _ _, rfl⟩
  | sent => exact ⟨Function.update_of_ne (other elsewhere) _ _, rfl⟩
  | marked => exact ⟨Function.update_of_ne (other elsewhere) _ _, rfl⟩
  | publishing =>
      exact ⟨Function.update_of_ne (other elsewhere) _ _,
        Function.update_of_ne (other elsewhere) _ _⟩
  | accepted => exact ⟨rfl, Function.update_of_ne (other elsewhere) _ _⟩
  | published => exact ⟨Function.update_of_ne (other elsewhere) _ _, rfl⟩
  | unpublished => exact ⟨Function.update_of_ne (other elsewhere) _ _, rfl⟩
  | acknowledged => exact ⟨Function.update_of_ne (other elsewhere) _ _, rfl⟩
  | requeued => exact ⟨Function.update_of_ne (other elsewhere) _ _, rfl⟩
  | redelivered => exact ⟨Function.update_of_ne (other elsewhere) _ _, rfl⟩
  | crashed => exact absurd trivial elsewhere
  | arrived => exact ⟨rfl, rfl⟩
  | unrouted => exact ⟨rfl, rfl⟩
  | expired => exact ⟨rfl, rfl⟩

/-- The record only grows. -/
theorem history_of_effect {s s' : NotificationsState} {a : NotificationsAction}
    (effect : DeliveryEffect s a s') : ∃ rest, s'.history = s.history ++ rest := by
  cases effect with
  | arrived => exact ⟨_, rfl⟩
  | delivered => exact ⟨_, rfl⟩
  | sent => exact ⟨_, rfl⟩
  | marked => exact ⟨_, rfl⟩
  | unrouted => exact ⟨[], (List.append_nil _).symm⟩
  | publishing => exact ⟨[], (List.append_nil _).symm⟩
  | accepted => exact ⟨[], (List.append_nil _).symm⟩
  | published => exact ⟨[], (List.append_nil _).symm⟩
  | unpublished => exact ⟨[], (List.append_nil _).symm⟩
  | acknowledged => exact ⟨[], (List.append_nil _).symm⟩
  | requeued => exact ⟨[], (List.append_nil _).symm⟩
  | expired => exact ⟨[], (List.append_nil _).symm⟩
  | redelivered => exact ⟨[], (List.append_nil _).symm⟩
  | crashed => exact ⟨[], (List.append_nil _).symm⟩

/-- What has happened stays on record. -/
theorem mem_history_of_effect {s s' : NotificationsState} {a : NotificationsAction}
    (effect : DeliveryEffect s a s') {happening : Happening} (before : happening ∈ s.history) :
    happening ∈ s'.history := by
  obtain ⟨rest, grown⟩ := history_of_effect effect
  rw [grown]
  exact List.mem_append_left _ before

/-- The creation of an order, and the message it arrives as. -/
def tapCreated : WorkOrderEvent where
  eventId := ⟨"c56a4180-65aa-42ec-a945-5fd21dec0538"⟩
  type := .created
  occurredAt := "2026-07-22T10:00:00.000Z"
  correlationId := some "req-1"
  actorId := .null
  data :=
    { workOrderId := ⟨"w"⟩, propertyId := ⟨"p"⟩, title := "Leaking tap"
      description := "The kitchen tap drips.", priority := "medium", status := "open"
      assigneeId := none, triage := .null }

/-- Its event, as it comes from the relay. -/
def tapMessage : QueuedMessage := { event := tapCreated, attempt := .absent, lastError := none }

end PropFlow
