import PropFlow.Contracts
import PropFlow.Library.BoundedFifo

/-!
# The notifications service

The code of the service that runs between two awaits.

* The queues and how they are bound: `resilienceQueues`, and the bindings that
  `@RabbitSubscribe` makes (`QueueId.config`, `route`);
* what a message carries beside its event: the attempt and the last error
  (`QueuedMessage`), and what `EventRetryHandler` publishes when a handler has failed
  (`EventRetryHandler.republish`);
* the notifications: `notifyCreated`, `notifyCompleted`;
* the deduplication store: `ProcessedEventsStore`, an array of ids of which the oldest
  goes when it is full.

A message that no queue is bound for is dropped without an error, so the routing
is spelled out; `route_retry`, `route_deadLetter` and `route_expired` say that
nothing the service publishes is.  `route_events` says which event types have a work
queue at all: two of the six.
-/

namespace PropFlow

open Library

/-! ## Queues -/

/-- `QUEUES`: the two queues the service consumes. -/
inductive WorkQueue where
  | created
  | completed
deriving DecidableEq, Repr

/-- The name of a work queue. -/
def WorkQueue.text : WorkQueue → String
  | .created => "notifications.work-order-created"
  | .completed => "notifications.work-order-completed"

/-- The events a queue is subscribed to. -/
def WorkQueue.eventType : WorkQueue → WorkOrderEventType
  | .created => .created
  | .completed => .completed

/-- The two queues are for different events. -/
theorem WorkQueue.eventType_injective : Function.Injective WorkQueue.eventType := by
  intro a b same
  cases a <;> cases b <;> first | rfl | cases same

/-- `RETRY_DELAY_MS`. -/
def retryDelayMs : ℕ := 5000

/-- `MAX_ATTEMPTS`. -/
def maxAttempts : ℤ := 3

/-- `retryQueue(queue)`. -/
def retryQueue (queue : String) : String := queue ++ ".retry"

/-- `deadLetterQueue(queue)`. -/
def deadLetterQueue (queue : String) : String := queue ++ ".dlq"

/-- A declared queue: its binding, if it has one, and what happens to messages
that expire. -/
structure QueueConfig where
  name : String
  exchange : Option String
  routingKey : Option String
  messageTtl : Option ℕ
  deadLetterExchange : Option String
  deadLetterRoutingKey : Option String
deriving DecidableEq

/-- `resilienceQueues(queue)`. -/
def resilienceQueues (queue : String) : QueueConfig × QueueConfig :=
  ({ name := retryQueue queue, exchange := none, routingKey := none
     messageTtl := some retryDelayMs, deadLetterExchange := some ""
     deadLetterRoutingKey := some queue },
    { name := deadLetterQueue queue, exchange := some Exchanges.deadLetter
      routingKey := some queue, messageTtl := none, deadLetterExchange := none
      deadLetterRoutingKey := none })

/-- What a queue is for. -/
inductive Stage where
  /-- where events arrive -/
  | work
  /-- where they wait for their next attempt -/
  | retry
  /-- where they stay after the last one -/
  | deadLetter
deriving DecidableEq, Repr

/-- A queue of the service. -/
structure QueueId where
  stage : Stage
  queue : WorkQueue
deriving DecidableEq, Repr

/-- How the queue is declared, by `@RabbitSubscribe` or in the module. -/
def QueueId.config : QueueId → QueueConfig
  | ⟨.work, queue⟩ =>
      { name := queue.text, exchange := some Exchanges.events
        routingKey := some queue.eventType.text, messageTtl := none, deadLetterExchange := none
        deadLetterRoutingKey := none }
  | ⟨.retry, queue⟩ => (resilienceQueues queue.text).1
  | ⟨.deadLetter, queue⟩ => (resilienceQueues queue.text).2

/-- All of them. -/
def QueueId.all : List QueueId :=
  [⟨.work, .created⟩, ⟨.retry, .created⟩, ⟨.deadLetter, .created⟩,
    ⟨.work, .completed⟩, ⟨.retry, .completed⟩, ⟨.deadLetter, .completed⟩]

/-- The queues a message goes to.  The default exchange routes by queue name, a
topic exchange by binding; no binding here has a wildcard. -/
def route (exchange routingKey : String) : List QueueId :=
  QueueId.all.filter fun id =>
    if exchange = "" then id.config.name = routingKey
    else id.config.exchange = some exchange ∧ id.config.routingKey = some routingKey

/-- An event that has a work queue gets there, and nowhere else. -/
theorem route_work (queue : WorkQueue) :
    route Exchanges.events queue.eventType.text = [⟨.work, queue⟩] := by
  cases queue <;> decide

/-- A copy for another attempt gets to the retry queue of its queue. -/
theorem route_retry (queue : WorkQueue) :
    route "" (retryQueue queue.text) = [⟨.retry, queue⟩] := by
  cases queue <;> decide

/-- The last copy gets to its dead-letter queue. -/
theorem route_deadLetter (queue : WorkQueue) :
    route Exchanges.deadLetter queue.text = [⟨.deadLetter, queue⟩] := by
  cases queue <;> decide

/-- What expires in the retry queue comes back to the work queue. -/
theorem route_expired (queue : WorkQueue) : route "" queue.text = [⟨.work, queue⟩] := by
  cases queue <;> decide

/-- An event is routed to the work queue of its type, if there is one. -/
theorem route_events (type : WorkOrderEventType) :
    (∃ queue : WorkQueue, queue.eventType = type ∧
      route Exchanges.events type.text = [⟨.work, queue⟩]) ∨
      route Exchanges.events type.text = [] := by
  cases type with
  | created => exact Or.inl ⟨.created, rfl, route_work .created⟩
  | completed => exact Or.inl ⟨.completed, rfl, route_work .completed⟩
  | assigned => exact Or.inr (by decide)
  | started => exact Or.inr (by decide)
  | cancelled => exact Or.inr (by decide)
  | triaged => exact Or.inr (by decide)

/-! ## Messages -/

/-- The `x-attempt` header. -/
inductive AttemptHeader where
  /-- no attempt has been made -/
  | absent
  /-- what the service itself writes -/
  | number (n : ℤ)
  /-- anything else, which is read as a first attempt -/
  | other (text : String)
deriving DecidableEq, Repr

/-- A message on one of the queues. -/
structure QueuedMessage where
  event : WorkOrderEvent
  attempt : AttemptHeader
  /-- `x-last-error` -/
  lastError : Option String
deriving DecidableEq

/-- A call of `amqp.publish`. -/
structure Publish where
  exchange : String
  routingKey : String
  message : QueuedMessage
  persistent : Bool
deriving DecidableEq

namespace EventRetryHandler

/-- `attemptOf(message)`. -/
def attemptOf (message : QueuedMessage) : ℤ :=
  match message.attempt with
  | .number n => n
  | _ => 1

/-- What `handle` publishes in its `catch`. -/
def republish (queue : WorkQueue) (message : QueuedMessage) (error : Thrown) : Publish :=
  if attemptOf message < maxAttempts then
    { exchange := "", routingKey := retryQueue queue.text
      message :=
        { event := message.event, attempt := .number (attemptOf message + 1), lastError := none }
      persistent := true }
  else
    { exchange := Exchanges.deadLetter, routingKey := queue.text
      message :=
        { event := message.event, attempt := .number (attemptOf message)
          lastError := some error.text }
      persistent := true }

/-- A copy of the event goes to exactly one queue, the retry queue or the
dead-letter queue of the queue it came from. -/
theorem republish_spec (queue : WorkQueue) (message : QueuedMessage) (error : Thrown) :
    (republish queue message error).message.event = message.event ∧
      ∃ stage, stage ≠ Stage.work ∧
        route (republish queue message error).exchange (republish queue message error).routingKey =
          [⟨stage, queue⟩] := by
  unfold republish
  split_ifs
  · exact ⟨rfl, .retry, nofun, route_retry queue⟩
  · exact ⟨rfl, .deadLetter, nofun, route_deadLetter queue⟩

end EventRetryHandler

/-! ## Notifications -/

/-- `Notification`. -/
structure Notification where
  recipient : String
  subject : String
  body : String
deriving DecidableEq, Repr

namespace WorkOrderEventsConsumer

/-- What `notifyCreated` sends. -/
def notifyCreated (event : WorkOrderEvent) : Notification where
  recipient := "manager-of-" ++ event.data.propertyId.text
  subject := "New work order: " ++ event.data.title
  body := "A " ++ event.data.priority ++ " priority work order was opened for property " ++
    event.data.propertyId.text ++ "."

/-- What `notifyCompleted` sends. -/
def notifyCompleted (event : WorkOrderEvent) : Notification where
  recipient := "tenant-of-" ++ event.data.propertyId.text
  subject := "Work order completed: " ++ event.data.title
  body := "The work order for property " ++ event.data.propertyId.text ++ " has been completed."

/-- The notification of a queue's handler. -/
def notification : WorkQueue → WorkOrderEvent → Notification
  | .created => notifyCreated
  | .completed => notifyCompleted

end WorkOrderEventsConsumer

/-! ## Deduplication -/

/-- `ProcessedEventsStore`: the ids in the set, in insertion order. -/
structure ProcessedEventsStore where
  seen : List Uuid
deriving DecidableEq

namespace ProcessedEventsStore

/-- `MAX_ENTRIES`. -/
def maxEntries : ℕ := 10000

/-- There is room for one id at least. -/
theorem maxEntries_pos : 0 < maxEntries := Nat.succ_pos 9999

/-- The store of a process that has just started. -/
def empty : ProcessedEventsStore := ⟨[]⟩

/-- `has(eventId)`. -/
def has (store : ProcessedEventsStore) (eventId : Uuid) : Bool := store.seen.contains eventId

/-- `mark(eventId)`. -/
def mark (store : ProcessedEventsStore) (eventId : Uuid) : ProcessedEventsStore :=
  ⟨remember maxEntries store.seen eventId⟩

/-- What the store holds after a mark. -/
@[simp] theorem seen_mark (store : ProcessedEventsStore) (eventId : Uuid) :
    (store.mark eventId).seen = remember maxEntries store.seen eventId := rfl

/-- A duplicate is an event whose id the store holds. -/
theorem has_iff {store : ProcessedEventsStore} {eventId : Uuid} :
    store.has eventId = true ↔ eventId ∈ store.seen := List.contains_iff_mem

end ProcessedEventsStore

end PropFlow
