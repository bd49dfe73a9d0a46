import PropFlow.Observability
import PropFlow.WorkOrders.WorkOrder

/-!
# Staging events in the outbox

`WorkOrderEventsOutbox.stage` builds the event envelope at write time and
inserts it in `outbox_events`, in the caller's transaction.  Publishing is the
relay's job.

* `snapshot` — the data of an event, taken from the row as it is saved;
* `envelope` — the event: the data, with the ids of the request that caused it, if it
  was one;
* `stagedRow` — the row of the outbox, which agrees with its own payload by
  construction;
* `stage` — the insert, which the unique event id can refuse.

The triage columns of a row are four, and all of them are needed for the triage block of
a snapshot (`triageOf_isSome`).
-/

namespace PropFlow

open Library Library.CivilTime

/-- `OutboxEvent`: a staged domain event.  A null `publishedAt` is the queue. -/
structure OutboxEvent where
  id : ℕ
  eventId : Uuid
  type : WorkOrderEventType
  payload : WorkOrderEvent
  publishedAt : Option Instant
deriving DecidableEq

/-- The committed rows of `outbox_events`, in the order they were inserted, and
the next value of the `bigserial` sequence. -/
structure OutboxTable where
  /-- the rows, oldest first -/
  rows : List OutboxEvent
  /-- what `nextval` gives next -/
  nextId : ℕ
deriving DecidableEq

/-- What staging an event reads besides the work order: the request context,
`randomUUID()` and `new Date()`. -/
structure StageContext where
  store : Option RequestContext
  eventId : Uuid
  now : Instant
deriving DecidableEq

namespace WorkOrderEventsOutbox

/-- The triage block: present once category and urgency are. -/
def triageOf (workOrder : WorkOrder) : Option WorkOrderTriage :=
  match workOrder.triageCategory, workOrder.triageUrgency with
  | some category, some urgency =>
      some { category, urgency, reasoning := workOrder.triageReasoning.getD "" }
  | _, _ => none

/-- The snapshot of a work order that an event carries. -/
def snapshot (workOrder : WorkOrder) : WorkOrderEventData where
  workOrderId := workOrder.id
  propertyId := workOrder.propertyId
  title := workOrder.title
  description := workOrder.description
  priority := workOrder.priority.text
  status := workOrder.status.text
  assigneeId := workOrder.assigneeId
  triage := Nullish.ofOption (triageOf workOrder)

/-- The envelope of an event about a work order. -/
def envelope (type : WorkOrderEventType) (workOrder : WorkOrder) (context : StageContext) :
    WorkOrderEvent where
  eventId := context.eventId
  type := type
  occurredAt := toISOString context.now
  correlationId := currentRequestId context.store
  -- null for system-initiated events: the triage consumer runs outside any request
  actorId := Nullish.ofOption (currentUserId context.store)
  data := snapshot workOrder

/-- The row `stage` inserts, under the id the sequence gave it. -/
def stagedRow (id : ℕ) (type : WorkOrderEventType) (workOrder : WorkOrder)
    (context : StageContext) : OutboxEvent where
  id := id
  eventId := (envelope type workOrder context).eventId
  type := type
  payload := envelope type workOrder context
  publishedAt := none

/-- `stage(manager, type, workOrder)`: insert the row, unless its event id is
taken. -/
def stage (outbox : OutboxTable) (type : WorkOrderEventType) (workOrder : WorkOrder)
    (context : StageContext) : Except DbError OutboxTable :=
  if ∃ row ∈ outbox.rows, row.eventId = context.eventId then
    .error (.unique "uq_outbox_events_event_id")
  else
    .ok
      { rows := outbox.rows ++ [stagedRow outbox.nextId type workOrder context]
        nextId := outbox.nextId + 1 }

variable (id : ℕ) (type : WorkOrderEventType) (workOrder : WorkOrder) (context : StageContext)

/-- The type column is that of the envelope. -/
@[simp] theorem stagedRow_type : (stagedRow id type workOrder context).type = type := rfl

/-- The payload is about the row as it was saved. -/
@[simp] theorem stagedRow_data :
    (stagedRow id type workOrder context).payload.data = snapshot workOrder := rfl

/-- It names the order. -/
@[simp] theorem snapshot_workOrderId : (snapshot workOrder).workOrderId = workOrder.id := rfl

/-- The triage block is present exactly when category and urgency are. -/
theorem triageOf_isSome :
    (triageOf workOrder).isSome =
      (workOrder.triageCategory.isSome && workOrder.triageUrgency.isSome) := by
  unfold triageOf
  cases workOrder.triageCategory <;> cases workOrder.triageUrgency <;> rfl

variable {type workOrder context}

/-- A successful `stage` appends one row with a fresh event id. -/
theorem stage_ok {outbox after : OutboxTable}
    (ok : stage outbox type workOrder context = .ok after) :
    (∀ row ∈ outbox.rows, row.eventId ≠ context.eventId) ∧
      after.rows = outbox.rows ++ [stagedRow outbox.nextId type workOrder context] ∧
      after.nextId = outbox.nextId + 1 := by
  obtain ⟨fresh, rest⟩ := guard_eq_ok.mp ok
  cases rest
  exact ⟨fun row member same => fresh ⟨row, member, same⟩, rfl, rfl⟩

end WorkOrderEventsOutbox

end PropFlow
