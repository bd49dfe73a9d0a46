import PropFlow.EventJson
import PropFlow.Library.JsonSchema
import PropFlow.WorkOrders.WorkOrder

/-!
# The asynchronous contract

`asyncapi.yaml`: the channels, and for each the schema of what is sent on it.  The document
is written by hand beside `libs/contracts`, which it calls the typed source of truth, and
nothing in the build compares the two.

## The document

* `payload`, `workOrderData`, `workOrderTriage` — the schemas of the messages, as they are
  written down.  A `format` is left out: it is an annotation and restricts nothing;
* `Channel`, `channels`, `auditStream` — the six channels of the RabbitMQ server, and the
  one of the Kafka server, where the messages of all six travel;
* `Channel.Admits` — a JSON value that may be sent on a channel.

## Main results

`admits_iff` compares the document with the types, for every JSON value: what a channel
admits is what is read as an event of its type, with a short title and with a priority and
a status of the vocabularies (`Admissible`).  The types leave these three open.  The proof
goes schema by schema, from the vocabularies to `valid_workOrderData` and `valid_payload`.
-/

namespace PropFlow

open Library JsonSchema

namespace AsyncApi

/-! ## The schemas -/

/-- The categories of a triage; `TriageCategory` lists them too. -/
def triageCategory : JsonSchema := .vocabulary
  ["plumbing", "electrical", "hvac", "appliance", "structural", "pest_control", "other"]

/-- The urgencies of a triage; `TriageUrgency` lists them too. -/
def triageUrgency : JsonSchema := .vocabulary ["emergency", "high", "medium", "low"]

/-- The block of a triage: all three properties have to be there. -/
def workOrderTriage : JsonSchema := .object ["category", "urgency", "reasoning"]
  [("category", triageCategory), ("urgency", triageUrgency), ("reasoning", .type [.string])]

/-- The title of a work order: the one text whose length the document bounds. -/
def title : JsonSchema := .allOf [.type [.string], .maxLength 200]

/-- The priority of a work order, which the type has as any text. -/
def priority : JsonSchema := .vocabulary ["low", "medium", "high", "urgent"]

/-- The status of a work order, which the type has as any text. -/
def status : JsonSchema := .vocabulary
  ["open", "assigned", "in_progress", "completed", "cancelled"]

/-- A block, or `null` for an order that has not been triaged. -/
def triage : JsonSchema := .oneOf [workOrderTriage, .type [.null]]

/-- The snapshot of the work order. Only `triage` may be absent. -/
def workOrderData : JsonSchema := .object
  ["workOrderId", "propertyId", "title", "description", "priority", "status", "assigneeId"]
  [ ("workOrderId", .type [.string]), ("propertyId", .type [.string]), ("title", title),
    ("description", .type [.string]), ("priority", priority), ("status", status),
    ("assigneeId", nullableString), ("triage", triage) ]

/-- The envelope of every event. Only `actorId` may be absent. -/
def eventEnvelope : JsonSchema := .object
  ["eventId", "type", "occurredAt", "correlationId", "data"]
  [ ("eventId", .type [.string]), ("type", .type [.string]), ("occurredAt", .type [.string]),
    ("correlationId", nullableString), ("actorId", nullableString), ("data", workOrderData) ]

/-- The payload of an event, of which only the type is special. -/
def payload (type : String) : JsonSchema := .allOf
  [ eventEnvelope,
    .object [] [("type", .const type)] ]

/-- The payload of an event about a new work order. -/
def workOrderCreatedPayload : JsonSchema := payload "work-order.created"

/-- The payload of an event about an assignment. -/
def workOrderAssignedPayload : JsonSchema := payload "work-order.assigned"

/-- The payload of an event about a start. -/
def workOrderStartedPayload : JsonSchema := payload "work-order.started"

/-- The payload of an event about a completion. -/
def workOrderCompletedPayload : JsonSchema := payload "work-order.completed"

/-- The payload of an event about a cancellation. -/
def workOrderCancelledPayload : JsonSchema := payload "work-order.cancelled"

/-- The payload of an event about a triage. -/
def workOrderTriagedPayload : JsonSchema := payload "work-order.triaged"

/-! ## The channels -/

/-- A channel of the document: where it is, and the payloads that may travel there. -/
structure Channel where
  /-- The routing key, or the topic. -/
  address : String
  /-- What may be sent: a message is valid against one of them. -/
  messages : List JsonSchema

/-- The routing key of new work orders. -/
def workOrderCreated : Channel := ⟨"work-order.created", [workOrderCreatedPayload]⟩

/-- The routing key of assignments. -/
def workOrderAssigned : Channel := ⟨"work-order.assigned", [workOrderAssignedPayload]⟩

/-- The routing key of starts. -/
def workOrderStarted : Channel := ⟨"work-order.started", [workOrderStartedPayload]⟩

/-- The routing key of completions. -/
def workOrderCompleted : Channel := ⟨"work-order.completed", [workOrderCompletedPayload]⟩

/-- The routing key of cancellations. -/
def workOrderCancelled : Channel := ⟨"work-order.cancelled", [workOrderCancelledPayload]⟩

/-- The routing key of triages. -/
def workOrderTriaged : Channel := ⟨"work-order.triaged", [workOrderTriagedPayload]⟩

/-- The Kafka topic, where the messages of all channels travel together. -/
def auditStream : Channel where
  address := "propflow.work-orders"
  messages := [workOrderCreatedPayload, workOrderAssignedPayload, workOrderStartedPayload,
    workOrderCompletedPayload, workOrderCancelledPayload, workOrderTriagedPayload]

/-- The channels of the RabbitMQ server. -/
def channels : List Channel :=
  [workOrderCreated, workOrderAssigned, workOrderStarted, workOrderCompleted, workOrderCancelled,
    workOrderTriaged]

/-- A message that may be sent on the channel. -/
def Channel.Admits (channel : Channel) (json : Json) : Prop :=
  ∃ schema ∈ channel.messages, schema.valid json = true

/-- The channel of an event type. -/
def channelOf : WorkOrderEventType → Channel
  | .created => workOrderCreated
  | .assigned => workOrderAssigned
  | .started => workOrderStarted
  | .completed => workOrderCompleted
  | .cancelled => workOrderCancelled
  | .triaged => workOrderTriaged

/-- Every channel is the channel of an event type. -/
theorem exists_channelOf {channel : Channel} (member : channel ∈ channels) :
    ∃ type, channel = channelOf type := by
  simp only [channels, List.mem_cons, List.not_mem_nil, or_false] at member
  rcases member with rfl | rfl | rfl | rfl | rfl | rfl
  · exact ⟨.created, rfl⟩
  · exact ⟨.assigned, rfl⟩
  · exact ⟨.started, rfl⟩
  · exact ⟨.completed, rfl⟩
  · exact ⟨.cancelled, rfl⟩
  · exact ⟨.triaged, rfl⟩

/-- Every event type has its channel. -/
theorem channelOf_mem (type : WorkOrderEventType) : channelOf type ∈ channels := by
  cases type <;> simp [channels, channelOf]

/-- A channel has the text of its event type as its address. -/
theorem channelOf_address (type : WorkOrderEventType) : (channelOf type).address = type.text := by
  cases type <;> rfl

/-- One payload travels on a channel: the one whose type is the channel's. -/
theorem channelOf_messages (type : WorkOrderEventType) :
    (channelOf type).messages = [payload type.text] := by
  cases type <;> rfl

/-- The audit stream lists one payload for each event type. -/
theorem auditStream_messages : auditStream.messages =
    [.created, .assigned, .started, .completed, .cancelled, .triaged].map
      fun type : WorkOrderEventType => payload type.text := rfl

/-! ## The typed contract -/

/-- What the document says about the data of an event, and the types leave open. -/
structure Admissible (data : WorkOrderEventData) : Prop where
  /-- The bound of the title. -/
  title : data.title.length ≤ 200
  /-- A priority of the vocabulary. -/
  priority : ∃ p : WorkOrderPriority, data.priority = p.text
  /-- A status of the vocabulary. -/
  status : ∃ s : WorkOrderStatus, data.status = s.text

section

variable {json : Json}

/-- The categories of the document are those of the type. -/
theorem valid_triageCategory :
    triageCategory.valid json = true ↔ ∃ category : TriageCategory, json = .str category.text :=
  valid_vocabulary TriageCategory.text
    [.plumbing, .electrical, .hvac, .appliance, .structural, .pestControl, .other]
    fun category => by cases category <;> decide

/-- The urgencies of the document are those of the type. -/
theorem valid_triageUrgency :
    triageUrgency.valid json = true ↔ ∃ urgency : TriageUrgency, json = .str urgency.text :=
  valid_vocabulary TriageUrgency.text [.emergency, .high, .medium, .low]
    fun urgency => by cases urgency <;> decide

/-- The priorities of the document are those of a work order. -/
theorem valid_priority :
    priority.valid json = true ↔ ∃ p : WorkOrderPriority, json = .str p.text :=
  valid_vocabulary WorkOrderPriority.text [.low, .medium, .high, .urgent]
    fun p => by cases p <;> decide

/-- The statuses of the document are those of a work order. -/
theorem valid_status : status.valid json = true ↔ ∃ s : WorkOrderStatus, json = .str s.text :=
  valid_vocabulary WorkOrderStatus.text [.open, .assigned, .inProgress, .completed, .cancelled]
    fun s => by cases s <;> decide

/-- A title is a text of at most 200 characters. -/
theorem valid_title :
    title.valid json = true ↔ ∃ text, json = .str text ∧ text.length ≤ 200 := by
  simp only [title, valid_allOf, List.forall_mem_cons, List.not_mem_nil, IsEmpty.forall_iff,
    implies_true, and_true, valid_string]
  constructor
  · rintro ⟨⟨text, rfl⟩, short⟩
    exact ⟨text, rfl, valid_maxLength.mp short⟩
  · rintro ⟨text, rfl, short⟩
    exact ⟨⟨text, rfl⟩, valid_maxLength.mpr short⟩

/-- The block of a triage is valid exactly when it can be read. -/
theorem valid_workOrderTriage :
    workOrderTriage.valid json = true ↔ ∃ block, WorkOrderTriage.ofJson? json = some block := by
  rw [workOrderTriage, valid_object]
  simp only [List.forall_mem_cons, List.not_mem_nil, IsEmpty.forall_iff, implies_true, and_true,
    valid_triageCategory,
    valid_triageUrgency, valid_string]
  constructor
  · rintro ⟨-, ⟨hasCategory, hasUrgency, hasReasoning⟩, isCategory, isUrgency, isReasoning⟩
    obtain ⟨-, here, category, rfl⟩ := exists_of_required hasCategory isCategory
    obtain ⟨-, here', urgency, rfl⟩ := exists_of_required hasUrgency isUrgency
    obtain ⟨-, here'', reasoning, rfl⟩ := exists_of_required hasReasoning isReasoning
    exact ⟨⟨category, urgency, reasoning⟩,
      WorkOrderTriage.ofJson?_eq_some.mpr ⟨here, here', here''⟩⟩
  · rintro ⟨block, read⟩
    obtain ⟨category, urgency, reasoning⟩ := WorkOrderTriage.ofJson?_eq_some.mp read
    refine ⟨type_of_get? category, ?_⟩
    simp [category, urgency, reasoning]

/-- The property `triage` is valid exactly when it can be read: as a block or as `null`. -/
theorem valid_triage :
    triage.valid json = true ↔ ∃ block, json.asNullable? WorkOrderTriage.ofJson? = some block := by
  rw [triage, valid_oneOf_null rfl, valid_workOrderTriage]
  cases json <;> simp [Json.asNullable?]

/-- The data of an event is valid exactly when it can be read and is admissible. -/
theorem valid_workOrderData :
    workOrderData.valid json = true ↔
      ∃ data, WorkOrderEventData.ofJson? json = some data ∧ Admissible data := by
  rw [workOrderData, valid_object]
  simp only [List.forall_mem_cons, List.not_mem_nil, IsEmpty.forall_iff, implies_true, and_true,
    valid_title, valid_priority, valid_status, valid_string, valid_nullableString, valid_triage]
  constructor
  · rintro ⟨-, ⟨hasId, hasProperty, hasTitle, hasDescription, hasPriority, hasStatus, hasAssignee⟩,
      isId, isProperty, isTitle, isDescription, isPriority, isStatus, isAssignee, isTriage⟩
    obtain ⟨-, id, workOrderId, rfl⟩ := exists_of_required hasId isId
    obtain ⟨-, property, propertyId, rfl⟩ := exists_of_required hasProperty isProperty
    obtain ⟨-, title, titleText, rfl, short⟩ := exists_of_required hasTitle isTitle
    obtain ⟨-, description, descriptionText, rfl⟩ :=
      exists_of_required hasDescription isDescription
    obtain ⟨-, priority, p, rfl⟩ := exists_of_required hasPriority isPriority
    obtain ⟨-, status, s, rfl⟩ := exists_of_required hasStatus isStatus
    obtain ⟨_, assignee, assigneeId, nullable⟩ := exists_of_required hasAssignee isAssignee
    -- the one property that may be absent
    obtain ⟨block, triage⟩ := exists_readProperty.mpr isTriage
    rw [Json.asNullable?_eq_some] at nullable
    refine ⟨⟨⟨workOrderId⟩, ⟨propertyId⟩, titleText, descriptionText, p.text, s.text,
      assigneeId.map Uuid.mk, block⟩, ?_, short, ⟨p, rfl⟩, ⟨s, rfl⟩⟩
    rw [WorkOrderEventData.ofJson?_eq_some, assignee, nullable, Uuid.map_mk_text]
    exact ⟨id, property, title, description, priority, status, rfl, triage⟩
  · rintro ⟨data, read, admissible⟩
    obtain ⟨id, property, title, description, priority, status, assignee, triage⟩ :=
      WorkOrderEventData.ofJson?_eq_some.mp read
    have isTriage := exists_readProperty.mp ⟨_, triage⟩
    refine ⟨type_of_get? id, ?_⟩
    simpa [id, property, title, description, priority, status, assignee, admissible.title,
      admissible.priority, admissible.status, Json.asNullable?_eq_some] using isTriage

/-- A payload is valid exactly when it is read as an admissible event of its type. -/
theorem valid_payload {type : WorkOrderEventType} :
    (payload type.text).valid json = true ↔
      ∃ event, eventOfJson? json = some event ∧ event.type = type ∧ Admissible event.data := by
  rw [payload, valid_allOf]
  simp only [eventEnvelope, valid_object, List.forall_mem_cons, List.not_mem_nil,
    IsEmpty.forall_iff, implies_true, and_true, valid_string, valid_nullableString,
    valid_workOrderData, valid_const]
  constructor
  · rintro ⟨⟨-, ⟨hasId, hasType, hasTime, hasCorrelation, hasData⟩, isId, -, isTime,
      isCorrelation, isActor, isData⟩, -, -, isType⟩
    obtain ⟨-, id, eventId, rfl⟩ := exists_of_required hasId isId
    obtain ⟨-, typed, rfl⟩ := exists_of_required hasType isType
    obtain ⟨-, time, occurredAt, rfl⟩ := exists_of_required hasTime isTime
    obtain ⟨_, correlation, correlationId, nullable⟩ :=
      exists_of_required hasCorrelation isCorrelation
    obtain ⟨inner, there, data, read, admissible⟩ := exists_of_required hasData isData
    obtain ⟨actorId, actor⟩ := exists_readProperty.mpr isActor
    rw [Json.asNullable?_eq_some] at nullable
    refine ⟨⟨⟨eventId⟩, type, occurredAt, correlationId, actorId, data⟩, ?_, rfl, admissible⟩
    rw [eventOfJson?_eq_some, correlation, nullable]
    exact ⟨id, typed, time, rfl, actor, inner, there, read⟩
  · rintro ⟨event, read, rfl, admissible⟩
    obtain ⟨id, typed, time, correlation, actor, inner, there, readData⟩ :=
      eventOfJson?_eq_some.mp read
    have isActor := exists_readProperty.mp ⟨_, actor⟩
    simpa [id, typed, time, correlation, there, readData, admissible, type_of_get? id,
      Json.asNullable?_eq_some] using isActor

/-- A channel admits what is read as an admissible event of its type. -/
theorem channelOf_admits_iff {type : WorkOrderEventType} :
    (channelOf type).Admits json ↔
      ∃ event, eventOfJson? json = some event ∧ event.type = type ∧ Admissible event.data := by
  rw [Channel.Admits, channelOf_messages, ← valid_payload]
  simp

/-- The audit stream admits what is read as an admissible event of any type. -/
theorem auditStream_admits_iff :
    auditStream.Admits json ↔
      ∃ event, eventOfJson? json = some event ∧ Admissible event.data := by
  rw [Channel.Admits, auditStream_messages]
  constructor
  · rintro ⟨_, listed, valid⟩
    obtain ⟨type, -, rfl⟩ := List.mem_map.mp listed
    obtain ⟨event, read, -, admissible⟩ := valid_payload.mp valid
    exact ⟨event, read, admissible⟩
  · rintro ⟨event, read, admissible⟩
    refine ⟨_, List.mem_map_of_mem ?_, valid_payload.mpr ⟨event, read, rfl, admissible⟩⟩
    cases event.type <;> decide

end

/-- **The document and the types are one format.**  A channel admits the values that are read
as events whose type is its address, and that keep to the bound and the vocabularies; the
audit stream admits them all. -/
theorem admits_iff (json : Json) :
    (∀ channel ∈ channels, channel.Admits json ↔
      ∃ event, eventOfJson? json = some event ∧ event.type.text = channel.address ∧
        Admissible event.data) ∧
    (auditStream.Admits json ↔
      ∃ event, eventOfJson? json = some event ∧ Admissible event.data) := by
  refine ⟨fun channel member => ?_, auditStream_admits_iff⟩
  obtain ⟨type, rfl⟩ := exists_channelOf member
  rw [channelOf_admits_iff, channelOf_address]
  refine exists_congr fun event => and_congr_right fun _ => and_congr_left fun _ => ?_
  exact ⟨congrArg _, WorkOrderEventType.eq_of_text⟩

end AsyncApi

end PropFlow
