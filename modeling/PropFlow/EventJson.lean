import PropFlow.Contracts
import PropFlow.Library.Json

/-!
# Work-order events as JSON text

An event crosses both brokers as the text `JSON.stringify` makes of it.  What is
stringified is the `payload` column of the outbox, and `jsonb` orders the keys of
an object by length and then bytewise, so that is their order here.

## The two directions

* `eventToJson`, `stringifyEvent` — an event as an object, and as a text.  A property that
  is absent stays absent: `actorId` of the events that predate authentication, and `triage`;
* `eventOfJson?`, `parseEvent` — `JSON.parse` together with the cast to `WorkOrderEvent`.
  The cast checks nothing at run time; here a value is read if the type describes it.  Keys
  that no one asks for are ignored, as the code does.

## Main results

`parseEvent_stringifyEvent` is the round trip: whatever was staged is what a consumer
reads.  `eventOfJson?_eq_some` takes a successful reading apart, key by key, and that is
what the schemas of the documents are compared with.
-/

namespace PropFlow

open Library

/-- Find a text in a closed vocabulary. -/
def ofText? {α : Type} (text : α → String) (vocabulary : List α) (t : String) : Option α :=
  vocabulary.find? fun a => text a = t

/-- The event type with this text. -/
def WorkOrderEventType.ofText? : String → Option WorkOrderEventType :=
  PropFlow.ofText? text [.created, .assigned, .started, .completed, .cancelled, .triaged]

/-- The category with this text. -/
def TriageCategory.ofText? : String → Option TriageCategory :=
  PropFlow.ofText? text
    [.plumbing, .electrical, .hvac, .appliance, .structural, .pestControl, .other]

/-- The urgency with this text. -/
def TriageUrgency.ofText? : String → Option TriageUrgency :=
  PropFlow.ofText? text [.emergency, .high, .medium, .low]

/-- An event type is read from its text. -/
@[simp] theorem WorkOrderEventType.ofText?_text (type : WorkOrderEventType) :
    ofText? type.text = some type := by
  cases type <;> decide

/-- Event types are told apart by their texts. -/
theorem WorkOrderEventType.eq_of_text {type type' : WorkOrderEventType}
    (same : type.text = type'.text) : type = type' := by
  have read := congrArg ofText? same
  rwa [ofText?_text, ofText?_text, Option.some_inj] at read

/-- A category is read from its text. -/
@[simp] theorem TriageCategory.ofText?_text (category : TriageCategory) :
    ofText? category.text = some category := by
  cases category <;> decide

/-- An urgency is read from its text. -/
@[simp] theorem TriageUrgency.ofText?_text (urgency : TriageUrgency) :
    ofText? urgency.text = some urgency := by
  cases urgency <;> decide

/-! ## Encoding -/

/-- The block of a triage as an object. -/
def WorkOrderTriage.toJson (triage : WorkOrderTriage) : Json :=
  .obj
    [("urgency", .str triage.urgency.text), ("category", .str triage.category.text),
      ("reasoning", .str triage.reasoning)]

/-- A property whose value is `undefined` is not written. -/
def property {α : Type} (key : String) (encode : α → Json) : Nullish α → List (String × Json)
  | .undefined => []
  | .null => [(key, .null)]
  | .value a => [(key, encode a)]

/-- The snapshot as an object. -/
def WorkOrderEventData.toJson (data : WorkOrderEventData) : Json :=
  .obj
    ([("title", .str data.title), ("status", .str data.status)] ++
      property "triage" WorkOrderTriage.toJson data.triage ++
      [("priority", .str data.priority),
        ("assigneeId", Json.ofOption (fun id => .str id.text) data.assigneeId),
        ("propertyId", .str data.propertyId.text), ("description", .str data.description),
        ("workOrderId", .str data.workOrderId.text)])

/-- The event as an object. -/
def eventToJson (event : WorkOrderEvent) : Json :=
  .obj
    ([("data", event.data.toJson), ("type", .str event.type.text)] ++
      property "actorId" Json.str event.actorId ++
      [("eventId", .str event.eventId.text), ("occurredAt", .str event.occurredAt),
        ("correlationId", Json.ofOption Json.str event.correlationId)])

/-- `JSON.stringify(event)`. -/
def stringifyEvent (event : WorkOrderEvent) : String := (eventToJson event).stringify

/-! ## Decoding -/

/-- The block of a triage, if the value is one. -/
def WorkOrderTriage.ofJson? (json : Json) : Option WorkOrderTriage := do
  let category ← (← json.get? "category").asString?
  let urgency ← (← json.get? "urgency").asString?
  let reasoning ← (← json.get? "reasoning").asString?
  some
    { category := ← TriageCategory.ofText? category
      urgency := ← TriageUrgency.ofText? urgency
      reasoning }

/-- Read a property that may be missing or `null`. -/
def readProperty {α : Type} (decode : Json → Option α) : Option Json → Option (Nullish α)
  | none => some .undefined
  | some .null => some .null
  | some json => (decode json).map .value

/-- The snapshot, if the value is one. -/
def WorkOrderEventData.ofJson? (json : Json) : Option WorkOrderEventData := do
  let text (key : String) : Option String := (json.get? key).bind Json.asString?
  let assigneeId ← (← json.get? "assigneeId").asNullable? Json.asString?
  some
    { workOrderId := ⟨← text "workOrderId"⟩
      propertyId := ⟨← text "propertyId"⟩
      title := ← text "title"
      description := ← text "description"
      priority := ← text "priority"
      status := ← text "status"
      assigneeId := assigneeId.map Uuid.mk
      triage := ← readProperty WorkOrderTriage.ofJson? (json.get? "triage") }

/-- The event, if the value is one. -/
def eventOfJson? (json : Json) : Option WorkOrderEvent := do
  let text (key : String) : Option String := (json.get? key).bind Json.asString?
  some
    { eventId := ⟨← text "eventId"⟩
      type := ← WorkOrderEventType.ofText? (← text "type")
      occurredAt := ← text "occurredAt"
      correlationId := ← (← json.get? "correlationId").asNullable? Json.asString?
      actorId := ← readProperty Json.asString? (json.get? "actorId")
      data := ← WorkOrderEventData.ofJson? (← json.get? "data") }

/-- `JSON.parse(text) as WorkOrderEvent`. -/
def parseEvent (text : String) : Option WorkOrderEvent := (Json.parse text).bind eventOfJson?

/-! ## The round trip -/

/-- The round trip of the block. -/
@[simp] theorem WorkOrderTriage.ofJson?_toJson (triage : WorkOrderTriage) :
    ofJson? triage.toJson = some triage := by
  simp [ofJson?, toJson, Json.get?, Json.asString?]

/-- A property that is not there is `undefined`. -/
@[simp] theorem readProperty_none {α : Type} (decode : Json → Option α) :
    readProperty decode none = some .undefined := rfl

/-- A property that is `null` is `null`. -/
@[simp] theorem readProperty_null {α : Type} (decode : Json → Option α) :
    readProperty decode (some .null) = some .null := rfl

/-- A property that was written is read back. -/
theorem readProperty_value {α : Type} {encode : α → Json} {decode : Json → Option α} {a : α}
    (inverse : decode (encode a) = some a) (solid : encode a ≠ .null) :
    readProperty decode (some (encode a)) = some (.value a) := by
  rw [readProperty.eq_3 _ _ solid, inverse]
  rfl

/-- The round trip of the snapshot. -/
theorem WorkOrderEventData.ofJson?_toJson (data : WorkOrderEventData) :
    ofJson? data.toJson = some data := by
  obtain ⟨workOrderId, propertyId, title, description, priority, status, assigneeId, triage⟩ := data
  have triage_eq : ∀ t : WorkOrderTriage,
      readProperty WorkOrderTriage.ofJson? (some t.toJson) = some (.value t) :=
    fun t => readProperty_value t.ofJson?_toJson nofun
  cases triage <;> cases assigneeId <;>
    simp [ofJson?, toJson, property, Json.get?, Json.asString?, Json.asNullable?, Json.ofOption,
      triage_eq]

/-- The round trip of the event, as an object. -/
theorem eventOfJson?_eventToJson (event : WorkOrderEvent) :
    eventOfJson? (eventToJson event) = some event := by
  obtain ⟨eventId, type, occurredAt, correlationId, actorId, data⟩ := event
  have text_eq : ∀ t : String, readProperty Json.asString? (some (.str t)) = some (.value t) :=
    fun t => readProperty_value rfl nofun
  cases actorId <;> cases correlationId <;>
    simp [eventOfJson?, eventToJson, property, Json.get?, Json.asString?, Json.asNullable?,
      Json.ofOption, text_eq, data.ofJson?_toJson]

/-- **The round trip**: an event survives its text. -/
@[simp] theorem parseEvent_stringifyEvent (event : WorkOrderEvent) :
    parseEvent (stringifyEvent event) = some event := by
  unfold parseEvent stringifyEvent
  rw [Json.parse_stringify, Option.bind_some, eventOfJson?_eventToJson]

/-! ## What is read -/

section

variable {json : Json} {t : String}

/-- A text that is taken as a uuid keeps its characters. -/
@[simp] theorem Uuid.map_mk_text (text : Option String) :
    (text.map Uuid.mk).map Uuid.text = text := by
  cases text <;> rfl

/-- A uuid is known by its text. -/
@[simp] theorem Uuid.map_text_mk (id : Option Uuid) : (id.map Uuid.text).map Uuid.mk = id := by
  cases id <;> rfl

/-- An entry is found under its text and no other. -/
theorem ofText?_eq_some {α : Type} {text : α → String} {vocabulary : List α} {a : α}
    (total : ofText? text vocabulary (text a) = some a) :
    ofText? text vocabulary t = some a ↔ t = text a := by
  constructor
  · intro found
    have same := List.find?_some found
    exact (of_decide_eq_true same).symm
  · rintro rfl
    exact total

/-- What a value says from which a block is read. -/
theorem WorkOrderTriage.ofJson?_eq_some {block : WorkOrderTriage} :
    ofJson? json = some block ↔
      json.get? "category" = some (.str block.category.text) ∧
        json.get? "urgency" = some (.str block.urgency.text) ∧
        json.get? "reasoning" = some (.str block.reasoning) := by
  have category : ∀ {t a}, TriageCategory.ofText? t = some a ↔ t = a.text :=
    ofText?_eq_some (TriageCategory.ofText?_text _)
  have urgency : ∀ {t a}, TriageUrgency.ofText? t = some a ↔ t = a.text :=
    ofText?_eq_some (TriageUrgency.ofText?_text _)
  simp only [ofJson?, Option.bind_eq_bind, Option.bind_eq_some_iff, Json.asString?_eq_some,
    category, urgency]
  constructor
  · rintro ⟨_, here, _, rfl, _, here', _, rfl, _, here'', _, rfl, _, rfl, _, rfl, same⟩
    cases same
    exact ⟨here, here', here''⟩
  · rintro ⟨here, here', here''⟩
    exact ⟨_, here, _, rfl, _, here', _, rfl, _, here'', _, rfl, _, rfl, _, rfl, rfl⟩

/-- What a value says from which a snapshot is read. -/
theorem WorkOrderEventData.ofJson?_eq_some {data : WorkOrderEventData} :
    ofJson? json = some data ↔
      json.get? "workOrderId" = some (.str data.workOrderId.text) ∧
        json.get? "propertyId" = some (.str data.propertyId.text) ∧
        json.get? "title" = some (.str data.title) ∧
        json.get? "description" = some (.str data.description) ∧
        json.get? "priority" = some (.str data.priority) ∧
        json.get? "status" = some (.str data.status) ∧
        json.get? "assigneeId" = some (Json.ofOption Json.str (data.assigneeId.map Uuid.text)) ∧
        readProperty WorkOrderTriage.ofJson? (json.get? "triage") = some data.triage := by
  have text : ∀ {key t}, (∃ a, json.get? key = some a ∧ a = .str t) ↔
      json.get? key = some (.str t) := by simp
  simp only [ofJson?, Option.bind_eq_bind, Option.bind_eq_some_iff, Json.asString?_eq_some,
    Json.asNullable?_eq_some, text]
  constructor
  · rintro ⟨-, assignee, assigneeId, rfl, _, id, _, property, _, title, _, description, _,
      priority, _, status, _, triage, same⟩
    cases same
    refine ⟨id, property, title, description, priority, status, ?_, triage⟩
    rw [assignee, Uuid.map_mk_text]
  · rintro ⟨id, property, title, description, priority, status, assignee, triage⟩
    refine ⟨_, assignee, _, rfl, _, id, _, property, _, title, _, description, _, priority, _,
      status, _, triage, ?_⟩
    rw [Uuid.map_text_mk]

/-- What a value says from which an event is read. -/
theorem eventOfJson?_eq_some {event : WorkOrderEvent} :
    eventOfJson? json = some event ↔
      json.get? "eventId" = some (.str event.eventId.text) ∧
        json.get? "type" = some (.str event.type.text) ∧
        json.get? "occurredAt" = some (.str event.occurredAt) ∧
        json.get? "correlationId" = some (Json.ofOption Json.str event.correlationId) ∧
        readProperty Json.asString? (json.get? "actorId") = some event.actorId ∧
        ∃ data, json.get? "data" = some data ∧
          WorkOrderEventData.ofJson? data = some event.data := by
  have text : ∀ {key t}, (∃ a, json.get? key = some a ∧ a = .str t) ↔
      json.get? key = some (.str t) := by simp
  have type : ∀ {t a}, WorkOrderEventType.ofText? t = some a ↔ t = a.text :=
    ofText?_eq_some (WorkOrderEventType.ofText?_text _)
  simp only [eventOfJson?, Option.bind_eq_bind, Option.bind_eq_some_iff, Json.asString?_eq_some,
    Json.asNullable?_eq_some, text, type]
  constructor
  · rintro ⟨_, eventId, _, isType, _, rfl, _, occurredAt, -, correlationId, _, rfl, _, actorId,
      data, here, _, read, same⟩
    cases same
    exact ⟨eventId, isType, occurredAt, correlationId, actorId, data, here, read⟩
  · rintro ⟨eventId, isType, occurredAt, correlationId, actorId, data, here, read⟩
    exact ⟨_, eventId, _, isType, _, rfl, _, occurredAt, _, correlationId, _, rfl, _, actorId,
      data, here, _, read, rfl⟩

/-- A property that may be missing is read unless it is there and cannot be. -/
theorem exists_readProperty {α : Type} {decode : Json → Option α} {property : Option Json} :
    (∃ a, readProperty decode property = some a) ↔
      ∀ value ∈ property, ∃ a, value.asNullable? decode = some a := by
  cases property with
  | none => simp
  | some value =>
      cases value with
      | null => simp [Json.asNullable?]
      | _ => simp [readProperty, Json.asNullable?, ← Option.isSome_iff_exists]

end

/-! ## The audit stream -/

/-- A message sent to the audit stream. -/
structure KafkaRecord where
  topic : String
  key : String
  value : String
deriving DecidableEq

/-- `WorkOrderAuditProducer.record(event)`: keyed by the aggregate, so that the
events of one work order share a partition. -/
def WorkOrderAuditProducer.record (event : WorkOrderEvent) : KafkaRecord where
  topic := Topics.workOrderEvents
  key := event.data.workOrderId.text
  value := stringifyEvent event

end PropFlow
