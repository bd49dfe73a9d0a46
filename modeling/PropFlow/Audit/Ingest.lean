import PropFlow.Columns
import PropFlow.EventJson
import PropFlow.Gateway
import PropFlow.WorkOrders.Concurrency

/-!
# Audit ingestion

The audit service reads the work-order events off Kafka into `audit_events`:
`AuditIngestService.record`, one `INSERT … ON CONFLICT DO NOTHING` per event, and
the `eachMessage` handler of `AuditStreamConsumer` around it.

## The table

* `AuditValues` — the columns that the service fills; `AuditEvent` adds those of the
  database;
* `varchar`, `timestamptz` — what Postgres makes of a text for such a column, or the
  error it raises;
* `AuditTable.insertOrIgnore` — the insert, which ignores an event id that is there.

## What fits

Three services have to agree on how long the envelope's texts can be, and they
agree on all but one.  The `x-request-id` of a client goes through the gateway
and into the envelope whatever its length, and `audit_events` has 64 characters
for it.  Postgres counts characters, where the trailing blanks that are too many do not
count.

* `Origin` — where an event comes from: a client's request, through the gateway, or the
  triage consumer;
* `Emits` — the service can stage this event for that origin;
* `Ingestible`, `Blocks` — whatever the table holds, a delivery of the event succeeds, or
  throws.

`ingestible_iff_fits` is the exact condition: the request id fits, or there is none.
Otherwise the event blocks its partition (`blocks_of_not_fits`).
-/

namespace PropFlow

open Library Library.CivilTime

/-! ## The table -/

/-- Store a text in a `varchar(n)` column. -/
def varchar (n : ℕ) (column text : String) : Except DbError String :=
  if FitsVarchar n text then .ok (String.ofList (text.toList.take n))
  else .error (.tooLong column)

/-- Store a text in a nullable column. -/
def nullable (store : String → Except DbError String) :
    Option String → Except DbError (Option String)
  | none => .ok none
  | some text => (store text).map some

/-- Store `new Date(text)` in a `timestamptz` column.  An invalid date is sent as
a text that Postgres cannot read. -/
def timestamptz (text : String) : Except DbError Instant :=
  match ofISOString? text with
  | none => .error (.invalidSyntax "timestamp with time zone")
  | some instant => .ok instant

/-- The columns of `audit_events` that an event determines. -/
@[ext]
structure AuditValues where
  eventId : Uuid
  eventType : String
  workOrderId : Uuid
  propertyId : Uuid
  correlationId : Option String
  actorId : Option String
  occurredAt : Instant
  payload : WorkOrderEventData
deriving DecidableEq

/-- `AuditEvent`: a row, with what the database adds. -/
structure AuditEvent extends AuditValues where
  id : ℕ
  recordedAt : Instant
deriving DecidableEq

/-- The rows of `audit_events`, in the order they were inserted, and the next
value of the `bigserial` sequence. -/
structure AuditTable where
  /-- the rows, oldest first -/
  rows : List AuditEvent
  /-- what `nextval` gives next; a conflict uses one up too -/
  nextId : ℕ
deriving DecidableEq

/-- `INSERT … ON CONFLICT DO NOTHING`.  The sequence has advanced before the
conflict is found. -/
def AuditTable.insertOrIgnore (table : AuditTable) (values : AuditValues) (now : Instant) :
    AuditTable where
  rows :=
    if ∃ row ∈ table.rows, row.eventId = values.eventId then table.rows
    else table.rows ++ [{ values with id := table.nextId, recordedAt := now }]
  nextId := table.nextId + 1

/-! ## The service -/

/-- The values `record(event)` inserts, as the columns take them. -/
def AuditIngestService.values (event : WorkOrderEvent) : Except DbError AuditValues := do
  let eventType ← varchar 50 "event_type" event.type.text
  let correlationId ← nullable (varchar 64 "correlation_id") event.correlationId
  let actorId ← nullable (varchar 320 "actor_id") event.actorId.orNull
  let occurredAt ← timestamptz event.occurredAt
  .ok
    { eventId := event.eventId, eventType, workOrderId := event.data.workOrderId
      propertyId := event.data.propertyId, correlationId, actorId, occurredAt
      payload := event.data }

/-- `record(event)`. -/
def AuditIngestService.record (table : AuditTable) (now : Instant) (event : WorkOrderEvent) :
    Except DbError AuditTable := do
  let values ← values event
  .ok (table.insertOrIgnore values now)

/-- What the handler of a message throws. -/
inductive HandlerError where
  /-- The value is not the text of an event. -/
  | malformed
  /-- The INSERT is refused. -/
  | database (error : DbError)
deriving DecidableEq, Repr

/-- `eachMessage`: a message without a value is skipped. -/
def AuditStreamConsumer.eachMessage (table : AuditTable) (now : Instant) :
    Option String → Except HandlerError AuditTable
  | none => .ok table
  | some value =>
      match parseEvent value with
      | none => .error .malformed
      | some event => (AuditIngestService.record table now event).mapError .database

/-! ## What fits -/

/-- A short text is stored as it is. -/
theorem varchar_of_length_le {n : ℕ} {column text : String} (short : text.length ≤ n) :
    varchar n column text = .ok text := by
  unfold varchar
  rw [if_pos (fitsVarchar_of_length_le short),
    List.take_of_length_le (by rwa [String.length_toList]), String.ofList_toList]

/-- A text that is short enough is stored as it is, and so is none. -/
theorem nullable_of_length_le {n : ℕ} (column : String) {text? : Option String}
    (short : ∀ text ∈ text?, text.length ≤ n) :
    nullable (varchar n column) text? = .ok text? := by
  cases text? with
  | none => rfl
  | some text =>
      rw [nullable, varchar_of_length_le (short text rfl)]
      rfl

/-- A text that fits is stored, perhaps without trailing blanks. -/
theorem nullable_of_fits {n : ℕ} (column : String) {text? : Option String}
    (fits : ∀ text ∈ text?, FitsVarchar n text) :
    ∃ stored, nullable (varchar n column) text? = .ok stored := by
  cases text? with
  | none => exact ⟨none, rfl⟩
  | some text =>
      rw [nullable, varchar, if_pos (fits text rfl)]
      exact ⟨_, rfl⟩

/-- One that does not is an error. -/
theorem nullable_of_not_fits {n : ℕ} (column : String) {text : String}
    (long : ¬ FitsVarchar n text) :
    nullable (varchar n column) (some text) = .error (.tooLong column) := by
  rw [nullable, varchar, if_neg long]
  rfl

/-- No event type is longer than its column. -/
theorem WorkOrderEventType.length_text_le (type : WorkOrderEventType) :
    type.text.length ≤ 50 := by
  cases type <;> decide

/-- Postgres reads the time that `toISOString` writes. -/
theorem timestamptz_toISOString (now : Instant) : timestamptz (toISOString now) = .ok now := by
  rw [timestamptz, ofISOString?_toISOString]

namespace AuditIngestService

variable (event : WorkOrderEvent)

/-- The values of an event, once its texts are stored. -/
theorem values_eq_ok {correlationId : Option String} {now : Instant}
    (correlation : nullable (varchar 64 "correlation_id") event.correlationId = .ok correlationId)
    (actor : ∀ text ∈ event.actorId.orNull, text.length ≤ 320)
    (occurred : event.occurredAt = toISOString now) :
    values event = .ok
      { eventId := event.eventId, eventType := event.type.text
        workOrderId := event.data.workOrderId, propertyId := event.data.propertyId
        correlationId, actorId := event.actorId.orNull, occurredAt := now
        payload := event.data } := by
  rw [values, varchar_of_length_le event.type.length_text_le, ok_bind, correlation, ok_bind,
    nullable_of_length_le _ actor, ok_bind, occurred, timestamptz_toISOString, ok_bind]

/-- A correlation id that is too long fails the insert. -/
theorem values_eq_error {error : DbError}
    (correlation : nullable (varchar 64 "correlation_id") event.correlationId = .error error) :
    values event = .error error := by
  rw [values, varchar_of_length_le event.type.length_text_le, ok_bind, correlation, error_bind]

end AuditIngestService

/-- The handler, on the text the producer sent. -/
theorem eachMessage_record (table : AuditTable) (now : Instant) (event : WorkOrderEvent) :
    AuditStreamConsumer.eachMessage table now (some (WorkOrderAuditProducer.record event).value) =
      (AuditIngestService.record table now event).mapError .database := by
  rw [AuditStreamConsumer.eachMessage, WorkOrderAuditProducer.record, parseEvent_stringifyEvent]

/-! ## What is emitted -/

/-- Where a call of the service comes from. -/
inductive Origin where
  /-- A client's request, through the gateway. -/
  | gateway (request : GatewayRequest)
  /-- The triage consumer, outside any request. -/
  | triage

/-- The context the call runs in. -/
def Origin.store : Origin → Option RequestContext
  | .gateway request => some request.store
  | .triage => none

/-- In some run of the service a call from this origin has staged the event. -/
def Emits (origin : Origin) (event : WorkOrderEvent) : Prop :=
  ∃ s s' c context flight row, service.Reachable .initial s ∧ s.inFlight c = some flight ∧
    flight.store = origin.store ∧ service.step s (.commit c context) = some s' ∧
    s'.db.outbox.rows = s.db.outbox.rows ++ [row] ∧ row.payload = event

/-- An emitted event is an envelope, made in the context of its origin. -/
theorem Emits.envelope_eq {origin : Origin} {event : WorkOrderEvent} (emits : Emits origin event) :
    ∃ type workOrder context, context.store = origin.store ∧
      event = WorkOrderEventsOutbox.envelope type workOrder context :=
  StagedUnder.envelope_eq emits

/-! ## Every emitted event can be ingested, if its request id fits -/

/-- The first `x-request-id` of the client, if it sent one, fits 64 characters. -/
def Origin.Fits : Origin → Prop
  | .gateway request => ∀ text ∈ request.headers.requestId.first, FitsVarchar 64 text
  | .triage => True

/-- Whatever the table holds, the handler records the event. -/
def Ingestible (event : WorkOrderEvent) : Prop :=
  ∀ table now, ∃ after,
    AuditStreamConsumer.eachMessage table now (some (WorkOrderAuditProducer.record event).value) =
      .ok after

/-- Whatever the table holds, the handler throws: every redelivery of the event
fails, and nothing behind it in its partition is ever read. -/
def Blocks (event : WorkOrderEvent) : Prop :=
  ∀ table now, ∃ error,
    AuditStreamConsumer.eachMessage table now (some (WorkOrderAuditProducer.record event).value) =
      .error error

/-- The request id of the context fits exactly when the client's did: what is
minted in its place has 36 characters. -/
theorem GatewayRequest.store_fits (request : GatewayRequest) :
    FitsVarchar 64 request.store.requestId ↔ (Origin.gateway request).Fits := by
  rcases request.store_requestId with kept | ⟨none_or_empty, minted⟩
  · rw [Origin.Fits, kept]
    simp
  · refine iff_of_true (fitsVarchar_of_length_le (by rw [minted]; decide)) ?_
    intro text sent
    rw [none_or_empty text sent]
    exact fitsVarchar_of_length_le (Nat.zero_le _)

/-- The correlation id of a context fits exactly when the origin does. -/
theorem Origin.fits_iff (origin : Origin) :
    (∀ text ∈ currentRequestId origin.store, FitsVarchar 64 text) ↔ origin.Fits := by
  cases origin with
  | triage => exact iff_of_true (fun _ absent => nomatch absent) trivial
  | gateway request =>
      rw [← request.store_fits]
      simp [Origin.store, currentRequestId]

/-- The verified user always fits. -/
theorem Origin.length_userId_le (origin : Origin) :
    ∀ text ∈ currentUserId origin.store, text.length ≤ 320 := by
  cases origin with
  | triage => exact fun _ absent => nomatch absent
  | gateway request =>
      intro text member
      unfold Origin.store currentUserId at member
      rw [Option.bind_some, request.store_userId] at member
      cases member
      exact request.subject.length_le

/-- If the request id fits, every column does. -/
theorem ingestible_of_fits {origin : Origin} {event : WorkOrderEvent}
    (emits : Emits origin event) (fits : origin.Fits) : Ingestible event := by
  obtain ⟨type, workOrder, context, store, rfl⟩ := emits.envelope_eq
  intro table now
  rw [← origin.fits_iff, ← store] at fits
  have actor := origin.length_userId_le
  rw [← store] at actor
  obtain ⟨stored, correlation⟩ := nullable_of_fits "correlation_id" fits
  have values := AuditIngestService.values_eq_ok
    (WorkOrderEventsOutbox.envelope type workOrder context) correlation
    (by rwa [WorkOrderEventsOutbox.envelope, Nullish.orNull_ofOption]) rfl
  rw [eachMessage_record, AuditIngestService.record, values, ok_bind]
  exact ⟨_, rfl⟩

/-- If it does not, the insert fails before the table is looked at. -/
theorem blocks_of_not_fits {origin : Origin} {event : WorkOrderEvent}
    (emits : Emits origin event) (long : ¬ origin.Fits) : Blocks event := by
  obtain ⟨type, workOrder, context, store, rfl⟩ := emits.envelope_eq
  intro table now
  rw [← origin.fits_iff, ← store] at long
  push Not at long
  obtain ⟨text, here, long⟩ := long
  -- the value is refused before the conflict is looked for
  have correlation := nullable_of_not_fits "correlation_id" long
  rw [← Option.mem_def.mp here] at correlation
  have values := AuditIngestService.values_eq_error
    (WorkOrderEventsOutbox.envelope type workOrder context) correlation
  rw [eachMessage_record, AuditIngestService.record, values, error_bind]
  exact ⟨_, rfl⟩

/-- No delivery both succeeds and throws. -/
theorem not_ingestible_of_blocks {event : WorkOrderEvent} (blocks : Blocks event) :
    ¬ Ingestible event := by
  intro ingestible
  obtain ⟨after, ok⟩ := ingestible ⟨[], 1⟩ .epoch
  obtain ⟨error, thrown⟩ := blocks ⟨[], 1⟩ .epoch
  rw [ok] at thrown
  cases thrown

/-- **What can be ingested.**  An event is ingestible exactly when the request it
comes from had an `x-request-id` that fits; and an event that is not ingestible
fails on every delivery. -/
theorem ingestible_iff_fits (origin : Origin) (event : WorkOrderEvent)
    (emits : Emits origin event) :
    (Ingestible event ↔ origin.Fits) ∧ (Blocks event ↔ ¬ origin.Fits) := by
  refine ⟨⟨fun ingestible => ?_, ingestible_of_fits emits⟩,
    fun blocks fits => not_ingestible_of_blocks blocks (ingestible_of_fits emits fits),
    blocks_of_not_fits emits⟩
  by_contra long
  exact not_ingestible_of_blocks (blocks_of_not_fits emits long) ingestible

/-! A resident who creates a work order with a given request id. -/

/-- Their request. -/
def residentRequest (requestId : HeaderValue) : GatewayRequest where
  headers := { requestId, userId := .absent }
  subject := ⟨"resident", "propflow.example", by decide, by decide⟩
  atGateway := ⟨"00000000-0000-4000-8000-00000000000a", by decide⟩
  atService := ⟨"00000000-0000-4000-8000-00000000000b", by decide⟩

/-- The event of the creation. -/
def createdEvent (origin : Origin) : WorkOrderEvent :=
  WorkOrderEventsOutbox.envelope .created openOrder
    (CommitContext.first.stageContext origin.store)

/-- The event of the creation is one that the service stages. -/
theorem emits_createdEvent (origin : Origin) : Emits origin (createdEvent origin) :=
  ⟨ServiceState.initial.begin 0 (.create leakingTap) origin.store .epoch, _, 0, .first,
    ⟨origin.store, .insert leakingTap⟩, WorkOrderEventsOutbox.stagedRow 1 .created
      openOrder (CommitContext.first.stageContext origin.store),
    ⟨[.begin 0 (.create leakingTap) origin.store .epoch], rfl⟩, rfl, rfl, rfl, rfl, rfl⟩

/-- With a short id it is recorded. -/
theorem ingestible_shortRequestId :
    Ingestible (createdEvent (.gateway (residentRequest (.single "req-1")))) :=
  (ingestible_iff_fits _ _ (emits_createdEvent _)).1.mpr (by
    rintro text sent
    cases sent
    decide)

/-- A request id of 65 characters: the order is created, its event is staged, and
no delivery of the event will ever be recorded. -/
theorem not_ingestible_longRequestId :
    let origin := Origin.gateway (residentRequest
      (.single "xxxxxxxxxxxxxxxxxxxxxxxxxxxxxxxxxxxxxxxxxxxxxxxxxxxxxxxxxxxxxxxxx"))
    Emits origin (createdEvent origin) ∧ ¬ Ingestible (createdEvent origin) := by
  intro origin
  have long : ¬ origin.Fits := fun fits => absurd (fits _ rfl) (by decide)
  exact ⟨emits_createdEvent origin,
    not_ingestible_of_blocks (blocks_of_not_fits (emits_createdEvent origin) long)⟩

end PropFlow
