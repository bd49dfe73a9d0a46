import PropFlow.Audit.Ingest
import PropFlow.Library.ConsumerGroup
import Mathlib.Data.List.TakeWhile

/-!
# The consumers of the audit stream

`AuditStreamConsumer` over the partitions of a topic, whatever they hold: the consumers
are a group (`Library.ConsumerGroup`) whose table is `audit_events` and whose handler is
`eachMessage` (`consumers`).  A consumer starts at the committed offset, whenever it starts;
it moves on after `eachMessage` has resolved; it may die between an insert and the commit
of its offset, and the group may start over at offset 0.

## What can be read

On a value that is no event, or an event with a text that is too long for its column,
`eachMessage` throws whatever the table holds (`isSome_handle`): the offset is not
committed, and the next member to be assigned the partition starts with the same message.
RabbitMQ's queues set such a message aside after three attempts.  Here there is no such
place.  So of each partition the consumers read what is before the first message of this
kind (`readable`), and not a message more.

## What has been read

Nothing but the unique event id keeps an event from being recorded twice.  The invariant
(`Ingested`) is about the first messages of each partition, so many as have been read:
the table has their events, each once, with the values that `AuditIngestService` gives
it.  A redelivery leaves the rows as they are (`Ingested.rows_again`), and the next message
adds its event (`Ingested.next`); the rest is the rule of consumer groups
(`GroupState.exists_readTo`).  `exists_readToEnd` is the other half: the consumers can
read all that can be read.
-/

namespace PropFlow

open Library Library.CivilTime

/-! ## Messages -/

/-- A partition of the topic. -/
abbrev Partition := ℕ

/-- A message as a consumer sees it.  A message without a value is a tombstone. -/
structure KafkaMessage where
  /-- The id of the work order. -/
  key : String
  /-- The text of an event. -/
  value : Option String
deriving DecidableEq

/-- What becomes of a record on the broker. -/
def KafkaRecord.message (record : KafkaRecord) : KafkaMessage := ⟨record.key, some record.value⟩

/-- The event of a message, if it has one. -/
def KafkaMessage.event? (message : KafkaMessage) : Option WorkOrderEvent :=
  message.value.bind parseEvent

/-- The event of a record is the one it was made of. -/
@[simp] theorem event?_message_record (event : WorkOrderEvent) :
    (WorkOrderAuditProducer.record event).message.event? = some event := by
  unfold KafkaMessage.event? KafkaRecord.message
  rw [Option.bind_some, WorkOrderAuditProducer.record, parseEvent_stringifyEvent]

/-! ## The consumers -/

/-- The table, the committed offsets, and where each consumer is in the partitions it has
been assigned. -/
abbrev AuditState := GroupState AuditTable

/-- What `eachMessage` makes of the table, unless it throws. -/
def AuditStreamConsumer.handle (now : Instant) (table : AuditTable) (message : KafkaMessage) :
    Option AuditTable :=
  (AuditStreamConsumer.eachMessage table now message.value).toOption

/-- The consumers of a topic. -/
def consumers (messages : Partition → List KafkaMessage) :
    Machine AuditState (GroupAction Instant) :=
  group messages AuditStreamConsumer.handle

/-- The topic has been consumed: of each partition the end has been committed, or a consumer
has got there. -/
def Consumed (messages : Partition → List KafkaMessage) (s : AuditState) : Prop :=
  ∀ p, s.InUse p (messages p).length

/-- `eachMessage` does not throw on the message. -/
def KafkaMessage.isReadable (message : KafkaMessage) : Bool :=
  message.value.all fun value =>
    (parseEvent value).any fun event => (AuditIngestService.values event).toOption.isSome

/-- The messages of a partition before the first one on which `eachMessage` throws. -/
def readable (messages : Partition → List KafkaMessage) (p : Partition) : List KafkaMessage :=
  (messages p).takeWhile KafkaMessage.isReadable

/-- The event is an envelope that `stage` built. -/
def Staged (event : WorkOrderEvent) : Prop :=
  ∃ type workOrder context, event = WorkOrderEventsOutbox.envelope type workOrder context

/-- `audit_events` has room for the texts of the event. -/
structure FitsTable (event : WorkOrderEvent) : Prop where
  /-- `varchar(64)` -/
  correlationId : ∀ text ∈ event.correlationId, FitsVarchar 64 text
  /-- `varchar(320)` -/
  actorId : ∀ text ∈ event.actorId.orNull, FitsVarchar 320 text

instance (event : WorkOrderEvent) : Decidable (FitsTable event) :=
  decidable_of_iff ((∀ text ∈ event.correlationId, FitsVarchar 64 text) ∧
      ∀ text ∈ event.actorId.orNull, FitsVarchar 320 text)
    ⟨fun both => ⟨both.1, both.2⟩, fun fits => ⟨fits.correlationId, fits.actorId⟩⟩

/-! ## One message -/

section

variable {m : KafkaMessage} {now : Instant} {table table' : AuditTable} {values : AuditValues}
  {event : WorkOrderEvent}

/-- A message with a value is parsed, and what comes of it inserted. -/
theorem handle_value (key value : String) :
    AuditStreamConsumer.handle now table ⟨key, some value⟩ =
      (parseEvent value).bind fun event =>
        (AuditIngestService.values event).toOption.map fun values =>
          table.insertOrIgnore values now := by
  unfold AuditStreamConsumer.handle AuditStreamConsumer.eachMessage
  cases parsed : parseEvent value with
  | none => simp [Except.toOption, parsed]
  | some event =>
      cases stored : AuditIngestService.values event with
      | error e =>
          simp [AuditIngestService.record, stored, parsed, Except.toOption, Except.mapError]
      | ok values =>
          simp [AuditIngestService.record, stored, parsed, Except.toOption, Except.mapError]

/-- What the handler can have done: nothing with a tombstone, and else an insert. -/
theorem handle_eq_some : AuditStreamConsumer.handle now table m = some table' ↔
    (m.value = none ∧ table' = table) ∨
      ∃ event values, m.event? = some event ∧ AuditIngestService.values event = .ok values ∧
        table' = table.insertOrIgnore values now := by
  obtain ⟨key, value⟩ := m
  cases value with
  | none =>
      show some table = some table' ↔ _
      simp [KafkaMessage.event?, eq_comm]
  | some value =>
      rw [handle_value]
      simp [KafkaMessage.event?, Option.bind_eq_some_iff, toOption_eq_some, @eq_comm _ table']

/-- What has been stored in a nullable column fits it. -/
theorem fits_of_nullable {n : ℕ} {column : String} {text? stored : Option String}
    (ok : nullable (varchar n column) text? = .ok stored) :
    ∀ text ∈ text?, FitsVarchar n text := by
  rintro text rfl
  by_contra long
  rw [nullable_of_not_fits column long] at ok
  cases ok

/-- Whether it throws does not depend on the table. -/
theorem isSome_handle : (AuditStreamConsumer.handle now table m).isSome = m.isReadable := by
  obtain ⟨key, value⟩ := m
  cases value with
  | none => rfl
  | some value =>
      rw [handle_value]
      show _ = (parseEvent value).any _
      cases parseEvent value with
      | none => rfl
      | some event =>
          rw [Option.bind_some, Option.isSome_map, Option.any_some]

/-- Whatever becomes of its texts, the values say which event they are of. -/
theorem columns_of_values (ok : AuditIngestService.values event = .ok values) :
    values.eventId = event.eventId ∧ values.workOrderId = event.data.workOrderId ∧
      values.payload = event.data := by
  obtain ⟨_, -, ok⟩ := bind_eq_ok.mp ok
  obtain ⟨_, -, ok⟩ := bind_eq_ok.mp ok
  obtain ⟨_, -, ok⟩ := bind_eq_ok.mp ok
  obtain ⟨_, -, ok⟩ := bind_eq_ok.mp ok
  cases ok
  exact ⟨rfl, rfl, rfl⟩

/-- The values have the id of their event. -/
theorem eventId_of_values (ok : AuditIngestService.values event = .ok values) :
    values.eventId = event.eventId := (columns_of_values ok).1

/-- A record can be read exactly when its event has values. -/
theorem isReadable_record : (WorkOrderAuditProducer.record event).message.isReadable =
    (AuditIngestService.values event).toOption.isSome := by
  unfold KafkaMessage.isReadable KafkaRecord.message
  rw [Option.all_some, WorkOrderAuditProducer.record, parseEvent_stringifyEvent, Option.any_some]

/-- A staged event can be read exactly when its texts fit their columns. -/
theorem isReadable_iff_fits (staged : Staged event) :
    (WorkOrderAuditProducer.record event).message.isReadable = true ↔ FitsTable event := by
  rw [isReadable_record]
  constructor
  · intro isSome
    obtain ⟨values, ok⟩ := Option.isSome_iff_exists.mp isSome
    obtain ⟨_, -, rest⟩ := bind_eq_ok.mp (toOption_eq_some.mp ok)
    obtain ⟨_, correlation, rest⟩ := bind_eq_ok.mp rest
    obtain ⟨_, actor, -⟩ := bind_eq_ok.mp rest
    exact ⟨fits_of_nullable correlation, fits_of_nullable actor⟩
  · rintro ⟨correlationFits, actorFits⟩
    obtain ⟨correlationId, correlation⟩ := nullable_of_fits "correlation_id" correlationFits
    obtain ⟨actorId, actor⟩ := nullable_of_fits "actor_id" actorFits
    obtain ⟨type, workOrder, context, rfl⟩ := staged
    have occurred : timestamptz (WorkOrderEventsOutbox.envelope type workOrder context).occurredAt =
        .ok context.now := timestamptz_toISOString context.now
    rw [AuditIngestService.values, varchar_of_length_le
      (WorkOrderEventsOutbox.envelope type workOrder context).type.length_text_le, ok_bind,
      correlation, ok_bind, actor, ok_bind, occurred, ok_bind]
    rfl

/-- A row that is there after an insert was there, or has been inserted. -/
theorem mem_insertOrIgnore {stored : AuditEvent}
    (member : stored ∈ (table.insertOrIgnore values now).rows) :
    stored ∈ table.rows ∨ stored.toAuditValues = values := by
  unfold AuditTable.insertOrIgnore at member
  split_ifs at member
  · exact Or.inl member
  · refine (List.mem_append.mp member).imp_right fun isNew => ?_
    rw [List.mem_singleton.mp isNew]

/-- The event ids that are there after an insert. -/
theorem exists_insertOrIgnore (id : Uuid) :
    (∃ stored ∈ (table.insertOrIgnore values now).rows, stored.eventId = id) ↔
      (∃ stored ∈ table.rows, stored.eventId = id) ∨ id = values.eventId := by
  unfold AuditTable.insertOrIgnore
  split_ifs with old
  · refine (or_iff_left_of_imp ?_).symm
    rintro rfl
    exact old
  · simp [or_and_right, exists_or, eq_comm]

/-- An insert does not repeat an event id. -/
theorem nodup_insertOrIgnore (once : (table.rows.map fun stored => stored.eventId).Nodup) :
    ((table.insertOrIgnore values now).rows.map fun stored => stored.eventId).Nodup := by
  unfold AuditTable.insertOrIgnore
  split_ifs with old
  · exact once
  · rw [List.map_append]
    refine once.append (List.nodup_singleton _) ?_
    rintro _ before isNew
    obtain ⟨stored, isStored, rfl⟩ := List.mem_map.mp before
    exact old ⟨stored, isStored, List.mem_singleton.mp isNew⟩

end

/-! ## What has been read -/

/-- The event is among the first messages, so many of each partition. -/
def Within (messages : Partition → List KafkaMessage) (high : Partition → ℕ)
    (event : WorkOrderEvent) : Prop :=
  ∃ p n m, n < high p ∧ (messages p)[n]? = some m ∧ m.event? = some event

/-- **The table has what has been read**: each event once, with its values. -/
structure Ingested (messages : Partition → List KafkaMessage) (high : Partition → ℕ)
    (table : AuditTable) : Prop where
  /-- No consumer has got beyond what can be read. -/
  high_le : ∀ p, high p ≤ (readable messages p).length
  /-- Every event that has been read is there. -/
  complete : ∀ event, Within messages high event →
    ∃ stored ∈ table.rows, stored.eventId = event.eventId
  /-- Every row is one of them, with the values that the columns take of it. -/
  sound : ∀ stored ∈ table.rows, ∃ event, Within messages high event ∧
    AuditIngestService.values event = .ok stored.toAuditValues
  /-- No event has two rows, however often it was read. -/
  once : (table.rows.map fun stored => stored.eventId).Nodup

section

variable {messages : Partition → List KafkaMessage} {high : Partition → ℕ} {p : Partition}
  {m : KafkaMessage} {now : Instant} {table table' : AuditTable} {event : WorkOrderEvent}

/-- One message more has one event more, if it is not a tombstone. -/
theorem within_succ (here : (messages p)[high p]? = some m) :
    Within messages (Function.update high p (high p + 1)) event ↔
      Within messages high event ∨ m.event? = some event := by
  constructor
  · rintro ⟨q, n, m', before, here', isEvent⟩
    by_cases same : q = p
    · subst same
      rw [Function.update_self] at before
      rcases Nat.lt_succ_iff_lt_or_eq.mp before with earlier | rfl
      · exact Or.inl ⟨q, n, m', earlier, here', isEvent⟩
      · rw [here, Option.some_inj] at here'
        exact Or.inr (here' ▸ isEvent)
    · rw [Function.update_of_ne same] at before
      exact Or.inl ⟨q, n, m', before, here', isEvent⟩
  · rintro (⟨q, n, m', before, here', isEvent⟩ | isEvent)
    · have grows : high ≤ Function.update high p (high p + 1) :=
        le_update_self_iff.mpr (Nat.le_succ _)
      exact ⟨q, n, m', before.trans_le (grows q), here', isEvent⟩
    · refine ⟨p, high p, m, ?_, here, isEvent⟩
      rw [Function.update_self]
      exact Nat.lt_succ_self _

/-- What can be read, and what is behind that. -/
theorem readable_append (messages : Partition → List KafkaMessage) (p : Partition) :
    readable messages p ++ (messages p).dropWhile KafkaMessage.isReadable = messages p :=
  List.takeWhile_append_dropWhile

/-- What can be read is at the offsets that it has. -/
theorem getElem?_readable {n : ℕ} (before : n < (readable messages p).length) :
    (readable messages p)[n]? = (messages p)[n]? := by
  rw [← List.getElem?_append_left before, readable_append]

/-- The next message can be read, so there is one more that can. -/
theorem lt_length_readable (within : high p ≤ (readable messages p).length)
    (here : (messages p)[high p]? = some m) (isReadable : m.isReadable = true) :
    high p < (readable messages p).length := by
  refine lt_of_le_of_ne within fun atEnd => ?_
  rw [← readable_append messages p, atEnd, List.getElem?_append_right le_rfl, Nat.sub_self,
    ← List.head?_eq_getElem?] at here
  have first := List.head?_dropWhile_not KafkaMessage.isReadable (messages p)
  rw [here] at first
  exact Bool.false_ne_true ((show m.isReadable = false from first).symm.trans isReadable)

namespace Ingested

/-- Nothing has been read, and nothing is there. -/
theorem start (messages : Partition → List KafkaMessage) (nextId : ℕ) :
    Ingested messages (fun _ => 0) ⟨[], nextId⟩ where
  high_le := fun _ => Nat.zero_le _
  complete := by
    rintro event ⟨p, n, m, before, -⟩
    exact absurd before (Nat.not_lt_zero n)
  sound := fun _ absent => absurd absent List.not_mem_nil
  once := List.nodup_nil

/-- An old message adds nothing: at most it uses up an id. -/
theorem rows_again {n : ℕ} (ingested : Ingested messages high table) (before : n < high p)
    (here : (messages p)[n]? = some m)
    (handled : AuditStreamConsumer.handle now table m = some table') :
    table'.rows = table.rows ∧ table.nextId ≤ table'.nextId := by
  rcases handle_eq_some.mp handled with ⟨-, rfl⟩ | ⟨event, values, isEvent, ok, rfl⟩
  · exact ⟨rfl, le_rfl⟩
  · have recorded := ingested.complete event ⟨p, n, m, before, here, isEvent⟩
    rw [← eventId_of_values ok] at recorded
    exact ⟨if_pos recorded, Nat.le_succ _⟩

/-- Only the rows count. -/
theorem congr (ingested : Ingested messages high table) (same : table'.rows = table.rows) :
    Ingested messages high table' where
  high_le := ingested.high_le
  complete := same ▸ ingested.complete
  sound := same ▸ ingested.sound
  once := same ▸ ingested.once

/-- The next message adds its event, unless it is an old one. -/
theorem next (ingested : Ingested messages high table) (here : (messages p)[high p]? = some m)
    (handled : AuditStreamConsumer.handle now table m = some table') :
    Ingested messages (Function.update high p (high p + 1)) table' := by
  have isReadable : m.isReadable = true :=
    isSome_handle.symm.trans (Option.isSome_iff_exists.mpr ⟨table', handled⟩)
  have high_le : Function.update high p (high p + 1) ≤ fun q => (readable messages q).length :=
    update_le_iff.mpr ⟨lt_length_readable (ingested.high_le p) here isReadable,
      fun q _ => ingested.high_le q⟩
  rcases handle_eq_some.mp handled with ⟨tombstone, rfl⟩ | ⟨event, values, isEvent, ok, rfl⟩
  · -- a tombstone adds no event and no row
    have noEvent : m.event? = none := by rw [KafkaMessage.event?, tombstone, Option.bind_none]
    have same : ∀ event, Within messages (Function.update high p (high p + 1)) event ↔
        Within messages high event := by
      intro event
      rw [within_succ here, noEvent]
      exact or_iff_left (Option.some_ne_none event).symm
    exact
      { high_le := high_le
        complete := fun event within => ingested.complete event ((same event).mp within)
        sound := by
          intro stored member
          obtain ⟨event, within, ok⟩ := ingested.sound stored member
          exact ⟨event, (same event).mpr within, ok⟩
        once := ingested.once }
  · -- a new event gets its row, and one that has a row keeps it
    exact
      { high_le := high_le
        complete := by
          intro event' within
          rw [exists_insertOrIgnore, eventId_of_values ok]
          refine ((within_succ here).mp within).imp (ingested.complete event') fun isEvent' => ?_
          rw [isEvent, Option.some_inj] at isEvent'
          rw [isEvent']
        sound := by
          intro stored member
          rcases mem_insertOrIgnore member with old | isNew
          · obtain ⟨event', within, ok'⟩ := ingested.sound stored old
            exact ⟨event', (within_succ here).mpr (Or.inl within), ok'⟩
          · exact ⟨event, (within_succ here).mpr (Or.inr isEvent), isNew ▸ ok⟩
        once := nodup_insertOrIgnore ingested.once }

/-- **Of any log the table has what has been read**, and no offset is beyond that. -/
theorem of_reachable {nextId : ℕ} {s : AuditState}
    (reached : (consumers messages).Reachable (.start ⟨[], nextId⟩) s) :
    ∃ high, Ingested messages high s.table ∧ s.ReadTo high :=
  GroupState.exists_readTo
    (fun ingested before here handled =>
      ingested.congr (ingested.rows_again before here handled).1)
    (fun ingested here handled => ingested.next here handled) (.start messages nextId) reached

end Ingested

/-- What has been read, when everything that can be has been. -/
theorem within_iff (atEnd : ∀ p, high p = (readable messages p).length) :
    Within messages high event ↔ ∃ p, ∃ m ∈ readable messages p, m.event? = some event := by
  constructor
  · rintro ⟨p, n, m, before, here, isEvent⟩
    rw [atEnd] at before
    exact ⟨p, m, List.mem_of_getElem? ((getElem?_readable before).trans here), isEvent⟩
  · rintro ⟨p, m, member, isEvent⟩
    obtain ⟨n, here⟩ := List.mem_iff_getElem?.mp member
    have before := (List.getElem?_eq_some_iff.mp here).1
    exact ⟨p, n, m, atEnd p ▸ before, (getElem?_readable before).symm.trans here, isEvent⟩

/-- **Progress.**  The consumers can read all that can be read. -/
theorem exists_readToEnd (s : AuditState) {partitions : ℕ}
    (finite : ∀ p, partitions ≤ p → messages p = []) :
    ∃ s', (consumers messages).Reachable s s' ∧
      ∀ p, s'.InUse p (readable messages p).length := by
  have handles : ∀ p, ∀ n < (readable messages p).length, ∃ m, (messages p)[n]? = some m ∧
      ∀ table, (AuditStreamConsumer.handle .epoch table m).isSome := by
    intro p n before
    have here := List.getElem?_eq_getElem before
    refine ⟨_, (getElem?_readable before).symm.trans here, fun table => ?_⟩
    exact isSome_handle.trans (List.mem_takeWhile_imp (List.mem_of_getElem? here))
  obtain ⟨s', reached, ends⟩ := GroupState.exists_read_all Instant.epoch 0 s _ handles partitions
  refine ⟨s', reached, fun p => ?_⟩
  rcases Nat.lt_or_ge p partitions with within | beyond
  · exact Or.inr (Or.inr ⟨0, ends p within⟩)
  · left
    rw [readable, finite p beyond]
    rfl

end

end PropFlow
