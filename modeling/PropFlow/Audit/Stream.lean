import PropFlow.Audit.Consumers
import PropFlow.Library.FirstOccurrences

/-!
# Reading the audit stream

What the consumers make of the topic that the relays write.  A `TopicLog` is what the
producers can have written: its fields say that the messages are events `stage` built,
keyed by work order, one event per event id.  A `StreamLog` is one whose events fit the
columns of `audit_events`, so that all of it can be read.

## The invariant

`ProjectsPrefix` is about prefixes: whatever was redelivered, there is a prefix of each
partition such that the partition's rows are the *first occurrences* in it, in order, and
ids grow in the order of the inserts.  It extends `Ingested`, which says nothing of an
order, and needs what a topic log has over any log: that equal event ids are equal events,
and equal events in one partition.  A redelivery repeats the prefix, and the next message
extends it (`ProjectsPrefix.again`, `ProjectsPrefix.next`).

## What comes of it

* `ProjectsPrefix.of_reachable`: of any topic log, readable or not, the table is such a
  projection.
* `projects_of_consumed`: of a stream log that has been consumed, on any schedule, the
  table is the log without its duplicates (`Projects`), and the same from any other
  schedule (`SameRows`).
* `exists_consumed`: there is always a schedule on which a stream log gets consumed.
-/

namespace PropFlow

open Library Library.CivilTime

/-! ## The log -/

/-- The texts of an event are no longer than their columns. -/
structure FitsColumns (event : WorkOrderEvent) : Prop where
  /-- `varchar(64)` -/
  correlationId : ∀ text ∈ event.correlationId, text.length ≤ 64
  /-- `varchar(320)` -/
  actorId : ∀ text ∈ event.actorId.orNull, text.length ≤ 320

instance (event : WorkOrderEvent) : Decidable (FitsColumns event) :=
  decidable_of_iff ((∀ text ∈ event.correlationId, text.length ≤ 64) ∧
      ∀ text ∈ event.actorId.orNull, text.length ≤ 320)
    ⟨fun both => ⟨both.1, both.2⟩, fun fits => ⟨fits.correlationId, fits.actorId⟩⟩

/-- There is room for a text that is no longer than its column. -/
theorem FitsColumns.fitsTable {event : WorkOrderEvent} (fits : FitsColumns event) :
    FitsTable event where
  correlationId := fun text here => fitsVarchar_of_length_le (fits.correlationId text here)
  actorId := fun text here => fitsVarchar_of_length_le (fits.actorId text here)

/-- A log of work-order events, with any duplicates and tombstones. -/
structure TopicLog where
  /-- What is in each partition, oldest first. -/
  messages : Partition → List KafkaMessage
  /-- The partitioner: messages with one key are in one partition. -/
  partitionOf : String → Partition
  /-- A message is a tombstone, or the record of a staged event. -/
  produced : ∀ {p : Partition} {message : KafkaMessage}, message ∈ messages p →
    message.value = none ∨
      ∃ event, Staged event ∧ partitionOf event.data.workOrderId.text = p ∧
        message = (WorkOrderAuditProducer.record event).message
  /-- Equal event ids mean equal envelopes. -/
  unique : ∀ {p q : Partition} {m n : KafkaMessage} {event event' : WorkOrderEvent},
    m ∈ messages p → n ∈ messages q → m.event? = some event → n.event? = some event' →
      event.eventId = event'.eventId → event = event'

/-- A log that can be read to its end: no text of an event in it is too long. -/
structure StreamLog extends TopicLog where
  /-- So no INSERT is refused, and no partition stalls. -/
  fits : ∀ {p : Partition} {message : KafkaMessage} {event : WorkOrderEvent},
    message ∈ messages p → message.event? = some event → FitsColumns event

namespace TopicLog

variable (log : TopicLog)

/-- The event is somewhere in the log. -/
def Holds (event : WorkOrderEvent) : Prop := ∃ p, ∃ m ∈ log.messages p, m.event? = some event

/-- The event ids of the first `n` messages of a partition. -/
def eventIds (p : Partition) (n : ℕ) : List Uuid :=
  ((log.messages p).take n).filterMap fun m => m.event?.map EventEnvelope.eventId

/-- The partition a row came from. -/
def partitionOfRow (row : AuditEvent) : Partition := log.partitionOf row.workOrderId.text

/-- The rows that came from a partition. -/
def rowsOf (p : Partition) (table : AuditTable) : List AuditEvent :=
  table.rows.filter fun row => log.partitionOfRow row = p

end TopicLog

/-! ## What consuming a log comes to -/

/-- The row has the columns of the event. -/
structure Carries (row : AuditEvent) (event : WorkOrderEvent) : Prop where
  eventId : row.eventId = event.eventId
  eventType : row.eventType = event.type.text
  workOrderId : row.workOrderId = event.data.workOrderId
  propertyId : row.propertyId = event.data.propertyId
  correlationId : row.correlationId = event.correlationId
  actorId : row.actorId = event.actorId.orNull
  /-- The text has milliseconds, and so has the column. -/
  occurredAt : toISOString row.occurredAt = event.occurredAt
  payload : row.payload = event.data

/-- **The table is the log without its duplicates.** -/
structure Projects (log : TopicLog) (table : AuditTable) : Prop where
  /-- No event has two rows. -/
  once : (table.rows.map fun row => row.eventId).Nodup
  /-- The events of the rows are the events of the log. -/
  recorded_iff : ∀ id, (∃ row ∈ table.rows, row.eventId = id) ↔
    ∃ event, log.Holds event ∧ event.eventId = id
  /-- A row carries the event it is of. -/
  carries : ∀ row ∈ table.rows, ∀ event, log.Holds event → row.eventId = event.eventId →
    Carries row event
  /-- Inside a partition the ids grow in the order of first occurrence. -/
  ordered : ∀ p, ∀ row ∈ log.rowsOf p table, ∀ row' ∈ log.rowsOf p table,
    row.id < row'.id ↔ (log.eventIds p (log.messages p).length).idxOf row.eventId <
      (log.eventIds p (log.messages p).length).idxOf row'.eventId

/-- Two tables have the same rows up to `id` and `recorded_at`, and have them in
the same order inside each partition. -/
structure SameRows (log : TopicLog) (table table' : AuditTable) : Prop where
  /-- The rows are the same. -/
  perm : (table.rows.map AuditEvent.toAuditValues).Perm (table'.rows.map AuditEvent.toAuditValues)
  /-- Of one partition, they are in the same order. -/
  inOrder : ∀ p, (log.rowsOf p table).map AuditEvent.toAuditValues =
    (log.rowsOf p table').map AuditEvent.toAuditValues

/-! ## One message -/

/-- The values of an event that fits are its own. -/
theorem values_of_staged {event : WorkOrderEvent} (staged : Staged event)
    (fits : FitsColumns event) :
    ∃ values, AuditIngestService.values event = .ok values ∧
      ∀ id recordedAt, Carries { values with id, recordedAt } event := by
  obtain ⟨type, workOrder, context, rfl⟩ := staged
  have correlation := nullable_of_length_le "correlation_id" fits.correlationId
  refine ⟨_, AuditIngestService.values_eq_ok _ correlation fits.actorId rfl, ?_⟩
  intro id recordedAt
  constructor <;> rfl

/-- A row with the values of an event that fits carries it. -/
theorem carries_of_values {event : WorkOrderEvent} (staged : Staged event)
    (fits : FitsColumns event) {row : AuditEvent}
    (ok : AuditIngestService.values event = .ok row.toAuditValues) : Carries row event := by
  obtain ⟨values, ok', carries⟩ := values_of_staged staged fits
  rw [ok] at ok'
  cases ok'
  exact carries row.id row.recordedAt

namespace TopicLog

variable {log : TopicLog} {p : Partition} {m : KafkaMessage} {event event' : WorkOrderEvent}

/-- The event of a message is one that `stage` built, and its key says where it is. -/
theorem of_event (member : m ∈ log.messages p) (isEvent : m.event? = some event) :
    Staged event ∧ log.partitionOf event.data.workOrderId.text = p ∧
      m = (WorkOrderAuditProducer.record event).message := by
  rcases log.produced member with tombstone | ⟨sent, staged, keyed, rfl⟩
  · rw [KafkaMessage.event?, tombstone] at isEvent
    cases isEvent
  · rw [event?_message_record, Option.some_inj] at isEvent
    subst isEvent
    exact ⟨staged, keyed, rfl⟩

/-- What a topic log holds has been staged by the service. -/
theorem Holds.staged (holds : log.Holds event) : Staged event := by
  obtain ⟨p, m, member, isEvent⟩ := holds
  exact (of_event member isEvent).1

/-- The log holds one event of an id. -/
theorem Holds.eq (holds : log.Holds event) (holds' : log.Holds event')
    (same : event.eventId = event'.eventId) : event = event' := by
  obtain ⟨p, m, member, isEvent⟩ := holds
  obtain ⟨q, n, member', isEvent'⟩ := holds'
  exact log.unique member member' isEvent isEvent' same

/-- What is among the first messages is in the log. -/
theorem holds_of_within {high : Partition → ℕ} (within : Within log.messages high event) :
    log.Holds event := by
  obtain ⟨p, n, m, -, here, isEvent⟩ := within
  exact ⟨p, m, List.mem_of_getElem? here, isEvent⟩

/-- One more message of a partition. -/
theorem eventIds_succ {n : ℕ} (here : (log.messages p)[n]? = some m) :
    log.eventIds p (n + 1) =
      log.eventIds p n ++ (m.event?.map EventEnvelope.eventId).toList := by
  unfold eventIds
  rw [List.take_add_one, here, Option.toList_some, List.filterMap_append]
  cases event : m.event? <;> simp [event]

end TopicLog

/-! ## The invariant -/

/-- The rows of a partition are the first occurrences in a prefix of it. -/
structure ProjectsPrefix (log : TopicLog) (high : Partition → ℕ) (table : AuditTable) : Prop
    extends Ingested log.messages high table where
  /-- The rows of a partition are in the order of first occurrence. -/
  firsts_eq : ∀ p, ((log.rowsOf p table).map fun row => row.eventId) =
    firsts (log.eventIds p (high p))
  /-- The ids grow with the table. -/
  increasing : table.rows.Pairwise fun row row' => row.id < row'.id
  /-- The sequence is ahead of every id. -/
  bounded : ∀ row ∈ table.rows, row.id < table.nextId

namespace ProjectsPrefix

variable {log : TopicLog} {table table' : AuditTable} {high high' : Partition → ℕ}
  {p : Partition} {event : WorkOrderEvent} {m : KafkaMessage} {now : Instant}
  {values : AuditValues}

/-- Nothing has been read, and nothing is there. -/
theorem start (log : TopicLog) (nextId : ℕ) : ProjectsPrefix log (fun _ => 0) ⟨[], nextId⟩ where
  toIngested := .start log.messages nextId
  firsts_eq := fun _ => rfl
  increasing := List.Pairwise.nil
  bounded := fun _ member => nomatch member

/-- A row has the values of an event of the log. -/
theorem exists_holds (projects : ProjectsPrefix log high table) {row : AuditEvent}
    (member : row ∈ table.rows) :
    ∃ event, log.Holds event ∧ AuditIngestService.values event = .ok row.toAuditValues := by
  obtain ⟨event, within, ok⟩ := projects.sound row member
  exact ⟨event, TopicLog.holds_of_within within, ok⟩

/-- A row with the id of an event has its values. -/
theorem values_of_eventId (projects : ProjectsPrefix log high table) {row : AuditEvent}
    (member : row ∈ table.rows) (holds : log.Holds event) (same : row.eventId = event.eventId) :
    AuditIngestService.values event = .ok row.toAuditValues := by
  obtain ⟨event', holds', ok⟩ := projects.exists_holds member
  rwa [holds.eq holds' (same.symm.trans (eventId_of_values ok))]

/-- Where the row of an event is, if it is anywhere: equal ids are equal events,
and equal events are in one partition. -/
theorem recorded_iff (projects : ProjectsPrefix log high table) (holds : log.Holds event)
    (keyed : log.partitionOf event.data.workOrderId.text = p) :
    (∃ row ∈ table.rows, row.eventId = event.eventId) ↔
      event.eventId ∈ (log.rowsOf p table).map fun row => row.eventId := by
  rw [List.mem_map]
  constructor
  · rintro ⟨row, member, same⟩
    have ok := projects.values_of_eventId member holds same
    refine ⟨row, List.mem_filter.mpr ⟨member, ?_⟩, same⟩
    rw [TopicLog.partitionOfRow, (columns_of_values ok).2.1, decide_eq_true_eq]
    exact keyed
  · rintro ⟨row, member, same⟩
    exact ⟨row, (List.mem_filter.mp member).1, same⟩

/-- The partition's ids after an insert. -/
theorem rowsOf_insertOrIgnore (projects : ProjectsPrefix log high table)
    (holds : log.Holds event) (keyed : log.partitionOf event.data.workOrderId.text = p)
    (ok : AuditIngestService.values event = .ok values) (now : Instant) (q : Partition) :
    ((log.rowsOf q (table.insertOrIgnore values now)).map fun row => row.eventId) =
      if q = p then insertNew ((log.rowsOf p table).map fun row => row.eventId) event.eventId
      else (log.rowsOf q table).map fun row => row.eventId := by
  obtain ⟨eventId, workOrderId, -⟩ := columns_of_values ok
  have recorded := projects.recorded_iff holds keyed
  unfold insertNew
  rw [← if_congr recorded rfl rfl, TopicLog.rowsOf, AuditTable.insertOrIgnore]
  by_cases old : ∃ row ∈ table.rows, row.eventId = event.eventId
  · rw [if_pos (by rwa [eventId]), if_pos old]
    split_ifs with here
    · rw [here, TopicLog.rowsOf]
    · rfl
  · have partition : log.partitionOfRow { values with id := table.nextId, recordedAt := now } = p :=
      (congrArg (fun id : Uuid => log.partitionOf id.text) workOrderId).trans keyed
    rw [if_neg (by rwa [eventId]), if_neg old, List.filter_append, List.filter_singleton, partition]
    by_cases here : q = p
    · rw [here, if_pos rfl, decide_eq_true rfl, cond_true, List.map_append]
      simp [TopicLog.rowsOf, eventId]
    · rw [if_neg here, decide_eq_false (Ne.symm here), cond_false, List.append_nil]
      rfl

/-- A row that an insert adds has the next id of the sequence. -/
theorem pairwise_insertOrIgnore (projects : ProjectsPrefix log high table) (values : AuditValues)
    (now : Instant) :
    (table.insertOrIgnore values now).rows.Pairwise (fun row row' => row.id < row'.id) ∧
      ∀ row ∈ (table.insertOrIgnore values now).rows, row.id < table.nextId + 1 := by
  unfold AuditTable.insertOrIgnore
  split_ifs
  · exact ⟨projects.increasing, fun row member => Nat.lt_succ_of_lt (projects.bounded row member)⟩
  · constructor
    · refine List.pairwise_append.mpr ⟨projects.increasing, List.pairwise_singleton _ _, ?_⟩
      intro row member row' isNew
      rw [List.mem_singleton.mp isNew]
      exact projects.bounded row member
    · intro row member
      rcases List.mem_append.mp member with before | isNew
      · exact Nat.lt_succ_of_lt (projects.bounded row before)
      · rw [List.mem_singleton.mp isNew]
        exact Nat.lt_succ_self _

/-- **A redelivery**: the rows stay, and so does the prefix. -/
theorem again {n : ℕ} (projects : ProjectsPrefix log high table) (before : n < high p)
    (here : (log.messages p)[n]? = some m)
    (handled : AuditStreamConsumer.handle now table m = some table') :
    ProjectsPrefix log high table' := by
  obtain ⟨rows, grows⟩ := projects.rows_again before here handled
  exact
    { toIngested := projects.toIngested.congr rows
      firsts_eq := by
        intro q
        rw [TopicLog.rowsOf, rows]
        exact projects.firsts_eq q
      increasing := rows ▸ projects.increasing
      bounded := fun row member => (projects.bounded row (rows ▸ member)).trans_le grows }

/-- **The next message** extends the prefix of its partition, and adds a row if its event
is new there. -/
theorem next (projects : ProjectsPrefix log high table)
    (here : (log.messages p)[high p]? = some m)
    (handled : AuditStreamConsumer.handle now table m = some table') :
    ProjectsPrefix log (Function.update high p (high p + 1)) table' := by
  have ingested := projects.toIngested.next here handled
  have grown : firsts (log.eventIds p (high p + 1)) =
      ((m.event?.map EventEnvelope.eventId).toList).foldl insertNew
        (firsts (log.eventIds p (high p))) := by
    rw [TopicLog.eventIds_succ here, firsts, List.foldl_append]
    rfl
  rcases handle_eq_some.mp handled with ⟨tombstone, rfl⟩ | ⟨event, values, isEvent, ok, rfl⟩
  · rw [KafkaMessage.event?, tombstone] at grown
    refine ⟨ingested, fun q => ?_, projects.increasing, projects.bounded⟩
    by_cases same : q = p
    · subst same
      rw [Function.update_self, grown, projects.firsts_eq]
      rfl
    · rw [Function.update_of_ne same, projects.firsts_eq]
  · have member := List.mem_of_getElem? here
    obtain ⟨-, keyed, -⟩ := TopicLog.of_event member isEvent
    rw [isEvent] at grown
    obtain ⟨increasing, bounded⟩ := projects.pairwise_insertOrIgnore values now
    refine ⟨ingested, fun q => ?_, increasing, bounded⟩
    rw [projects.rowsOf_insertOrIgnore ⟨p, m, member, isEvent⟩ keyed ok now q]
    by_cases same : q = p
    · subst same
      rw [if_pos rfl, Function.update_self, grown, projects.firsts_eq]
      rfl
    · rw [if_neg same, Function.update_of_ne same, projects.firsts_eq]

/-- **Of any topic log the table is a projection**, in every state that its consumers reach, and
no offset is beyond the prefixes. -/
theorem of_reachable {nextId : ℕ} {s : AuditState}
    (reached : (consumers log.messages).Reachable (.start ⟨[], nextId⟩) s) :
    ∃ high, ProjectsPrefix log high s.table ∧ s.ReadTo high :=
  GroupState.exists_readTo (fun projects before here handled => projects.again before here handled)
    (fun projects here handled => projects.next here handled) (.start log nextId) reached

/-- Once the log is consumed, the prefixes are the partitions. -/
theorem high_eq_of_consumed (projects : ProjectsPrefix log high table) {s : AuditState}
    (readTo : s.ReadTo high) (consumed : Consumed log.messages s) (p : Partition) :
    high p = (log.messages p).length :=
  Nat.le_antisymm ((projects.high_le p).trans (List.takeWhile_prefix _).length_le)
    (readTo p _ (consumed p))

/-! ## Consumed logs -/

/-- Rows with one event id have the same values. -/
theorem eventId_determines (projects : ProjectsPrefix log high table)
    (projects' : ProjectsPrefix log high' table') {row row' : AuditEvent}
    (member : row ∈ table.rows) (member' : row' ∈ table'.rows) (same : row.eventId = row'.eventId) :
    row.toAuditValues = row'.toAuditValues := by
  obtain ⟨event, holds, ok⟩ := projects.exists_holds member
  have ok' := projects'.values_of_eventId member' holds
    (same.symm.trans (eventId_of_values ok))
  exact Except.ok.inj (ok.symm.trans ok')

/-- No two rows have the same values. -/
theorem nodup_values (projects : ProjectsPrefix log high table) :
    (table.rows.map AuditEvent.toAuditValues).Nodup := by
  have nodup := projects.once
  rw [show (fun row : AuditEvent => row.eventId) = AuditValues.eventId ∘ AuditEvent.toAuditValues
    from rfl, ← List.map_map] at nodup
  exact nodup.of_map _

variable (complete : ∀ p, high p = (log.messages p).length)

include complete in
/-- The events of a consumed log have rows, and no others do. -/
theorem exists_row_iff (projects : ProjectsPrefix log high table) (id : Uuid) :
    (∃ row ∈ table.rows, row.eventId = id) ↔
      ∃ event, log.Holds event ∧ event.eventId = id := by
  constructor
  · rintro ⟨row, member, rfl⟩
    obtain ⟨event, holds, ok⟩ := projects.exists_holds member
    exact ⟨event, holds, (eventId_of_values ok).symm⟩
  · rintro ⟨event, ⟨p, m, inLog, isEvent⟩, rfl⟩
    obtain ⟨n, here⟩ := List.mem_iff_getElem?.mp inLog
    have before := (List.getElem?_eq_some_iff.mp here).1
    exact projects.complete event ⟨p, n, m, complete p ▸ before, here, isEvent⟩

include complete in
/-- The rows of a partition have the order of the first occurrences in it. -/
theorem id_lt_iff (projects : ProjectsPrefix log high table) {row row' : AuditEvent}
    (member : row ∈ log.rowsOf p table) (member' : row' ∈ log.rowsOf p table) :
    row.id < row'.id ↔ (log.eventIds p (log.messages p).length).idxOf row.eventId <
      (log.eventIds p (log.messages p).length).idxOf row'.eventId := by
  have increasing := projects.increasing.filter fun row => log.partitionOfRow row = p
  have order := pairwise_firsts (log.eventIds p (log.messages p).length)
  rw [← complete p, ← projects.firsts_eq, List.pairwise_map, complete p] at order
  exact lt_iff_lt_of_pairwise increasing order member member'

end ProjectsPrefix

/-- Every row is in a partition, so tables that agree on the partitions agree. -/
theorem TopicLog.mem_values_of_inOrder (log : TopicLog) {table table' : AuditTable}
    (inOrder : ∀ p, (log.rowsOf p table).map AuditEvent.toAuditValues =
      (log.rowsOf p table').map AuditEvent.toAuditValues) {values : AuditValues}
    (member : values ∈ table.rows.map AuditEvent.toAuditValues) :
    values ∈ table'.rows.map AuditEvent.toAuditValues := by
  obtain ⟨row, here, rfl⟩ := List.mem_map.mp member
  have inPartition : row.toAuditValues ∈
      (log.rowsOf (log.partitionOfRow row) table).map AuditEvent.toAuditValues :=
    List.mem_map_of_mem (List.mem_filter.mpr ⟨here, decide_eq_true rfl⟩)
  rw [inOrder] at inPartition
  obtain ⟨row', there, same⟩ := List.mem_map.mp inPartition
  exact List.mem_map.mpr ⟨row', (List.mem_filter.mp there).1, same⟩

namespace ProjectsPrefix

variable {table table' : AuditTable} {high high' : Partition → ℕ}

/-- A consumed log, all of which fits. -/
theorem projects {log : StreamLog} (projects : ProjectsPrefix log.toTopicLog high table)
    (complete : ∀ p, high p = (log.messages p).length) : Projects log.toTopicLog table where
  once := projects.once
  recorded_iff := projects.exists_row_iff complete
  carries := by
    intro row member event holds same
    have staged := holds.staged
    have ok := projects.values_of_eventId member holds same
    obtain ⟨p, m, inLog, isEvent⟩ := holds
    exact carries_of_values staged (log.fits inLog isEvent) ok
  ordered := fun _ _ member _ member' => projects.id_lt_iff complete member member'

/-- Two tables of a consumed log. -/
theorem sameRows {log : TopicLog} (projects : ProjectsPrefix log high table)
    (projects' : ProjectsPrefix log high' table')
    (complete : ∀ p, high p = (log.messages p).length)
    (complete' : ∀ p, high' p = (log.messages p).length) : SameRows log table table' := by
  have inOrder : ∀ p, (log.rowsOf p table).map AuditEvent.toAuditValues =
      (log.rowsOf p table').map AuditEvent.toAuditValues := by
    intro p
    apply map_eq_map_of_determined fun row => row.eventId
    · rw [projects.firsts_eq, projects'.firsts_eq, complete, complete']
    · intro row member row' member' same
      exact projects.eventId_determines projects' (List.mem_filter.mp member).1
        (List.mem_filter.mp member').1 same
  refine ⟨(List.perm_ext_iff_of_nodup projects.nodup_values projects'.nodup_values).mpr ?_, inOrder⟩
  exact fun values => ⟨log.mem_values_of_inOrder inOrder,
    log.mem_values_of_inOrder fun p => (inOrder p).symm⟩

end ProjectsPrefix

/-! ## Progress -/

/-- No message of a stream log stops a consumer. -/
theorem StreamLog.readable_eq (log : StreamLog) (p : Partition) :
    readable log.messages p = log.messages p := by
  refine List.takeWhile_eq_self_iff.mpr fun m member => ?_
  rcases log.produced member with tombstone | ⟨event, staged, -, rfl⟩
  · rw [KafkaMessage.isReadable, tombstone]
    rfl
  · have fits := log.fits member (event?_message_record event)
    exact (isReadable_iff_fits staged).mpr fits.fitsTable

/-- **Progress.**  From any state a stream log with finitely many partitions can be
consumed. -/
theorem exists_consumed (log : StreamLog) (s : AuditState) {partitions : ℕ}
    (finite : ∀ p, partitions ≤ p → log.messages p = []) :
    ∃ s', (consumers log.messages).Reachable s s' ∧ Consumed log.messages s' := by
  obtain ⟨s', reached, toEnd⟩ := exists_readToEnd s finite
  refine ⟨s', reached, fun p => ?_⟩
  rw [← log.readable_eq p]
  exact toEnd p

/-- **Exactly once, and rebuildable.**  When the log has been consumed, on any
schedule, the table is the log without its duplicates; and it has the rows that
any other schedule gives from an empty table. -/
theorem projects_of_consumed (log : StreamLog) (nextId : ℕ) (s : AuditState)
    (reached : (consumers log.messages).Reachable (.start ⟨[], nextId⟩) s)
    (consumed : Consumed log.messages s) :
    Projects log.toTopicLog s.table ∧
      ∀ nextId' s', (consumers log.messages).Reachable (.start ⟨[], nextId'⟩) s' →
        Consumed log.messages s' → SameRows log.toTopicLog s.table s'.table := by
  obtain ⟨high, projects, readTo⟩ := ProjectsPrefix.of_reachable reached
  have complete := projects.high_eq_of_consumed readTo consumed
  refine ⟨projects.projects complete, ?_⟩
  intro nextId' s' reached' consumed'
  obtain ⟨high', projects', readTo'⟩ := ProjectsPrefix.of_reachable reached'
  exact projects.sameRows projects' complete (projects'.high_eq_of_consumed readTo' consumed')

/-! A log with a duplicate and a tombstone. -/

/-- The order is opened by a resident, -/
def openedEvent : WorkOrderEvent :=
  createdEvent (.gateway (residentRequest (.single "req-1")))

/-- and cancelled. -/
def cancelledEvent : WorkOrderEvent :=
  WorkOrderEventsOutbox.envelope .cancelled
    { openOrder with status := .cancelled } (CommitContext.second.stageContext none)

/-- The first event has been sent twice, and a tombstone is between it and the second one. -/
def tapMessages : Partition → List KafkaMessage
  | 0 =>
      [(WorkOrderAuditProducer.record openedEvent).message,
        (WorkOrderAuditProducer.record openedEvent).message, ⟨"", none⟩,
        (WorkOrderAuditProducer.record cancelledEvent).message]
  | _ + 1 => []

/-- There are three kinds of messages in it, -/
theorem mem_tapMessages {p : Partition} {m : KafkaMessage} (member : m ∈ tapMessages p) :
    p = 0 ∧ (m.value = none ∨ m = (WorkOrderAuditProducer.record openedEvent).message ∨
      m = (WorkOrderAuditProducer.record cancelledEvent).message) := by
  cases p with
  | succ p => cases member
  | zero =>
      simp only [tapMessages, List.mem_cons, List.not_mem_nil, or_false] at member
      rcases member with rfl | rfl | rfl | rfl
      · exact ⟨rfl, Or.inr (Or.inl rfl)⟩
      · exact ⟨rfl, Or.inr (Or.inl rfl)⟩
      · exact ⟨rfl, Or.inl rfl⟩
      · exact ⟨rfl, Or.inr (Or.inr rfl)⟩

/-- and two events. -/
theorem event_of_mem_tapMessages {p : Partition} {m : KafkaMessage} {event : WorkOrderEvent}
    (member : m ∈ tapMessages p) (isEvent : m.event? = some event) :
    event = openedEvent ∨ event = cancelledEvent := by
  obtain ⟨-, tombstone | rfl | rfl⟩ := mem_tapMessages member
  · unfold KafkaMessage.event? at isEvent
    rw [tombstone] at isEvent
    cases isEvent
  · rw [event?_message_record] at isEvent
    exact Or.inl (Option.some.inj isEvent).symm
  · rw [event?_message_record] at isEvent
    exact Or.inr (Option.some.inj isEvent).symm

/-- The topic of these messages. -/
def tapLog : StreamLog where
  messages := tapMessages
  partitionOf := fun _ => 0
  produced := by
    intro p m member
    obtain ⟨rfl, tombstone | rfl | rfl⟩ := mem_tapMessages member
    · exact Or.inl tombstone
    · exact Or.inr ⟨openedEvent, ⟨_, _, _, rfl⟩, rfl, rfl⟩
    · exact Or.inr ⟨cancelledEvent, ⟨_, _, _, rfl⟩, rfl, rfl⟩
  unique := by
    intro p q m n event event' inLog inLog' isEvent isEvent' same
    rcases event_of_mem_tapMessages inLog isEvent with rfl | rfl <;>
      rcases event_of_mem_tapMessages inLog' isEvent' with rfl | rfl
    · rfl
    · exact absurd same (by decide)
    · exact absurd same (by decide)
    · rfl
  fits := by
    intro p m event member isEvent
    rcases event_of_mem_tapMessages member isEvent with rfl | rfl
    · exact ⟨by decide, by decide⟩
    · exact ⟨by decide, by decide⟩

/-- Two events, one of them twice: consumed and projected. -/
theorem projects_tapLog :
    ∃ s, (consumers tapLog.messages).Reachable (.start ⟨[], 1⟩) s ∧
      Consumed tapLog.messages s ∧ Projects tapLog.toTopicLog s.table := by
  have finite : ∀ p, 1 ≤ p → tapLog.messages p = [] := by
    intro p positive
    cases p with
    | zero => cases positive
    | succ p => rfl
  obtain ⟨s, reached, consumed⟩ := exists_consumed tapLog (.start ⟨[], 1⟩) finite
  exact ⟨s, reached, consumed, (projects_of_consumed tapLog 1 s reached consumed).1⟩

end PropFlow
