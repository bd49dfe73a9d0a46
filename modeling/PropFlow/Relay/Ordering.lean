import PropFlow.Audit.Stream
import PropFlow.Relay.Exclusivity

/-!
# Order on the audit stream

Keying the audit records by work order puts the events of one order in one
partition.  It does not put them there in order: that is up to the relays, and
`SKIP LOCKED` lets one relay step over an event that another one holds and send
a later event of the same order first (`not_keepsOrder_of_skipping`).

## The law

`KeepsOrder` is about first occurrences, because a row may be sent more than once: the
first record of an earlier event is before the first record of a later one, on the
stream, and so are the rows of the audit table that consumers make of it.  The second
half is for any topic log that holds the records (`TopicLog.Records`) and for every
state of its consumers; texts that do not fit their columns are not excluded.

## The condition

* `WritesInOrder` — the ids of the events of one order grow as they are staged;
* `ClaimsInOrder` — a drain claims an event only if the earlier ones of its order are
  sent, or claimed before it in the same drain.

## The argument

The invariant behind `keepsOrder_of_claimsInOrder` (`OrderInvariant`) is about what may
still be sent: whenever a record is in flight, held back in an abandoned call, or next in
a batch, every earlier event of its order is on Kafka already (`RelayState.Ready`).  A
record that is accepted then cannot overtake one (`precedes_step`).
-/

namespace PropFlow

open Library Library.CivilTime

/-! ## The partition of a work order -/

/-- The row stages an event of the work order. -/
def OutboxEvent.About (id : Uuid) (row : OutboxEvent) : Prop := row.payload.data.workOrderId = id

instance (id : Uuid) (row : OutboxEvent) : Decidable (row.About id) :=
  decEq row.payload.data.workOrderId id

/-- The audit record of a row. -/
def OutboxEvent.record (row : OutboxEvent) : KafkaRecord :=
  WorkOrderAuditProducer.record row.payload

/-- The record in a message, if it is keyed by the work order. -/
def Message.recordOf (id : Uuid) : Message → Option KafkaRecord
  | .rabbit _ => none
  | .kafka record => if record.key = id.text then some record else none

/-- The records of a work order on its partition: Kafka appends the messages of
one key in the order in which it accepts them. -/
def RelayState.stream (s : RelayState) (id : Uuid) : List KafkaRecord :=
  s.accepted.filterMap (Message.recordOf id)

/-- Under the key of the work order, the partition has what the relays sent. -/
def TopicLog.Records (log : TopicLog) (s : RelayState) (id : Uuid) : Prop :=
  (log.messages (log.partitionOf id.text)).filter (fun m => m.key = id.text) =
    (s.stream id).map KafkaRecord.message

/-- **The events of a work order keep their order**: they first appear on the
partition in the order of their outbox ids, and so do their audit rows, however
the partition is consumed and however far it can be read. -/
structure KeepsOrder (id : Uuid) (s : RelayState) : Prop where
  /-- Of two events on the partition, the one staged first appears first. -/
  stream : ∀ row ∈ s.table, ∀ row' ∈ s.table, row.About id → row'.About id → row.id < row'.id →
    row.record ∈ s.stream id → row'.record ∈ s.stream id →
      (s.stream id).idxOf row.record < (s.stream id).idxOf row'.record
  /-- Of two audit rows, the one of the earlier event has the smaller id, in every state
  that the consumers of the partition can reach.  The log may hold texts that fit no column;
  then it is read up to there. -/
  audit : ∀ log : TopicLog, log.Records s id → ∀ nextId audit,
    (consumers log.messages).Reachable (.start ⟨[], nextId⟩) audit →
      ∀ row ∈ s.table, ∀ row' ∈ s.table, row.About id → row'.About id → row.id < row'.id →
        ∀ stored ∈ audit.table.rows, ∀ stored' ∈ audit.table.rows,
          stored.workOrderId = id → stored'.workOrderId = id →
            stored.eventId = row.eventId → stored'.eventId = row'.eventId → stored.id < stored'.id

/-! ## The condition -/

/-- The event is on Kafka. -/
def RelayState.Sent (s : RelayState) (row : OutboxEvent) : Prop :=
  OutboxRelay.message row .kafka ∈ s.accepted

instance (s : RelayState) (row : OutboxEvent) : Decidable (s.Sent row) :=
  inferInstanceAs (Decidable (_ ∈ s.accepted))

/-- The row that this step locks, and those its drain has locked before. -/
def RelayState.claim (s : RelayState) : RelayAction → Option (OutboxEvent × List OutboxEvent)
  | .lock d =>
      match s.drains d with
      | some ⟨_, true, .locking (id :: _) rows⟩ =>
          if rows.length = batchSize then none
          else
            match s.locks id, s.table.find? fun row => row.id = id with
            | none, some row => if row.publishedAt = none then some (row, rows) else none
            | _, _ => none
      | _ => none
  | _ => none

/-- Outbox ids of one work order are given out in commit order, as the service does
(`FaithfulLog.ordered`). -/
def WritesInOrder (id : Uuid) (s : RelayState) (a : RelayAction) (_ : RelayState) : Prop :=
  match a with
  | .write newId _ workOrder _ =>
      workOrder.id = id → ∀ row ∈ s.table, row.About id → row.id < newId
  | _ => True

instance (id : Uuid) (s : RelayState) (a : RelayAction) (s' : RelayState) :
    Decidable (WritesInOrder id s a s') :=
  match a with
  | .write _ _ _ _ => inferInstanceAs (Decidable (_ → _))
  | .tick _ _ | .select _ | .lock _ | .accept _ | .resolve _ | .stamp _ _ | .commit _ | .fail _ _
  | .disconnect _ | .finish _ | .crash _ | .acceptLate _ _ => .isTrue trivial

/-- An event is claimed only when every earlier event of its work order is in
the same batch or on Kafka: the `SELECT` has not stepped over one. -/
def ClaimsInOrder (id : Uuid) (s : RelayState) (a : RelayAction) (_ : RelayState) : Prop :=
  ∀ claim ∈ s.claim a, claim.1.About id → ∀ earlier ∈ s.table, earlier.About id →
    earlier.id < claim.1.id → earlier.id ∈ claim.2.map OutboxEvent.id ∨ s.Sent earlier

instance (id : Uuid) (s : RelayState) (a : RelayAction) (s' : RelayState) :
    Decidable (ClaimsInOrder id s a s') :=
  inferInstanceAs (Decidable (∀ claim ∈ s.claim a, _))

/-! ## What a step does to claims -/

/-- At the head of the loop, what is claimed is what is to send. -/
theorem rows_loop (rows : List OutboxEvent) : (OutboxRelay.loop [] rows).rows = rows := by
  cases rows <;> rfl

/-- What `lock` does to the batch of its drain. -/
theorem rows_of_lock {s s' : RelayState} {d : DrainId} {i : InstanceId} {candidates : List ℕ}
    {rows : List OutboxEvent} {drain' : Drain}
    (held : s.drains d = some ⟨i, true, .locking candidates rows⟩)
    (moved : relays.step s (.lock d) = some s') (held' : s'.drains d = some drain') :
    drain'.phase.rows = rows ∨
      ∃ row, s.claim (.lock d) = some (row, rows) ∧ drain'.phase.rows = rows ++ [row] := by
  simp only [relays, RelayState.step, held, Option.some.injEq] at moved
  subst moved
  have set_self : ∀ {phase : Phase}, phase.rows = rows →
      (s.set d ⟨i, true, phase⟩).drains d = some drain' → drain'.phase.rows = rows := by
    intro phase same here
    simp only [RelayState.set, Function.update_self, Option.some.injEq] at here
    rw [← here]
    exact same
  cases candidates with
  | nil => exact Or.inl (set_self (rows_loop rows) held')
  | cons id candidates =>
      rw [RelayState.lockNext] at held'
      split_ifs at held' with full
      · exact Or.inl (set_self (rows_loop rows) held')
      · split at held'
        next row free found =>
          split_ifs at held' with unpublished
          · simp only [RelayState.set, Function.update_self, Option.some.injEq] at held'
            refine Or.inr ⟨row, ?_, by rw [← held']; rfl⟩
            simp [RelayState.claim, held, full, free, found, unpublished]
          · exact Or.inl (set_self rfl held')
        next => exact Or.inl (set_self rfl held')

/-- The batch of a drain after a step: empty, as before, or with the row claimed. -/
theorem rows_of_step {s s' : RelayState} {a : RelayAction} (moved : relays.step s a = some s')
    {d : DrainId} {drain' : Drain} (held' : s'.drains d = some drain') :
    drain'.phase.rows = [] ∨ ∃ drain, s.drains d = some drain ∧
      (drain'.phase.rows = drain.phase.rows ∨
        ∃ row, s.claim a = some (row, drain.phase.rows) ∧
          drain'.phase.rows = drain.phase.rows ++ [row]) := by
  have effect := relayEffect_of_step moved
  -- only a lock adds a row to what a drain has claimed
  cases effect with
  | @locked e i rest rows row _ held =>
      rcases set_drains_eq_some.mp held' with ⟨rfl, rfl⟩ | ⟨-, before⟩
      · exact Or.inr ⟨_, held, rows_of_lock held moved held'⟩
      · exact Or.inr ⟨drain', before, Or.inl rfl⟩
  | @advanced _ e i connected phase phase' held advance =>
      rcases set_drains_eq_some.mp held' with ⟨rfl, rfl⟩ | ⟨-, before⟩
      · exact Or.inr ⟨_, held, Or.inl advance.rows_eq⟩
      · exact Or.inr ⟨drain', before, Or.inl rfl⟩
  | accepted held =>
      rcases set_drains_eq_some.mp held' with ⟨rfl, rfl⟩ | ⟨-, before⟩
      · exact Or.inr ⟨_, held, Or.inl rfl⟩
      · exact Or.inr ⟨drain', before, Or.inl rfl⟩
  | disconnected held =>
      rcases set_drains_eq_some.mp held' with ⟨rfl, rfl⟩ | ⟨-, before⟩
      · exact Or.inr ⟨_, held, Or.inl rfl⟩
      · exact Or.inr ⟨drain', before, Or.inl rfl⟩
  | entered =>
      rcases set_drains_eq_some.mp held' with ⟨rfl, rfl⟩ | ⟨-, before⟩
      · exact Or.inl rfl
      · exact Or.inr ⟨drain', before, Or.inl rfl⟩
  | committed =>
      rcases set_drains_eq_some.mp held' with ⟨rfl, rfl⟩ | ⟨-, before⟩
      · exact Or.inl rfl
      · exact Or.inr ⟨drain', before, Or.inl rfl⟩
  | failed =>
      rcases set_drains_eq_some.mp held' with ⟨rfl, rfl⟩ | ⟨-, before⟩
      · exact Or.inl rfl
      · exact Or.inr ⟨drain', before, Or.inl rfl⟩
  | finished => exact Or.inr ⟨drain', (update_none_eq_some.mp held').2, Or.inl rfl⟩
  | crashed crash => exact Or.inr ⟨drain', ((drains_of_crash crash).mp held').1, Or.inl rfl⟩
  | staged => exact Or.inr ⟨drain', held', Or.inl rfl⟩
  | skippedTick => exact Or.inr ⟨drain', held', Or.inl rfl⟩
  | late => exact Or.inr ⟨drain', held', Or.inl rfl⟩

/-! ## The invariant -/

section Row

variable {id : Uuid} {row row' : OutboxEvent}

/-- Which order a row is about does not depend on its stamp. -/
theorem OutboxEvent.About.congr (about : row.About id) (same : row'.event = row.event) :
    row'.About id := by
  unfold OutboxEvent.About
  rw [OutboxEvent.payload_eq same]
  exact about

/-- A record has its whole event in it. -/
theorem OutboxEvent.payload_eq_of_record (same : row.record = row'.record) :
    row.payload = row'.payload := by
  have parsed := congrArg parseEvent (congrArg KafkaRecord.value same)
  unfold OutboxEvent.record WorkOrderAuditProducer.record at parsed
  rw [parseEvent_stringifyEvent, parseEvent_stringifyEvent] at parsed
  exact Option.some.inj parsed

/-- The stream has the records of the order's events that are on Kafka. -/
theorem record_mem_stream {s : RelayState} (about : row.About id) :
    row.record ∈ s.stream id ↔ s.Sent row := by
  constructor
  · intro member
    obtain ⟨message, accepted, isRecord⟩ := List.mem_filterMap.mp member
    cases message with
    | rabbit => cases isRecord
    | kafka record =>
        rw [Message.recordOf] at isRecord
        split_ifs at isRecord
        cases isRecord
        exact accepted
  · intro sent
    exact List.mem_filterMap.mpr ⟨_, sent, if_pos (congrArg Uuid.text about)⟩

end Row

/-- The event id in a message. -/
def KafkaMessage.eventId? (m : KafkaMessage) : Option Uuid := m.event?.map EventEnvelope.eventId

/-- The consumer reads the event id of the row from its record. -/
theorem eventId?_record (row : OutboxEvent) :
    row.record.message.eventId? = some row.payload.eventId := by
  unfold KafkaMessage.eventId? OutboxEvent.record
  rw [event?_message_record]
  rfl

/-- The audit rows of a work order are in its partition. -/
theorem TopicLog.mem_rowsOf (log : TopicLog) {table : AuditTable} {stored : AuditEvent}
    {id : Uuid} (member : stored ∈ table.rows) (about : stored.workOrderId = id) :
    stored ∈ log.rowsOf (log.partitionOf id.text) table := by
  refine List.mem_filter.mpr ⟨member, ?_⟩
  unfold TopicLog.partitionOfRow
  rw [about, decide_eq_true rfl]

/-- A message with the event id of an audit row has the key of its work order. -/
theorem ProjectsPrefix.key_of_eventId {log : TopicLog} {table : AuditTable}
    {high : Partition → ℕ} (projects : ProjectsPrefix log high table) {stored : AuditEvent}
    (isStored : stored ∈ table.rows) {p : Partition} {m : KafkaMessage}
    (inLog : m ∈ log.messages p) (named : m.eventId? = some stored.eventId) :
    m.key = stored.workOrderId.text := by
  obtain ⟨event, isEvent, sameId⟩ := Option.map_eq_some_iff.mp named
  have ok := projects.values_of_eventId isStored ⟨p, m, inLog, isEvent⟩ sameId.symm
  obtain ⟨-, -, rfl⟩ := TopicLog.of_event inLog isEvent
  rw [(columns_of_values ok).2.1]
  rfl

/-- Every earlier event of the work order is on Kafka. -/
def RelayState.Ready (s : RelayState) (id : Uuid) (row : OutboxEvent) : Prop :=
  ∀ earlier ∈ s.table, earlier.About id → earlier.id < row.id → s.Sent earlier

/-- **What may still be sent is in order.** -/
structure OrderInvariant (id : Uuid) (s : RelayState) : Prop where
  /-- The rows, the drains and the brokers agree, as in every run. -/
  rows : RowInvariant s
  /-- Each row is an event of its own. -/
  eventIds : (s.table.map OutboxEvent.eventId).Nodup
  /-- The id of the row is the one inside the payload. -/
  payloads : ∀ row ∈ s.table, row.payload.eventId = row.eventId
  /-- The earlier events of a claimed row are before it in the batch, or on Kafka. -/
  claims : ∀ d drain, s.drains d = some drain → ∀ front row back,
    drain.phase.rows = front ++ row :: back → row.About id →
      ∀ earlier ∈ s.table, earlier.About id → earlier.id < row.id →
        earlier.id ∈ front.map OutboxEvent.id ∨ s.Sent earlier
  /-- What may still arrive late has nothing before it that has not arrived. -/
  abandoned : ∀ d, ∀ row ∈ s.table, row.About id →
    OutboxRelay.message row .kafka ∈ s.abandoned d → s.Ready id row
  /-- What is on the partition is in order so far. -/
  order : ∀ row ∈ s.table, ∀ row' ∈ s.table, row.About id → row'.About id → row.id < row'.id →
    Precedes row.record row'.record (s.stream id)

namespace OrderInvariant

variable {id : Uuid} {s s' : RelayState} {a : RelayAction}

/-- Nothing can be sent at first. -/
theorem initial (id : Uuid) : OrderInvariant id .initial where
  rows := .initial
  eventIds := List.nodup_nil
  payloads := fun _ member => absurd member List.not_mem_nil
  claims := fun _ _ held => nomatch held
  abandoned := fun _ _ member => absurd member List.not_mem_nil
  order := fun _ member => absurd member List.not_mem_nil

/-- A record tells which row it is about. -/
theorem eq_of_record (invariant : OrderInvariant id s) {row row' : OutboxEvent}
    (member : row ∈ s.table) (member' : row' ∈ s.table) (same : row.record = row'.record) :
    row = row' := by
  apply List.inj_on_of_nodup_map invariant.eventIds member member'
  rw [← invariant.payloads row member, ← invariant.payloads row' member',
    OutboxEvent.payload_eq_of_record same]

/-- **Nothing is sent before its turn.** -/
theorem ready_of_pending (invariant : OrderInvariant id s) {row : OutboxEvent}
    (member : row ∈ s.table) (about : row.About id)
    (pending : s.Pending (OutboxRelay.message row .kafka)) : s.Ready id row := by
  rcases pending with ⟨d, abandoned⟩ | ⟨d, drain, held, inFlight⟩
  · exact invariant.abandoned d row member about abandoned
  · obtain ⟨i, connected, phase⟩ := drain
    cases phase with
    | sending broker batch accepted =>
        cases accepted with
        | true => cases inFlight
        | false =>
            have same := List.mem_singleton.mp inFlight
            cases broker with
            | rabbit => cases same
            | kafka =>
                -- the row in flight is a version of `row`
                obtain ⟨stored, isStored, sameEvent⟩ :=
                  invariant.rows.held d _ held batch.row (by simp [Phase.rows, Batch.rows])
                have sameRecord : row.record = stored.record := by
                  unfold OutboxEvent.record
                  rw [OutboxEvent.payload_eq sameEvent]
                  exact Message.kafka.inj same
                obtain rfl := invariant.eq_of_record member isStored sameRecord
                intro earlier isRow aboutEarlier less
                rw [OutboxEvent.id_eq sameEvent] at less
                rcases invariant.claims d _ held (batch.stamped.map Prod.fst) batch.row batch.rest
                  rfl (about.congr sameEvent.symm) earlier isRow aboutEarlier less with
                  claimed | sent
                · -- the batch has sent it already
                  obtain ⟨claimed, inBatch, sameId⟩ := List.mem_map.mp claimed
                  have sent := invariant.rows.sent d _ held .kafka claimed
                    (List.mem_append_left _ inBatch)
                  obtain ⟨row', isRow', sameEvent'⟩ := invariant.rows.held d _ held claimed
                    (List.mem_append_left _ inBatch)
                  obtain rfl := invariant.rows.eq_of_id isRow' isRow
                    ((OutboxEvent.id_eq sameEvent').trans sameId)
                  unfold RelayState.Sent
                  rwa [message_eq sameEvent']
                · exact sent
    | _ => cases inFlight

/-- What becomes ready stays ready. -/
theorem ready_step (moved : relays.step s a = some s')
    (writes : WritesInOrder id s a s') {row : OutboxEvent} (member : row ∈ s.table)
    (about : row.About id) (ready : s.Ready id row) : s'.Ready id row := by
  have effect := relayEffect_of_step moved
  intro earlier' member' aboutEarlier less
  rcases origin_of_effect effect member' with
    ⟨earlier, isRow, same⟩ | ⟨newId, type, workOrder, context, rfl, -, rfl, -⟩
  · rw [← OutboxEvent.id_eq same] at less
    have sent := ready earlier isRow (aboutEarlier.congr same) less
    unfold RelayState.Sent at sent ⊢
    rw [← message_eq same]
    exact accepted_of_effect effect _ sent
  · have after := writes aboutEarlier row member about
    exact absurd less (Nat.lt_asymm after)

/-- What a broker accepts does not come before its turn. -/
theorem precedes_step (invariant : OrderInvariant id s) (effect : RelayEffect s a s')
    {row row' : OutboxEvent} (member : row ∈ s.table) (member' : row' ∈ s.table)
    (about : row.About id) (about' : row'.About id) (less : row.id < row'.id) :
    Precedes row.record row'.record (s'.stream id) := by
  have before := invariant.order row member row' member' about about' less
  unfold RelayState.stream
  rcases accepted_cases effect with unchanged | ⟨message, grown, pending⟩
  · rw [unchanged]
    exact before
  · rw [grown, List.filterMap_append, precedes_append]
    refine ⟨before, ?_⟩
    by_cases last : message = OutboxRelay.message row' .kafka
    · subst last
      have sent := invariant.ready_of_pending member' about' pending row member about less
      exact Or.inl ((record_mem_stream about).mpr sent)
    · refine Or.inr (precedes_of_notMem fun here => last ?_)
      obtain ⟨found, isFound, isRecord⟩ := List.mem_filterMap.mp here
      rw [List.mem_singleton.mp isFound] at isRecord
      cases message with
      | rabbit => cases isRecord
      | kafka record =>
          rw [Message.recordOf] at isRecord
          split_ifs at isRecord
          rw [Option.some.inj isRecord]
          rfl

/-- Every step keeps it that stages and claims in order. The cases are the ways in which a
record comes nearer to Kafka. -/
theorem step (invariant : OrderInvariant id s) (moved : relays.step s a = some s')
    (writes : WritesInOrder id s a s') (claims : ClaimsInOrder id s a s') :
    OrderInvariant id s' := by
  have effect := relayEffect_of_step moved
  have rows := invariant.rows.step moved
  refine ⟨rows, ?eventIds, ?payloads, ?claims, ?abandoned, ?order⟩
  case eventIds => exact eventIds_of_effect effect invariant.eventIds
  case payloads => exact payloads_of_effect effect invariant.payloads
  case claims =>
    intro d drain' held' front row back split about earlier' member' aboutEarlier less
    rcases origin_of_effect effect member' with
      ⟨earlier, isRow, same⟩ | ⟨newId, type, workOrder, context, rfl, -, rfl, rfl⟩
    · have aboutEarlier := aboutEarlier.congr same
      rw [← OutboxEvent.id_eq same] at less ⊢
      have kept : earlier.id ∈ front.map OutboxEvent.id ∨ s.Sent earlier := by
        rcases rows_of_step moved held' with
          empty | ⟨drain, held, unchanged | ⟨claimed, claim, grown⟩⟩
        · rw [empty] at split
          simp at split
        · exact invariant.claims d drain held front row back (unchanged.symm.trans split) about
            earlier isRow aboutEarlier less
        · rw [grown] at split
          -- the row is the one that has just been claimed, or it is before that one
          rcases List.eq_nil_or_concat back with rfl | ⟨back, last, rfl⟩
          · obtain ⟨rfl, rfl⟩ := List.append_inj' split rfl |>.imp_right List.singleton_inj.mp
            exact claims _ claim about earlier isRow aboutEarlier less
          · rw [List.concat_eq_append, ← List.cons_append, ← List.append_assoc] at split
            exact invariant.claims d drain held front row back (List.append_inj' split rfl).1 about
              earlier isRow aboutEarlier less
      refine kept.imp_right fun sent => ?_
      unfold RelayState.Sent at sent ⊢
      rw [← message_eq same]
      exact accepted_of_effect effect _ sent
    · -- what is being written comes after everything that has been claimed
      obtain ⟨stored, isStored, same⟩ := invariant.rows.held d drain' held' row
        (split ▸ List.mem_append_right _ List.mem_cons_self)
      have after := writes aboutEarlier stored isStored (about.congr same)
      rw [OutboxEvent.id_eq same] at after
      exact absurd less (Nat.lt_asymm after)
  case abandoned =>
    intro d row' member' about abandoned
    have pending := pending_of_abandoned effect abandoned
    rcases origin_of_effect effect member' with
      ⟨row, member, same⟩ | ⟨newId, type, workOrder, context, rfl, fresh, rfl, rfl⟩
    · rw [← message_eq same] at pending
      have about := about.congr same
      have ready := ready_step moved writes member about
        (invariant.ready_of_pending member about pending)
      intro earlier isRow aboutEarlier less
      exact ready earlier isRow aboutEarlier (OutboxEvent.id_eq same ▸ less)
    · exact (not_fromTable_of_fresh invariant.payloads fresh .kafka
        (invariant.rows.abandoned d _ abandoned)).elim
  case order =>
    intro row₁ member₁ row₂ member₂ about₁ about₂ less
    rcases origin_of_effect effect member₂ with
      ⟨row₂, isRow₂, same₂⟩ | ⟨newId, type, workOrder, context, rfl, fresh, rfl, rfl⟩
    · rcases origin_of_effect effect member₁ with
        ⟨row₁, isRow₁, same₁⟩ | ⟨newId, type, workOrder, context, rfl, -, rfl, -⟩
      · have ordered := invariant.precedes_step effect isRow₁ isRow₂ (about₁.congr same₁)
          (about₂.congr same₂) (by rwa [OutboxEvent.id_eq same₁, OutboxEvent.id_eq same₂])
        unfold OutboxEvent.record at ordered ⊢
        rwa [← OutboxEvent.payload_eq same₁, ← OutboxEvent.payload_eq same₂]
      · have after := writes about₁ row₂ isRow₂ (about₂.congr same₂)
        rw [OutboxEvent.id_eq same₂] at after
        exact absurd less (Nat.lt_asymm after)
    · -- a new row cannot be on the partition yet
      refine precedes_of_notMem fun sent => ?_
      exact not_fromTable_of_fresh invariant.payloads fresh .kafka
        (invariant.rows.accepted _ ((record_mem_stream about₂).mp sent))

/-- The records of the stream are those of rows of the order. -/
theorem exists_of_mem_stream (invariant : OrderInvariant id s) {record : KafkaRecord}
    (member : record ∈ s.stream id) : ∃ row ∈ s.table, row.record = record := by
  obtain ⟨message, accepted, isRecord⟩ := List.mem_filterMap.mp member
  obtain ⟨row, isRow, broker, rfl⟩ := invariant.rows.accepted message accepted
  cases broker with
  | rabbit => cases isRecord
  | kafka =>
      rw [OutboxRelay.message, Message.recordOf] at isRecord
      split_ifs at isRecord
      exact ⟨row, isRow, Option.some.inj isRecord⟩

/-- Of the first event ids in the stream, seen as messages. -/
theorem precedes_eventIds (invariant : OrderInvariant id s) {row row' : OutboxEvent}
    (member : row ∈ s.table) (member' : row' ∈ s.table)
    (before : Precedes row.record row'.record (s.stream id)) :
    Precedes row.eventId row'.eventId
      (((s.stream id).map KafkaRecord.message).filterMap KafkaMessage.eventId?) := by
  have named : ∀ row ∈ s.table,
      (KafkaMessage.eventId? ∘ KafkaRecord.message) row.record = some row.eventId := by
    intro row member
    rw [Function.comp_apply, eventId?_record, invariant.payloads row member]
  rw [List.filterMap_map]
  refine before.filterMap (named row member) ?_
  intro record isRecord same
  obtain ⟨row'', member'', rfl⟩ := invariant.exists_of_mem_stream isRecord
  rw [named row'' member'', Option.some_inj] at same
  rw [List.inj_on_of_nodup_map invariant.eventIds member'' member' same]

/-- What has been consumed of the partition has the order of the stream. -/
theorem precedes_consumed (invariant : OrderInvariant id s) {log : TopicLog}
    (records : log.Records s id) {table : AuditTable} {high : Partition → ℕ}
    (projects : ProjectsPrefix log high table) {row row' : OutboxEvent} (member : row ∈ s.table)
    (member' : row' ∈ s.table) (before : Precedes row.record row'.record (s.stream id))
    {stored' : AuditEvent} (isStored' : stored' ∈ table.rows) (about' : stored'.workOrderId = id)
    (same' : stored'.eventId = row'.eventId) :
    Precedes row.eventId row'.eventId
      (log.eventIds (log.partitionOf id.text) (high (log.partitionOf id.text))) := by
  let p := log.partitionOf id.text
  have inStream := invariant.precedes_eventIds member member' before
  rw [← records] at inStream
  have whole : Precedes row.eventId row'.eventId
      ((log.messages p).filterMap KafkaMessage.eventId?) := by
    refine inStream.of_filter fun m inLog named => ?_
    rw [decide_eq_true_eq, ← about']
    exact projects.key_of_eventId isStored' inLog (named.trans (congrArg some same'.symm))
  rw [← List.take_append_drop (high p) (log.messages p), List.filterMap_append,
    precedes_append] at whole
  exact whole.1

/-- **From the stream to the audit table.**  Whatever has been consumed, the rows
are the first occurrences in a prefix of the partition. -/
theorem audit_lt (invariant : OrderInvariant id s) {log : TopicLog} (records : log.Records s id)
    {nextId : ℕ} {audit : AuditState}
    (reached : (consumers log.messages).Reachable (.start ⟨[], nextId⟩) audit)
    {row row' : OutboxEvent} (member : row ∈ s.table) (member' : row' ∈ s.table)
    (before : Precedes row.record row'.record (s.stream id)) (other : row.eventId ≠ row'.eventId)
    {stored stored' : AuditEvent} (isStored : stored ∈ audit.table.rows)
    (isStored' : stored' ∈ audit.table.rows) (about : stored.workOrderId = id)
    (about' : stored'.workOrderId = id) (same : stored.eventId = row.eventId)
    (same' : stored'.eventId = row'.eventId) : stored.id < stored'.id := by
  obtain ⟨high, projects, -⟩ := ProjectsPrefix.of_reachable reached
  let p := log.partitionOf id.text
  have consumed := invariant.precedes_consumed records projects member member' before isStored'
    about' same'
  -- rows and first occurrences are in one order
  have increasing := projects.increasing.filter fun row => log.partitionOfRow row = p
  have order := pairwise_firsts (log.eventIds p (high p))
  rw [← projects.firsts_eq, List.pairwise_map] at order
  have inPartition := log.mem_rowsOf isStored about
  have inPartition' := log.mem_rowsOf isStored' about'
  refine (lt_iff_lt_of_pairwise increasing order inPartition inPartition').mpr ?_
  rw [same, same']
  refine consumed.idxOf_lt ?_ other
  rw [← mem_firsts, ← projects.firsts_eq, List.mem_map]
  exact ⟨stored', inPartition', same'⟩

/-- Of the audit rows of the order, too. -/
theorem precedes_audit (invariant : OrderInvariant id s) {log : TopicLog}
    (records : log.Records s id) {table : AuditTable} {high : Partition → ℕ}
    (projects : ProjectsPrefix log high table) {row row' : OutboxEvent} (member : row ∈ s.table)
    (member' : row' ∈ s.table) (before : Precedes row.record row'.record (s.stream id))
    (about : ∀ stored ∈ table.rows, stored.eventId = row.eventId → stored.workOrderId = id) :
    Precedes row.eventId row'.eventId
      ((table.rows.filter fun stored => stored.workOrderId = id).map fun stored =>
        stored.eventId) := by
  by_cases recorded : ∃ stored' ∈ table.rows, stored'.workOrderId = id ∧
      stored'.eventId = row'.eventId
  · obtain ⟨stored', isStored', about', same'⟩ := recorded
    have consumed := (invariant.precedes_consumed records projects member member' before isStored'
      about' same').firsts
    rw [← projects.firsts_eq] at consumed
    have narrowed := consumed.map_filter (P := fun stored => stored.workOrderId = id)
      fun stored here same => decide_eq_true (about stored (List.mem_filter.mp here).1 same)
    -- the rows of the order are in its partition
    rwa [TopicLog.rowsOf, List.filter_filter, List.filter_congr fun stored _ => ?_] at narrowed
    by_cases here : stored.workOrderId = id
    · simp [TopicLog.partitionOfRow, here]
    · simp [here]
  · refine precedes_of_notMem fun here => recorded ?_
    obtain ⟨stored', isAudit, same'⟩ := List.mem_map.mp here
    obtain ⟨isStored', about'⟩ := List.mem_filter.mp isAudit
    exact ⟨stored', isStored', of_decide_eq_true about', same'⟩

/-- What has been sent is in order, and so is what consumers have made of it. -/
theorem keepsOrder (invariant : OrderInvariant id s) : KeepsOrder id s where
  stream := by
    intro row member row' member' about about' less _ sent
    refine (invariant.order row member row' member' about about' less).idxOf_lt sent ?_
    intro same
    rw [invariant.eq_of_record member member' same] at less
    exact Nat.lt_irrefl _ less
  audit := by
    intro log records nextId audit reached row member row' member' about about' less
      stored isStored stored' isStored' aboutStored aboutStored' same same'
    have before := invariant.order row member row' member' about about' less
    refine invariant.audit_lt records reached member member' before ?_ isStored isStored'
      aboutStored aboutStored' same same'
    intro sameId
    rw [List.inj_on_of_nodup_map invariant.eventIds member member' sameId] at less
    exact Nat.lt_irrefl _ less

end OrderInvariant

/-- **When a work order's events keep their order.**  In every run of any number
of relays, with any failures, in which no claim steps over an earlier event of
the order. -/
theorem keepsOrder_of_claimsInOrder (id : Uuid) (actions : List RelayAction) (s : RelayState)
    (writes : relays.Along (WritesInOrder id) .initial actions)
    (claims : relays.Along (ClaimsInOrder id) .initial actions)
    (ran : relays.run .initial actions = some s) : KeepsOrder id s :=
  (Machine.Along.invariant relays (A := fun _ => True)
    (fun invariant _ moved both => OrderInvariant.step invariant moved both.1 both.2)
    (OrderInvariant.initial id) (fun _ _ => trivial) (writes.and relays claims) ran).keepsOrder

/-- The order is opened and cancelled, and one relay sends both events. -/
def sentByOneRelay : List RelayAction :=
  [ .write 1 .created openOrder (CommitContext.first.stageContext none),
    .write 2 .cancelled { openOrder with status := .cancelled }
      (CommitContext.second.stageContext none),
    .tick 0 0, .select 0, .lock 0, .lock 0, .lock 0,
    .accept 0, .resolve 0, .accept 0, .resolve 0, .stamp 0 .epoch,
    .accept 0, .resolve 0, .accept 0 ]

/-- Two events of one order, drained together. -/
theorem keepsOrder_sentByOneRelay :
    ∃ s, relays.run .initial sentByOneRelay = some s ∧ KeepsOrder openOrder.id s := by
  have runs : (relays.run .initial sentByOneRelay).isSome = true := by decide
  obtain ⟨s, ran⟩ := Option.isSome_iff_exists.mp runs
  exact ⟨s, ran, keepsOrder_of_claimsInOrder openOrder.id sentByOneRelay s (by decide) (by decide)
    ran⟩

/-- The first relay has claimed the first event and sent nothing yet.  The second
one skips that row, claims the second event and sends it to both brokers; then the
first relay goes on. -/
def skipping : List RelayAction :=
  [ .write 1 .created openOrder (CommitContext.first.stageContext none),
    .tick 0 0, .select 0, .lock 0,
    .write 2 .cancelled { openOrder with status := .cancelled }
      (CommitContext.second.stageContext none),
    .tick 1 1, .select 1, .lock 1, .lock 1, .lock 1, .accept 1, .resolve 1, .accept 1,
    .lock 0, .accept 0, .resolve 0, .accept 0 ]

/-- **The second relay is faster.**  Nothing fails, and the partition has the
cancellation of the order before its creation. -/
theorem not_keepsOrder_of_skipping :
    ¬ ∀ (id : Uuid) (actions : List RelayAction) (s : RelayState),
      relays.Along (WritesInOrder id) .initial actions → relays.run .initial actions = some s →
        KeepsOrder id s := by
  intro keeps
  let first := WorkOrderEventsOutbox.stagedRow 1 .created openOrder
    (CommitContext.first.stageContext none)
  let second := WorkOrderEventsOutbox.stagedRow 2 .cancelled { openOrder with status := .cancelled }
    (CommitContext.second.stageContext none)
  have runs : (relays.run .initial skipping).map (fun s => (s.table, s.accepted)) =
      some ([first, second], [OutboxRelay.message second .rabbit, OutboxRelay.message second .kafka,
        OutboxRelay.message first .rabbit, OutboxRelay.message first .kafka]) := rfl
  obtain ⟨s, ran, both⟩ := Option.map_eq_some_iff.mp runs
  obtain ⟨table, accepted⟩ := Prod.mk.inj both
  have stream : s.stream openOrder.id = [second.record, first.record] := by
    rw [RelayState.stream, accepted]
    rfl
  have other : second.record ≠ first.record := by
    intro same
    have sameId := congrArg EventEnvelope.eventId (OutboxEvent.payload_eq_of_record same)
    exact absurd sameId (by decide)
  have order := (keeps openOrder.id skipping s (by decide) ran).stream first (by rw [table]; simp)
    second (by rw [table]; simp) rfl rfl (by decide)
  rw [stream, List.idxOf_cons_self, List.idxOf_cons_ne _ other, List.idxOf_cons_self] at order
  exact absurd (order (by simp) (by simp)) (by decide)

end PropFlow
