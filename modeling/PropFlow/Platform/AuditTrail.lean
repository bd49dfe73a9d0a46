import PropFlow.Platform.Notifications

/-!
# The audit trail

The audit service never asks the work-orders service anything.  What it knows of a work order
is what the relays have sent to Kafka, in the order in which Kafka has it, as far as its
consumers have read.  Here the audit table is held against the outbox that it comes from.

## The joint runs

`Audited` is about the platform and the audit consumers together.  The platform acts, or a
consumer reads what Kafka has at the time.  That the log grows while it is read makes no
difference (`Audited.consumed`): Kafka only appends, and a consumer has read a shorter log
as it would have read the longer one.  So a state of the consumers is one of a log at rest,
and what is known of these holds: the log of a reachable state is a topic log
(`PlatformInvariant.topicLog`), and if all texts fit their columns it is a stream log
(`PlatformInvariant.streamLog`).

## With any number of relays

`AuditTrail`: the audit table has the committed events and nothing else, each once, and
those that have been sent and read all of them.  This supposes that the texts fit
(`PlatformState.Fits`); without that, see the table of readable events.  `exists_audited` is
the progress: one relay and the consumers can bring every committed event there.

## With one relay

At every moment the rows of a work order are the beginning of its history, one for one and
in order (`Chronicle`).  There is no gap in it, and what is shown never has to be taken
back.  Nothing is supposed of the texts here: what a row has of a text is what the column
takes (`Retains`), and an event that does not fit ends the beginning.
-/

namespace PropFlow

open Library Library.CivilTime

/-! ## What Kafka has -/

/-- The message, if it is in the partition. -/
def Message.inPartition (partitionOf : String → Partition) (p : Partition) :
    Message → Option KafkaMessage
  | .rabbit _ => none
  | .kafka record => if partitionOf record.key = p then some record.message else none

/-- Kafka appends what it accepts. -/
def RelayState.partition (s : RelayState) (partitionOf : String → Partition) (p : Partition) :
    List KafkaMessage :=
  s.accepted.filterMap (Message.inPartition partitionOf p)

/-- No text in the outbox is longer than the column of `audit_events` for it. -/
def PlatformState.Fits (s : PlatformState) : Prop :=
  ∀ row ∈ s.service.db.outbox.rows, FitsColumns row.payload

namespace PlatformInvariant

variable {s : PlatformState} {partitionOf : String → Partition} {p : Partition}
  {m : KafkaMessage}

/-- Every payload of the outbox is one that `stage` built. -/
theorem staged (invariant : PlatformInvariant s) {row : OutboxEvent}
    (member : row ∈ s.service.db.outbox.rows) : Staged row.payload := by
  have stagedRows : ∀ row ∈ s.relays.table, Staged row.payload := by
    refine Machine.Reachable.invariant relays (I := fun r => ∀ row ∈ r.table, Staged row.payload)
      ?_ (fun _ absent => absurd absent List.not_mem_nil) invariant.relaying
    intro r r' a before moved row' member'
    rcases origin_of_effect (relayEffect_of_step moved) member' with
      ⟨row, member, same⟩ | ⟨id, type, workOrder, context, -, -, rfl, -⟩
    · rw [← OutboxEvent.payload_eq same]
      exact before row member
    · exact ⟨type, workOrder, context, rfl⟩
  obtain ⟨row', member', same⟩ := invariant.table.symm.exists_mem member
  rw [← OutboxEvent.payload_eq same]
  exact stagedRows row' member'

/-- What Kafka has in a partition has been committed, and belongs there. -/
theorem exists_of_partition (invariant : PlatformInvariant s)
    (member : m ∈ s.relays.partition partitionOf p) :
    ∃ row ∈ s.service.db.outbox.rows, partitionOf row.payload.data.workOrderId.text = p ∧
      m = row.record.message := by
  obtain ⟨message, accepted, isHere⟩ := List.mem_filterMap.mp member
  obtain ⟨row, isRow, broker, rfl⟩ := invariant.exists_of_accepted accepted
  cases broker with
  | rabbit => cases isHere
  | kafka =>
      rw [OutboxRelay.message, Message.inPartition] at isHere
      split_ifs at isHere with keyed
      exact ⟨row, isRow, keyed, (Option.some.inj isHere).symm⟩

/-- Kafka's log. -/
def topicLog (invariant : PlatformInvariant s) (partitionOf : String → Partition) : TopicLog where
  messages := s.relays.partition partitionOf
  partitionOf := partitionOf
  produced := by
    intro p message member
    obtain ⟨row, isRow, keyed, rfl⟩ := invariant.exists_of_partition member
    exact Or.inr ⟨row.payload, invariant.staged isRow, keyed, rfl⟩
  unique := by
    intro p q m n event event' member member' isEvent isEvent' same
    obtain ⟨row, isRow, -, rfl⟩ := invariant.exists_of_partition member
    obtain ⟨row', isRow', -, rfl⟩ := invariant.exists_of_partition member'
    unfold OutboxEvent.record at isEvent isEvent'
    rw [event?_message_record, Option.some_inj] at isEvent isEvent'
    subst isEvent isEvent'
    rw [invariant.eq_of_eventId isRow isRow' same]

variable (invariant : PlatformInvariant s)

/-- What the log holds has been committed. -/
theorem exists_of_holds {event : WorkOrderEvent}
    (holds : (invariant.topicLog partitionOf).Holds event) :
    ∃ row ∈ s.service.db.outbox.rows, row.payload = event := by
  obtain ⟨p, m, member, isEvent⟩ := holds
  obtain ⟨row, isRow, -, rfl⟩ := invariant.exists_of_partition member
  unfold OutboxEvent.record at isEvent
  rw [event?_message_record, Option.some_inj] at isEvent
  exact ⟨row, isRow, isEvent⟩

/-- What has been sent to Kafka is in the log. -/
theorem holds_of_sent {row : OutboxEvent} (sent : s.relays.Sent row) :
    (invariant.topicLog partitionOf).Holds row.payload := by
  refine ⟨partitionOf row.payload.data.workOrderId.text, row.record.message, ?_, ?_⟩
  · exact List.mem_filterMap.mpr ⟨_, sent, if_pos rfl⟩
  · exact event?_message_record row.payload

/-- If the texts fit, all of the log can be read. -/
def streamLog (fits : s.Fits) (partitionOf : String → Partition) : StreamLog where
  toTopicLog := invariant.topicLog partitionOf
  fits := by
    intro p m event member isEvent
    obtain ⟨row, isRow, rfl⟩ := invariant.exists_of_holds ⟨p, m, member, isEvent⟩
    exact fits row isRow

/-- Under the key of a work order it has what the relays have sent. -/
theorem records (id : Uuid) : (invariant.topicLog partitionOf).Records s.relays id := by
  show (List.filterMap _ s.relays.accepted).filter _ = (List.filterMap _ s.relays.accepted).map _
  rw [List.filter_filterMap, List.map_filterMap]
  refine List.filterMap_congr fun message _ => ?_
  cases message with
  | rabbit => rfl
  | kafka record =>
      show Option.filter _ (if partitionOf record.key = partitionOf id.text then _ else none) =
        Option.map _ (if record.key = id.text then _ else none)
      by_cases here : record.key = id.text
      · rw [here, if_pos rfl, if_pos rfl]
        simp [KafkaRecord.message, here]
      · rw [if_neg here]
        split_ifs
        · simp [KafkaRecord.message, here]
        · rfl

end PlatformInvariant

/-! ## The platform and its audit service -/

section

variable {Body Answer : Type} (validator : ClassValidator) (json : JsonText Body)
  (jwt : JwtService) (partitionOf : String → Partition) (kind : PlatformAction Body Answer → Prop)

/-- The platform, by actions of this kind, and the audit consumers, by reading what Kafka has
at the time, have come this far. -/
inductive Audited : PlatformState → AuditState → Prop where
  /-- Nothing has happened, and the table is empty. -/
  | start (nextId : ℕ) : Audited .initial (.start ⟨[], nextId⟩)
  /-- The platform acts, and what Kafka has may have grown. -/
  | moved {s s' a audit} (before : Audited s audit) (isKind : kind a)
      (moved : (platform Answer validator json jwt).step s a = some s') : Audited s' audit
  /-- A consumer acts, on what Kafka has now. -/
  | read {s b audit audit'} (before : Audited s audit)
      (moved : (consumers (s.relays.partition partitionOf)).step audit b = some audit') :
      Audited s audit'

/-- The consumers have read all that Kafka has. -/
def CaughtUp (s : PlatformState) (audit : AuditState) : Prop :=
  Consumed (s.relays.partition partitionOf) audit

/-- The row is what the columns take of the event, so that it carries one that fits them. -/
structure Retains (stored : AuditEvent) (event : WorkOrderEvent) : Prop where
  /-- The values are the columns' part of the event. -/
  values : AuditIngestService.values event = .ok stored.toAuditValues
  /-- If none of them was cut, they are the event's. -/
  carries : FitsColumns event → Carries stored event

/-- **The audit table is about what has been committed**, and about each event once. -/
structure AuditTrail (s : PlatformState) (audit : AuditState) : Prop where
  /-- Every row carries an event of the outbox. -/
  sound : ∀ stored ∈ audit.table.rows, ∃ row ∈ s.service.db.outbox.rows,
    Carries stored row.payload
  /-- No event has two rows. -/
  once : (audit.table.rows.map fun stored => stored.eventId).Nodup
  /-- When the consumers have caught up, every event that was sent has its row. -/
  complete : CaughtUp partitionOf s audit → ∀ row ∈ s.service.db.outbox.rows,
    s.relays.Sent row → ∃ stored ∈ audit.table.rows, Carries stored row.payload

/-- The audit rows of a work order, in the order of their ids. -/
def AuditState.trail (audit : AuditState) (id : Uuid) : List AuditEvent :=
  audit.table.rows.filter fun stored => stored.workOrderId = id

/-- The rows are the events, one for one. -/
def Tells (trail : List AuditEvent) (events : List OutboxEvent) : Prop :=
  List.Forall₂ (fun stored row => Retains stored row.payload) trail events

/-- **The audit rows of a work order are the beginning of its history**; and the whole of
it, to the row as it is, when everything has been sent and read. -/
structure Chronicle (id : Uuid) (s : PlatformState) (audit : AuditState) : Prop where
  /-- The rows of the order are in the order of their ids. -/
  increasing : (audit.trail id).Pairwise fun stored stored' => stored.id < stored'.id
  /-- They tell its events from the first one on, without a gap. -/
  beginning : Tells (audit.trail id) ((s.service.eventsOf id).take (audit.trail id).length)
  /-- When all has been sent and read, they tell all, and the last one is the row as it
  is. -/
  whole : CaughtUp partitionOf s audit → (∀ row ∈ s.service.eventsOf id, s.relays.Sent row) →
    Tells (audit.trail id) (s.service.eventsOf id) ∧
      ∀ row, s.service.row id = some row →
        ∃ last, (audit.trail id).getLast? = some last ∧ Mirrors last.payload row

end

/-! ## What the consumers have read -/

section

variable {Body Answer : Type} {validator : ClassValidator} {json : JsonText Body}
  {jwt : JwtService} {partitionOf : String → Partition}
  {kind : PlatformAction Body Answer → Prop} {s s' : PlatformState}
  {a : PlatformAction Body Answer} {audit : AuditState}

/-- What the service has inserted for an event retains it. -/
theorem Retains.of_values {stored : AuditEvent} {event : WorkOrderEvent} (staged : Staged event)
    (ok : AuditIngestService.values event = .ok stored.toAuditValues) : Retains stored event :=
  ⟨ok, fun fits => carries_of_values staged fits ok⟩

/-- The row says which event it is of. -/
theorem Retains.columns {stored : AuditEvent} {event : WorkOrderEvent}
    (retains : Retains stored event) : stored.eventId = event.eventId ∧
      stored.workOrderId = event.data.workOrderId ∧ stored.payload = event.data :=
  columns_of_values retains.values

/-- The platform by itself has come that far. -/
theorem Audited.reachable (audited : Audited validator json jwt partitionOf kind s audit) :
    (platform Answer validator json jwt).Reachable .initial s := by
  induction audited with
  | start => exact Machine.reachable_refl _ _
  | moved _ _ moved ih => exact ih.step _ moved
  | read _ _ ih => exact ih

/-- So the platform has its invariant. -/
theorem Audited.invariant (audited : Audited validator json jwt partitionOf kind s audit) :
    PlatformInvariant s := PlatformInvariant.of_reachable audited.reachable

/-- What Kafka has, it keeps. -/
theorem partition_prefix_of_step (invariant : PlatformInvariant s)
    (moved : (platform Answer validator json jwt).step s a = some s') (p : Partition) :
    s.relays.partition partitionOf p <+: s'.relays.partition partitionOf p := by
  unfold RelayState.partition
  rcases invariant.relays_step moved with unchanged | ⟨b, acted, -⟩
  · exact unchanged ▸ List.prefix_rfl
  · rcases accepted_cases (relayEffect_of_step acted) with same | ⟨message, grown, -⟩
    · exact same ▸ List.prefix_rfl
    · rw [grown, List.filterMap_append]
      exact List.prefix_append _ _

/-- Whenever they have read it, the consumers have read the log as it is now. -/
theorem Audited.consumed (audited : Audited validator json jwt partitionOf kind s audit) :
    ∃ nextId, (consumers (s.relays.partition partitionOf)).Reachable
      (.start ⟨[], nextId⟩) audit := by
  induction audited with
  | start nextId => exact ⟨nextId, Machine.reachable_refl _ _⟩
  | moved before _ moved ih =>
      obtain ⟨nextId, reached⟩ := ih
      exact ⟨nextId, GroupState.reachable_of_prefix
        (fun p => partition_prefix_of_step before.invariant moved p) reached⟩
  | read _ moved ih =>
      obtain ⟨nextId, reached⟩ := ih
      exact ⟨nextId, reached.step _ moved⟩

/-- The audit table is a projection of the log. -/
theorem Audited.projected (audited : Audited validator json jwt partitionOf kind s audit) :
    ∃ high, ProjectsPrefix (audited.invariant.topicLog partitionOf) high audit.table ∧
      audit.ReadTo high := by
  obtain ⟨nextId, reached⟩ := audited.consumed
  exact ProjectsPrefix.of_reachable reached

/-- A row of the audit table is what the columns take of a committed event. -/
theorem Audited.sound (audited : Audited validator json jwt partitionOf kind s audit)
    {stored : AuditEvent} (isStored : stored ∈ audit.table.rows) :
    ∃ row ∈ s.service.db.outbox.rows, Retains stored row.payload := by
  obtain ⟨high, projects, -⟩ := audited.projected
  obtain ⟨event, holds, ok⟩ := projects.exists_holds isStored
  obtain ⟨row, isRow, rfl⟩ := audited.invariant.exists_of_holds holds
  exact ⟨row, isRow, .of_values (audited.invariant.staged isRow) ok⟩

/-- No event has two rows. -/
theorem Audited.once (audited : Audited validator json jwt partitionOf kind s audit) :
    (audit.table.rows.map fun stored => stored.eventId).Nodup := by
  obtain ⟨high, projects, -⟩ := audited.projected
  exact projects.once

/-- What Kafka has of the committed events has rows once the consumers have caught up. -/
theorem Audited.complete (audited : Audited validator json jwt partitionOf kind s audit)
    (caughtUp : CaughtUp partitionOf s audit) {row : OutboxEvent}
    (isRow : row ∈ s.service.db.outbox.rows) (sent : s.relays.Sent row) :
    ∃ stored ∈ audit.table.rows, Retains stored row.payload := by
  obtain ⟨high, projects, readTo⟩ := audited.projected
  have holds : (audited.invariant.topicLog partitionOf).Holds row.payload :=
    audited.invariant.holds_of_sent sent
  have whole := projects.high_eq_of_consumed readTo caughtUp
  obtain ⟨stored, isStored, same⟩ := (projects.exists_row_iff whole _).mpr ⟨_, holds, rfl⟩
  exact ⟨stored, isStored, .of_values (audited.invariant.staged isRow)
    (projects.values_of_eventId isStored holds same)⟩

/-- The three parts, for texts that fit. -/
theorem Audited.auditTrail (audited : Audited validator json jwt partitionOf kind s audit)
    (fits : s.Fits) : AuditTrail partitionOf s audit where
  sound := by
    intro stored isStored
    obtain ⟨row, isRow, retains⟩ := audited.sound isStored
    exact ⟨row, isRow, retains.carries (fits row isRow)⟩
  once := audited.once
  complete := by
    intro caughtUp row isRow sent
    obtain ⟨stored, isStored, retains⟩ := audited.complete caughtUp isRow sent
    exact ⟨stored, isStored, retains.carries (fits row isRow)⟩

/-! ## With one relay -/

variable {i : InstanceId}

/-- One relay claims and sends in turn. -/
theorem Audited.inTurn (audited : Audited validator json jwt partitionOf kind s audit)
    (single : ∀ a, kind a → a.TickedBy i) (id : Uuid) :
    ScanInvariant id i s.relays ∧ OrderInvariant id s.relays := by
  induction audited with
  | start => exact ⟨.initial id i, .initial id⟩
  | moved before isKind moved ih =>
      rcases before.invariant.relays_step moved with unchanged | ⟨b, acted, ticked, writes⟩
      · rw [unchanged]
        exact ih
      · exact ⟨ih.1.step (ticked i (single _ isKind)) acted (writes id),
          ih.2.step acted (writes id) ih.1.claimsInOrder⟩
  | read _ _ ih => exact ih

/-- An event of the work order. -/
theorem mem_eventsOf {id : Uuid} {row : OutboxEvent} :
    row ∈ s.service.eventsOf id ↔ row ∈ s.service.db.outbox.rows ∧ row.About id := by
  unfold ServiceState.eventsOf Database.eventsOf OutboxEvent.About
  rw [List.mem_filter, decide_eq_true_eq]

/-- The trail of an order has its rows. -/
theorem AuditState.mem_trail {id : Uuid} {stored : AuditEvent} :
    stored ∈ audit.trail id ↔ stored ∈ audit.table.rows ∧ stored.workOrderId = id := by
  unfold AuditState.trail
  rw [List.mem_filter, decide_eq_true_eq]

/-- The event ids in the trail of a work order are the first ones of its history. -/
theorem Audited.isPrefix (audited : Audited validator json jwt partitionOf kind s audit)
    (single : ∀ a, kind a → a.TickedBy i) (id : Uuid) :
    (audit.trail id).map (fun stored => stored.eventId) <+:
      (s.service.eventsOf id).map OutboxEvent.eventId := by
  have invariant := audited.invariant
  obtain ⟨high, projects, -⟩ := audited.projected
  obtain ⟨-, order⟩ := audited.inTurn single id
  -- a row that retains an event has its id
  have eventId : ∀ {stored : AuditEvent} {row}, row ∈ s.service.db.outbox.rows →
      Retains stored row.payload → stored.eventId = row.eventId := fun isRow retains =>
    retains.columns.1.trans (invariant.log.wellTyped _ isRow).eventId_eq.symm
  apply isPrefix_of_precedes
  case distinct => exact invariant.nodup_eventIds.sublist (List.filter_sublist.map _)
  case once => exact audited.once.sublist (List.filter_sublist.map _)
  case mem =>
    intro _ member
    obtain ⟨stored, isStored, rfl⟩ := List.mem_map.mp member
    obtain ⟨isStored, about⟩ := AuditState.mem_trail.mp isStored
    obtain ⟨row, isRow, retains⟩ := audited.sound isStored
    refine List.mem_map.mpr ⟨row, mem_eventsOf.mpr ⟨isRow, ?_⟩, (eventId isRow retains).symm⟩
    exact retains.columns.2.1.symm.trans about
  case ordered =>
    have increasing := invariant.log.ordered.filter fun row => row.payload.data.workOrderId = id
    refine List.pairwise_map.mpr (List.Pairwise.imp_of_mem ?_ increasing)
    intro row row' member member' less
    obtain ⟨isRow, about⟩ := mem_eventsOf.mp member
    obtain ⟨isRow', about'⟩ := mem_eventsOf.mp member'
    -- the relays see the same rows, with their stamps
    obtain ⟨seen, isSeen, same⟩ := invariant.table.symm.exists_mem isRow
    obtain ⟨seen', isSeen', same'⟩ := invariant.table.symm.exists_mem isRow'
    have before := order.order seen isSeen seen' isSeen' (about.congr same) (about'.congr same')
      (by rwa [OutboxEvent.id_eq same, OutboxEvent.id_eq same'])
    rw [← OutboxEvent.eventId_eq same, ← OutboxEvent.eventId_eq same']
    refine order.precedes_audit (invariant.records id) projects isSeen isSeen' before
      fun stored isStored named => ?_
    obtain ⟨row₀, isRow₀, retains⟩ := audited.sound isStored
    have sameId := (eventId isRow₀ retains).symm.trans
      (named.trans (OutboxEvent.eventId_eq same))
    rw [retains.columns.2.1,
      List.inj_on_of_nodup_map invariant.nodup_eventIds isRow₀ isRow sameId]
    exact about

/-- The last elements of related lists are related. -/
theorem exists_getLast?_of_forall₂ {α β : Type} {R : α → β → Prop} {l : List α} {l' : List β}
    (related : List.Forall₂ R l l') {b : β} (isLast : l'.getLast? = some b) :
    ∃ a, l.getLast? = some a ∧ R a b := by
  rw [List.getLast?_eq_head?_reverse] at isLast ⊢
  obtain ⟨rest, whole⟩ := List.head?_eq_some_iff.mp isLast
  have reversed := List.forall₂_reverse_iff.mpr related
  rw [whole, List.forall₂_cons_right_iff] at reversed
  obtain ⟨a, others, here, -, split⟩ := reversed
  exact ⟨a, by rw [split, List.head?_cons], here⟩

/-- Rows that have the ids of events tell those events. -/
theorem Audited.tells (audited : Audited validator json jwt partitionOf kind s audit)
    {trail : List AuditEvent} {events : List OutboxEvent}
    (isTrail : ∀ stored ∈ trail, stored ∈ audit.table.rows)
    (isOutbox : ∀ row ∈ events, row ∈ s.service.db.outbox.rows)
    (same : trail.map (fun stored => stored.eventId) = events.map OutboxEvent.eventId) :
    Tells trail events := by
  have pairs : List.Forall₂ (fun stored row => stored.eventId = row.eventId) trail events := by
    rw [← List.forall₂_eq_eq_eq, List.forall₂_map_left_iff, List.forall₂_map_right_iff] at same
    exact same
  have known := (List.forall₂_and_left trail events).mpr ⟨isTrail, pairs⟩
  have both := (List.forall₂_and_left events trail).mpr ⟨isOutbox, known.flip⟩
  refine both.flip.imp ?_
  rintro stored row ⟨isRow, isStored, sameId⟩
  obtain ⟨row', isRow', retains⟩ := audited.sound isStored
  have wellTyped := audited.invariant.log.wellTyped row isRow
  rw [audited.invariant.eq_of_eventId isRow isRow'
    (wellTyped.eventId_eq.symm.trans (sameId.symm.trans retains.columns.1))]
  exact retains

/-- What one relay sends, the consumers have read in order. -/
theorem Audited.chronicle (audited : Audited validator json jwt partitionOf kind s audit)
    (single : ∀ a, kind a → a.TickedBy i) (id : Uuid) :
    Chronicle partitionOf id s audit := by
  have isPrefix := audited.isPrefix single id
  have isTrail : ∀ stored ∈ audit.trail id, stored ∈ audit.table.rows :=
    fun stored member => (AuditState.mem_trail.mp member).1
  have isOutbox : ∀ row ∈ s.service.eventsOf id, row ∈ s.service.db.outbox.rows :=
    fun row member => (mem_eventsOf.mp member).1
  constructor
  case increasing =>
    obtain ⟨high, projects, -⟩ := audited.projected
    exact projects.increasing.filter _
  case beginning =>
    refine audited.tells isTrail (fun row member => isOutbox row (List.mem_of_mem_take member))
      ?_
    rw [List.map_take, ← List.length_map (fun stored : AuditEvent => stored.eventId)]
    exact List.prefix_iff_eq_take.mp isPrefix
  case whole =>
    intro caughtUp sent
    have told : Tells (audit.trail id) (s.service.eventsOf id) := by
      refine audited.tells isTrail isOutbox (isPrefix.eq_of_length_le ?_)
      -- every event of the order has a row
      refine (List.subperm_of_subset ?_ ?_).length_le
      · exact audited.invariant.nodup_eventIds.sublist (List.filter_sublist.map _)
      · intro _ member
        obtain ⟨row, isEvent, rfl⟩ := List.mem_map.mp member
        obtain ⟨isRow, about⟩ := mem_eventsOf.mp isEvent
        obtain ⟨stored, isStored, retains⟩ := audited.complete caughtUp isRow (sent row isEvent)
        obtain ⟨eventId, workOrderId, -⟩ := retains.columns
        refine List.mem_map.mpr ⟨stored, AuditState.mem_trail.mpr ⟨isStored, ?_⟩, ?_⟩
        · exact workOrderId.trans about
        · exact eventId.trans (audited.invariant.log.wellTyped row isRow).eventId_eq.symm
    refine ⟨told, fun row present => ?_⟩
    obtain ⟨last, isLast, mirrors⟩ := (audited.invariant.log.recorded id row present).mirrored_last
    obtain ⟨stored, isStored, retains⟩ := exists_getLast?_of_forall₂ told isLast
    exact ⟨stored, isStored, retains.columns.2.2 ▸ mirrors⟩

/-! ## Progress -/

/-- The platform goes on, and the consumers read nothing. -/
theorem Audited.goOn (audited : Audited validator json jwt partitionOf kind s audit)
    {A : PlatformAction Body Answer → Prop} (isKind : ∀ a, A a → kind a)
    (reached : (platform Answer validator json jwt).ReachableBy A s s') :
    Audited validator json jwt partitionOf kind s' audit :=
  Machine.ReachableBy.invariant _
    (I := fun s => Audited validator json jwt partitionOf kind s audit)
    (fun before isA moved => before.moved (isKind _ isA) moved) audited reached

/-- The consumers read, and the platform does nothing. -/
theorem Audited.readOn (audited : Audited validator json jwt partitionOf kind s audit)
    {audit' : AuditState}
    (reached : (consumers (s.relays.partition partitionOf)).Reachable audit audit') :
    Audited validator json jwt partitionOf kind s audit' :=
  Machine.Reachable.invariant _ (fun before moved => before.read moved) audited reached

/-- Kafka has messages in finitely many partitions. -/
theorem exists_partitions (r : RelayState) (partitionOf : String → Partition) :
    ∃ partitions, ∀ p, partitions ≤ p → r.partition partitionOf p = [] := by
  unfold RelayState.partition
  induction r.accepted with
  | nil => exact ⟨0, fun _ _ => rfl⟩
  | cons message rest ih =>
      obtain ⟨partitions, empty⟩ := ih
      cases message with
      | rabbit message => exact ⟨partitions, fun p beyond => empty p beyond⟩
      | kafka record =>
          refine ⟨max partitions (partitionOf record.key + 1), fun p beyond => ?_⟩
          have elsewhere : Message.inPartition partitionOf p (.kafka record) = none :=
            if_neg (Nat.lt_of_succ_le ((Nat.le_max_right _ _).trans beyond)).ne
          rw [List.filterMap_cons_none elsewhere]
          exact empty p ((Nat.le_max_left _ _).trans beyond)

/-- One relay can send everything to Kafka. -/
theorem exists_allSent (reached : (platform Answer validator json jwt).Reachable .initial s)
    (i : InstanceId) :
    ∃ t, (platform Answer validator json jwt).ReachableBy (PlatformAction.Delivers i) s t ∧
      t.service = s.service ∧ ∀ row ∈ t.service.db.outbox.rows, t.relays.Sent row := by
  obtain ⟨r, died, calm, -, -⟩ := exists_calm (PlatformInvariant.of_reachable reached).relaying i
  obtain ⟨r', drained, -, queue⟩ := calm.exists_published i
  obtain ⟨t, near, rfl, service⟩ :=
    @exists_relayed Body Answer validator json jwt s i r' (died.trans relays drained)
  have published := published_of_unpublished queue
  have invariant := PlatformInvariant.of_reachable (reached.trans _ (near.reachable _))
  refine ⟨t, near, service, fun row member => ?_⟩
  obtain ⟨row', member', same⟩ := invariant.table.symm.exists_mem member
  have accepted := invariant.rows.stamped row' member' (published row' member') .kafka
  rw [message_eq same] at accepted
  exact accepted

/-- One relay can publish everything, and then the consumers can read to the end. -/
theorem Audited.exists_caughtUp (audited : Audited validator json jwt partitionOf kind s audit)
    (fits : s.Fits) (delivers : ∀ a, a.Delivers i → kind a) :
    ∃ t audit', (platform Answer validator json jwt).ReachableBy (PlatformAction.Delivers i) s t ∧
      (consumers (t.relays.partition partitionOf)).Reachable audit audit' ∧
      Audited validator json jwt partitionOf kind t audit' ∧ t.service = s.service ∧
      (∀ row ∈ t.service.db.outbox.rows, t.relays.Sent row) ∧ CaughtUp partitionOf t audit' := by
  obtain ⟨t, near, service, sent⟩ :=
    @exists_allSent Body Answer validator json jwt s audited.reachable i
  have audited' := audited.goOn delivers near
  have fits' : t.Fits := fun row member => fits row (service ▸ member)
  obtain ⟨partitions, finite⟩ := exists_partitions t.relays partitionOf
  obtain ⟨audit', reached, caughtUp⟩ :=
    exists_consumed (audited'.invariant.streamLog fits' partitionOf) audit finite
  exact ⟨t, audit', near, reached, audited'.readOn reached, service, sent, caughtUp⟩

end

/-! The tap again: one relay has published it, and the audit service has read nothing. -/

/-- A topic with one partition. -/
def onePartition : String → Partition := fun _ => 0

/-- All its texts are short. -/
theorem fits_tapNotified : tapNotified.Fits := by
  unfold PlatformState.Fits
  decide +kernel

/-- The actions by which a relay delivers are its own. -/
theorem PlatformAction.Delivers.tickedBy {Body Answer : Type} {a : PlatformAction Body Answer}
    {i : InstanceId} (delivers : a.Delivers i) : a.TickedBy i := by
  cases a with
  | relay b =>
      cases b with
      | tick => exact delivers
      | _ => trivial
  | _ => trivial

/-- It is a joint state, whichever relays may tick, if relay 0 is one of them. -/
theorem audited_tapNotified {kind : PlatformAction Json String → Prop}
    (isKind : ∀ a, a.TickedBy 0 → kind a) :
    Audited plainValidator jsonBodies residentTokens onePartition kind tapNotified
      (.start ⟨[], 1⟩) := by
  refine (Audited.start 1).goOn isKind ⟨tapRun, ?_, run_tapRun⟩
  simp [tapRun, PlatformAction.TickedBy, RelayAction.TickedBy]

/-- **What the audit service says happened has happened**, in every state that it and the
platform can come to, with any number of relays; it says it once; and it says all of it as
soon as it has read what has been sent. -/
theorem auditTrail_of_audited {Body Answer : Type} (validator : ClassValidator)
    (json : JsonText Body) (jwt : JwtService) (partitionOf : String → Partition)
    (s : PlatformState) (audit : AuditState) (fits : s.Fits)
    (audited : @Audited Body Answer validator json jwt partitionOf (fun _ => True) s audit) :
    AuditTrail partitionOf s audit := audited.auditTrail fits

/-- When the row has been read, the trail has it. -/
theorem auditTrail_tapNotified :
    ∃ t audit, t.service = tapNotified.service ∧ CaughtUp onePartition t audit ∧
      AuditTrail onePartition t audit := by
  obtain ⟨t, audit, -, -, audited, service, -, caughtUp⟩ :=
    (audited_tapNotified fun _ _ => trivial).exists_caughtUp fits_tapNotified (i := 0)
      fun _ _ => trivial
  exact ⟨t, audit, service, caughtUp, auditTrail_of_audited plainValidator jsonBodies
    residentTokens onePartition t audit (fun row member => fits_tapNotified row (service ▸ member))
    audited⟩

/-- **The audit rows of a work order are the beginning of its history**, in every state that
the audit service and a platform with one relay can come to. -/
theorem chronicle_of_audited {Body Answer : Type} (validator : ClassValidator)
    (json : JsonText Body) (jwt : JwtService) (partitionOf : String → Partition) (i : InstanceId)
    (s : PlatformState) (audit : AuditState) (id : Uuid)
    (audited : @Audited Body Answer validator json jwt partitionOf (PlatformAction.TickedBy i)
      s audit) : Chronicle partitionOf id s audit :=
  audited.chronicle (fun _ single => single) id

/-- It is then the whole history of the order. -/
theorem chronicle_tapNotified :
    ∃ t audit, t.service = tapNotified.service ∧ CaughtUp onePartition t audit ∧
      (∀ row ∈ t.service.eventsOf openOrder.id, t.relays.Sent row) ∧
        Chronicle onePartition openOrder.id t audit := by
  obtain ⟨t, audit, -, -, audited, service, sent, caughtUp⟩ :=
    (audited_tapNotified fun _ single => single).exists_caughtUp fits_tapNotified
      fun _ delivers => delivers.tickedBy
  exact ⟨t, audit, service, caughtUp, fun row member => sent row (mem_eventsOf.mp member).1,
    chronicle_of_audited plainValidator jsonBodies residentTokens onePartition 0 t audit _ audited⟩

/-- **In time it is all there.**  From wherever they are, one relay and the consumers by
themselves record every committed event. -/
theorem exists_audited {Body Answer : Type} (validator : ClassValidator)
    (json : JsonText Body) (jwt : JwtService) (partitionOf : String → Partition) (i : InstanceId)
    (s : PlatformState) (audit : AuditState) (fits : s.Fits)
    (audited : @Audited Body Answer validator json jwt partitionOf (fun _ => True) s audit) :
    ∃ t audit', (platform Answer validator json jwt).ReachableBy (PlatformAction.Delivers i) s t ∧
      (consumers (t.relays.partition partitionOf)).Reachable audit audit' ∧
      t.service = s.service ∧
      ∀ row ∈ t.service.db.outbox.rows, ∃ stored ∈ audit'.table.rows,
        Carries stored row.payload := by
  obtain ⟨t, audit', near, reached, audited', service, sent, caughtUp⟩ :=
    audited.exists_caughtUp fits (i := i) fun _ _ => trivial
  have fits' : t.Fits := fun row member => fits row (service ▸ member)
  refine ⟨t, audit', near, reached, service, fun row member => ?_⟩
  exact (audited'.auditTrail fits').complete caughtUp row member (sent row member)

/-- And it can be read. -/
theorem exists_audited_tapNotified :
    ∃ audit : AuditState, ∀ row ∈ tapNotified.service.db.outbox.rows, ∃ stored ∈ audit.table.rows,
      Carries stored row.payload := by
  obtain ⟨t, audit, -, -, service, recorded⟩ := exists_audited plainValidator jsonBodies
    residentTokens onePartition 0 _ _ fits_tapNotified (audited_tapNotified fun _ _ => trivial)
  exact ⟨audit, service ▸ recorded⟩

end PropFlow
