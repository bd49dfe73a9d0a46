import PropFlow.Platform.AuditTrail

/-!
# Where the audit trail ends

`AuditTrail` supposes that the texts in the outbox fit their columns.  Nothing makes them:
the `x-request-id` of a client has whatever length it has, and so has the subject of a
token.  This is what the audit table is without that supposition.

## What is there

It is still about nothing but committed events, and about each of them once, and what
there is of a text in it is what a `varchar` leaves of it.  But it has only the events that
Kafka has before the first one that does not fit (`ReadTrail`), partition by partition.  There
the consumers stop (`PlatformState.Readable`).

## What never will be

What comes later is never recorded, in whatever way the platform goes on and however often
the consumers are restarted: one long `x-request-id` ends the trail of every work order
that shares the partition (`not_recorded_behind`).  Kafka only appends, so what is
unreadable in a partition stays where it is (`readable_of_prefix`).

## Progress

`exists_readTrail`: one relay and the consumers can bring there all that can be read, and
then an event is recorded exactly if it is readable.

The witness is a partition in which the event of a long request id is first, and the
event of another order behind it.
-/

namespace PropFlow

open Library Library.CivilTime

section

variable (partitionOf : String → Partition) (s : PlatformState) (audit : AuditState)

/-- The event has been sent, and there is nothing before it that cannot be read. -/
def PlatformState.Readable (row : OutboxEvent) : Prop :=
  row.record.message ∈
    readable (s.relays.partition partitionOf) (partitionOf row.payload.data.workOrderId.text)

/-- The consumers have read as far as can be read. -/
def ReadToEnd : Prop :=
  ∀ p, audit.InUse p (readable (s.relays.partition partitionOf) p).length

/-- **The audit table is about what can be read of what has been committed.** -/
structure ReadTrail : Prop where
  /-- Every row is of an event that can be read, with the values that the columns take of
  it. -/
  sound : ∀ stored ∈ audit.table.rows, ∃ row ∈ s.service.db.outbox.rows,
    s.Readable partitionOf row ∧
      AuditIngestService.values row.payload = .ok stored.toAuditValues
  /-- No event has two rows. -/
  once : (audit.table.rows.map fun stored => stored.eventId).Nodup
  /-- No consumer is beyond what can be read. -/
  held : ∀ p n, audit.InUse p n → n ≤ (readable (s.relays.partition partitionOf) p).length
  /-- When they have read all that can be read, every such event has its row. -/
  complete : ReadToEnd partitionOf s audit → ∀ row ∈ s.service.db.outbox.rows,
    s.Readable partitionOf row → ∃ stored ∈ audit.table.rows,
      AuditIngestService.values row.payload = .ok stored.toAuditValues

end

section

variable {Body Answer : Type} {validator : ClassValidator} {json : JsonText Body}
  {jwt : JwtService} {partitionOf : String → Partition}
  {kind : PlatformAction Body Answer → Prop} {s s' : PlatformState} {audit : AuditState}

/-- What can be read is the events that are `Readable`. -/
theorem PlatformInvariant.readable_iff (invariant : PlatformInvariant s) {event : WorkOrderEvent} :
    (∃ p, ∃ m ∈ readable (s.relays.partition partitionOf) p, m.event? = some event) ↔
      ∃ row ∈ s.service.db.outbox.rows, s.Readable partitionOf row ∧ row.payload = event := by
  constructor
  · rintro ⟨p, m, member, isEvent⟩
    obtain ⟨row, isRow, keyed, rfl⟩ :=
      invariant.exists_of_partition ((List.takeWhile_prefix _).subset member)
    refine ⟨row, isRow, ?_, ?_⟩
    · show _ ∈ readable _ (partitionOf row.payload.data.workOrderId.text)
      rw [keyed]
      exact member
    · rwa [OutboxEvent.record, event?_message_record, Option.some_inj] at isEvent
  · rintro ⟨row, -, isReadable, rfl⟩
    exact ⟨_, _, isReadable, event?_message_record row.payload⟩

/-- **The table of readable events**, in every joint state. -/
theorem Audited.readTrail (audited : Audited validator json jwt partitionOf kind s audit) :
    ReadTrail partitionOf s audit := by
  have invariant := audited.invariant
  obtain ⟨nextId, reached⟩ := audited.consumed
  obtain ⟨high, ingested, readTo⟩ := Ingested.of_reachable reached
  have sound : ∀ stored ∈ audit.table.rows, ∃ row ∈ s.service.db.outbox.rows,
      s.Readable partitionOf row ∧
        AuditIngestService.values row.payload = .ok stored.toAuditValues := by
    intro stored member
    obtain ⟨event, ⟨p, n, m, before, here, isEvent⟩, ok⟩ := ingested.sound stored member
    have within := before.trans_le (ingested.high_le p)
    have isReadable := List.mem_of_getElem? ((getElem?_readable within).trans here)
    obtain ⟨row, isRow, readable, rfl⟩ := invariant.readable_iff.mp ⟨p, m, isReadable, isEvent⟩
    exact ⟨row, isRow, readable, ok⟩
  constructor
  case sound => exact sound
  case once => exact ingested.once
  case held => exact fun p n inUse => (readTo p n inUse).trans (ingested.high_le p)
  case complete =>
    intro toEnd row isRow isReadable
    have atEnd : ∀ p, high p = (readable (s.relays.partition partitionOf) p).length :=
      fun p => (ingested.high_le p).antisymm (readTo p _ (toEnd p))
    have within := (within_iff atEnd).mpr (invariant.readable_iff.mpr ⟨row, isRow, isReadable, rfl⟩)
    obtain ⟨stored, isStored, same⟩ := ingested.complete _ within
    obtain ⟨row', isRow', -, ok⟩ := sound stored isStored
    refine ⟨stored, isStored, ?_⟩
    rwa [invariant.eq_of_eventId isRow isRow' (same.symm.trans (eventId_of_values ok))]

/-- What is recorded can be read. -/
theorem Audited.readable_of_recorded
    (audited : Audited validator json jwt partitionOf kind s audit) {row : OutboxEvent}
    (isRow : row ∈ s.service.db.outbox.rows) {stored : AuditEvent}
    (isStored : stored ∈ audit.table.rows) (same : stored.eventId = row.eventId) :
    s.Readable partitionOf row := by
  obtain ⟨row', isRow', isReadable, ok⟩ := audited.readTrail.sound stored isStored
  have invariant := audited.invariant
  have eventId := (invariant.log.wellTyped row' isRow').eventId_eq.trans (eventId_of_values ok).symm
  obtain rfl := List.inj_on_of_nodup_map invariant.nodup_eventIds isRow' isRow
    (eventId.trans same)
  exact isReadable

/-! ## For ever -/

/-- Beyond what cannot be read nothing gets readable. -/
theorem readable_of_prefix {messages messages' : Partition → List KafkaMessage} {p : Partition}
    (grown : messages p <+: messages' p) (stuck : ∃ m ∈ messages p, m.isReadable = false) :
    readable messages' p = readable messages p := by
  obtain ⟨appended, split⟩ := grown
  obtain ⟨m, member, unreadable⟩ := stuck
  unfold readable
  rw [← split, List.takeWhile_append, if_neg]
  intro whole
  have all := (List.takeWhile_prefix KafkaMessage.isReadable).eq_of_length whole
  have isReadable := List.mem_takeWhile_imp (all.symm ▸ member)
  exact Bool.false_ne_true (unreadable.symm.trans isReadable)

/-- What Kafka has, it keeps. -/
theorem partition_prefix_of_reachable
    (reached : (platform Answer validator json jwt).Reachable .initial s)
    (later : (platform Answer validator json jwt).Reachable s s') (p : Partition) :
    s.relays.partition partitionOf p <+: s'.relays.partition partitionOf p := by
  refine (Machine.Reachable.invariant (platform Answer validator json jwt)
    (I := fun t => PlatformInvariant t ∧
      s.relays.partition partitionOf p <+: t.relays.partition partitionOf p) ?_
    ⟨.of_reachable reached, List.prefix_rfl⟩ later).2
  rintro t t' a ⟨invariant, before⟩ moved
  exact ⟨invariant.step moved, before.trans (partition_prefix_of_step invariant moved p)⟩

/-- A sent event is in its partition. -/
theorem mem_partition_of_sent {row : OutboxEvent} (sent : s.relays.Sent row) :
    row.record.message ∈ s.relays.partition partitionOf
      (partitionOf row.payload.data.workOrderId.text) :=
  List.mem_filterMap.mpr ⟨_, sent, if_pos rfl⟩

/-- A message says which event it is of. -/
theorem OutboxEvent.payload_eq_of_message {row row' : OutboxEvent}
    (same : row.record.message = row'.record.message) : row.payload = row'.payload := by
  have events := congrArg KafkaMessage.event? same
  rwa [OutboxEvent.record, OutboxEvent.record, event?_message_record, event?_message_record,
    Option.some_inj] at events

/-- An event that has been sent can be read by itself if it fits the table. -/
theorem isReadable_of_sent (invariant : PlatformInvariant s) {row : OutboxEvent}
    (sent : s.relays.Sent row) :
    row.record.message.isReadable = true ↔ FitsTable row.payload := by
  have member : row.record.message ∈ s.relays.partition (fun _ => 0) 0 :=
    mem_partition_of_sent sent
  obtain ⟨row', isRow', -, same⟩ := invariant.exists_of_partition member
  have payload := OutboxEvent.payload_eq_of_message same
  exact isReadable_iff_fits (payload ▸ invariant.staged isRow')

/-- What is in a partition has been sent. -/
theorem sent_of_mem_partition (invariant : PlatformInvariant s) {row : OutboxEvent} {p : Partition}
    (member : row.record.message ∈ s.relays.partition partitionOf p) : s.relays.Sent row := by
  obtain ⟨message, accepted, isHere⟩ := List.mem_filterMap.mp member
  obtain ⟨row', -, broker, rfl⟩ := invariant.exists_of_accepted accepted
  cases broker with
  | rabbit => cases isHere
  | kafka =>
      rw [OutboxRelay.message, Message.inPartition] at isHere
      split_ifs at isHere
      have payload := OutboxEvent.payload_eq_of_message (Option.some.inj isHere)
      rw [OutboxRelay.message, payload] at accepted
      exact accepted

/-- What can be read has been sent. -/
theorem PlatformState.Readable.sent (invariant : PlatformInvariant s) {row : OutboxEvent}
    (isReadable : s.Readable partitionOf row) : s.relays.Sent row :=
  sent_of_mem_partition invariant ((List.takeWhile_prefix _).subset isReadable)

/-- One relay, and then the readers, can get to where the trail ends. -/
theorem Audited.exists_readToEnd
    (audited : @Audited Body Answer validator json jwt partitionOf (fun _ => True) s audit)
    (i : InstanceId) :
    ∃ t audit', (platform Answer validator json jwt).ReachableBy (PlatformAction.Delivers i) s t ∧
      (consumers (t.relays.partition partitionOf)).Reachable audit audit' ∧
      @Audited Body Answer validator json jwt partitionOf (fun _ => True) t audit' ∧
      t.service = s.service ∧
      (∀ row ∈ t.service.db.outbox.rows, t.relays.Sent row) ∧ ReadToEnd partitionOf t audit' := by
  obtain ⟨t, near, service, sent⟩ :=
    @exists_allSent Body Answer validator json jwt s audited.reachable i
  obtain ⟨partitions, finite⟩ := exists_partitions t.relays partitionOf
  obtain ⟨audit', reached, toEnd⟩ := PropFlow.exists_readToEnd audit finite
  exact ⟨t, audit', near, reached, (audited.goOn (fun _ _ => trivial) near).readOn reached,
    service, sent, toEnd⟩

end

/-! A resident opens an order with a request id of 65 characters, and then another order with a
short one. -/

/-- A request id that is too long by one. -/
def longRequestId : String := String.ofList (List.replicate 65 'x')

/-- The request with it. -/
def longExchange : Exchange Json String :=
  { tapExchange with
    request := { tapExchange.request with headers := ⟨.single longRequestId, .absent⟩ }
    call := DownstreamClient.call (some ⟨longRequestId, some "resident@propflow.example"⟩)
      ⟨"/work-orders", "POST", some tapJson.stringify⟩ }

/-- The first event gets to Kafka. -/
def longRun : List (PlatformAction Json String) :=
  [ .request longExchange 0 .epoch, .service (.commit 0 .first), .relay (.tick 0 0),
    .relay (.select 0), .relay (.lock 0), .relay (.lock 0), .relay (.accept 0),
    .relay (.resolve 0), .relay (.accept 0) ]

/-- All of this can happen. -/
theorem isSome_longRun : (tapPlatform.run .initial longRun).isSome = true := by
  decide +kernel

/-- The platform after it: the event is on Kafka. -/
def longSent : PlatformState := (tapPlatform.run .initial longRun).get isSome_longRun

/-- It can be reached. -/
theorem reached_longSent : tapPlatform.Reachable .initial longSent :=
  ⟨longRun, (Option.some_get _).symm⟩

/-- The second order is stored. -/
def shortRun : List (PlatformAction Json String) :=
  [.request tapExchange 1 .epoch, .service (.commit 1 .second)]

/-- And so can this. -/
theorem isSome_shortRun : (tapPlatform.run longSent shortRun).isSome = true := by
  decide +kernel

/-- The platform after it. -/
def shortStored : PlatformState := (tapPlatform.run longSent shortRun).get isSome_shortRun

/-- It can be reached from there. -/
theorem reached_shortStored : tapPlatform.Reachable longSent shortStored :=
  ⟨shortRun, (Option.some_get _).symm⟩

/-- Nothing on Kafka fits, and the second order is not there yet. -/
theorem checked_longSent : longSent.relays.partition onePartition 0 ≠ [] ∧
    ∀ row ∈ longSent.service.db.outbox.rows, ¬ FitsTable row.payload ∧
      row.payload.eventId ≠ CommitContext.second.eventId := by
  decide +kernel

/-- The second order is committed. -/
theorem stored_shortStored : ∃ row ∈ shortStored.service.db.outbox.rows,
    row.payload.eventId = CommitContext.second.eventId := by
  decide +kernel

/-- Nothing has been read so far. -/
theorem audited_shortStored :
    @Audited Json String plainValidator jsonBodies residentTokens onePartition (fun _ => True)
      shortStored (.start ⟨[], 1⟩) := by
  obtain ⟨actions, ran⟩ := reached_longSent.trans tapPlatform reached_shortStored
  exact (Audited.start 1).goOn (fun _ _ => trivial) ⟨actions, fun _ _ => trivial, ran⟩

/-- **The trail, whatever the texts.**  In every state that the platform and the consumers can
come to, the audit table is about what can be read of what has been committed, and about
each event once. -/
theorem readTrail_of_audited {Body Answer : Type} (validator : ClassValidator)
    (json : JsonText Body) (jwt : JwtService) (partitionOf : String → Partition)
    (s : PlatformState) (audit : AuditState)
    (audited : @Audited Body Answer validator json jwt partitionOf (fun _ => True) s audit) :
    ReadTrail partitionOf s audit := audited.readTrail

/-- When all that can be read has been read, the table is as empty as before. -/
theorem readTrail_shortStored :
    ∃ t audit, t.service = shortStored.service ∧ ReadToEnd onePartition t audit ∧
      ReadTrail onePartition t audit := by
  obtain ⟨t, audit, -, -, audited, service, -, toEnd⟩ := audited_shortStored.exists_readToEnd 0
  exact ⟨t, audit, service, toEnd,
    readTrail_of_audited plainValidator jsonBodies residentTokens onePartition t audit audited⟩

/-- **Nothing behind it is ever recorded.**  Once Kafka has an event that does not fit, no event
that shares its partition and could not be read by then has a row, wherever the platform
and the consumers get to. -/
theorem not_recorded_behind {Body Answer : Type} (validator : ClassValidator)
    (json : JsonText Body) (jwt : JwtService) (partitionOf : String → Partition)
    (s s' : PlatformState) (audit : AuditState) (unfit row : OutboxEvent)
    (reached : (platform Answer validator json jwt).Reachable .initial s)
    (sent : s.relays.Sent unfit) (long : ¬ FitsTable unfit.payload)
    (later : (platform Answer validator json jwt).Reachable s s')
    (audited : @Audited Body Answer validator json jwt partitionOf (fun _ => True) s' audit)
    (isRow : row ∈ s'.service.db.outbox.rows)
    (shared : partitionOf row.payload.data.workOrderId.text =
      partitionOf unfit.payload.data.workOrderId.text)
    (behind : ¬ s.Readable partitionOf row) :
    ∀ stored ∈ audit.table.rows, stored.eventId ≠ row.eventId := by
  intro stored isStored same
  have isReadable := audited.readable_of_recorded isRow isStored same
  -- the partition is as readable as it was
  have stuck : readable (s'.relays.partition partitionOf)
        (partitionOf row.payload.data.workOrderId.text) =
      readable (s.relays.partition partitionOf)
        (partitionOf row.payload.data.workOrderId.text) := by
    refine readable_of_prefix (partition_prefix_of_reachable reached later _)
      ⟨unfit.record.message, shared ▸ mem_partition_of_sent sent, ?_⟩
    exact Bool.eq_false_iff.mpr fun isReadable =>
      long ((isReadable_of_sent (.of_reachable reached) sent).mp isReadable)
  unfold PlatformState.Readable at isReadable behind
  exact behind (stuck ▸ isReadable)

/-- When everything has been sent, and all has been read that can be, the second order has no
row. -/
theorem not_recorded_secondOrder :
    ∃ (t : PlatformState) (audit : AuditState),
      t.service = shortStored.service ∧ ReadToEnd onePartition t audit ∧
      ∃ row ∈ t.service.db.outbox.rows, t.relays.Sent row ∧
        ∀ stored ∈ audit.table.rows, stored.eventId ≠ row.eventId := by
  obtain ⟨t, audit, near, -, audited, service, sent, toEnd⟩ :=
    audited_shortStored.exists_readToEnd 0
  have invariant := PlatformInvariant.of_reachable reached_longSent
  obtain ⟨m, member⟩ := List.exists_mem_of_ne_nil _ checked_longSent.1
  obtain ⟨long, isLong, -, rfl⟩ := invariant.exists_of_partition member
  obtain ⟨short, isShort, second⟩ := stored_shortStored
  rw [← service] at isShort
  have behind : ¬ longSent.Readable onePartition short := by
    intro isReadable
    obtain ⟨row, isRow, same⟩ := invariant.exists_of_recorded (isReadable.sent invariant)
    exact (checked_longSent.2 row isRow).2 (same ▸ second)
  exact ⟨t, audit, service, toEnd, short, isShort, sent short isShort,
    not_recorded_behind plainValidator jsonBodies residentTokens onePartition longSent t audit
      long short reached_longSent (sent_of_mem_partition invariant member)
      (checked_longSent.2 long isLong).1 (reached_shortStored.trans tapPlatform (near.reachable _))
      audited isShort (show (0 : Partition) = 0 from rfl) behind⟩

/-- **In time it is all there, up to where it ends.**  From wherever they are, one relay and the
consumers by themselves record exactly the committed events that can then be read. -/
theorem exists_readTrail {Body Answer : Type} (validator : ClassValidator)
    (json : JsonText Body) (jwt : JwtService) (partitionOf : String → Partition) (i : InstanceId)
    (s : PlatformState) (audit : AuditState)
    (audited : @Audited Body Answer validator json jwt partitionOf (fun _ => True) s audit) :
    ∃ t audit', (platform Answer validator json jwt).ReachableBy (PlatformAction.Delivers i) s t ∧
      (consumers (t.relays.partition partitionOf)).Reachable audit audit' ∧ t.service = s.service ∧
      ∀ row ∈ t.service.db.outbox.rows, t.relays.Sent row ∧
        ((∃ stored ∈ audit'.table.rows, stored.eventId = row.eventId) ↔
          t.Readable partitionOf row) := by
  obtain ⟨t, audit', near, reached, audited', service, sent, toEnd⟩ := audited.exists_readToEnd i
  refine ⟨t, audit', near, reached, service, fun row isRow => ⟨sent row isRow, ?_, ?_⟩⟩
  · rintro ⟨stored, isStored, same⟩
    exact audited'.readable_of_recorded isRow isStored same
  · intro isReadable
    obtain ⟨stored, isStored, ok⟩ := audited'.readTrail.complete toEnd row isRow isReadable
    have eventId := (audited'.invariant.log.wellTyped row isRow).eventId_eq
    exact ⟨stored, isStored, (eventId_of_values ok).trans eventId.symm⟩

/-- Both orders can be sent, and are recorded if they are readable. -/
theorem exists_readTrail_shortStored :
    ∃ (t : PlatformState) (audit : AuditState),
      t.service = shortStored.service ∧ ∀ row ∈ t.service.db.outbox.rows,
      t.relays.Sent row ∧ ((∃ stored ∈ audit.table.rows, stored.eventId = row.eventId) ↔
        t.Readable onePartition row) := by
  obtain ⟨t, audit, -, -, service, exactly⟩ := exists_readTrail plainValidator jsonBodies
    residentTokens onePartition 0 _ _ audited_shortStored
  exact ⟨t, audit, service, exactly⟩

end PropFlow
