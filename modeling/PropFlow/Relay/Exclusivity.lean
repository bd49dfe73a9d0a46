import PropFlow.Relay.Delivery

/-!
# Parallel relays

Several relays, and overlapping ticks of one, over the same table: open
transactions never share a row, an instance never has two of them, and a row is
published once as long as nothing fails after it was claimed.

## The properties

* `DisjointClaims` — no row is claimed by two open transactions at once;
* `OneDrain` — an instance has at most one open transaction;
* `AtMostOnce` — no message about a row has been accepted twice;
* `ParallelSafe` — the first two in every state that can be reached, and the third in
  those that are reached without a crash or a lost connection, while drains are rejected
  in certain phases only.

The first two hold without any condition: they are read off `LockInvariant` and
`FlagInvariant`.

## At most once

The third is a matter of where drains may fail.  `PublishInvariant` says what a broker
can have accepted of a row while no drain has failed with one claimed: the row's message
only if the row is stamped or its claimant is past that broker, and no message twice.
`parallelSafe_inSelect` is the result: while drains fail in the `SELECT` only, a row is
published once.

That is as far as it goes.  The relay publishes before it stamps, so a failure between
the two, of the `UPDATE` as much as of a broker or of the `COMMIT`, takes the stamp back
and the row is published again (`not_parallelSafe_noBrokerOrCommit`).  That is the
at-least-once delivery the consumers are built for.
-/

namespace PropFlow

open Library Library.CivilTime

/-! ## What is claimed -/

/-- Open transactions hold different rows. -/
def DisjointClaims (s : RelayState) : Prop :=
  ∀ d d' drain drain', d ≠ d' → s.drains d = some drain → s.drains d' = some drain' →
    drain.Open → drain'.Open → ∀ row ∈ drain.phase.rows, ∀ row' ∈ drain'.phase.rows,
      row.id ≠ row'.id

/-- An instance has at most one transaction open. -/
def OneDrain (s : RelayState) : Prop :=
  ∀ d d' drain drain', s.drains d = some drain → s.drains d' = some drain' →
    drain.Open → drain'.Open → drain.owner = drain'.owner → d = d'

/-- Every row has been published at most once to each broker. -/
def AtMostOnce (s : RelayState) : Prop :=
  ∀ row ∈ s.table, ∀ broker, s.accepted.count (OutboxRelay.message row broker) ≤ 1

/-- Nothing fails at this step but what may: no connection is lost, no relay
crashes, and what a drain awaits is only rejected in the phases listed. -/
def OnlyFails (mayFail : Phase → Bool) (s : RelayState) (a : RelayAction) (_ : RelayState) : Prop :=
  match a with
  | .fail d _ => ∀ drain ∈ s.drains d, mayFail drain.phase = true
  | .disconnect _ => False
  | .crash _ => False
  | _ => True

instance (mayFail : Phase → Bool) (s : RelayState) (a : RelayAction) (s' : RelayState) :
    Decidable (OnlyFails mayFail s a s') :=
  match a with
  | .fail d _ =>
      inferInstanceAs (Decidable (∀ drain ∈ s.drains d, mayFail drain.phase = true))
  | .disconnect _ | .crash _ => .isFalse id
  | .write _ _ _ _ | .tick _ _ | .select _ | .lock _ | .accept _ | .resolve _ | .stamp _ _
  | .commit _ | .finish _ | .acceptLate _ _ => .isTrue trivial

/-- **Safety of parallel relays**, with rejections confined to some phases. -/
def ParallelSafe (mayFail : Phase → Bool) : Prop :=
  ∀ (actions : List RelayAction) (s : RelayState), relays.run RelayState.initial actions = some s →
    DisjointClaims s ∧ OneDrain s ∧
      (relays.Along (OnlyFails mayFail) RelayState.initial actions → AtMostOnce s)

/-- The `SELECT` is running. -/
def Phase.inSelect : Phase → Bool
  | .selecting => true
  | .locking _ _ => true
  | _ => false

/-- Neither a broker call nor the `COMMIT` is awaited. -/
def Phase.noBrokerOrCommit : Phase → Bool
  | .sending _ _ _ => false
  | .committing _ => false
  | _ => true

/-- A claimed row is locked, and a lock has one holder. -/
theorem LockInvariant.disjointClaims {s : RelayState} (locks : LockInvariant s) :
    DisjointClaims s := by
  intro d d' drain drain' other held held' isOpen isOpen' row member row' member' same
  have mine := locks.locked d drain held isOpen row member
  have yours := locks.locked d' drain' held' isOpen' row' member'
  rw [← same, mine] at yours
  exact other (Option.some.inj yours)

/-- A tick starts no drain while the flag is up. -/
theorem FlagInvariant.oneDrain {s : RelayState} (flags : FlagInvariant s) : OneDrain s := by
  intro d d' drain drain' held held' _ _ same
  apply flags.single d d' drain.owner
  · unfold RelayState.owner
    rw [held]
    rfl
  · unfold RelayState.owner
    rw [held', same]
    rfl

/-! ## What is published -/

/-- A row a broker has been sent is a row of the drain. -/
theorem Phase.mem_rows_of_mem_sentTo {phase : Phase} {broker : Broker} {row : OutboxEvent}
    (member : row ∈ phase.sentTo broker) : row ∈ phase.rows := by
  cases phase with
  | sending current batch accepted =>
      rcases List.mem_append.mp member with before | here
      · exact List.mem_append_left _ before
      · split_ifs at here
        · rw [List.mem_singleton.mp here]
          exact List.mem_append_right _ List.mem_cons_self
        · cases here
  | stamping batch =>
      rcases List.mem_append.mp member with before | here
      · exact List.mem_append_left _ before
      · rw [List.mem_singleton.mp here]
        exact List.mem_append_right _ List.mem_cons_self
  | committing stamped => exact member
  | _ => cases member

/-- While the `SELECT` runs no call is in flight and none has been made. -/
theorem Phase.idle_of_inSelect {phase : Phase} (inSelect : phase.inSelect = true) :
    phase.inFlight = [] ∧ ∀ broker, phase.sentTo broker = [] := by
  cases phase with
  | selecting => exact ⟨rfl, fun _ => rfl⟩
  | locking candidates rows => exact ⟨rfl, fun _ => rfl⟩
  | _ => cases inSelect

/-- Acceptance takes nothing back. -/
theorem Phase.mem_sentTo_accept {current broker : Broker} {batch : Batch} {row : OutboxEvent}
    (member : row ∈ (Phase.sending current batch false).sentTo broker) :
    row ∈ (Phase.sending current batch true).sentTo broker := by
  rcases List.mem_append.mp member with before | here
  · exact List.mem_append_left _ before
  · apply List.mem_append_right
    rw [List.mem_ite_nil_right] at here ⊢
    exact ⟨here.1.imp_left fun mine => ⟨mine.1, rfl⟩, here.2⟩

/-- A stamp is never taken off a row. -/
theorem isSome_stampRow (stamped : List (OutboxEvent × Instant)) {row : OutboxEvent}
    (isSome : row.publishedAt.isSome = true) :
    (stampRow stamped row).publishedAt.isSome = true := by
  unfold stampRow
  split
  · rfl
  · exact isSome

/-- Every stamped row ends up stamped. -/
theorem isSome_stampRow_of_mem {stamped : List (OutboxEvent × Instant)} {row : OutboxEvent}
    (member : row ∈ stamped.map Prod.fst) : (stampRow stamped row).publishedAt.isSome = true := by
  unfold stampRow
  split
  · rfl
  next missing =>
    obtain ⟨stamp, isStamp, rfl⟩ := List.mem_map.mp member
    exact absurd (List.find?_eq_none.mp missing stamp isStamp) (by simp)

/-- A message tells whose event it carries, and which broker it is for. -/
theorem eventId_of_message {row row' : OutboxEvent} {broker broker' : Broker}
    (payload : row.payload.eventId = row.eventId) (payload' : row'.payload.eventId = row'.eventId)
    (same : OutboxRelay.message row broker = OutboxRelay.message row' broker') :
    row.eventId = row'.eventId ∧ broker = broker' := by
  cases broker with
  | rabbit =>
      cases broker' with
      | rabbit => exact ⟨congrArg RabbitMessage.messageId (Message.rabbit.inj same), rfl⟩
      | kafka => cases same
  | kafka =>
      cases broker' with
      | rabbit => cases same
      | kafka =>
          have parsed := congrArg parseEvent (congrArg KafkaRecord.value (Message.kafka.inj same))
          rw [WorkOrderAuditProducer.record, WorkOrderAuditProducer.record,
            parseEvent_stringifyEvent, parseEvent_stringifyEvent] at parsed
          rw [← payload, ← payload', Option.some.inj parsed]
          exact ⟨rfl, rfl⟩

/-- No message is about a row with an event id that the table does not have. -/
theorem not_fromTable_of_fresh {table : List OutboxEvent}
    (payloads : ∀ row ∈ table, row.payload.eventId = row.eventId) {id : ℕ}
    {type : WorkOrderEventType} {workOrder : WorkOrder} {context : StageContext}
    (fresh : ∀ row ∈ table, row.eventId ≠ context.eventId) (broker : Broker) :
    ¬ FromTable table (OutboxRelay.message
      (WorkOrderEventsOutbox.stagedRow id type workOrder context) broker) := by
  rintro ⟨row, member, broker', same⟩
  exact fresh row member (eventId_of_message rfl (payloads row member) same).1.symm

/-- What holds as long as nothing has failed after a claim: what has been
accepted is stamped, or about to be by the drain that sent it. -/
structure PublishInvariant (s : RelayState) : Prop where
  /-- The rows, the drains and the brokers agree, as in every run. -/
  rows : RowInvariant s
  /-- A claimed row is locked by the drain that has it. -/
  locks : LockInvariant s
  /-- Each row is an event of its own. -/
  eventIds : (s.table.map OutboxEvent.eventId).Nodup
  /-- The id of the row is the one inside the payload. -/
  payloads : ∀ row ∈ s.table, row.payload.eventId = row.eventId
  /-- No database connection has died. -/
  connected : ∀ d drain, s.drains d = some drain → drain.connected = true
  /-- No call has been given up. -/
  abandoned : ∀ d, s.abandoned d = []
  /-- A claimed row is the current, unstamped version. -/
  current : ∀ d drain, s.drains d = some drain → ∀ row ∈ drain.phase.rows,
    row ∈ s.table ∧ row.publishedAt = none
  /-- A drain has claimed no row twice. -/
  distinct : ∀ d drain, s.drains d = some drain → (drain.phase.rows.map OutboxEvent.id).Nodup
  /-- **No message has been accepted twice.** -/
  once : AtMostOnce s
  /-- A row that a broker has is stamped, or a drain is about to stamp it. -/
  accounted : ∀ row ∈ s.table, ∀ broker, OutboxRelay.message row broker ∈ s.accepted →
    row.publishedAt.isSome = true ∨
      ∃ d drain, s.drains d = some drain ∧ row ∈ drain.phase.sentTo broker

/-- Nothing is accepted at first. -/
theorem PublishInvariant.initial : PublishInvariant RelayState.initial where
  rows := .initial
  locks := .initial
  eventIds := List.nodup_nil
  payloads := fun _ member => nomatch member
  connected := fun _ _ held => nomatch held
  abandoned := fun _ => rfl
  current := fun _ _ held => nomatch held
  distinct := fun _ _ held => nomatch held
  once := fun _ member => nomatch member
  accounted := fun _ member => nomatch member

namespace PublishInvariant

variable {s s' : RelayState} {a : RelayAction} (invariant : PublishInvariant s)

include invariant

/-- A drain that holds a row holds its lock. -/
theorem locked {d : DrainId} {drain : Drain} (held : s.drains d = some drain) {row : OutboxEvent}
    (member : row ∈ drain.phase.rows) : s.locks row.id = some d := by
  refine invariant.locks.locked d drain held ⟨invariant.connected d drain held, ?_⟩ row member
  cases phase : drain.phase with
  | ended result =>
      rw [phase] at member
      cases member
  | _ => rfl

/-- Different rows make different messages, for both brokers. -/
theorem message_injective {row row' : OutboxEvent} (member : row ∈ s.table)
    (member' : row' ∈ s.table) {broker broker' : Broker}
    (same : OutboxRelay.message row broker = OutboxRelay.message row' broker') :
    row = row' ∧ broker = broker' := by
  obtain ⟨eventId, rfl⟩ := eventId_of_message (invariant.payloads row member)
    (invariant.payloads row' member') same
  exact ⟨List.inj_on_of_nodup_map invariant.eventIds member member' eventId, rfl⟩

/-- A row that is about to be sent has not been accepted yet. -/
theorem not_accepted {d : DrainId} {drain : Drain} {broker : Broker} {batch : Batch}
    (held : s.drains d = some drain) (here : drain.phase = .sending broker batch false) :
    OutboxRelay.message batch.row broker ∉ s.accepted := by
  have mine : batch.row ∈ drain.phase.rows := by simp [here, Phase.rows, Batch.rows]
  obtain ⟨member, unstamped⟩ := invariant.current d drain held batch.row mine
  intro accepted
  rcases invariant.accounted batch.row member broker accepted with
    stamped | ⟨e, drain', held', sent⟩
  · rw [unstamped] at stamped
    cases stamped
  · have same : e = d := by
      have theirs := invariant.locked held' (Phase.mem_rows_of_mem_sentTo sent)
      rw [invariant.locked held mine] at theirs
      exact (Option.some.inj theirs).symm
    subst same
    rw [held] at held'
    cases held'
    -- the current row is not among those already stamped
    have distinct := invariant.distinct e drain held
    rw [here, Phase.rows, Batch.rows, List.map_append, List.map_cons] at distinct
    have notStamped := (List.nodup_append.mp distinct).2.2
    rw [here] at sent
    simp only [Phase.sentTo, Bool.false_eq_true, and_false, false_or] at sent
    rcases List.mem_append.mp sent with before | earlier
    · exact notStamped _ (List.mem_map_of_mem before) _ List.mem_cons_self rfl
    · split_ifs at earlier with impossible
      · obtain ⟨rfl, other⟩ := impossible
        cases other
      · cases earlier

/-- A commit leaves the rows other drains have claimed. -/
theorem stampRow_of_other {d e : DrainId} {i : InstanceId}
    {stamped : List (OutboxEvent × Instant)} {drain : Drain} {row : OutboxEvent}
    (held : s.drains d = some ⟨i, true, .committing stamped⟩) (other : e ≠ d)
    (held' : s.drains e = some drain) (member : row ∈ drain.phase.rows) :
    stampRow stamped row = row := by
  -- two open transactions hold different locks
  have unclaimed : stamped.find? (fun stamp => stamp.1.id = row.id) = none := by
    rw [List.find?_eq_none]
    intro stamp isStamp same
    have mine := invariant.locked held (List.mem_map_of_mem (f := Prod.fst) isStamp)
    rw [of_decide_eq_true same, invariant.locked held' member] at mine
    exact other (Option.some.inj mine)
  unfold stampRow
  rw [unclaimed]

/-- A step that changes one drain, and no row: enough is that the new drain
answers for what the old one had sent, and for what has just been accepted. -/
theorem of_set (rows : RowInvariant s') (locks : LockInvariant s') (d : DrainId) (drain' : Drain)
    (drains : s'.drains = Function.update s.drains d (some drain')) (table : s'.table = s.table)
    (abandoned : ∀ e, s'.abandoned e = []) (connected : drain'.connected = true)
    (current : ∀ row ∈ drain'.phase.rows, row ∈ s.table ∧ row.publishedAt = none)
    (distinct : (drain'.phase.rows.map OutboxEvent.id).Nodup) (once : AtMostOnce s')
    (inherited : ∀ drain, s.drains d = some drain → ∀ broker, ∀ row ∈ drain.phase.sentTo broker,
      row ∈ drain'.phase.sentTo broker)
    (accepted : ∀ message ∈ s'.accepted, message ∈ s.accepted ∨ ∃ row ∈ s.table, ∃ broker,
      message = OutboxRelay.message row broker ∧ row ∈ drain'.phase.sentTo broker) :
    PublishInvariant s' where
  rows := rows
  locks := locks
  eventIds := by rw [table]; exact invariant.eventIds
  payloads := by rw [table]; exact invariant.payloads
  connected := by
    intro e drain held
    rw [drains] at held
    rcases update_some_eq_some.mp held with ⟨rfl, rfl⟩ | ⟨-, held⟩
    · exact connected
    · exact invariant.connected e drain held
  abandoned := abandoned
  current := by
    intro e drain held
    rw [table]
    rw [drains] at held
    rcases update_some_eq_some.mp held with ⟨rfl, rfl⟩ | ⟨-, held⟩
    · exact current
    · exact invariant.current e drain held
  distinct := by
    intro e drain held
    rw [drains] at held
    rcases update_some_eq_some.mp held with ⟨rfl, rfl⟩ | ⟨-, held⟩
    · exact distinct
    · exact invariant.distinct e drain held
  once := once
  accounted := by
    intro row member broker message
    rw [table] at member
    rw [drains]
    rcases accepted _ message with before | ⟨row', member', broker', same, sent⟩
    · rcases invariant.accounted row member broker before with stamped | ⟨e, drain, held, sent⟩
      · exact Or.inl stamped
      · by_cases same : e = d
        · subst same
          exact Or.inr ⟨e, drain', Function.update_self _ _ _, inherited drain held broker row sent⟩
        · exact Or.inr ⟨e, drain, (Function.update_of_ne same _ _).trans held, sent⟩
    · -- what is newly accepted is a message of the drain that has moved
      obtain ⟨rfl, rfl⟩ := invariant.message_injective member member' same
      exact Or.inr ⟨d, drain', Function.update_self _ _ _, sent⟩

/-- A newly accepted message is the first of its row. -/
theorem atMostOnce_accepted {d : DrainId} {drain : Drain} {broker : Broker} {batch : Batch}
    (held : s.drains d = some drain) (here : drain.phase = .sending broker batch false)
    (table : s'.table = s.table)
    (accepted : s'.accepted = s.accepted ++ [OutboxRelay.message batch.row broker]) :
    AtMostOnce s' := by
  unfold AtMostOnce
  rw [table, accepted]
  intro row member broker'
  rw [List.count_append, List.count_singleton]
  split_ifs with same
  · have isClaimed : batch.row ∈ drain.phase.rows := by simp [here, Phase.rows, Batch.rows]
    have mine := (invariant.current d drain held batch.row isClaimed).1
    obtain ⟨rfl, rfl⟩ := invariant.message_injective mine member (eq_of_beq same)
    rw [List.count_eq_zero.mpr (invariant.not_accepted held here)]
  · exact invariant.once row member broker'

/-- A commit stamps the rows its drain has sent. -/
theorem of_committed (rows : RowInvariant s') (locks : LockInvariant s')
    (eventIds : (s'.table.map OutboxEvent.eventId).Nodup)
    (payloads : ∀ row ∈ s'.table, row.payload.eventId = row.eventId) {d : DrainId}
    {i : InstanceId} {stamped : List (OutboxEvent × Instant)}
    (held : s.drains d = some ⟨i, true, .committing stamped⟩)
    (drains : s'.drains = Function.update s.drains d (some ⟨i, true, .ended (.ok ())⟩))
    (table : s'.table = s.table.map (stampRow stamped)) (accepted : s'.accepted = s.accepted)
    (abandoned : ∀ e, s'.abandoned e = []) : PublishInvariant s' where
  rows := rows
  locks := locks
  eventIds := eventIds
  payloads := payloads
  connected := by
    intro e drain held'
    rw [drains] at held'
    rcases update_some_eq_some.mp held' with ⟨rfl, rfl⟩ | ⟨-, held'⟩
    · rfl
    · exact invariant.connected e drain held'
  abandoned := abandoned
  current := by
    intro e drain held' row member
    rw [drains] at held'
    rcases update_some_eq_some.mp held' with ⟨rfl, rfl⟩ | ⟨other, held'⟩
    · cases member
    · obtain ⟨isRow, unstamped⟩ := invariant.current e drain held' row member
      refine ⟨?_, unstamped⟩
      rw [table, ← invariant.stampRow_of_other held other held' member]
      exact List.mem_map_of_mem isRow
  distinct := by
    intro e drain held'
    rw [drains] at held'
    rcases update_some_eq_some.mp held' with ⟨rfl, rfl⟩ | ⟨-, held'⟩
    · exact List.nodup_nil
    · exact invariant.distinct e drain held'
  once := by
    unfold AtMostOnce
    rw [table, accepted]
    intro row' member' broker
    obtain ⟨row, member, rfl⟩ := List.mem_map.mp member'
    rw [message_eq (stampRow_event stamped row)]
    exact invariant.once row member broker
  accounted := by
    rw [table, accepted, drains]
    intro row' member' broker message
    obtain ⟨row, member, rfl⟩ := List.mem_map.mp member'
    rw [message_eq (stampRow_event stamped row)] at message
    rcases invariant.accounted row member broker message with
      isStamped | ⟨e, drain, held', sent⟩
    · exact Or.inl (isSome_stampRow stamped isStamped)
    · by_cases same : e = d
      · -- a row that this drain has sent has its stamp now
        subst same
        rw [held] at held'
        cases held'
        exact Or.inl (isSome_stampRow_of_mem sent)
      · -- a row that another drain has sent is not touched by the commit
        have claimed := Phase.mem_rows_of_mem_sentTo sent
        rw [invariant.stampRow_of_other held same held' claimed]
        exact Or.inr ⟨e, drain, (Function.update_of_ne same _ _).trans held', sent⟩

/-- A writer stages a row whose event is new. -/
theorem of_staged {id : ℕ} {type : WorkOrderEventType} {workOrder : WorkOrder}
    {context : StageContext} (rows : RowInvariant s') (locks : LockInvariant s')
    (eventIds : (s'.table.map OutboxEvent.eventId).Nodup)
    (payloads : ∀ row ∈ s'.table, row.payload.eventId = row.eventId)
    (fresh : ∀ row ∈ s.table, row.eventId ≠ context.eventId) (drains : s'.drains = s.drains)
    (table : s'.table =
      s.table ++ [WorkOrderEventsOutbox.stagedRow id type workOrder context])
    (accepted : s'.accepted = s.accepted) (abandoned : ∀ e, s'.abandoned e = []) :
    PublishInvariant s' := by
  have unsent : ∀ broker, OutboxRelay.message
      (WorkOrderEventsOutbox.stagedRow id type workOrder context) broker ∉ s.accepted := by
    intro broker sent
    exact not_fromTable_of_fresh invariant.payloads fresh broker (invariant.rows.accepted _ sent)
  have isRow : ∀ row ∈ s'.table, row ∈ s.table ∨
      row = WorkOrderEventsOutbox.stagedRow id type workOrder context := by
    intro row member
    rw [table] at member
    exact (List.mem_append.mp member).imp_right List.mem_singleton.mp
  constructor
  case rows => exact rows
  case locks => exact locks
  case eventIds => exact eventIds
  case payloads => exact payloads
  case connected => rw [drains]; exact invariant.connected
  case abandoned => exact abandoned
  case current =>
    rw [drains, table]
    intro d drain held row member
    obtain ⟨isOld, unstamped⟩ := invariant.current d drain held row member
    exact ⟨List.mem_append_left _ isOld, unstamped⟩
  case distinct => rw [drains]; exact invariant.distinct
  case once =>
    intro row member broker
    rw [accepted]
    rcases isRow row member with old | rfl
    · exact invariant.once row old broker
    · rw [List.count_eq_zero.mpr (unsent broker)]
      exact Nat.zero_le 1
  case accounted =>
    intro row member broker
    rw [accepted, drains]
    rcases isRow row member with old | rfl
    · exact invariant.accounted row old broker
    · exact fun sent => absurd sent (unsent broker)

/-- A drain that has ended holds nothing, and nothing is lost when it goes. -/
theorem of_finished (rows : RowInvariant s') (locks : LockInvariant s') {d : DrainId}
    {i : InstanceId} {connected : Bool} {result : Except Thrown Unit}
    (held : s.drains d = some ⟨i, connected, .ended result⟩)
    (drains : s'.drains = Function.update s.drains d none) (table : s'.table = s.table)
    (accepted : s'.accepted = s.accepted) (abandoned : ∀ e, s'.abandoned e = []) :
    PublishInvariant s' := by
  have before : ∀ e drain, s'.drains e = some drain → s.drains e = some drain := by
    intro e drain held'
    rw [drains] at held'
    exact (update_none_eq_some.mp held').2
  constructor
  case rows => exact rows
  case locks => exact locks
  case eventIds => rw [table]; exact invariant.eventIds
  case payloads => rw [table]; exact invariant.payloads
  case connected => exact fun e drain held' => invariant.connected e drain (before e drain held')
  case abandoned => exact abandoned
  case current =>
    rw [table]
    exact fun e drain held' => invariant.current e drain (before e drain held')
  case distinct => exact fun e drain held' => invariant.distinct e drain (before e drain held')
  case once =>
    unfold AtMostOnce
    rw [table, accepted]
    exact invariant.once
  case accounted =>
    rw [table, accepted, drains]
    intro row member broker message
    rcases invariant.accounted row member broker message with stamped | ⟨e, drain, held', sent⟩
    · exact Or.inl stamped
    · refine Or.inr ⟨e, drain, (Function.update_of_ne ?_ _ _).trans held', sent⟩
      rintro rfl
      rw [held] at held'
      cases held'
      cases sent

/-- **Every step keeps it** that does not fail a drain after the `SELECT`. -/
theorem step (moved : relays.step s a = some s') (quiet : OnlyFails Phase.inSelect s a s') :
    PublishInvariant s' := by
  have rows := invariant.rows.step moved
  have locks := invariant.locks.step moved
  have effect := relayEffect_of_step moved
  have eventIds := eventIds_of_effect effect invariant.eventIds
  have payloads := payloads_of_effect effect invariant.payloads
  cases effect with
  | staged fresh =>
      exact invariant.of_staged rows locks eventIds payloads
        (fun row member => (fresh row member).2) rfl rfl rfl invariant.abandoned
  | skippedTick => exact invariant
  | @entered i d idle fresh =>
      refine invariant.of_set rows locks d ⟨i, true, .selecting⟩ rfl rfl invariant.abandoned rfl
        (fun _ member => absurd member List.not_mem_nil) List.nodup_nil invariant.once ?_
        fun _ => Or.inl
      intro drain held
      rw [fresh] at held
      cases held
  | @advanced _ d i connected phase phase' held advance =>
      have isConnected := invariant.connected d _ held
      refine invariant.of_set rows locks d ⟨i, connected, phase'⟩ rfl rfl invariant.abandoned
        isConnected ?_ ?_ invariant.once ?_ fun _ => Or.inl
      · rw [advance.rows_eq]
        exact invariant.current d _ held
      · rw [advance.rows_eq]
        exact invariant.distinct d _ held
      · intro drain held' broker row sent
        rw [held] at held'
        cases held'
        rwa [advance.sentTo_eq]
  | @locked d i rest claimed row free held member unpublished =>
      refine invariant.of_set rows locks d ⟨i, true, .locking rest (claimed ++ [row])⟩ rfl rfl
        invariant.abandoned rfl ?_ ?_ invariant.once ?_ fun _ => Or.inl
      · intro row' member'
        -- the new row is free, so none of those claimed before has its id
        rcases List.mem_append.mp member' with before | new
        · exact invariant.current d _ held row' before
        · rw [List.mem_singleton.mp new]
          exact ⟨member, unpublished⟩
      · unfold Phase.rows
        rw [List.map_append, List.map_singleton, ← List.concat_eq_append]
        refine List.Nodup.concat ?_ (invariant.distinct d _ held)
        intro claimedId
        obtain ⟨row', isClaimed, same⟩ := List.mem_map.mp claimedId
        have mine := invariant.locked held isClaimed
        rw [same, free] at mine
        cases mine
      · intro drain held' broker row sent
        rw [held] at held'
        cases held'
        cases sent
  | @accepted d i connected broker batch held =>
      have isConnected := invariant.connected d _ held
      have current := invariant.current d _ held
      have distinct := invariant.distinct d _ held
      refine invariant.of_set rows locks d ⟨i, connected, .sending broker batch true⟩ rfl rfl
        invariant.abandoned isConnected current distinct
        (invariant.atMostOnce_accepted held rfl rfl rfl) ?_ ?_
      · intro drain held' broker' row sent
        rw [held] at held'
        cases held'
        exact Phase.mem_sentTo_accept sent
      · intro message member
        refine (List.mem_append.mp member).imp_right fun new => ?_
        exact ⟨batch.row, (current batch.row (by simp [Phase.rows, Batch.rows])).1, broker,
          List.mem_singleton.mp new, by simp [Phase.sentTo]⟩
  | @committed d i stamped held =>
      exact invariant.of_committed rows locks eventIds payloads held rfl rfl rfl
        invariant.abandoned
  | @failed d i connected phase thrown held running =>
      -- only a failure inside the `SELECT` is allowed, and then nothing is in flight
      have inSelect : phase.inSelect = true := quiet _ held
      have isConnected := invariant.connected d _ held
      refine invariant.of_set rows locks d ⟨i, connected, .ended (.error thrown)⟩ rfl rfl ?_
        isConnected (fun _ member => absurd member List.not_mem_nil) List.nodup_nil
        invariant.once ?_ fun _ => Or.inl
      · intro e
        show Function.update s.abandoned d (phase.inFlight ++ s.abandoned d) e = []
        rw [(Phase.idle_of_inSelect inSelect).1, List.nil_append, Function.update_eq_self]
        exact invariant.abandoned e
      · intro drain held' broker row sent
        rw [held] at held'
        cases held'
        rw [(Phase.idle_of_inSelect inSelect).2] at sent
        cases sent
  | disconnected => exact quiet.elim
  | finished held =>
      exact invariant.of_finished rows locks held rfl rfl rfl invariant.abandoned
  | crashed => exact quiet.elim
  | @late d message abandoned =>
      -- nothing has been given up that could arrive late
      rw [invariant.abandoned d] at abandoned
      cases abandoned

end PublishInvariant

/-! ## Parallel safety -/

/-- **Parallel relays do not double-publish** as long as nothing fails between a
claim and its commit: rejections of the `SELECT` are harmless. -/
theorem parallelSafe_inSelect : ParallelSafe Phase.inSelect := by
  intro actions s ran
  have locks : LockInvariant s := relays.invariant_of_run
    (fun invariant moved => invariant.step moved) LockInvariant.initial ran
  have flags : FlagInvariant s := relays.invariant_of_run
    (fun invariant moved => invariant.step moved) FlagInvariant.initial ran
  refine ⟨locks.disjointClaims, flags.oneDrain, fun quiet => ?_⟩
  exact (Machine.Along.invariant relays (A := fun _ => True)
    (fun invariant _ moved quiet => PublishInvariant.step invariant moved quiet)
    PublishInvariant.initial (fun _ _ => trivial) quiet ran).once

/-- One row is claimed and sent to both brokers; its `UPDATE` is rejected; the
next tick sends it again. -/
def stampRejected : List RelayAction :=
  [ .write 1 .created openOrder (CommitContext.first.stageContext none),
    .tick 0 0, .select 0, .lock 0, .lock 0, .accept 0, .resolve 0, .accept 0, .resolve 0,
    .fail 0 (.error "deadlock detected"), .finish 0,
    .tick 0 1, .select 1, .lock 1, .lock 1, .accept 1 ]

/-- **A failed stamp publishes twice**, although no broker call and no commit
fails and nothing crashes. -/
theorem not_parallelSafe_noBrokerOrCommit : ¬ ParallelSafe Phase.noBrokerOrCommit := by
  intro safe
  have twice : (relays.run .initial stampRejected).map (fun s =>
      (s.table, s.accepted.count (OutboxRelay.message (WorkOrderEventsOutbox.stagedRow 1 .created
        openOrder (CommitContext.first.stageContext none)) .rabbit))) =
        some ([WorkOrderEventsOutbox.stagedRow 1 .created openOrder
          (CommitContext.first.stageContext none)], 2) := by decide
  obtain ⟨s, ran, counted⟩ := Option.map_eq_some_iff.mp twice
  obtain ⟨table, count⟩ := Prod.mk.inj counted
  have atMost := (safe stampRejected s ran).2.2 (by decide) _
    (by rw [table]; exact List.mem_singleton_self _) .rabbit
  rw [count] at atMost
  exact absurd atMost (by decide)

end PropFlow
