import PropFlow.Relay.OutboxRelay
import PropFlow.WorkOrders.Concurrency

/-!
# What the relays deliver

Four facts about every state the relays can reach, whatever fails, whoever
crashes, and however the steps of instances, writers and brokers are
interleaved: nothing is delivered that is not in the table, nothing is stamped
that was not delivered, nothing unstamped is lost, and a drain always comes back.

## The invariants

The four follow from three invariants that barely touch each other:

* `RowInvariant` — what drains, brokers and the table say about rows: what is claimed,
  accepted or abandoned comes from the table, and what is stamped has been accepted;
* `LockInvariant` — which transaction holds which lock: a lock belongs to an open
  transaction that has claimed the row, and an open transaction holds the locks of what
  it has claimed;
* `FlagInvariant` — the `draining` flag of an instance is up exactly while it has a
  drain.

## How they are preserved

No invariant looks at the actions themselves.  Each has its own account of what a step
can do to its part of the state, derived from `RelayEffect`:

* `phaseChange_of_effect` — a drain that is there afterwards was there before, in a phase
  with the same rows or fewer, or has moved in one of a few ways;
* `row_of_effect`, `origin_of_effect`, `stored_of_effect` — rows keep their identity, and
  change only by a stamp;
* `accepted_cases`, `pending_of_abandoned` — where an accepted or abandoned message comes
  from;
* `flagChange_of_effect` — an instance enters a drain, leaves one, or keeps its own.

## The result

`Delivers` collects what the relays guarantee of a state, and `delivers_of_reachable`
says that they do.  `delivers_interruptedDrains` is an instance with a rejected call, a
late acceptance and a crash.
-/

namespace PropFlow

open Library Library.CivilTime

/-! ## What never changes in a row -/

/-- A row without its stamp. -/
def OutboxEvent.event (row : OutboxEvent) : ℕ × Uuid × WorkOrderEventType × WorkOrderEvent :=
  (row.id, row.eventId, row.type, row.payload)

section Row

variable {row row' : OutboxEvent}

/-- The identity of a row has its key. -/
theorem OutboxEvent.id_eq (same : row.event = row'.event) : row.id = row'.id :=
  congrArg Prod.fst same

/-- It has the id of the event, -/
theorem OutboxEvent.eventId_eq (same : row.event = row'.event) : row.eventId = row'.eventId :=
  congrArg (fun event => event.2.1) same

/-- and the event itself. -/
theorem OutboxEvent.payload_eq (same : row.event = row'.event) : row.payload = row'.payload :=
  congrArg (fun event => event.2.2.2) same

end Row

/-- So what is sent about a row does not depend on its stamp. -/
theorem message_eq {row row' : OutboxEvent} (same : row.event = row'.event) (broker : Broker) :
    OutboxRelay.message row broker = OutboxRelay.message row' broker := by
  simp only [OutboxEvent.event, Prod.mk.injEq] at same
  obtain ⟨-, eventId, type, payload⟩ := same
  cases broker <;> simp [OutboxRelay.message, OutboxRelay.publish, eventId, type, payload]

/-- A stamp is all that a commit changes in a row. -/
@[simp] theorem stampRow_event (stamped : List (OutboxEvent × Instant)) (row : OutboxEvent) :
    (stampRow stamped row).event = row.event := by
  unfold stampRow
  split <;> rfl

/-- A row that is stamped afterwards was stamped before, or is one of the stamped. -/
theorem stamped_of_stampRow {stamped : List (OutboxEvent × Instant)} {row : OutboxEvent}
    (isSome : (stampRow stamped row).publishedAt.isSome = true) :
    row.publishedAt.isSome = true ∨ ∃ claimed ∈ stamped.map Prod.fst, claimed.id = row.id := by
  unfold stampRow at isSome
  split at isSome
  next claimed now found =>
    refine Or.inr ⟨claimed, List.mem_map.mpr ⟨_, List.mem_of_find?_eq_some found, rfl⟩, ?_⟩
    simpa using List.find?_some found
  next => exact Or.inl isSome

/-- The row is in the table, stamped or not. -/
def Stored (table : List OutboxEvent) (row : OutboxEvent) : Prop :=
  ∃ row' ∈ table, row'.event = row.event

/-- The message is about a row of the table. -/
def FromTable (table : List OutboxEvent) (message : Message) : Prop :=
  ∃ row ∈ table, ∃ broker, message = OutboxRelay.message row broker

/-- What is sent about a stored row comes from the table. -/
theorem Stored.fromTable {table : List OutboxEvent} {row : OutboxEvent} (stored : Stored table row)
    (broker : Broker) : FromTable table (OutboxRelay.message row broker) := by
  obtain ⟨row', member, same⟩ := stored
  exact ⟨row', member, broker, (message_eq same broker).symm⟩

/-- A message that comes from a table still does when the rows have kept their identities. -/
theorem FromTable.mono {table table' : List OutboxEvent}
    (kept : ∀ row ∈ table, Stored table' row) {message : Message}
    (source : FromTable table message) : FromTable table' message := by
  obtain ⟨row, member, broker, rfl⟩ := source
  exact (kept row member).fromTable broker

/-- A stored row is still stored then. -/
theorem Stored.mono {table table' : List OutboxEvent} (kept : ∀ row ∈ table, Stored table' row)
    {row : OutboxEvent} (stored : Stored table row) : Stored table' row := by
  obtain ⟨row', member, same⟩ := stored
  obtain ⟨row'', member', same'⟩ := kept row' member
  exact ⟨row'', member', same'.trans same⟩

/-! ## What never changes in a drain -/

/-- Moving on neither claims nor drops a row. -/
theorem Phase.Advance.rows_eq {phase phase' : Phase} (advance : phase.Advance phase') :
    phase'.rows = phase.rows := by
  cases advance with
  | selected => rfl
  | skipped => rfl
  | @looping candidates rows => cases rows <;> rfl
  | published => rfl
  | recorded => rfl
  | @stamped batch now =>
      cases rest : batch.rest <;>
        simp [OutboxRelay.loop, Phase.rows, Batch.rows, rest]

/-- Moving on sends nothing. -/
theorem Phase.Advance.sentTo_eq {phase phase' : Phase} (advance : phase.Advance phase')
    (broker : Broker) : phase'.sentTo broker = phase.sentTo broker := by
  cases advance with
  | selected => rfl
  | skipped => rfl
  | @looping candidates rows => cases rows <;> simp [OutboxRelay.loop, Phase.sentTo]
  | published => cases broker <;> simp [Phase.sentTo]
  | recorded => cases broker <;> simp [Phase.sentTo]
  | @stamped batch now =>
      cases rest : batch.rest <;> simp [OutboxRelay.loop, Phase.sentTo]

/-- A drain that moves on by itself is not over, before or after. -/
theorem Phase.Advance.not_ended {phase phase' : Phase} (advance : phase.Advance phase') :
    phase.isEnded = false ∧ phase'.isEnded = false := by
  cases advance with
  | selected => exact ⟨rfl, rfl⟩
  | skipped => exact ⟨rfl, rfl⟩
  | @looping candidates rows => cases rows <;> exact ⟨rfl, rfl⟩
  | published => exact ⟨rfl, rfl⟩
  | recorded => exact ⟨rfl, rfl⟩
  | @stamped batch now => cases rest : batch.rest <;> exact ⟨rfl, rfl⟩

/-- A call in flight is about a row of the drain. -/
theorem Phase.exists_of_mem_inFlight {phase : Phase} {message : Message}
    (member : message ∈ phase.inFlight) :
    ∃ row ∈ phase.rows, ∃ broker, message = OutboxRelay.message row broker := by
  cases phase with
  | sending broker batch accepted =>
      cases accepted with
      | true => cases member
      | false =>
          exact ⟨batch.row, by simp [Phase.rows, Batch.rows], broker, List.mem_singleton.mp member⟩
  | _ => cases member

/-- Acceptance adds the current row to what the broker has been sent. -/
theorem Phase.mem_sentTo_accepted {current broker : Broker} {batch : Batch} {row : OutboxEvent}
    (member : row ∈ (Phase.sending current batch true).sentTo broker) :
    row ∈ (Phase.sending current batch false).sentTo broker ∨
      (row = batch.row ∧ broker = current) := by
  rcases List.mem_append.mp member with before | new
  · exact Or.inl (List.mem_append_left _ before)
  · split_ifs at new with sent
    · rw [List.mem_singleton] at new
      rcases sent with ⟨rfl, -⟩ | earlier
      · exact Or.inr ⟨new, rfl⟩
      · refine Or.inl (List.mem_append_right _ ?_)
        rw [if_pos (Or.inr earlier), List.mem_singleton]
        exact new
    · cases new

/-- What one action does to a drain that is there afterwards, in phase `phase`. -/
inductive PhaseChange (s s' : RelayState) (d : DrainId) (phase : Phase) : Prop where
  /-- It was there, in this phase. -/
  | kept {drain} (held : s.drains d = some drain) (here : drain.phase = phase)
  /-- It has just begun. -/
  | entered (here : phase = .selecting)
  /-- It has moved on by itself. -/
  | advanced {drain} (held : s.drains d = some drain) (advance : drain.phase.Advance phase)
  /-- It has claimed a row of the table. -/
  | locked {drain row rest rows} (held : s.drains d = some drain)
      (here : drain.phase = .locking (row.id :: rest) rows) (member : row ∈ s.table)
      (here' : phase = .locking rest (rows ++ [row]))
  /-- What it had in flight is with the broker. -/
  | accepted {drain broker batch} (held : s.drains d = some drain)
      (here : drain.phase = .sending broker batch false)
      (received : OutboxRelay.message batch.row broker ∈ s'.accepted)
      (here' : phase = .sending broker batch true)
  /-- It has committed or failed. -/
  | ended {result} (here : phase = .ended result)

/-- The drains after one of them has moved. -/
theorem set_drains_eq_some {s : RelayState} {d e : DrainId} {drain drain' : Drain} :
    (s.set d drain).drains e = some drain' ↔
      (e = d ∧ drain = drain') ∨ (e ≠ d ∧ s.drains e = some drain') := update_some_eq_some

/-- A drain that is there after a crash was there before, in another process. -/
theorem drains_of_crash {s s' : RelayState} {i : InstanceId} (crash : s.step (.crash i) = some s')
    {d : DrainId} {drain : Drain} :
    s'.drains d = some drain ↔ s.drains d = some drain ∧ drain.owner ≠ i := by
  cases crash
  simp only [RelayState.owner, Option.map_eq_some_iff]
  split_ifs with gone
  · constructor
    · intro held
      cases held
    · rintro ⟨held, other⟩
      obtain ⟨drain', held', owner⟩ := gone
      rw [held] at held'
      cases held'
      exact absurd owner other
  · exact ⟨fun held => ⟨held, fun owner => gone ⟨drain, held, owner⟩⟩, And.left⟩

/-- **What a step does to a drain**: every drain that is there afterwards is accounted for. -/
theorem phaseChange_of_effect {s s' : RelayState} {a : RelayAction} (effect : RelayEffect s a s')
    {e : DrainId} {drain : Drain} (held' : s'.drains e = some drain) :
    PhaseChange s s' e drain.phase := by
  cases effect with
  | staged => exact .kept held' rfl
  | skippedTick => exact .kept held' rfl
  | entered =>
      rcases set_drains_eq_some.mp held' with ⟨rfl, rfl⟩ | ⟨-, held⟩
      · exact .entered rfl
      · exact .kept held rfl
  | advanced held advance =>
      rcases set_drains_eq_some.mp held' with ⟨rfl, rfl⟩ | ⟨-, held⟩
      · exact .advanced held advance
      · exact .kept held rfl
  | locked _ held member =>
      rcases set_drains_eq_some.mp held' with ⟨rfl, rfl⟩ | ⟨-, held⟩
      · exact .locked held rfl member rfl
      · exact .kept held rfl
  | accepted held =>
      rcases set_drains_eq_some.mp held' with ⟨rfl, rfl⟩ | ⟨-, held⟩
      · exact .accepted held rfl (by simp) rfl
      · exact .kept held rfl
  | committed =>
      rcases set_drains_eq_some.mp held' with ⟨rfl, rfl⟩ | ⟨-, held⟩
      · exact .ended rfl
      · exact .kept held rfl
  | failed =>
      rcases set_drains_eq_some.mp held' with ⟨rfl, rfl⟩ | ⟨-, held⟩
      · exact .ended rfl
      · exact .kept held rfl
  | disconnected held =>
      rcases set_drains_eq_some.mp held' with ⟨rfl, rfl⟩ | ⟨-, held⟩
      · exact .kept held rfl
      · exact .kept held rfl
  | finished => exact .kept (update_none_eq_some.mp held').2 rfl
  | crashed crash => exact .kept ((drains_of_crash crash).mp held').1 rfl
  | late => exact .kept held' rfl

/-! ## Rows, drains and brokers -/

/-- What the table, the drains and the brokers say about rows. -/
structure RowInvariant (s : RelayState) : Prop where
  /-- The primary key. -/
  ids : (s.table.map OutboxEvent.id).Nodup
  /-- A drain holds rows of the table. -/
  held : ∀ d drain, s.drains d = some drain → ∀ row ∈ drain.phase.rows, Stored s.table row
  /-- What a drain has sent has been accepted. -/
  sent : ∀ d drain, s.drains d = some drain → ∀ broker, ∀ row ∈ drain.phase.sentTo broker,
    OutboxRelay.message row broker ∈ s.accepted
  /-- What has been accepted is about rows of the table. -/
  accepted : ∀ message ∈ s.accepted, FromTable s.table message
  /-- So is what may still be accepted. -/
  abandoned : ∀ d, ∀ message ∈ s.abandoned d, FromTable s.table message
  /-- What is stamped has been accepted by both brokers. -/
  stamped : ∀ row ∈ s.table, row.publishedAt.isSome = true → ∀ broker,
    OutboxRelay.message row broker ∈ s.accepted

/-- It holds of the empty table. -/
theorem RowInvariant.initial : RowInvariant RelayState.initial where
  ids := List.nodup_nil
  held := fun _ _ held => nomatch held
  sent := fun _ _ held => nomatch held
  accepted := fun _ member => nomatch member
  abandoned := fun _ _ member => nomatch member
  stamped := fun _ member => nomatch member

/-- Rows are never removed. -/
theorem stored_of_effect {s s' : RelayState} {a : RelayAction} (effect : RelayEffect s a s') :
    ∀ row ∈ s.table, Stored s'.table row := by
  intro row member
  cases effect with
  | staged => exact ⟨row, List.mem_append_left _ member, rfl⟩
  | committed => exact ⟨_, List.mem_map_of_mem member, stampRow_event _ row⟩
  | crashed crash => cases crash; exact ⟨row, member, rfl⟩
  | _ => exact ⟨row, member, rfl⟩

/-- Acceptance is never undone. -/
theorem accepted_of_effect {s s' : RelayState} {a : RelayAction} (effect : RelayEffect s a s') :
    ∀ message ∈ s.accepted, message ∈ s'.accepted := by
  intro message member
  cases effect with
  | accepted => exact List.mem_append_left _ member
  | late => exact List.mem_append_left _ member
  | crashed crash => cases crash; exact member
  | _ => exact member

/-- A row of the table afterwards is a row of the table before, possibly stamped
by a commit that had sent it, or a new and unstamped one. -/
theorem row_of_effect {s s' : RelayState} {a : RelayAction} (effect : RelayEffect s a s')
    {row' : OutboxEvent} (member' : row' ∈ s'.table) :
    row'.publishedAt = none ∨ ∃ row ∈ s.table, row.event = row'.event ∧
      (row.publishedAt = row'.publishedAt ∨ ∃ d i stamped, a = .commit d ∧
        s.drains d = some ⟨i, true, .committing stamped⟩ ∧ row' = stampRow stamped row) := by
  cases effect with
  | staged =>
      rcases List.mem_append.mp member' with member | new
      · exact Or.inr ⟨row', member, rfl, Or.inl rfl⟩
      · rw [List.mem_singleton.mp new]
        exact Or.inl rfl
  | committed held =>
      obtain ⟨row, member, rfl⟩ := List.mem_map.mp member'
      exact Or.inr ⟨row, member, (stampRow_event _ row).symm,
        Or.inr ⟨_, _, _, rfl, held, rfl⟩⟩
  | crashed crash => cases crash; exact Or.inr ⟨row', member', rfl, Or.inl rfl⟩
  | _ => exact Or.inr ⟨row', member', rfl, Or.inl rfl⟩

/-- A row afterwards is a row before, up to its stamp, or is being written. -/
theorem origin_of_effect {s s' : RelayState} {a : RelayAction} (effect : RelayEffect s a s')
    {row' : OutboxEvent} (member' : row' ∈ s'.table) :
    (∃ row ∈ s.table, row.event = row'.event) ∨
      ∃ id type workOrder context, a = .write id type workOrder context ∧
        (∀ row ∈ s.table, row.eventId ≠ context.eventId) ∧
        row' = WorkOrderEventsOutbox.stagedRow id type workOrder context ∧
        s' = { s with
          table := s.table ++ [WorkOrderEventsOutbox.stagedRow id type workOrder context] } := by
  cases effect with
  | @staged id type workOrder context fresh =>
      rcases List.mem_append.mp member' with member | new
      · exact Or.inl ⟨row', member, rfl⟩
      · exact Or.inr ⟨id, type, workOrder, context, rfl, fun row member => (fresh row member).2,
          List.mem_singleton.mp new, rfl⟩
  | committed =>
      obtain ⟨row, member, rfl⟩ := List.mem_map.mp member'
      exact Or.inl ⟨row, member, (stampRow_event _ row).symm⟩
  | crashed crash => cases crash; exact Or.inl ⟨row', member', rfl⟩
  | _ => exact Or.inl ⟨row', member', rfl⟩

/-- What a key says of a row is not in its stamp, so keys that are unique stay
unique if the row being written has a new one. -/
theorem nodup_of_effect {κ : Type} {key : OutboxEvent → κ} {s s' : RelayState} {a : RelayAction}
    (effect : RelayEffect s a s')
    (unstamped : ∀ row row' : OutboxEvent, row.event = row'.event → key row = key row')
    (fresh : ∀ id type workOrder context, a = .write id type workOrder context →
      (∀ row ∈ s.table, row.id ≠ id ∧ row.eventId ≠ context.eventId) → ∀ row ∈ s.table,
        key row ≠ key (WorkOrderEventsOutbox.stagedRow id type workOrder context))
    (nodup : (s.table.map key).Nodup) : (s'.table.map key).Nodup := by
  cases effect with
  | staged new =>
      rw [List.map_append, List.map_singleton, ← List.concat_eq_append]
      refine List.Nodup.concat ?_ nodup
      intro member
      obtain ⟨row, isRow, same⟩ := List.mem_map.mp member
      exact fresh _ _ _ _ rfl new row isRow same
  | @committed d i stamped =>
      have same : key ∘ stampRow stamped = key := by
        funext row
        exact unstamped _ _ (stampRow_event stamped row)
      rw [List.map_map, same]
      exact nodup
  | crashed crash => cases crash; exact nodup
  | _ => exact nodup

/-- The database assigns no id twice. -/
theorem ids_of_effect {s s' : RelayState} {a : RelayAction} (effect : RelayEffect s a s')
    (ids : (s.table.map OutboxEvent.id).Nodup) : (s'.table.map OutboxEvent.id).Nodup := by
  refine nodup_of_effect effect (fun _ _ same => OutboxEvent.id_eq same) ?_ ids
  intro id type workOrder context _ new row member
  exact (new row member).1

/-- No event id is drawn twice. -/
theorem eventIds_of_effect {s s' : RelayState} {a : RelayAction} (effect : RelayEffect s a s')
    (eventIds : (s.table.map OutboxEvent.eventId).Nodup) :
    (s'.table.map OutboxEvent.eventId).Nodup := by
  refine nodup_of_effect effect (fun _ _ same => OutboxEvent.eventId_eq same) ?_ eventIds
  intro id type workOrder context _ new row member
  exact (new row member).2

/-- The payload of every row carries the row's own event id. -/
theorem payloads_of_effect {s s' : RelayState} {a : RelayAction} (effect : RelayEffect s a s')
    (payloads : ∀ row ∈ s.table, row.payload.eventId = row.eventId) :
    ∀ row ∈ s'.table, row.payload.eventId = row.eventId := by
  intro row' member'
  rcases origin_of_effect effect member' with ⟨row, member, same⟩ | ⟨_, _, _, _, rfl, -, rfl, -⟩
  · rw [← OutboxEvent.payload_eq same, payloads row member]
    exact OutboxEvent.eventId_eq same
  · rfl

/-- The message may still be accepted. -/
def RelayState.Pending (s : RelayState) (message : Message) : Prop :=
  (∃ d, message ∈ s.abandoned d) ∨
    ∃ d drain, s.drains d = some drain ∧ message ∈ drain.phase.inFlight

/-- What is abandoned was pending. -/
theorem pending_of_abandoned {s s' : RelayState} {a : RelayAction} (effect : RelayEffect s a s')
    {d : DrainId} {message : Message} (member : message ∈ s'.abandoned d) : s.Pending message := by
  cases effect with
  | @failed e i connected phase thrown held =>
      change message ∈ Function.update s.abandoned e (phase.inFlight ++ s.abandoned e) d at member
      by_cases same : d = e
      · subst same
        rw [Function.update_self] at member
        rcases List.mem_append.mp member with new | before
        · exact Or.inr ⟨d, _, held, new⟩
        · exact Or.inl ⟨d, before⟩
      · rw [Function.update_of_ne same] at member
        exact Or.inl ⟨d, member⟩
  | crashed crash =>
      cases crash
      cases held : s.drains d with
      | none =>
          simp only [held] at member
          exact Or.inl ⟨d, member⟩
      | some drain =>
          simp only [held] at member
          split_ifs at member with mine
          · rcases List.mem_append.mp member with new | before
            · exact Or.inr ⟨d, drain, held, new⟩
            · exact Or.inl ⟨d, before⟩
          · exact Or.inl ⟨d, member⟩
  | _ => exact Or.inl ⟨d, member⟩

/-- What is accepted was pending. -/
theorem accepted_cases {s s' : RelayState} {a : RelayAction} (effect : RelayEffect s a s') :
    s'.accepted = s.accepted ∨
      ∃ message, s'.accepted = s.accepted ++ [message] ∧ s.Pending message := by
  cases effect with
  | accepted held => exact Or.inr ⟨_, rfl, Or.inr ⟨_, _, held, List.mem_singleton_self _⟩⟩
  | late abandoned => exact Or.inr ⟨_, rfl, Or.inl ⟨_, abandoned⟩⟩
  | crashed crash => cases crash; exact Or.inl rfl
  | _ => exact Or.inl rfl

/-- Rows with one id are one row. -/
theorem RowInvariant.eq_of_id {s : RelayState} (invariant : RowInvariant s)
    {row row' : OutboxEvent} (member : row ∈ s.table) (member' : row' ∈ s.table)
    (same : row.id = row'.id) : row = row' :=
  List.inj_on_of_nodup_map invariant.ids member member' same

/-- What may still be accepted is about rows of the table. -/
theorem RowInvariant.fromTable_of_pending {s : RelayState} (invariant : RowInvariant s)
    {message : Message} (pending : s.Pending message) : FromTable s.table message := by
  rcases pending with ⟨d, abandoned⟩ | ⟨d, drain, held, inFlight⟩
  · exact invariant.abandoned d message abandoned
  · obtain ⟨row, isRow, broker, rfl⟩ := Phase.exists_of_mem_inFlight inFlight
    exact (invariant.held d drain held row isRow).fromTable broker

/-- What a drain holds, it held before, or it is a row of the table. -/
theorem held_of_effect {s s' : RelayState} {a : RelayAction} (effect : RelayEffect s a s')
    {d : DrainId} {drain' : Drain} (held' : s'.drains d = some drain') {row : OutboxEvent}
    (member : row ∈ drain'.phase.rows) :
    (∃ drain, s.drains d = some drain ∧ row ∈ drain.phase.rows) ∨ row ∈ s.table := by
  cases phaseChange_of_effect effect held' with
  | kept held same => exact Or.inl ⟨_, held, same ▸ member⟩
  | advanced held advance => exact Or.inl ⟨_, held, advance.rows_eq ▸ member⟩
  | locked held here isRow here' =>
      rw [here'] at member
      rcases List.mem_append.mp member with before | new
      · exact Or.inl ⟨_, held, by rw [here]; exact before⟩
      · exact Or.inr (List.mem_singleton.mp new ▸ isRow)
  | accepted held here _ here' =>
      rw [here'] at member
      exact Or.inl ⟨_, held, by rw [here]; exact member⟩
  | entered here =>
      rw [here] at member
      cases member
  | ended here =>
      rw [here] at member
      cases member

/-- What a drain has sent, it had sent before, or the broker has just accepted it. -/
theorem sentTo_of_effect {s s' : RelayState} {a : RelayAction} (effect : RelayEffect s a s')
    {d : DrainId} {drain' : Drain} (held' : s'.drains d = some drain') {row : OutboxEvent}
    {broker : Broker} (member : row ∈ drain'.phase.sentTo broker) :
    (∃ drain, s.drains d = some drain ∧ row ∈ drain.phase.sentTo broker) ∨
      OutboxRelay.message row broker ∈ s'.accepted := by
  cases phaseChange_of_effect effect held' with
  | kept held same => exact Or.inl ⟨_, held, same ▸ member⟩
  | advanced held advance => exact Or.inl ⟨_, held, advance.sentTo_eq broker ▸ member⟩
  | accepted held here received here' =>
      rw [here'] at member
      rcases Phase.mem_sentTo_accepted member with sent | ⟨rfl, rfl⟩
      · exact Or.inl ⟨_, held, by rw [here]; exact sent⟩
      · exact Or.inr received
  | locked _ _ _ here' =>
      rw [here'] at member
      cases member
  | entered here =>
      rw [here] at member
      cases member
  | ended here =>
      rw [here] at member
      cases member

/-- Every step keeps it: claims come from the table, acceptances from claims, and stamps
from acceptances. -/
theorem RowInvariant.step {s s' : RelayState} {a : RelayAction} (invariant : RowInvariant s)
    (moved : relays.step s a = some s') : RowInvariant s' := by
  have effect := relayEffect_of_step moved
  have kept := stored_of_effect effect
  constructor
  case ids => exact ids_of_effect effect invariant.ids
  case held =>
    intro d drain held' row member
    rcases held_of_effect effect held' member with ⟨before, held, member⟩ | isRow
    · exact (invariant.held d before held row member).mono kept
    · exact kept row isRow
  case sent =>
    intro d drain held' broker row member
    rcases sentTo_of_effect effect held' member with ⟨before, held, member⟩ | received
    · exact accepted_of_effect effect _ (invariant.sent d before held broker row member)
    · exact received
  case accepted =>
    intro message member
    rcases accepted_cases effect with unchanged | ⟨new, grown, pending⟩
    · rw [unchanged] at member
      exact (invariant.accepted message member).mono kept
    · rw [grown] at member
      rcases List.mem_append.mp member with before | isNew
      · exact (invariant.accepted message before).mono kept
      · rw [List.mem_singleton.mp isNew]
        exact (invariant.fromTable_of_pending pending).mono kept
  case abandoned =>
    intro d message member
    exact (invariant.fromTable_of_pending (pending_of_abandoned effect member)).mono kept
  case stamped =>
    intro row' member' isSome broker
    rcases row_of_effect effect member' with
      unpublished | ⟨row, member, same, unchanged | ⟨d, i, stamped, rfl, held, rfl⟩⟩
    · rw [unpublished] at isSome
      cases isSome
    · rw [← unchanged] at isSome
      rw [← message_eq same]
      exact accepted_of_effect effect _ (invariant.stamped row member isSome broker)
    · rw [← message_eq same]
      apply accepted_of_effect effect
      rcases stamped_of_stampRow isSome with before | ⟨claimed, isClaimed, sameId⟩
      · exact invariant.stamped row member before broker
      · -- the claimed version and the current one are versions of the same row
        obtain ⟨row'', member'', same''⟩ := invariant.held d _ held claimed isClaimed
        obtain rfl := invariant.eq_of_id member'' member
          ((OutboxEvent.id_eq same'').trans sameId)
        rw [message_eq same'']
        exact invariant.sent d _ held broker claimed isClaimed

/-! ## Locks -/

/-- Locks and open transactions say the same. -/
structure LockInvariant (s : RelayState) : Prop where
  /-- A lock is held by an open transaction that has claimed the row. -/
  owned : ∀ id d, s.locks id = some d → ∃ drain, s.drains d = some drain ∧ drain.Open ∧
    ∃ row ∈ drain.phase.rows, row.id = id
  /-- An open transaction holds the locks of the rows it has claimed. -/
  locked : ∀ d drain, s.drains d = some drain → drain.Open → ∀ row ∈ drain.phase.rows,
    s.locks row.id = some d

/-- No row is locked at first. -/
theorem LockInvariant.initial : LockInvariant RelayState.initial where
  owned := fun _ _ held => nomatch held
  locked := fun _ _ held => nomatch held

/-- When a transaction ends, the locks of the others stay. -/
theorem release_locks_eq_some {s : RelayState} {d e : DrainId} {id : ℕ} :
    (s.release d).locks id = some e ↔ s.locks id = some e ∧ e ≠ d := by
  show (if s.locks id = some d then none else s.locks id) = some e ↔ _
  split_ifs with mine
  · rw [mine]
    constructor
    · intro held
      cases held
    · rintro ⟨same, other⟩
      exact absurd (Option.some.inj same).symm other
  · refine ⟨fun held => ⟨held, ?_⟩, And.left⟩
    rintro rfl
    exact mine held

/-- Which locks a crash leaves. -/
theorem locks_of_crash {s s' : RelayState} {i : InstanceId} (crash : s.step (.crash i) = some s')
    {id : ℕ} {d : DrainId} :
    s'.locks id = some d ↔ s.locks id = some d ∧ s.owner d ≠ some i := by
  cases crash
  show (if (s.locks id).bind s.owner = some i then none else s.locks id) = some d ↔ _
  split_ifs with mine
  · constructor
    · intro held
      cases held
    · rintro ⟨held, other⟩
      rw [held] at mine
      exact absurd mine other
  · refine ⟨fun held => ⟨held, ?_⟩, And.left⟩
    rw [held] at mine
    exact mine

/-- A drain whose locks stay and whose transaction stays open keeps what it owns
when only its phase moves on. -/
theorem LockInvariant.owned_set {s : RelayState} (invariant : LockInvariant s) {d : DrainId}
    {drain : Drain} (drain' : Drain) (held : s.drains d = some drain)
    (rows : ∀ row ∈ drain.phase.rows, row ∈ drain'.phase.rows)
    (stays : drain.Open → drain'.Open) {id : ℕ} {e : DrainId} (locked : s.locks id = some e) :
    ∃ x, (s.set d drain').drains e = some x ∧ x.Open ∧ ∃ row ∈ x.phase.rows, row.id = id := by
  obtain ⟨x, heldE, isOpen, row, member, same⟩ := invariant.owned id e locked
  by_cases here : e = d
  · subst here
    rw [held] at heldE
    cases heldE
    exact ⟨drain', set_drains_eq_some.mpr (Or.inl ⟨rfl, rfl⟩), stays isOpen, row,
      rows row member, same⟩
  · exact ⟨x, set_drains_eq_some.mpr (Or.inr ⟨here, heldE⟩), isOpen, row, member, same⟩

/-- So do all locks when a drain moves on without claiming a row. -/
theorem LockInvariant.of_moved {s : RelayState} (invariant : LockInvariant s) {d : DrainId}
    {drain : Drain} (drain' : Drain) (held : s.drains d = some drain)
    (rows : drain'.phase.rows = drain.phase.rows) (isOpen : drain'.Open ↔ drain.Open) :
    LockInvariant (s.set d drain') where
  owned := by
    intro id e locked
    exact invariant.owned_set drain' held (fun row member => by rwa [rows]) isOpen.mpr locked
  locked := by
    intro e x held' isOpen' row member
    rcases set_drains_eq_some.mp held' with ⟨rfl, rfl⟩ | ⟨-, held'⟩
    · rw [rows] at member
      exact invariant.locked e drain held (isOpen.mp isOpen') row member
    · exact invariant.locked e x held' isOpen' row member

/-- The locks of the other transactions survive the end of one. -/
theorem LockInvariant.of_release {s : RelayState} (invariant : LockInvariant s) (d : DrainId)
    (drain' : Drain) (ends : ¬ drain'.Open) : LockInvariant ((s.set d drain').release d) where
  owned := by
    intro id e locked
    obtain ⟨locked, other⟩ := release_locks_eq_some.mp locked
    obtain ⟨x, held, rest⟩ := invariant.owned id e locked
    exact ⟨x, set_drains_eq_some.mpr (Or.inr ⟨other, held⟩), rest⟩
  locked := by
    intro e x held isOpen row member
    rcases set_drains_eq_some.mp held with ⟨rfl, rfl⟩ | ⟨other, held⟩
    · exact absurd isOpen ends
    · exact release_locks_eq_some.mpr ⟨invariant.locked e x held isOpen row member, other⟩

/-- Every step keeps it. The three ways to lose a lock (an end, a lost connection, a crash)
end the transaction as well. -/
theorem LockInvariant.step {s s' : RelayState} {a : RelayAction} (invariant : LockInvariant s)
    (moved : relays.step s a = some s') : LockInvariant s' := by
  cases relayEffect_of_step moved with
  | staged => exact ⟨invariant.owned, invariant.locked⟩
  | skippedTick => exact invariant
  | @entered i d idle fresh =>
      constructor
      · intro id e locked
        obtain ⟨x, held, rest⟩ := invariant.owned id e locked
        refine ⟨x, set_drains_eq_some.mpr (Or.inr ⟨?_, held⟩), rest⟩
        rintro rfl
        rw [fresh] at held
        cases held
      · -- a drain that begins holds no lock
        intro e x held isOpen row member
        rcases set_drains_eq_some.mp held with ⟨rfl, rfl⟩ | ⟨-, held⟩
        · cases member
        · exact invariant.locked e x held isOpen row member
  | @advanced _ d i connected phase phase' held advance =>
      refine invariant.of_moved ⟨i, connected, phase'⟩ held advance.rows_eq ?_
      exact ⟨fun isOpen => ⟨isOpen.1, advance.not_ended.1⟩,
        fun isOpen => ⟨isOpen.1, advance.not_ended.2⟩⟩
  | @locked d i rest rows row free held =>
      constructor
      · intro id e locked
        rcases update_some_eq_some.mp locked with ⟨rfl, rfl⟩ | ⟨-, locked⟩
        · exact ⟨_, set_drains_eq_some.mpr (Or.inl ⟨rfl, rfl⟩), ⟨rfl, rfl⟩, row,
            List.mem_append_right _ (List.mem_singleton_self row), rfl⟩
        · exact invariant.owned_set ⟨i, true, .locking rest (rows ++ [row])⟩ held
            (fun row' member => List.mem_append_left _ member)
            (fun isOpen => ⟨isOpen.1, rfl⟩) locked
      · intro e x held' isOpen row' member
        apply update_some_eq_some.mpr
        rcases set_drains_eq_some.mp held' with ⟨rfl, rfl⟩ | ⟨-, held'⟩
        · by_cases same : row'.id = row.id
          · exact Or.inl ⟨same, rfl⟩
          · refine Or.inr ⟨same, ?_⟩
            rcases List.mem_append.mp member with before | new
            · exact invariant.locked e _ held ⟨rfl, rfl⟩ row' before
            · exact absurd (congrArg OutboxEvent.id (List.mem_singleton.mp new)) same
        · -- another transaction's lock is not on the row that was free
          have locked := invariant.locked e x held' isOpen row' member
          refine Or.inr ⟨?_, locked⟩
          intro same
          rw [same, free] at locked
          cases locked
  | @accepted d i connected broker batch held =>
      have rest := invariant.of_moved ⟨i, connected, .sending broker batch true⟩ held rfl
        ⟨fun isOpen => ⟨isOpen.1, rfl⟩, fun isOpen => ⟨isOpen.1, rfl⟩⟩
      exact ⟨rest.owned, rest.locked⟩
  | @committed d i stamped held =>
      have rest := invariant.of_release d ⟨i, true, .ended (.ok ())⟩ fun isOpen => nomatch isOpen.2
      exact ⟨rest.owned, rest.locked⟩
  | @failed d i connected phase thrown held =>
      have rest := invariant.of_release d ⟨i, connected, .ended (.error thrown)⟩
        fun isOpen => nomatch isOpen.2
      exact ⟨rest.owned, rest.locked⟩
  | @disconnected d i phase held =>
      exact invariant.of_release d ⟨i, false, phase⟩ fun isOpen => nomatch isOpen.1
  | @finished d i connected result held =>
      constructor
      · intro id e locked
        obtain ⟨x, heldE, isOpen, rest⟩ := invariant.owned id e locked
        refine ⟨x, update_none_eq_some.mpr ⟨?_, heldE⟩, isOpen, rest⟩
        rintro rfl
        rw [held] at heldE
        cases heldE
        cases isOpen.2
      · intro e x held' isOpen row member
        exact invariant.locked e x (update_none_eq_some.mp held').2 isOpen row member
  | @crashed i _ crash =>
      constructor
      · intro id e locked
        obtain ⟨locked, other⟩ := (locks_of_crash crash).mp locked
        obtain ⟨x, held, rest⟩ := invariant.owned id e locked
        refine ⟨x, (drains_of_crash crash).mpr ⟨held, ?_⟩, rest⟩
        rintro rfl
        exact other (by rw [RelayState.owner, held]; rfl)
      · intro e x held isOpen row member
        obtain ⟨held, other⟩ := (drains_of_crash crash).mp held
        refine (locks_of_crash crash).mpr ⟨invariant.locked e x held isOpen row member, ?_⟩
        unfold RelayState.owner
        rw [held]
        exact fun same => other (Option.some.inj same)
  | late => exact ⟨invariant.owned, invariant.locked⟩

/-! ## The draining flags -/

/-- The flag of an instance is up exactly while a drain of it is in progress, of
which there is never more than one; and a drain that came back lowered it. -/
structure FlagInvariant (s : RelayState) : Prop where
  /-- The flag is up exactly while a drain is in progress. -/
  flag : ∀ i, s.draining i = true ↔ ∃ d, s.owner d = some i
  /-- A tick that finds the flag up starts none. -/
  single : ∀ d d' i, s.owner d = some i → s.owner d' = some i → d = d'
  /-- No error leaves `drain`, and the flag is down when it returns. -/
  returned : ∀ r ∈ s.returned, r.result = .ok () ∧ r.draining = false

/-- No flag is up at first. -/
theorem FlagInvariant.initial : FlagInvariant RelayState.initial where
  flag := fun _ => ⟨(fun busy => nomatch busy), (fun ⟨_, held⟩ => nomatch held)⟩
  single := fun _ _ _ held => nomatch held
  returned := fun _ member => nomatch member

/-- What one action does to the drains in progress and the flags. -/
inductive FlagChange (s s' : RelayState) : Prop where
  /-- The drains are the same, in whatever phases. -/
  | same (owner : s'.owner = s.owner) (draining : s'.draining = s.draining)
  /-- A drain begins, on an instance that had none. -/
  | entered {d i} (idle : s.draining i = false) (fresh : s.owner d = none)
      (owner : s'.owner = Function.update s.owner d (some i))
      (draining : s'.draining = Function.update s.draining i true)
  /-- A drain returns. -/
  | finished {d i} (mine : s.owner d = some i) (owner : s'.owner = Function.update s.owner d none)
      (draining : s'.draining = Function.update s.draining i false)
  /-- An instance dies, with all its drains. -/
  | crashed {i} (owner : s'.owner = fun d => if s.owner d = some i then none else s.owner d)
      (draining : s'.draining = Function.update s.draining i false)

/-- Moving a drain changes the owner of that drain only. -/
theorem owner_set (s : RelayState) (d : DrainId) (drain : Drain) :
    (s.set d drain).owner = Function.update s.owner d (some drain.owner) := by
  funext e
  by_cases same : e = d
  · subst same
    simp [RelayState.owner, RelayState.set]
  · simp [RelayState.owner, RelayState.set, same]

/-- A drain that moves on keeps its owner. -/
theorem owner_set_of_held {s : RelayState} {d : DrainId} {drain drain' : Drain}
    (held : s.drains d = some drain) (same : drain'.owner = drain.owner) :
    (s.set d drain').owner = s.owner := by
  rw [owner_set, same, Function.update_eq_self_iff, RelayState.owner, held]
  rfl

/-- **What a step does to the flags.** -/
theorem flagChange_of_effect {s s' : RelayState} {a : RelayAction}
    (effect : RelayEffect s a s') : FlagChange s s' := by
  cases effect with
  | staged => exact .same rfl rfl
  | skippedTick => exact .same rfl rfl
  | entered idle fresh =>
      exact .entered idle (by rw [RelayState.owner, fresh]; rfl) (owner_set s _ _) rfl
  | advanced held => exact .same (owner_set_of_held held rfl) rfl
  | locked _ held => exact .same (owner_set_of_held held rfl) rfl
  | accepted held => exact .same (owner_set_of_held held rfl) rfl
  | committed held => exact .same (owner_set_of_held held rfl) rfl
  | failed held => exact .same (owner_set_of_held held rfl) rfl
  | disconnected held => exact .same (owner_set_of_held held rfl) rfl
  | @finished d i connected result held =>
      refine .finished (d := d) (i := i) (by rw [RelayState.owner, held]; rfl) ?_ rfl
      funext e
      by_cases same : e = d
      · subst same
        simp [RelayState.owner]
      · simp [RelayState.owner, same]
  | @crashed i _ crash =>
      cases crash
      refine .crashed (i := i) ?_ rfl
      funext d
      exact apply_ite (Option.map Drain.owner) (s.owner d = some i) none (s.drains d)
  | late => exact .same rfl rfl

/-- Every drain that came back resolved, and lowered the flag. -/
theorem returned_of_effect {s s' : RelayState} {a : RelayAction} (effect : RelayEffect s a s')
    {r : Return} (member : r ∈ s'.returned) :
    r ∈ s.returned ∨ (r.result = .ok () ∧ r.draining = false) := by
  cases effect with
  | finished =>
      rcases List.mem_append.mp member with before | new
      · exact Or.inl before
      · rw [List.mem_singleton.mp new]
        exact Or.inr ⟨rfl, Function.update_self _ _ _⟩
  | crashed crash => cases crash; exact Or.inl member
  | _ => exact Or.inl member

/-- Lowering the flag of an instance along with its drain. -/
theorem FlagInvariant.cleared {s s' : RelayState} (invariant : FlagInvariant s) {i : InstanceId}
    (owner : ∀ d j, s'.owner d = some j ↔ s.owner d = some j ∧ j ≠ i)
    (draining : s'.draining = Function.update s.draining i false)
    (returned : ∀ r ∈ s'.returned, r.result = .ok () ∧ r.draining = false) :
    FlagInvariant s' where
  flag := by
    intro j
    rw [draining]
    by_cases same : j = i
    · subst same
      rw [Function.update_self]
      exact iff_of_false Bool.false_ne_true fun ⟨d, held⟩ => ((owner d j).mp held).2 rfl
    · rw [Function.update_of_ne same, invariant.flag j]
      exact exists_congr fun d => ⟨fun held => (owner d j).mpr ⟨held, same⟩,
        fun held => ((owner d j).mp held).1⟩
  single := fun d d' j held held' =>
    invariant.single d d' j ((owner d j).mp held).1 ((owner d' j).mp held').1
  returned := returned

/-- Every step keeps it: the flag goes up with the drain and down with it. -/
theorem FlagInvariant.step {s s' : RelayState} {a : RelayAction} (invariant : FlagInvariant s)
    (moved : relays.step s a = some s') : FlagInvariant s' := by
  have effect := relayEffect_of_step moved
  have returned : ∀ r ∈ s'.returned, r.result = .ok () ∧ r.draining = false := by
    intro r member
    rcases returned_of_effect effect member with before | done
    · exact invariant.returned r before
    · exact done
  cases flagChange_of_effect effect with
  | same owner draining =>
      exact ⟨by rw [owner, draining]; exact invariant.flag,
        by rw [owner]; exact invariant.single, returned⟩
  | @entered d i idle fresh owner draining =>
      have noOther : ∀ e, s.owner e ≠ some i := by
        intro e held
        rw [(invariant.flag i).mpr ⟨e, held⟩] at idle
        cases idle
      refine ⟨fun j => ?_, fun e e' j held held' => ?_, returned⟩
      · rw [owner, draining]
        by_cases same : j = i
        · subst same
          rw [Function.update_self]
          exact iff_of_true rfl ⟨d, Function.update_self _ _ _⟩
        · rw [Function.update_of_ne same, invariant.flag j]
          refine exists_congr fun e => Iff.trans ?_ update_some_eq_some.symm
          refine ⟨fun held => Or.inr ⟨?_, held⟩, ?_⟩
          · rintro rfl
            rw [fresh] at held
            cases held
          · rintro (⟨-, rfl⟩ | ⟨-, held⟩)
            · exact absurd rfl same
            · exact held
      · rw [owner] at held held'
        rcases update_some_eq_some.mp held with ⟨rfl, rfl⟩ | ⟨-, before⟩ <;>
          rcases update_some_eq_some.mp held' with ⟨rfl, same⟩ | ⟨-, before'⟩
        · rfl
        · exact absurd before' (noOther e')
        · exact absurd (same ▸ before) (noOther e)
        · exact invariant.single e e' j before before'
  | @finished d i mine owner draining =>
      -- the drain that ends is the only one of its instance
      refine invariant.cleared (fun e j => ?_) draining returned
      rw [owner, update_none_eq_some]
      refine ⟨fun ⟨other, held⟩ => ⟨held, ?_⟩, fun ⟨held, other⟩ => ⟨?_, held⟩⟩
      · rintro rfl
        exact other (invariant.single e d j held mine)
      · rintro rfl
        rw [mine] at held
        exact other (Option.some.inj held).symm
  | @crashed i owner draining =>
      refine invariant.cleared (fun e j => ?_) draining returned
      rw [owner]
      show (if s.owner e = some i then none else s.owner e) = some j ↔ _
      split_ifs with mine
      · constructor
        · intro held
          cases held
        · rintro ⟨held, other⟩
          rw [mine] at held
          exact absurd (Option.some.inj held).symm other
      · refine ⟨fun held => ⟨held, ?_⟩, And.left⟩
        rintro rfl
        exact mine held

/-! ## Delivery -/

/-- An unstamped row can be selected by a later drain: the `WHERE` clause finds
it, and if it is locked, then by an open transaction, whose end unlocks it. -/
structure Selectable (s : RelayState) (row : OutboxEvent) : Prop where
  /-- The row is a candidate of the next `SELECT`. -/
  candidate : row.id ∈ candidates s.table
  /-- Whoever has its lock will give it back. -/
  unlocked : ∀ d, s.locks row.id = some d → ∃ drain, s.drains d = some drain ∧ drain.Open

/-- **What the relays guarantee of a state.** -/
structure Delivers (s : RelayState) : Prop where
  /-- Nothing is invented. -/
  genuine : ∀ message ∈ s.accepted, ∃ row ∈ s.table,
    message = .rabbit (OutboxRelay.publish row) ∨
      message = .kafka (WorkOrderAuditProducer.record row.payload)
  /-- What is stamped was delivered to both brokers, under the row's keys. -/
  delivered : ∀ row ∈ s.table, row.publishedAt ≠ none →
    (∃ message, Message.rabbit message ∈ s.accepted ∧ message.routingKey = row.type.text ∧
        message.messageId = row.eventId ∧ message.content = row.payload) ∧
      ∃ record, Message.kafka record ∈ s.accepted ∧
        record.key = row.payload.data.workOrderId.text ∧
          record.value = stringifyEvent row.payload
  /-- What is not stamped is not lost. -/
  selectable : ∀ row ∈ s.table, row.publishedAt = none → Selectable s row
  /-- A drain that came back resolved and lowered its flag. -/
  returned : ∀ r ∈ s.returned, r.result = .ok () ∧ r.draining = false
  /-- The flag is up only while a drain of the instance is in progress. -/
  flag : ∀ i, s.draining i = true ↔ ∃ d drain, s.drains d = some drain ∧ drain.owner = i

/-- What the `SELECT` finds. -/
theorem mem_candidates {table : List OutboxEvent} {id : ℕ} :
    id ∈ candidates table ↔ ∃ row ∈ table, row.publishedAt = none ∧ row.id = id := by
  unfold candidates
  rw [List.mem_insertionSort, List.mem_map]
  simp only [List.mem_filter, decide_eq_true_eq, and_assoc]

/-- The three invariants give the four facts. -/
theorem RowInvariant.delivers {s : RelayState} (rows : RowInvariant s) (locks : LockInvariant s)
    (flags : FlagInvariant s) : Delivers s where
  genuine := by
    intro message member
    obtain ⟨row, isRow, broker, rfl⟩ := rows.accepted message member
    cases broker with
    | rabbit => exact ⟨row, isRow, Or.inl rfl⟩
    | kafka => exact ⟨row, isRow, Or.inr rfl⟩
  delivered := by
    intro row member isStamped
    have accepted := rows.stamped row member (Option.isSome_iff_ne_none.mpr isStamped)
    exact ⟨⟨_, accepted .rabbit, rfl, rfl, rfl⟩, ⟨_, accepted .kafka, rfl, rfl⟩⟩
  selectable := by
    intro row member unpublished
    refine ⟨mem_candidates.mpr ⟨row, member, unpublished, rfl⟩, ?_⟩
    intro d locked
    obtain ⟨drain, held, isOpen, -⟩ := locks.owned row.id d locked
    exact ⟨drain, held, isOpen⟩
  returned := flags.returned
  flag := by
    intro i
    rw [flags.flag i]
    exact exists_congr fun d => Option.map_eq_some_iff

/-- **The relays neither lose nor invent events.** -/
theorem delivers_of_reachable (s : RelayState)
    (reached : relays.Reachable RelayState.initial s) : Delivers s := by
  have rows : RowInvariant s := Machine.Reachable.invariant relays
    (fun invariant moved => invariant.step moved) RowInvariant.initial reached
  have locks : LockInvariant s := Machine.Reachable.invariant relays
    (fun invariant moved => invariant.step moved) LockInvariant.initial reached
  have flags : FlagInvariant s := Machine.Reachable.invariant relays
    (fun invariant moved => invariant.step moved) FlagInvariant.initial reached
  exact rows.delivers locks flags

/-- One row is staged and drained: sent to both brokers, stamped, committed. -/
def stagedAndDrained : List RelayAction :=
  [ .write 1 .created openOrder (CommitContext.first.stageContext none), .tick 0 0, .select 0,
    .lock 0, .lock 0, .accept 0, .resolve 0, .accept 0, .resolve 0, .stamp 0 .epoch, .commit 0,
    .finish 0 ]

/-- The same row, with faults.  What the first drain publishes is rejected, and RabbitMQ has
it after all; the relay of the second one dies before it can send the record; the third
drain goes through. -/
def interruptedDrains : List RelayAction :=
  stagedAndDrained.take 5 ++
    [ .fail 0 (.error "Connection lost"), .finish 0,
      .acceptLate 0 (OutboxRelay.message (WorkOrderEventsOutbox.stagedRow 1 .created openOrder
        (CommitContext.first.stageContext none)) .rabbit),
      .tick 1 1, .select 1, .lock 1, .lock 1, .accept 1, .resolve 1, .crash 1,
      .tick 0 2, .select 2, .lock 2, .lock 2, .accept 2, .resolve 2, .accept 2, .resolve 2,
      .stamp 2 .epoch, .commit 2, .finish 2 ]

/-- Twice published, once recorded, and stamped at last. -/
theorem delivers_interruptedDrains :
    Delivers ((relays.run .initial interruptedDrains).get (by decide +kernel)) :=
  delivers_of_reachable _ ⟨interruptedDrains, (Option.some_get _).symm⟩

end PropFlow
