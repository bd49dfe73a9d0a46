import PropFlow.EventJson
import PropFlow.Library.Machine
import PropFlow.Library.PartialMap
import PropFlow.WorkOrders.Outbox
import Mathlib.Data.List.Sort

/-!
# The outbox relay

`OutboxRelay.drain`, cut at every `await`: any number of relay instances, each
with its own `draining` flag, over one outbox table, beside writers that stage
rows.

## The model

* `Phase` — where a drain is: which promise it awaits, with the rows it has claimed and
  the stamps it has made so far;
* `RelayState` — the table, its row locks, the drains, the flags, and what the two
  brokers have accepted;
* `RelayAction` — one step of a drain, of a writer, of a broker, or a fault;
* `relays` — the machine of these.

An action that is not possible in a state has no successor there, so a run says only
what can happen.  Any interleaving of the actions is a run.

## What Postgres does

What it does for the `SELECT … FOR UPDATE SKIP LOCKED` is spelled out, because the
exclusivity of relays rests on it (`RelayState.lockNext`).  The candidates are those of
the statement's snapshot, in id order.  They are then locked one at a time: a locked row
is skipped, a row that changed since the snapshot is checked again against
`published_at IS NULL`, and the scan stops at the limit.  Row locks last until the
transaction ends, however it ends.

## What a broker does

It *accepts* a message at some point after the call has started; the promise of the call
can only resolve after that, and can be rejected before or after.  A call that was
abandoned, by a rejection or by a crash, may still be accepted later.

## What can go wrong

A drain can be rejected at any `await`, its connection can die without its notice, and
its process can die.  In each case the transaction is rolled back, with its stamps, and
its locks are gone; what the brokers have accepted stays accepted.

`RelayEffect` says once what an action can do, and `relayEffect_of_step` that nothing
else happens.  Every invariant of the relays is derived from these two.
-/

namespace PropFlow

open Library Library.CivilTime

/-! ## Messages -/

/-- A message on the events exchange. -/
structure RabbitMessage where
  exchange : String
  routingKey : String
  messageId : Uuid
  content : WorkOrderEvent
  persistent : Bool
deriving DecidableEq

/-- What a broker accepts. -/
inductive Message where
  | rabbit (message : RabbitMessage)
  | kafka (record : KafkaRecord)
deriving DecidableEq

/-- The two brokers an event goes to, in this order. -/
inductive Broker where
  | rabbit
  | kafka
deriving DecidableEq, Repr

/-- `amqp.publish(EXCHANGES.EVENTS, row.type, row.payload, …)`. -/
def OutboxRelay.publish (row : OutboxEvent) : RabbitMessage where
  exchange := Exchanges.events
  routingKey := row.type.text
  messageId := row.eventId
  content := row.payload
  persistent := true

/-- What the loop sends to a broker about a row. -/
def OutboxRelay.message (row : OutboxEvent) : Broker → Message
  | .rabbit => .rabbit (publish row)
  | .kafka => .kafka (WorkOrderAuditProducer.record row.payload)

/-! ## A drain -/

/-- A relay, one per service instance. -/
abbrev InstanceId := ℕ

/-- A call of `drain` that got past its guard. -/
abbrev DrainId := ℕ

/-- `BATCH_SIZE`. -/
def batchSize : ℕ := 20

/-- The `for` loop over the claimed rows: those already stamped, the current one,
and those to come. -/
structure Batch where
  /-- The rows that have been sent, with the time that is to be their `publishedAt`. -/
  stamped : List (OutboxEvent × Instant)
  /-- The row that is sent or stamped now. -/
  row : OutboxEvent
  /-- The rows to come, in the order of their ids. -/
  rest : List OutboxEvent
deriving DecidableEq

/-- The rows the `SELECT` returned. -/
def Batch.rows (batch : Batch) : List OutboxEvent :=
  batch.stamped.map Prod.fst ++ batch.row :: batch.rest

/-- Where a drain is. -/
inductive Phase where
  /-- The transaction is open, the `SELECT` has not run. -/
  | selecting
  /-- The `SELECT` is locking its candidates. -/
  | locking (candidates : List ℕ) (rows : List OutboxEvent)
  /-- A broker call about the current row is awaited. -/
  | sending (broker : Broker) (batch : Batch) (accepted : Bool)
  /-- The `UPDATE` of the current row is awaited. -/
  | stamping (batch : Batch)
  /-- The `COMMIT` is awaited. -/
  | committing (stamped : List (OutboxEvent × Instant))
  /-- The transaction has ended; `catch` and `finally` are still to run. -/
  | ended (result : Except Thrown Unit)

/-- The loop, on the rows still to send. -/
def OutboxRelay.loop (stamped : List (OutboxEvent × Instant)) : List OutboxEvent → Phase
  | [] => .committing stamped
  | row :: rest => .sending .rabbit { stamped, row, rest } false

/-- The rows a drain holds: what the `SELECT` has claimed so far. -/
def Phase.rows : Phase → List OutboxEvent
  | .selecting => []
  | .locking _ rows => rows
  | .sending _ batch _ => batch.rows
  | .stamping batch => batch.rows
  | .committing stamped => stamped.map Prod.fst
  | .ended _ => []

/-- The rows a broker has accepted from this drain. -/
def Phase.sentTo (broker : Broker) : Phase → List OutboxEvent
  | .sending current batch accepted =>
      batch.stamped.map Prod.fst ++
        if (current = broker ∧ accepted = true) ∨ (current = .kafka ∧ broker = .rabbit) then
          [batch.row]
        else []
  | .stamping batch => batch.stamped.map Prod.fst ++ [batch.row]
  | .committing stamped => stamped.map Prod.fst
  | _ => []

/-- The call that is in flight and not accepted. -/
def Phase.inFlight : Phase → List Message
  | .sending broker batch false => [OutboxRelay.message batch.row broker]
  | _ => []

/-- The transaction is over. -/
def Phase.isEnded : Phase → Bool
  | .ended _ => true
  | _ => false

/-- One drain. -/
structure Drain where
  /-- The instance whose timer has called `drain()`. -/
  owner : InstanceId
  /-- The database connection is up; without it the transaction is gone. -/
  connected : Bool
  /-- The promise that it awaits. -/
  phase : Phase

/-- The drain's transaction is open. -/
def Drain.Open (drain : Drain) : Prop := drain.connected = true ∧ drain.phase.isEnded = false

/-! ## Relays, writers and brokers -/

/-- How a drain came back: its result, and the flag as it left it. -/
structure Return where
  drain : DrainId
  /-- `drain` returns nothing; an error would have escaped its `catch`. -/
  result : Except Thrown Unit
  /-- The field `draining`, right after the `finally` clause. -/
  draining : Bool

/-- Everything the relays share, and where each of them is. -/
structure RelayState where
  /-- the committed rows of `outbox_events` -/
  table : List OutboxEvent
  /-- which transaction holds the lock of a row -/
  locks : ℕ → Option DrainId
  /-- the drains that have started and not returned -/
  drains : DrainId → Option Drain
  /-- the field `draining` of each instance -/
  draining : InstanceId → Bool
  /-- everything the brokers have accepted, in order -/
  accepted : List Message
  /-- calls that ended without acceptance -/
  abandoned : DrainId → List Message
  /-- what `logger.warn` was given -/
  warnings : List String
  /-- how each drain that has ended came back -/
  returned : List Return

/-- What can happen next. A step of a drain, unless it says otherwise, is that the promise
it awaits resolves. -/
inductive RelayAction where
  /-- A writer's transaction commits with a staged row. -/
  | write (id : ℕ) (type : WorkOrderEventType) (workOrder : WorkOrder) (context : StageContext)
  /-- The timer calls `drain()`. -/
  | tick (i : InstanceId) (d : DrainId)
  /-- The `SELECT` has found its candidates. -/
  | select (d : DrainId)
  /-- The `SELECT` looks at the next candidate, and claims it or skips it. -/
  | lock (d : DrainId)
  /-- The broker accepts the message in flight. -/
  | accept (d : DrainId)
  /-- The promise of the broker call resolves. -/
  | resolve (d : DrainId)
  /-- The `UPDATE` of the current row has run. -/
  | stamp (d : DrainId) (now : Instant)
  /-- The transaction commits, and its locks are gone. -/
  | commit (d : DrainId)
  /-- What the drain awaits is rejected, and its transaction rolled back. -/
  | fail (d : DrainId) (thrown : Thrown)
  /-- The database connection dies and the transaction is rolled back; the code
  has not noticed yet. -/
  | disconnect (d : DrainId)
  /-- The `catch` and `finally` clauses run and `drain` returns. -/
  | finish (d : DrainId)
  /-- The process dies, and a new one takes its place. -/
  | crash (i : InstanceId)
  /-- A broker accepts an abandoned call after all. -/
  | acceptLate (d : DrainId) (message : Message)

/-- The candidates of the `SELECT`: unpublished, in id order. -/
def candidates (table : List OutboxEvent) : List ℕ :=
  ((table.filter fun row => row.publishedAt = none).map OutboxEvent.id).insertionSort (· ≤ ·)

/-- The effect of the committed `UPDATE`s on a row. -/
def stampRow (stamped : List (OutboxEvent × Instant)) (row : OutboxEvent) : OutboxEvent :=
  match stamped.find? fun stamp => stamp.1.id = row.id with
  | some (_, now) => { row with publishedAt := some now }
  | none => row

namespace RelayState

/-- Nothing staged, nothing running. -/
def initial : RelayState where
  table := []
  locks := fun _ => none
  drains := fun _ => none
  draining := fun _ => false
  accepted := []
  abandoned := fun _ => []
  warnings := []
  returned := []

/-- A drain moves on. -/
def set (s : RelayState) (d : DrainId) (drain : Drain) : RelayState :=
  { s with drains := Function.update s.drains d (some drain) }

/-- The transaction of a drain ends: its locks are released. -/
def release (s : RelayState) (d : DrainId) : RelayState :=
  { s with locks := fun id => if s.locks id = some d then none else s.locks id }

/-- The next candidate of the `SELECT`. -/
def lockNext (s : RelayState) (d : DrainId) (i : InstanceId) (rows : List OutboxEvent) :
    List ℕ → RelayState
  | [] => s.set d ⟨i, true, OutboxRelay.loop [] rows⟩
  | id :: rest =>
      -- the LIMIT
      if rows.length = batchSize then s.set d ⟨i, true, OutboxRelay.loop [] rows⟩
      else
        match s.locks id, s.table.find? fun row => row.id = id with
        | none, some row =>
            if row.publishedAt = none then
              { s.set d ⟨i, true, .locking rest (rows ++ [row])⟩ with
                locks := Function.update s.locks id (some d) }
            -- published since the snapshot
            else s.set d ⟨i, true, .locking rest rows⟩
        -- SKIP LOCKED
        | _, _ => s.set d ⟨i, true, .locking rest rows⟩

/-- The `catch` clause: what it logs. -/
def warning : Except Thrown Unit → List String
  | .ok () => []
  | .error thrown => ["outbox drain failed, will retry: " ++ thrown.text]

/-- The owner of a drain that is in progress. -/
def owner (s : RelayState) (d : DrainId) : Option InstanceId := (s.drains d).map Drain.owner

/-- One action. There is no successor where the code, the database or a broker would not do
this now. -/
def step (s : RelayState) : RelayAction → Option RelayState
  | .write id type workOrder context =>
      if ∃ row ∈ s.table, row.id = id ∨ row.eventId = context.eventId then none
      else
        some
          { s with
            table := s.table ++ [WorkOrderEventsOutbox.stagedRow id type workOrder context] }
  | .tick i d =>
      -- a slow tick must not overlap the next one
      if s.draining i then some s
      else
        match s.drains d with
        | some _ => none
        | none =>
            some
              { s.set d ⟨i, true, .selecting⟩ with
                draining := Function.update s.draining i true }
  | .select d =>
      match s.drains d with
      | some ⟨i, true, .selecting⟩ => some (s.set d ⟨i, true, .locking (candidates s.table) []⟩)
      | _ => none
  | .lock d =>
      match s.drains d with
      | some ⟨i, true, .locking candidates rows⟩ => some (s.lockNext d i rows candidates)
      | _ => none
  | .accept d =>
      match s.drains d with
      | some ⟨i, connected, .sending broker batch false⟩ =>
          some
            { s.set d ⟨i, connected, .sending broker batch true⟩ with
              accepted := s.accepted ++ [OutboxRelay.message batch.row broker] }
      | _ => none
  | .resolve d =>
      match s.drains d with
      -- the audit record is sent as soon as the publish has resolved
      | some ⟨i, connected, .sending .rabbit batch true⟩ =>
          some (s.set d ⟨i, connected, .sending .kafka batch false⟩)
      | some ⟨i, connected, .sending .kafka batch true⟩ =>
          some (s.set d ⟨i, connected, .stamping batch⟩)
      | _ => none
  | .stamp d now =>
      match s.drains d with
      | some ⟨i, true, .stamping batch⟩ =>
          some (s.set d
            ⟨i, true, OutboxRelay.loop (batch.stamped ++ [(batch.row, now)]) batch.rest⟩)
      | _ => none
  | .commit d =>
      match s.drains d with
      | some ⟨i, true, .committing stamped⟩ =>
          some
            { (s.set d ⟨i, true, .ended (.ok ())⟩).release d with
              table := s.table.map (stampRow stamped) }
      | _ => none
  | .fail d thrown =>
      match s.drains d with
      | some ⟨i, connected, phase⟩ =>
          if phase.isEnded then none
          else
            some
              { (s.set d ⟨i, connected, .ended (.error thrown)⟩).release d with
                abandoned := Function.update s.abandoned d (phase.inFlight ++ s.abandoned d) }
      | none => none
  | .disconnect d =>
      match s.drains d with
      | some ⟨i, true, phase⟩ =>
          if phase.isEnded then none else some ((s.set d ⟨i, false, phase⟩).release d)
      | _ => none
  | .finish d =>
      match s.drains d with
      | some ⟨i, _, .ended result⟩ =>
          some
            { s with
              drains := Function.update s.drains d none
              draining := Function.update s.draining i false
              warnings := s.warnings ++ warning result
              -- the catch clause swallows the error
              returned :=
                s.returned ++ [⟨d, .ok (), Function.update s.draining i false i⟩] }
      | _ => none
  | .crash i =>
      some
        { s with
          locks := fun id => if (s.locks id).bind s.owner = some i then none else s.locks id
          drains := fun d => if s.owner d = some i then none else s.drains d
          draining := Function.update s.draining i false
          abandoned := fun d =>
            match s.drains d with
            | some drain => if drain.owner = i then drain.phase.inFlight ++ s.abandoned d
                else s.abandoned d
            | none => s.abandoned d }
  | .acceptLate d message =>
      if message ∈ s.abandoned d then some { s with accepted := s.accepted ++ [message] }
      else none

end RelayState

/-- The relays over one database and the two brokers. -/
def relays : Machine RelayState RelayAction where
  step := RelayState.step

/-! ## What one action can do -/

/-- A drain moves on by itself: nothing is locked, sent or written. -/
inductive Phase.Advance : Phase → Phase → Prop where
  /-- The candidates are known. -/
  | selected {candidates} : Advance .selecting (.locking candidates [])
  /-- A candidate is locked by another drain, or has been published since. -/
  | skipped {id rest rows} : Advance (.locking (id :: rest) rows) (.locking rest rows)
  /-- No candidate is left or the batch is full: the first claimed row is sent, if there
  is one. -/
  | looping {candidates rows} : Advance (.locking candidates rows) (OutboxRelay.loop [] rows)
  /-- RabbitMQ has the event; Kafka is next. -/
  | published {batch} : Advance (.sending .rabbit batch true) (.sending .kafka batch false)
  /-- Both have it. -/
  | recorded {batch} : Advance (.sending .kafka batch true) (.stamping batch)
  /-- The next row is sent, or there is none and the transaction commits. -/
  | stamped {batch now} : Advance (.stamping batch)
      (OutboxRelay.loop (batch.stamped ++ [(batch.row, now)]) batch.rest)

/-- What an action does, by its effect on the state. Most steps of a drain only move it on
(`advanced`); the others lock a row, have a message accepted, end the transaction or end the
drain. -/
inductive RelayEffect (s : RelayState) : RelayAction → RelayState → Prop where
  /-- A row is new in its id and in its event. -/
  | staged {id type workOrder context}
      (fresh : ∀ row ∈ s.table, row.id ≠ id ∧ row.eventId ≠ context.eventId) :
      RelayEffect s (.write id type workOrder context)
        { s with table := s.table ++ [WorkOrderEventsOutbox.stagedRow id type workOrder context] }
  /-- The flag is up, and `drain` returns at once. -/
  | skippedTick {i d} (busy : s.draining i = true) : RelayEffect s (.tick i d) s
  /-- The flag goes up, and a drain begins. -/
  | entered {i d} (idle : s.draining i = false) (fresh : s.drains d = none) :
      RelayEffect s (.tick i d)
        { s.set d ⟨i, true, .selecting⟩ with draining := Function.update s.draining i true }
  /-- The drain goes on, and nothing else changes. -/
  | advanced {a d i connected phase phase'} (held : s.drains d = some ⟨i, connected, phase⟩)
      (advance : phase.Advance phase') : RelayEffect s a (s.set d ⟨i, connected, phase'⟩)
  /-- A free row is claimed as it is in the table. -/
  | locked {d i rest rows row} (free : s.locks row.id = none)
      (held : s.drains d = some ⟨i, true, .locking (row.id :: rest) rows⟩)
      (member : row ∈ s.table) (unpublished : row.publishedAt = none) :
      RelayEffect s (.lock d)
        { s.set d ⟨i, true, .locking rest (rows ++ [row])⟩ with
          locks := Function.update s.locks row.id (some d) }
  /-- The message of the current row is with the broker. -/
  | accepted {d i connected broker batch}
      (held : s.drains d = some ⟨i, connected, .sending broker batch false⟩) :
      RelayEffect s (.accept d)
        { s.set d ⟨i, connected, .sending broker batch true⟩ with
          accepted := s.accepted ++ [OutboxRelay.message batch.row broker] }
  /-- The stamps of the transaction become visible, all at once. -/
  | committed {d i stamped} (held : s.drains d = some ⟨i, true, .committing stamped⟩) :
      RelayEffect s (.commit d)
        { (s.set d ⟨i, true, .ended (.ok ())⟩).release d with
          table := s.table.map (stampRow stamped) }
  /-- The transaction is rolled back.  What is in flight may still arrive. -/
  | failed {d i connected phase thrown} (held : s.drains d = some ⟨i, connected, phase⟩)
      (running : phase.isEnded = false) :
      RelayEffect s (.fail d thrown)
        { (s.set d ⟨i, connected, .ended (.error thrown)⟩).release d with
          abandoned := Function.update s.abandoned d (phase.inFlight ++ s.abandoned d) }
  /-- So it is here, but the drain goes on until it notices. -/
  | disconnected {d i phase} (held : s.drains d = some ⟨i, true, phase⟩)
      (running : phase.isEnded = false) :
      RelayEffect s (.disconnect d) ((s.set d ⟨i, false, phase⟩).release d)
  /-- The flag goes down, and the error is logged, if there was one. -/
  | finished {d i connected result} (held : s.drains d = some ⟨i, connected, .ended result⟩) :
      RelayEffect s (.finish d)
        { s with
          drains := Function.update s.drains d none
          draining := Function.update s.draining i false
          warnings := s.warnings ++ RelayState.warning result
          returned := s.returned ++ [⟨d, .ok (), Function.update s.draining i false i⟩] }
  /-- All drains of the instance are gone. -/
  | crashed {i s'} (crash : s.step (.crash i) = some s') : RelayEffect s (.crash i) s'
  /-- What had been given up arrives after all. -/
  | late {d message} (abandoned : message ∈ s.abandoned d) :
      RelayEffect s (.acceptLate d message) { s with accepted := s.accepted ++ [message] }

/-- The scan either locks its next candidate or moves on without it. -/
theorem effect_of_lockNext {s : RelayState} {d : DrainId} {i : InstanceId}
    {rows : List OutboxEvent} {candidates : List ℕ}
    (held : s.drains d = some ⟨i, true, .locking candidates rows⟩) :
    RelayEffect s (.lock d) (s.lockNext d i rows candidates) := by
  cases candidates with
  | nil => exact .advanced held .looping
  | cons id rest =>
      rw [RelayState.lockNext]
      split_ifs with full
      · exact .advanced held .looping
      · split
        next row free found =>
          obtain rfl : row.id = id := by simpa using List.find?_some found
          split_ifs with unpublished
          · exact .locked free held (List.mem_of_find?_eq_some found) unpublished
          · exact .advanced held .skipped
        next => exact .advanced held .skipped

/-- **Nothing else happens**: whatever step is taken has one of the effects. -/
theorem relayEffect_of_step {s s' : RelayState} {a : RelayAction}
    (moved : relays.step s a = some s') : RelayEffect s a s' := by
  -- one case for each action: what `step` asks for are the hypotheses of the effect
  cases a with
  | write id type workOrder context =>
      simp only [relays, RelayState.step] at moved
      split_ifs at moved with taken
      cases moved
      refine .staged fun row member => ⟨?_, ?_⟩
      · exact fun same => taken ⟨row, member, Or.inl same⟩
      · exact fun same => taken ⟨row, member, Or.inr same⟩
  | tick i d =>
      simp only [relays, RelayState.step] at moved
      split_ifs at moved with busy
      · cases moved
        exact .skippedTick busy
      · split at moved
        · cases moved
        next fresh =>
          cases moved
          exact .entered (by simpa using busy) fresh
  | select d =>
      simp only [relays, RelayState.step] at moved
      split at moved <;> cases moved
      next held => exact .advanced held .selected
  | lock d =>
      simp only [relays, RelayState.step] at moved
      split at moved <;> cases moved
      next held => exact effect_of_lockNext held
  | accept d =>
      simp only [relays, RelayState.step] at moved
      split at moved <;> cases moved
      next held => exact .accepted held
  | resolve d =>
      simp only [relays, RelayState.step] at moved
      split at moved <;> cases moved
      next held => exact .advanced held .published
      next held => exact .advanced held .recorded
  | stamp d now =>
      simp only [relays, RelayState.step] at moved
      split at moved <;> cases moved
      next held => exact .advanced held .stamped
  | commit d =>
      simp only [relays, RelayState.step] at moved
      split at moved <;> cases moved
      next held => exact .committed held
  | fail d thrown =>
      simp only [relays, RelayState.step] at moved
      split at moved
      next held =>
        split_ifs at moved with ended
        cases moved
        exact .failed held (by simpa using ended)
      · cases moved
  | disconnect d =>
      simp only [relays, RelayState.step] at moved
      split at moved
      next held =>
        split_ifs at moved with ended
        cases moved
        exact .disconnected held (by simpa using ended)
      · cases moved
  | finish d =>
      simp only [relays, RelayState.step] at moved
      split at moved <;> cases moved
      next held => exact .finished held
  | crash i => exact .crashed moved
  | acceptLate d message =>
      simp only [relays, RelayState.step] at moved
      split_ifs at moved with abandoned
      cases moved
      exact .late abandoned

end PropFlow
