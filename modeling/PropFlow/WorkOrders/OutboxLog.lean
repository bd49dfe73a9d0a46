import PropFlow.WorkOrders.Concurrency

/-!
# The outbox as a log of the table

The two tables are only ever written together, so the outbox records the whole
history of every order.

## What a faithful log is

* `Mirrors` — the data of an event agrees with a row, column by column;
* `WellTyped` — the type of an event goes with the status in its data, and its columns
  with its payload;
* `Recorded` — the events of a row: the first one is that of its creation, as no other
  is, and the last one mirrors the row;
* `FaithfulLog` — every row is recorded, an order that does not exist has no events, and
  the events are in the order of their ids and well typed.

## Why it is kept

`faithfulLog_of_reachable` says that every reachable state has it, whatever calls were
interleaved, rejected or rolled back on the way.  What one step does to the outbox is
`outbox_of_step`: nothing, or one event of the order that was written.

The one path of the service that saves a row without staging an event, the plain
`repository.save` at the end of `updateStatus`, would break it.  No call reaches
that path (`Call.Writes.event_isSome`): the transition table admits no target
without an event.
-/

namespace PropFlow

open Library Library.CivilTime

/-! ## What a faithful log is -/

/-- The snapshot agrees with the row in every field it carries. -/
structure Mirrors (data : WorkOrderEventData) (row : WorkOrder) : Prop where
  workOrderId : data.workOrderId = row.id
  propertyId : data.propertyId = row.propertyId
  title : data.title = row.title
  description : data.description = row.description
  priority : data.priority = row.priority.text
  status : data.status = row.status.text
  assigneeId : data.assigneeId = row.assigneeId
  /-- The triage block is there exactly when category and urgency are set. -/
  triage_iff : (∃ triage, data.triage = .value triage) ↔
    row.triageCategory.isSome = true ∧ row.triageUrgency.isSome = true
  /-- Otherwise it is `null`, and never missing. -/
  triage_ne_undefined : data.triage ≠ .undefined
  /-- It carries the row's classification. -/
  triage_eq : ∀ triage, data.triage = .value triage →
    row.triageCategory = some triage.category ∧ row.triageUrgency = some triage.urgency ∧
      triage.reasoning = row.triageReasoning.getD ""

/-- The type of an event agrees with the snapshot beside it. -/
def TypeAgrees (type : WorkOrderEventType) (data : WorkOrderEventData) : Prop :=
  match type with
  | .created => data.status = WorkOrderStatus.open.text
  | .assigned => data.status = WorkOrderStatus.assigned.text ∧ data.assigneeId.isSome = true
  | .started => data.status = WorkOrderStatus.inProgress.text
  | .completed => data.status = WorkOrderStatus.completed.text
  | .cancelled => data.status = WorkOrderStatus.cancelled.text
  | .triaged => ∃ triage, data.triage = .value triage

/-- An outbox row agrees with its own payload, and the payload with itself. -/
structure WellTyped (event : OutboxEvent) : Prop where
  /-- The routing key is the type. -/
  type_eq : event.type = event.payload.type
  /-- The message id is the id inside. -/
  eventId_eq : event.eventId = event.payload.eventId
  /-- The snapshot is in the state that the type says. -/
  agrees : TypeAgrees event.type event.payload.data

/-- The events of an order start with its creation, which happens once, and end
with the row as it is. -/
structure Recorded (row : WorkOrder) (events : List OutboxEvent) : Prop where
  /-- The first event is the creation, and no later one is. -/
  created_first : ∃ first rest, events = first :: rest ∧ first.type = .created ∧
    ∀ event ∈ rest, event.type ≠ .created
  /-- The last event is the row as it is. -/
  mirrored_last : ∃ last, events.getLast? = some last ∧ Mirrors last.payload.data row

/-- **The outbox is a faithful log of the table.** -/
structure FaithfulLog (s : ServiceState) : Prop where
  /-- The ids grow in the order of commits. -/
  ordered : s.db.outbox.rows.Pairwise fun x y => x.id < y.id
  /-- Every order has its history. -/
  recorded : ∀ id row, s.row id = some row → Recorded row (s.eventsOf id)
  /-- What is not stored has no event. -/
  silent : ∀ id, s.row id = none → s.eventsOf id = []
  /-- Every row agrees with its payload. -/
  wellTyped : ∀ event ∈ s.db.outbox.rows, WellTyped event

/-! ## One staged row -/

/-- The snapshot `stage` takes mirrors the row it is taken of. -/
theorem mirrors_snapshot (row : WorkOrder) : Mirrors (WorkOrderEventsOutbox.snapshot row) row := by
  have isSome := WorkOrderEventsOutbox.triageOf_isSome row
  constructor
  case triage_iff =>
    rw [← Bool.and_eq_true, ← isSome]
    cases block : WorkOrderEventsOutbox.triageOf row <;>
      simp [WorkOrderEventsOutbox.snapshot, Nullish.ofOption, block]
  case triage_ne_undefined =>
    cases block : WorkOrderEventsOutbox.triageOf row <;>
      simp [WorkOrderEventsOutbox.snapshot, Nullish.ofOption, block]
  case triage_eq =>
    intro triage carried
    cases category : row.triageCategory <;> cases urgency : row.triageUrgency <;>
      simp [WorkOrderEventsOutbox.snapshot, WorkOrderEventsOutbox.triageOf, Nullish.ofOption,
        category, urgency] at carried
    subst carried
    exact ⟨rfl, rfl, rfl⟩
  all_goals rfl

/-- A created order is open. -/
theorem typeAgrees_created {dto : CreateWorkOrderDto} {id : Uuid} {now : Instant}
    {saved : WorkOrder} (inserted : insertedRow dto id now = .ok saved) :
    TypeAgrees .created (WorkOrderEventsOutbox.snapshot saved) :=
  congrArg WorkOrderStatus.text (insertedRow_ok inserted).2.1

/-- The event of a status agrees with it. -/
theorem typeAgrees_statusEvents {next : WorkOrderStatus} {type : WorkOrderEventType}
    {row : WorkOrder} (event : WorkOrdersService.statusEvents next = some type)
    (status : row.status = next) : TypeAgrees type (WorkOrderEventsOutbox.snapshot row) := by
  subst status
  cases here : row.status with
  | «open» =>
      rw [here] at event
      cases event
  | assigned =>
      rw [here] at event
      cases event
  | inProgress =>
      rw [here] at event
      cases event
      exact congrArg WorkOrderStatus.text here
  | completed =>
      rw [here] at event
      cases event
      exact congrArg WorkOrderStatus.text here
  | cancelled =>
      rw [here] at event
      cases event
      exact congrArg WorkOrderStatus.text here

/-- **Every call stages an event that agrees with what it saves**, and only
`create` stages a creation. -/
theorem Call.Writes.typeAgrees {now : Instant} {call : Call} {found : WorkOrder} {write : Write}
    {type : WorkOrderEventType} (writes : call.Writes now found write)
    (event : write.event = some type) :
    TypeAgrees type (WorkOrderEventsOutbox.snapshot write.entity) ∧ type ≠ .created := by
  cases call with
  | create dto => exact writes.elim
  | assign id assigneeId =>
      obtain ⟨-, rfl⟩ := WorkOrdersService.assign_ok writes
      cases event
      exact ⟨⟨rfl, rfl⟩, nofun⟩
  | updateStatus id next =>
      obtain ⟨-, rfl⟩ := WorkOrdersService.updateStatus_ok writes
      refine ⟨typeAgrees_statusEvents event rfl, ?_⟩
      rintro rfl
      cases next <;> cases event
  | applyTriage id triage =>
      obtain ⟨workOrder, -, -, rfl⟩ := TriageService.apply_eq_some writes
      cases event
      exact ⟨⟨triage, rfl⟩, nofun⟩

/-- A new order has one event, that of its creation. -/
theorem Recorded.singleton {row : WorkOrder} {event : OutboxEvent} (created : event.type = .created)
    (mirrors : Mirrors event.payload.data row) : Recorded row [event] where
  created_first := ⟨event, [], rfl, created, fun _ member => nomatch member⟩
  mirrored_last := ⟨event, rfl, mirrors⟩

/-- A later event replaces the last snapshot and leaves the first event first. -/
theorem Recorded.snoc {row row' : WorkOrder} {events : List OutboxEvent} {event : OutboxEvent}
    (recorded : Recorded row events) (later : event.type ≠ .created)
    (mirrors : Mirrors event.payload.data row') : Recorded row' (events ++ [event]) where
  created_first := by
    obtain ⟨first, rest, rfl, created, others⟩ := recorded.created_first
    refine ⟨first, rest ++ [event], rfl, created, ?_⟩
    intro e member
    rcases List.mem_append.mp member with before | last
    · exact others e before
    · rw [List.mem_singleton.mp last]
      exact later
  mirrored_last := ⟨event, List.getLast?_concat, mirrors⟩

/-! ## The invariant -/

/-- What one action does to the outbox as a whole. -/
theorem outbox_of_step {s s' : ServiceState} {a : ServiceAction} (sound : s.Sound)
    (moved : service.step s a = some s') :
    (s'.db.outbox.rows = s.db.outbox.rows ∧ s.db.outbox.nextId ≤ s'.db.outbox.nextId) ∨
      ∃ type saved context, TypeAgrees type (WorkOrderEventsOutbox.snapshot saved) ∧
        s'.db.outbox.rows = s.db.outbox.rows ++
          [WorkOrderEventsOutbox.stagedRow s.db.outbox.nextId type saved context] ∧
        s'.db.outbox.nextId = s.db.outbox.nextId + 1 := by
  cases effect_of_step moved with
  | answered => exact Or.inl ⟨rfl, le_rfl⟩
  | insert => exact Or.inl ⟨rfl, le_rfl⟩
  | read => exact Or.inl ⟨rfl, le_rfl⟩
  | @failed c _ point error _ =>
      refine Or.inl ⟨by simp [ServiceState.finish], ?_⟩
      -- it may have used up a value of the sequence
      cases point <;> simp [ServiceState.finish, Database.rolledBack]
  | @committed c context flight db saved held effect _ =>
      have outbox := effect.outbox_eq
      rcases effect.saved_eq with
        ⟨dto, prepared, -, inserted⟩ | ⟨call, found, write, prepared, rfl⟩
      · rw [prepared] at outbox
        exact Or.inr ⟨.created, saved, _, typeAgrees_created inserted, outbox.2⟩
      · obtain ⟨-, -, now, writes⟩ :
            (Prepared.update call found write).Sound s.db.workOrders :=
          prepared ▸ sound c flight held
        obtain ⟨type, event⟩ := writes.event_isSome
        rw [prepared, Prepared.event, event] at outbox
        exact Or.inr ⟨type, write.entity, _, (writes.typeAgrees event).1, outbox.2⟩

/-- The log together with what the next step needs: sound calls in flight, and a
sequence ahead of every id. -/
structure LogInvariant (s : ServiceState) : Prop where
  /-- The calls in flight have found what was there. -/
  sound : s.Sound
  /-- The log is faithful so far. -/
  log : FaithfulLog s
  /-- The sequence is ahead of every id. -/
  bounded : ∀ event ∈ s.db.outbox.rows, event.id < s.db.outbox.nextId

/-- Nothing is stored and nothing staged at first. -/
theorem LogInvariant.initial : LogInvariant ServiceState.initial where
  sound := ServiceState.quiescent_initial.sound
  log :=
    { ordered := List.Pairwise.nil
      recorded := fun _ _ absent => nomatch absent
      silent := fun _ _ => rfl
      wellTyped := fun _ member => nomatch member }
  bounded := fun _ member => nomatch member

/-- **Every step keeps it**: what is written is what is staged, in one transaction. -/
theorem LogInvariant.step {s s' : ServiceState} {a : ServiceAction} (invariant : LogInvariant s)
    (moved : service.step s a = some s') : LogInvariant s' where
  sound := invariant.sound.step moved
  log :=
    { ordered := by
        rcases outbox_of_step invariant.sound moved with
          ⟨rows, -⟩ | ⟨type, saved, context, -, rows, -⟩
        · rw [rows]
          exact invariant.log.ordered
        · -- the new row takes the next id of the sequence, which is ahead of all others
          rw [rows, List.pairwise_append]
          refine ⟨invariant.log.ordered, List.pairwise_singleton _ _, ?_⟩
          intro event member last isLast
          rw [List.mem_singleton.mp isLast]
          exact invariant.bounded event member
      recorded := by
        intro id row present
        cases orderChange_of_step invariant.sound moved id with
        | same unchanged unstaged =>
            rw [unchanged] at present
            rw [unstaged]
            exact invariant.log.recorded id row present
        | inserted _ absent inserted stored staged =>
            rw [stored] at present
            cases present
            -- an order without a row has no events yet
            rw [staged, invariant.log.silent id absent]
            exact Recorded.singleton rfl (mirrors_snapshot row)
        | written _ _ _ _ writes present' stored event staged =>
            rw [stored] at present
            cases present
            rw [staged]
            exact (invariant.log.recorded id _ present').snoc (writes.typeAgrees event).2
              (mirrors_snapshot _)
      silent := by
        intro id absent
        cases orderChange_of_step invariant.sound moved id with
        | same unchanged unstaged =>
            rw [unstaged]
            exact invariant.log.silent id (unchanged.symm.trans absent)
        | inserted _ _ _ stored =>
            rw [stored] at absent
            cases absent
        | written _ _ _ _ _ _ stored =>
            rw [stored] at absent
            cases absent
      wellTyped := by
        intro event member
        rcases outbox_of_step invariant.sound moved with
          ⟨rows, -⟩ | ⟨type, saved, context, agrees, rows, -⟩
        · rw [rows] at member
          exact invariant.log.wellTyped event member
        · rw [rows] at member
          rcases List.mem_append.mp member with before | last
          · exact invariant.log.wellTyped event before
          · rw [List.mem_singleton.mp last]
            exact ⟨rfl, rfl, agrees⟩ }
  bounded := by
    intro event member
    rcases outbox_of_step invariant.sound moved with
      ⟨rows, advanced⟩ | ⟨type, saved, context, -, rows, advanced⟩
    · rw [rows] at member
      exact lt_of_lt_of_le (invariant.bounded event member) advanced
    · rw [rows] at member
      rw [advanced]
      rcases List.mem_append.mp member with before | last
      · exact Nat.lt_succ_of_lt (invariant.bounded event before)
      · rw [List.mem_singleton.mp last]
        exact Nat.lt_succ_self _

/-- **Faithfulness of the outbox.**  In every state the service can reach from
an empty database, under every interleaving of calls, with every rejection and
every rolled-back transaction, the outbox is a faithful log of the table. -/
theorem faithfulLog_of_reachable (s : ServiceState)
    (reached : service.Reachable ServiceState.initial s) : FaithfulLog s :=
  (Machine.Reachable.invariant service (fun invariant moved => invariant.step moved)
    LogInvariant.initial reached).log

/-- A created order, a transaction that dies at `stage`, and an assignment. -/
def createFailAssign : List ServiceAction :=
  [ .begin 0 (.create leakingTap) none .epoch,
    .commit 0 .first,
    .begin 1 (.updateStatus openOrder.id .cancelled) none .epoch,
    .abort 1 .stage,
    .begin 2 (.assign openOrder.id technician) none .epoch,
    .commit 2 .second ]

/-- An order is created, an update of it dies when it stages, and the order is assigned. -/
theorem faithfulLog_createFailAssign :
    FaithfulLog ((service.run .initial createFailAssign).get (by decide)) :=
  faithfulLog_of_reachable _ ⟨createFailAssign, (Option.some_get _).symm⟩

/-- The sequence value the failed transaction took is missing from the log. -/
example : ((service.run .initial createFailAssign).map fun s =>
    s.db.outbox.rows.map fun event => (event.id, event.type)) =
      some [(1, .created), (3, .assigned)] := by decide

end PropFlow
