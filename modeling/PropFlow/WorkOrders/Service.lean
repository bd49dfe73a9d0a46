import PropFlow.WorkOrders.Outbox

/-!
# The work-orders service

`WorkOrdersService` and `TriageService`, each method cut at its two database
round trips: the part up to and including the read (`assign`, `updateStatus`,
`applyTriage`), which yields the in-memory entity to save, and the transaction
that saves the entity and stages its event (`Database.transaction`).

Between the two the method holds a copy of the row that nothing protects: there
is no row lock and no version column, and `save` writes the whole entity.

## The first part

* `Call` — the calls of the service, with their arguments;
* `Call.prepare` — what a call has to do when it has read: an insert, or an update with
  the entity that was found and the one to be saved (`Prepared`), or nothing;
* `Call.Writes` — the same for an update, said of the found row alone.  The guards are in
  here (`assign_ok`, `updateStatus_ok`, `apply_eq_some`).

## The second part

* `CommitContext` — what is drawn while the transaction runs: ids and the time;
* `Database.transaction` — save, stage, commit; it fails at one of three points
  (`TxPoint`) or at a constraint, and then nothing is stored.

Where the target status has no event, the code saves without staging one, outside the
transaction.  `Call.Writes.event_isSome` says that no call comes there.
-/

namespace PropFlow

open Library Library.CivilTime

/-- The exceptions the service maps to HTTP answers. -/
inductive HttpException where
  | notFound (message : String)
  | conflict (message : String)
deriving DecidableEq, Repr

/-- The committed state of the service's database. -/
structure Database where
  workOrders : WorkOrdersTable
  outbox : OutboxTable

/-- The committed events of one work order, in the order they were inserted. -/
def Database.eventsOf (db : Database) (id : Uuid) : List OutboxEvent :=
  db.outbox.rows.filter fun event => event.payload.data.workOrderId = id

/-- What a method hands to its transaction: the mutated entity, and the event to
stage with it.  No event means the plain `repository.save`. -/
structure Write where
  entity : WorkOrder
  event : Option WorkOrderEventType
deriving DecidableEq

namespace WorkOrdersService

/-- `STATUS_EVENTS`: the event each externally triggered status change produces. -/
def statusEvents : WorkOrderStatus → Option WorkOrderEventType
  | .inProgress => some .started
  | .completed => some .completed
  | .cancelled => some .cancelled
  | _ => none

/-- `findOne(id)`. -/
def findOne (table : WorkOrdersTable) (id : Uuid) : Except HttpException WorkOrder :=
  match table.find id with
  | none => .error (.notFound ("work order " ++ id.text ++ " not found"))
  | some workOrder => .ok workOrder

/-- `assign(id, assigneeId)` up to its transaction. -/
def assign (assigneeId : Uuid) (workOrder : WorkOrder) : Except HttpException Write :=
  if ¬ canAssign workOrder.status then
    .error (.conflict ("cannot assign a work order in status '" ++ workOrder.status.text ++ "'"))
  else
    .ok
      { entity := { workOrder with assigneeId := some assigneeId, status := .assigned }
        event := some .assigned }

/-- `updateStatus(id, next)` up to its transaction. -/
def updateStatus (next : WorkOrderStatus) (workOrder : WorkOrder) :
    Except HttpException Write :=
  if next = .assigned then
    .error (.conflict "'assigned' is only reachable through the assign endpoint")
  else if ¬ canTransition workOrder.status next then
    .error (.conflict ("invalid status transition '" ++ workOrder.status.text ++ "' -> '" ++
      next.text ++ "'"))
  else
    .ok { entity := { workOrder with status := next }, event := statusEvents next }

/-- What `assign` writes, and when it gets that far. -/
theorem assign_ok {assigneeId : Uuid} {workOrder : WorkOrder} {write : Write}
    (ok : assign assigneeId workOrder = .ok write) :
    canAssign workOrder.status = true ∧ write =
      { entity := { workOrder with assigneeId := some assigneeId, status := .assigned }
        event := some .assigned } := by
  obtain ⟨allowed, rest⟩ := guard_eq_ok.mp ok
  cases rest
  exact ⟨not_not.mp allowed, rfl⟩

/-- What `updateStatus` writes, and when it gets that far. -/
theorem updateStatus_ok {next : WorkOrderStatus} {workOrder : WorkOrder} {write : Write}
    (ok : updateStatus next workOrder = .ok write) :
    canTransition workOrder.status next = true ∧
      write = { entity := { workOrder with status := next }, event := statusEvents next } := by
  obtain ⟨-, rest⟩ := guard_eq_ok.mp ok
  obtain ⟨allowed, rest⟩ := guard_eq_ok.mp rest
  cases rest
  exact ⟨not_not.mp allowed, rfl⟩

/-- Every status the transition table lets `updateStatus` write has an event, so
the fallback save without one is never taken. -/
theorem statusEvents_isSome {source next : WorkOrderStatus}
    (allowed : canTransition source next = true) : (statusEvents next).isSome = true := by
  rcases canTransition_target allowed with rfl | rfl | rfl <;> rfl

end WorkOrdersService

namespace TriageService

/-- `apply(workOrderId, triage)` up to its transaction; `none` when the order is
gone or already triaged. -/
def apply (triage : WorkOrderTriage) (now : Instant) (found : Option WorkOrder) :
    Option Write :=
  match found with
  | none => none
  | some workOrder =>
      -- a duplicate delivery of the `created` event
      if workOrder.triagedAt.isSome then none
      else
        some
          { entity :=
              { workOrder with
                triageCategory := some triage.category
                triageUrgency := some triage.urgency
                triageReasoning := some triage.reasoning
                triagedAt := some now }
            event := some .triaged }

/-- What `apply` writes, and when it gets that far. -/
theorem apply_eq_some {triage : WorkOrderTriage} {now : Instant} {found : Option WorkOrder}
    {write : Write} (applied : apply triage now found = some write) :
    ∃ workOrder, found = some workOrder ∧ workOrder.triagedAt = none ∧ write =
      { entity :=
          { workOrder with
            triageCategory := some triage.category
            triageUrgency := some triage.urgency
            triageReasoning := some triage.reasoning
            triagedAt := some now }
        event := some .triaged } := by
  cases found with
  | none => cases applied
  | some workOrder =>
      cases triaged : workOrder.triagedAt with
      | some at_ => simp [apply, triaged] at applied
      | none =>
          simp only [apply, triaged, Option.isSome_none, Bool.false_eq_true, if_false,
            Option.some.injEq] at applied
          exact ⟨workOrder, rfl, triaged, applied.symm⟩

end TriageService

/-! ## Calls and their two steps -/

/-- The calls that write a work order. -/
inductive Call where
  | create (dto : CreateWorkOrderDto)
  | assign (id assigneeId : Uuid)
  | updateStatus (id : Uuid) (next : WorkOrderStatus)
  | applyTriage (workOrderId : Uuid) (triage : WorkOrderTriage)
deriving DecidableEq

/-- What a classifier is shown. -/
structure TriageInput where
  title : String
  description : String
  priority : String
deriving DecidableEq, Repr

/-- `onWorkOrderCreated(event)`: the call a delivery of the event makes, or
nothing when the classifier has no classification.  The classifier is a paid,
non-deterministic model call, so each delivery has its own `classify`. -/
def WorkOrderTriageConsumer.onWorkOrderCreated (classify : TriageInput → Option WorkOrderTriage)
    (event : WorkOrderEvent) : Option Call :=
  (classify
      { title := event.data.title, description := event.data.description
        priority := event.data.priority }).map
    (Call.applyTriage event.data.workOrderId)

/-- What a call holds between its read and its transaction: a new entity, or the
row it found and the write it prepared from it. -/
inductive Prepared where
  /-- A row that is to be made of a DTO. -/
  | insert (dto : CreateWorkOrderDto)
  /-- The row that was found, and what is to be saved in its place. -/
  | update (call : Call) (found : WorkOrder) (write : Write)
deriving DecidableEq

/-- **The first step of a call**: read the committed row, if the call reads one,
and run the method up to its transaction.  `none` is a triage that is dropped. -/
def Call.prepare (table : WorkOrdersTable) (now : Instant) (call : Call) :
    Except HttpException (Option Prepared) :=
  match call with
  | .create dto => .ok (some (.insert dto))
  | .assign id assigneeId => do
      let found ← WorkOrdersService.findOne table id
      let write ← WorkOrdersService.assign assigneeId found
      .ok (some (.update call found write))
  | .updateStatus id next => do
      let found ← WorkOrdersService.findOne table id
      let write ← WorkOrdersService.updateStatus next found
      .ok (some (.update call found write))
  | .applyTriage id triage =>
      .ok (do
        let found ← table.find id
        let write ← TriageService.apply triage now (some found)
        return .update call found write)

/-- The write a call makes of the row it found. -/
def Call.Writes (now : Instant) (call : Call) (found : WorkOrder) (write : Write) : Prop :=
  match call with
  | .create _ => False
  | .assign _ assigneeId => WorkOrdersService.assign assigneeId found = .ok write
  | .updateStatus _ next => WorkOrdersService.updateStatus next found = .ok write
  | .applyTriage _ triage => TriageService.apply triage now (some found) = some write

/-- A write is about the work order that was found. -/
theorem Call.Writes.entity_id {now : Instant} {call : Call} {found : WorkOrder} {write : Write}
    (writes : call.Writes now found write) : write.entity.id = found.id := by
  cases call with
  | create dto => exact writes.elim
  | assign id assigneeId =>
      obtain ⟨-, rfl⟩ := WorkOrdersService.assign_ok writes
      rfl
  | updateStatus id next =>
      obtain ⟨-, rfl⟩ := WorkOrdersService.updateStatus_ok writes
      rfl
  | applyTriage id triage =>
      obtain ⟨workOrder, same, -, rfl⟩ := TriageService.apply_eq_some writes
      cases same
      rfl

/-- **Every write has an event**: the plain save of `updateStatus` is never reached. -/
theorem Call.Writes.event_isSome {now : Instant} {call : Call} {found : WorkOrder} {write : Write}
    (writes : call.Writes now found write) : ∃ type, write.event = some type := by
  cases call with
  | create dto => exact writes.elim
  | assign id assigneeId =>
      obtain ⟨-, rfl⟩ := WorkOrdersService.assign_ok writes
      exact ⟨.assigned, rfl⟩
  | updateStatus id next =>
      obtain ⟨allowed, rfl⟩ := WorkOrdersService.updateStatus_ok writes
      exact Option.isSome_iff_exists.mp (WorkOrdersService.statusEvents_isSome allowed)
  | applyTriage id triage =>
      obtain ⟨workOrder, -, -, rfl⟩ := TriageService.apply_eq_some writes
      exact ⟨.triaged, rfl⟩

/-- The work order a call is about; a `create` has none yet. -/
def Call.target : Call → Option Uuid
  | .create _ => none
  | .assign id _ => some id
  | .updateStatus id _ => some id
  | .applyTriage id _ => some id

/-- How a call gets past its read: by inserting, or on the row committed under
its target. -/
theorem Call.prepare_ok {table : WorkOrdersTable} {now : Instant} {call : Call}
    {prepared : Prepared} (ok : call.prepare table now = .ok (some prepared)) :
    (∃ dto, call = .create dto ∧ prepared = .insert dto) ∨
      ∃ id found write, call.target = some id ∧ table.find id = some found ∧
        call.Writes now found write ∧ prepared = .update call found write := by
  have findOne_ok : ∀ {id : Uuid} {found : WorkOrder},
      WorkOrdersService.findOne table id = .ok found → table.find id = some found := by
    intro id found ok
    cases lookup : table.find id with
    | none => simp [WorkOrdersService.findOne, lookup] at ok
    | some row => simpa [WorkOrdersService.findOne, lookup] using ok
  cases call with
  | create dto =>
      cases ok
      exact Or.inl ⟨dto, rfl, rfl⟩
  | assign id assigneeId =>
      obtain ⟨found, read, rest⟩ := bind_eq_ok.mp ok
      obtain ⟨write, wrote, rest⟩ := bind_eq_ok.mp rest
      cases rest
      exact Or.inr ⟨id, found, write, rfl, findOne_ok read, wrote, rfl⟩
  | updateStatus id next =>
      obtain ⟨found, read, rest⟩ := bind_eq_ok.mp ok
      obtain ⟨write, wrote, rest⟩ := bind_eq_ok.mp rest
      cases rest
      exact Or.inr ⟨id, found, write, rfl, findOne_ok read, wrote, rfl⟩
  | applyTriage id triage =>
      have some_eq := Except.ok.inj ok
      rw [Option.bind_eq_bind, Option.bind_eq_some_iff] at some_eq
      obtain ⟨found, read, rest⟩ := some_eq
      rw [Option.bind_eq_bind, Option.bind_eq_some_iff] at rest
      obtain ⟨write, wrote, rest⟩ := rest
      cases rest
      exact Or.inr ⟨id, found, write, rfl, read, wrote, rfl⟩

/-- What the database and the process supply when a transaction runs. -/
structure CommitContext where
  /-- `gen_random_uuid()`, for an INSERT -/
  newId : Uuid
  /-- `randomUUID()` in `stage` -/
  eventId : Uuid
  /-- `new Date()` in `stage`, and `now()` in the database -/
  now : Instant
deriving DecidableEq

/-- The points of a transaction at which it can fail. -/
inductive TxPoint where
  /-- at `manager.save` -/
  | save
  /-- at the INSERT into the outbox -/
  | stage
  /-- at `COMMIT` -/
  | commit
deriving DecidableEq, Repr

/-- A failed transaction leaves the rows; a sequence value already taken is not
given back. -/
def Database.rolledBack (db : Database) : TxPoint → Database
  | .save => db
  | .stage | .commit => { db with outbox := { db.outbox with nextId := db.outbox.nextId + 1 } }

/-- The context `stage` sees in a call's transaction. -/
def CommitContext.stageContext (context : CommitContext) (store : Option RequestContext) :
    StageContext where
  store := store
  eventId := context.eventId
  now := context.now

/-- **The second step of a call**: one transaction that saves the entity and
stages its event (`saveAndStage`, and the transaction of `TriageService.apply`),
or the plain save when there is no event. -/
def Database.transaction (db : Database) (store : Option RequestContext)
    (context : CommitContext) (prepared : Prepared) :
    Except (TxPoint × DbError) (Database × WorkOrder) :=
  match prepared with
  | .insert dto => do
      let (workOrders, saved) ←
        (db.workOrders.insert dto context.newId context.now).mapError (TxPoint.save, ·)
      let outbox ← (WorkOrderEventsOutbox.stage db.outbox .created saved
        (context.stageContext store)).mapError (TxPoint.stage, ·)
      .ok ({ workOrders, outbox }, saved)
  | .update _ _ { entity, event := some type } => do
      let (workOrders, saved) ← (db.workOrders.save entity).mapError (TxPoint.save, ·)
      let outbox ← (WorkOrderEventsOutbox.stage db.outbox type saved
        (context.stageContext store)).mapError (TxPoint.stage, ·)
      .ok ({ workOrders, outbox }, saved)
  -- the fallback of `updateStatus`; no call gets here (`Call.Writes.event_isSome`)
  | .update _ _ { entity, event := none } => do
      let (workOrders, saved) ← (db.workOrders.save entity).mapError (TxPoint.save, ·)
      .ok ({ db with workOrders }, saved)

/-- The event type a prepared call stages. -/
def Prepared.event : Prepared → Option WorkOrderEventType
  | .insert _ => some .created
  | .update _ _ write => write.event

end PropFlow
