import PropFlow.WorkOrders.Concurrency

/-!
# Well-formed rows

An order that is assigned, in progress or completed has an assignee, and its
triage columns are all null or all set.  The database checks the first of these
for `assigned` only; the rest is kept by the calls, although each of them writes
a whole row it has read some time ago.

## Why it is kept

A stale row is as good as a fresh one here: `WellFormed` is about one row, so a write
made from a well-formed row is well-formed, whatever it is committed over
(`Call.Writes.wellFormed`).  The invariant therefore has to speak of every row that is
held anywhere (`WellFormedState`): those of the table, those found and about to be
written by calls in flight, and, through their snapshots, those of the staged events.

## What follows

No transaction fails on the check of the assignee (`Database.transaction_ne_check`), so
the constraint is a second line of defence that is never reached.
`wellFormed_of_reachable` has both halves.
-/

namespace PropFlow

open Library Library.CivilTime

/-- The statuses of an order somebody works on or has worked on. -/
def WorkOrderStatus.Staffed (status : WorkOrderStatus) : Prop :=
  status = .assigned ∨ status = .inProgress ∨ status = .completed

instance (status : WorkOrderStatus) : Decidable status.Staffed :=
  inferInstanceAs (Decidable (_ ∨ _))

/-- No triage column is set, or all of them are. -/
def WorkOrder.TriageComplete (row : WorkOrder) : Prop :=
  row.triageColumns = (none, none, none, none) ∨
    (row.triageCategory.isSome = true ∧ row.triageUrgency.isSome = true ∧
      row.triageReasoning.isSome = true ∧ row.triagedAt.isSome = true)

/-- What every row should satisfy. -/
structure WorkOrder.WellFormed (row : WorkOrder) : Prop where
  /-- Work that is assigned, started or completed has an assignee. -/
  staffed : row.status.Staffed → row.assigneeId.isSome = true
  /-- The triage columns are set together, or not at all. -/
  triage : row.TriageComplete

/-! ## What the calls write -/

/-- A transition into a staffed status comes from one. -/
theorem staffed_of_canTransition {source target : WorkOrderStatus}
    (allowed : canTransition source target = true) (staffed : target.Staffed) :
    source.Staffed := by
  revert allowed staffed
  cases source <;> cases target <;> decide

/-- **A write made from a well-formed row is well-formed.** -/
theorem Call.Writes.wellFormed {now : Instant} {call : Call} {found : WorkOrder} {write : Write}
    (writes : call.Writes now found write) (before : found.WellFormed) :
    write.entity.WellFormed := by
  cases call with
  | create dto => exact writes.elim
  | assign id assigneeId =>
      obtain ⟨-, rfl⟩ := WorkOrdersService.assign_ok writes
      exact ⟨fun _ => rfl, before.triage⟩
  | updateStatus id next =>
      obtain ⟨allowed, rfl⟩ := WorkOrdersService.updateStatus_ok writes
      refine ⟨fun staffed => ?_, before.triage⟩
      exact before.staffed (staffed_of_canTransition allowed staffed)
  | applyTriage id triage =>
      obtain ⟨workOrder, same, -, rfl⟩ := TriageService.apply_eq_some writes
      cases same
      exact ⟨before.staffed, Or.inr ⟨rfl, rfl, rfl, rfl⟩⟩

/-- A new order is open and has no triage. -/
theorem wellFormed_of_insertedRow {dto : CreateWorkOrderDto} {id : Uuid} {now : Instant}
    {row : WorkOrder} (inserted : insertedRow dto id now = .ok row) : row.WellFormed := by
  obtain ⟨-, status, -, columns⟩ := insertedRow_ok inserted
  refine ⟨fun staffed => ?_, Or.inl columns⟩
  rw [status] at staffed
  exact absurd staffed (by decide)

/-- A well-formed row passes the database's check. -/
theorem checkConstraints_ne_check {row : WorkOrder} (wellFormed : row.WellFormed)
    (constraint : String) : checkConstraints row ≠ .error (.check constraint) := by
  intro refused
  unfold checkConstraints at refused
  split_ifs at refused with long unstaffed
  · cases refused
  · have assignee := wellFormed.staffed (Or.inl unstaffed.1)
    rw [unstaffed.2] at assignee
    cases assignee

/-- The snapshot of a well-formed row has the assignee its status asks for. -/
theorem snapshot_assigneeId {row : WorkOrder} (wellFormed : row.WellFormed)
    {status : WorkOrderStatus} (staffed : status.Staffed)
    (same : (WorkOrderEventsOutbox.snapshot row).status = status.text) :
    (WorkOrderEventsOutbox.snapshot row).assigneeId.isSome = true := by
  apply wellFormed.staffed
  have text_injective : ∀ a b : WorkOrderStatus, a.text = b.text → a = b := by
    intro a b
    cases a <;> cases b <;> decide
  rw [text_injective _ _ same]
  exact staffed

/-! ## The invariant -/

/-- Every row that is stored or held is well-formed, and every staged snapshot
has the assignee its status asks for. -/
structure WellFormedState (s : ServiceState) : Prop where
  /-- So it is of what is stored, -/
  rows : ∀ id row, s.row id = some row → row.WellFormed
  /-- of what a call has found, and of what it is about to save, -/
  inFlight : ∀ c flight call found write, s.inFlight c = some flight →
    flight.prepared = .update call found write → found.WellFormed ∧ write.entity.WellFormed
  /-- and of what has been staged. -/
  events : ∀ event ∈ s.db.outbox.rows, ∀ status : WorkOrderStatus, status.Staffed →
    event.payload.data.status = status.text → event.payload.data.assigneeId.isSome = true

/-- There is no row at first. -/
theorem WellFormedState.initial : WellFormedState ServiceState.initial where
  rows := fun _ _ absent => nomatch absent
  inFlight := fun _ _ _ _ _ held => nomatch held
  events := fun _ member => absurd member List.not_mem_nil

/-- Every step keeps it, since every write is made from a row that is well-formed. -/
theorem WellFormedState.step {s s' : ServiceState} {a : ServiceAction}
    (invariant : WellFormedState s) (sound : s.Sound) (moved : service.step s a = some s') :
    WellFormedState s' where
  rows := by
    intro id row present
    cases orderChange_of_step sound moved id with
    | same unchanged =>
        rw [unchanged] at present
        exact invariant.rows id row present
    | inserted _ _ inserted stored =>
        rw [stored] at present
        cases present
        exact wellFormed_of_insertedRow inserted
    | written held prepared _ _ _ _ stored =>
        rw [stored] at present
        cases present
        exact (invariant.inFlight _ _ _ _ _ held prepared).2
  inFlight := by
    intro c flight call found write held prepared
    rcases inFlight_of_step moved held with
      before | ⟨-, ⟨dto, -, -, -, inserts⟩ |
        ⟨call', -, now, id, found', write', -, -, present, writes, updates⟩⟩
    · exact invariant.inFlight c flight call found write before prepared
    · rw [prepared] at inserts
      cases inserts
    · rw [prepared] at updates
      cases updates
      -- the call has just read a committed row, and changes it as its method does
      have read := invariant.rows id found present
      exact ⟨read, writes.wellFormed read⟩
  events := by
    intro event member status staffed same
    -- the event is among those of its own order
    have ofOrder : event ∈ s'.eventsOf event.payload.data.workOrderId :=
      List.mem_filter.mpr ⟨member, decide_eq_true rfl⟩
    have before : event ∈ s.eventsOf event.payload.data.workOrderId →
        event.payload.data.assigneeId.isSome = true := fun old =>
      invariant.events event (List.mem_filter.mp old).1 status staffed same
    cases orderChange_of_step sound moved event.payload.data.workOrderId with
    | same _ unstaged =>
        rw [unstaged] at ofOrder
        exact before ofOrder
    | inserted _ _ inserted _ staged =>
        rw [staged] at ofOrder
        rcases List.mem_append.mp ofOrder with old | new
        · exact before old
        · rw [List.mem_singleton.mp new] at same ⊢
          exact snapshot_assigneeId (wellFormed_of_insertedRow inserted) staffed same
    | written held prepared _ _ _ _ _ _ staged =>
        rw [staged] at ofOrder
        rcases List.mem_append.mp ofOrder with old | new
        · exact before old
        · rw [List.mem_singleton.mp new] at same ⊢
          exact snapshot_assigneeId (invariant.inFlight _ _ _ _ _ held prepared).2 staffed same

/-! ## No commit fails on the check -/

/-- The rows a prepared call works with. -/
def Prepared.WellFormed : Prepared → Prop
  | .insert _ => True
  | .update _ found write => found.WellFormed ∧ write.entity.WellFormed

/-- An insert in the outbox violates no check. -/
theorem stage_ne_check {outbox : OutboxTable} {type : WorkOrderEventType} {workOrder : WorkOrder}
    {context : StageContext} (constraint : String) :
    WorkOrderEventsOutbox.stage outbox type workOrder context ≠ .error (.check constraint) := by
  intro refused
  unfold WorkOrderEventsOutbox.stage at refused
  split_ifs at refused
  cases refused

/-- A new order is not assigned, so its insert does not. -/
theorem insert_ne_check {table : WorkOrdersTable} {dto : CreateWorkOrderDto} {id : Uuid}
    {now : Instant} (constraint : String) :
    table.insert dto id now ≠ .error (.check constraint) := by
  intro refused
  rcases bind_eq_error.mp refused with noRow | ⟨row, inserted, refused⟩
  · rcases bind_eq_error.mp noRow with noPriority | ⟨_, -, impossible⟩
    · cases priority : dto.priority <;> simp [insertedValue, priority] at noPriority
    · cases impossible
  · rcases bind_eq_error.mp refused with unchecked | ⟨-, -, refused⟩
    · exact checkConstraints_ne_check (wellFormed_of_insertedRow inserted) constraint unchecked
    · split_ifs at refused
      cases refused

/-- Nor does the save of a well-formed entity. -/
theorem save_ne_check {table : WorkOrdersTable} {entity : WorkOrder}
    (wellFormed : entity.WellFormed) (constraint : String) :
    table.save entity ≠ .error (.check constraint) := by
  intro refused
  rcases bind_eq_error.mp refused with unchecked | ⟨-, -, impossible⟩
  · exact checkConstraints_ne_check wellFormed constraint unchecked
  · cases impossible

/-- A step of a transaction fails on the check only if the statement does. -/
theorem mapError_ne_check {α : Type} {x : Except DbError α} {reached point : TxPoint}
    {constraint : String} (never : x ≠ .error (.check constraint)) :
    x.mapError (reached, ·) ≠ .error (point, .check constraint) := by
  intro refused
  obtain ⟨e, failed, same⟩ := mapError_eq_error.mp refused
  rw [(Prod.mk.inj same).2] at failed
  exact never failed

/-- **The check never fails a transaction** made from well-formed rows. -/
theorem Database.transaction_ne_check {db : Database} {store : Option RequestContext}
    {context : CommitContext} {prepared : Prepared} (wellFormed : prepared.WellFormed)
    (point : TxPoint) (constraint : String) :
    db.transaction store context prepared ≠ .error (point, .check constraint) := by
  intro refused
  match prepared with
  | .insert dto =>
      rcases bind_eq_error.mp refused with notSaved | ⟨⟨_, _⟩, -, refused⟩
      · exact mapError_ne_check (insert_ne_check constraint) notSaved
      · rcases bind_eq_error.mp refused with notStaged | ⟨_, -, impossible⟩
        · exact mapError_ne_check (stage_ne_check constraint) notStaged
        · cases impossible
  | .update call found { entity, event := some type } =>
      rcases bind_eq_error.mp refused with notSaved | ⟨⟨_, _⟩, -, refused⟩
      · exact mapError_ne_check (save_ne_check wellFormed.2 constraint) notSaved
      · rcases bind_eq_error.mp refused with notStaged | ⟨_, -, impossible⟩
        · exact mapError_ne_check (stage_ne_check constraint) notStaged
        · cases impossible
  | .update call found { entity, event := none } =>
      rcases bind_eq_error.mp refused with notSaved | ⟨⟨_, _⟩, -, impossible⟩
      · exact mapError_ne_check (save_ne_check wellFormed.2 constraint) notSaved
      · cases impossible

/-- What a call in flight is about to save is well-formed. -/
theorem WellFormedState.prepared {s : ServiceState} (invariant : WellFormedState s) {c : CallId}
    {flight : InFlight} (held : s.inFlight c = some flight) : flight.prepared.WellFormed := by
  cases prepared : flight.prepared with
  | insert dto => trivial
  | update call found write => exact invariant.inFlight c flight call found write held prepared

/-- **Rows are well-formed under any concurrency**, stored or held, and so are the
snapshots staged of them; no commit ever fails on a check constraint. -/
theorem wellFormed_of_reachable (s : ServiceState)
    (reached : service.Reachable ServiceState.initial s) :
    WellFormedState s ∧
      ∀ c flight context point constraint, s.inFlight c = some flight →
        s.db.transaction flight.store context flight.prepared ≠
          .error (point, .check constraint) := by
  have invariant : s.Sound ∧ WellFormedState s :=
    Machine.Reachable.invariant service (I := fun s => s.Sound ∧ WellFormedState s)
      (fun invariant moved =>
        ⟨invariant.1.step moved, invariant.2.step invariant.1 moved⟩)
      ⟨ServiceState.quiescent_initial.sound, .initial⟩ reached
  refine ⟨invariant.2, fun c flight context point constraint held => ?_⟩
  exact Database.transaction_ne_check (invariant.2.prepared held) point constraint

/-- A start and a triage of the same order have both read it. -/
def startAndTriageInFlight : List ServiceAction :=
  [ .begin 0 (.create leakingTap) none .epoch,
    .commit 0 .first,
    .begin 1 (.assign openOrder.id technician) none .epoch,
    .commit 1 .second,
    .begin 2 (.updateStatus openOrder.id .inProgress) none .epoch,
    .begin 3 (.applyTriage openOrder.id ⟨.plumbing, .low, "A tap drips."⟩) none .epoch ]

/-- A start and a triage have read the same row, and neither has committed. -/
theorem wellFormed_startAndTriageInFlight :
    WellFormedState ((service.run .initial startAndTriageInFlight).get (by decide)) :=
  (wellFormed_of_reachable _ ⟨startAndTriageInFlight, (Option.some_get _).symm⟩).1

end PropFlow
