import PropFlow.Contracts
import PropFlow.Library.Fallible
import Mathlib.Logic.Function.Basic

/-!
# Work orders

The entity of the work-orders service, its lifecycle, and the constraints the
database puts on a row.

## The lifecycle

`canTransition` and `canAssign` are the code's two guards.  Entering `assigned`
is excluded from the transition table on purpose: it only happens through
assignment, which supplies the assignee.  Nothing leaves a terminal status
(`not_canTransition_of_terminal`, `not_canAssign_of_terminal`).

## The table

* `WorkOrder` — the entity, with the columns of `work_orders`;
* `checkConstraints` — what the database checks of a row before it stores it: the
  length of the title, and that an assigned order has an assignee;
* `insertedRow` — the row an `INSERT` stores, with the database's defaults for what the
  request leaves `undefined`;
* `WorkOrdersTable` — the committed rows by id, with `insert` and `save` as the
  repository has them.  `save` writes every column of the entity, whatever the row has
  become meanwhile.
-/

namespace PropFlow

open Library Library.CivilTime

/-- `WorkOrderPriority`. -/
inductive WorkOrderPriority where
  | low
  | medium
  | high
  | urgent
deriving DecidableEq, Repr

/-- The text of a priority, in the column and on the wire. -/
def WorkOrderPriority.text : WorkOrderPriority → String
  | .low => "low"
  | .medium => "medium"
  | .high => "high"
  | .urgent => "urgent"

/-- `WorkOrderStatus`. -/
inductive WorkOrderStatus where
  | «open»
  | assigned
  | inProgress
  | completed
  | cancelled
deriving DecidableEq, Repr

/-- The text of a status, in the column and on the wire. -/
def WorkOrderStatus.text : WorkOrderStatus → String
  | WorkOrderStatus.open => "open"
  | .assigned => "assigned"
  | .inProgress => "in_progress"
  | .completed => "completed"
  | .cancelled => "cancelled"

/-! ## The lifecycle -/

/-- `ALLOWED_TRANSITIONS`. -/
def allowedTransitions : WorkOrderStatus → List WorkOrderStatus
  | WorkOrderStatus.open => [.cancelled]
  | .assigned => [.inProgress, .cancelled]
  | .inProgress => [.completed, .cancelled]
  | .completed => []
  | .cancelled => []

/-- `canTransition(from, to)`. -/
def canTransition (source target : WorkOrderStatus) : Bool :=
  (allowedTransitions source).contains target

/-- `ASSIGNABLE_STATUSES`: reassignment is allowed until work starts. -/
def assignableStatuses : List WorkOrderStatus := [WorkOrderStatus.open, .assigned]

/-- `canAssign(status)`. -/
def canAssign (status : WorkOrderStatus) : Bool := assignableStatuses.contains status

/-- The statuses no transition leaves. -/
def WorkOrderStatus.Terminal (status : WorkOrderStatus) : Prop :=
  status = .completed ∨ status = .cancelled

instance (status : WorkOrderStatus) : Decidable status.Terminal :=
  inferInstanceAs (Decidable (_ ∨ _))

/-- A terminal status is left by no transition, -/
theorem not_canTransition_of_terminal {status : WorkOrderStatus} (terminal : status.Terminal)
    (target : WorkOrderStatus) : canTransition status target = false := by
  rcases terminal with rfl | rfl <;> rfl

/-- and by no assignment. -/
theorem not_canAssign_of_terminal {status : WorkOrderStatus} (terminal : status.Terminal) :
    canAssign status = false := by
  rcases terminal with rfl | rfl <;> rfl

/-- No transition returns to `open` or enters `assigned`. -/
theorem canTransition_target {source target : WorkOrderStatus}
    (allowed : canTransition source target = true) :
    target = .inProgress ∨ target = .completed ∨ target = .cancelled := by
  revert allowed
  cases source <;> cases target <;> decide

/-! ## The entity and its table -/

/-- `WorkOrder`, the entity and its stored row alike.  `updatedAt` is left out:
nothing the service does reads it. -/
structure WorkOrder where
  id : Uuid
  title : String
  description : String
  propertyId : Uuid
  priority : WorkOrderPriority
  status : WorkOrderStatus
  assigneeId : Option Uuid
  triageCategory : Option TriageCategory
  triageUrgency : Option TriageUrgency
  triageReasoning : Option String
  triagedAt : Option Instant
  createdAt : Instant
deriving DecidableEq

/-- The four triage columns, written together by the triage service. -/
def WorkOrder.triageColumns (row : WorkOrder) :
    Option TriageCategory × Option TriageUrgency × Option String × Option Instant :=
  (row.triageCategory, row.triageUrgency, row.triageReasoning, row.triagedAt)

/-- Why Postgres refuses a statement. -/
inductive DbError where
  /-- A column without a value. -/
  | notNull (column : String)
  /-- A text that does not fit its column. -/
  | tooLong (column : String)
  /-- A `CHECK` constraint. -/
  | check (constraint : String)
  /-- A `UNIQUE` constraint, or a primary key. -/
  | unique (constraint : String)
  /-- A text that is no value of its type. -/
  | invalidSyntax (type : String)
  /-- No database at all. -/
  | connection
deriving DecidableEq, Repr

/-- The constraints of `work_orders` that a well-typed row can still violate. -/
def checkConstraints (row : WorkOrder) : Except DbError Unit :=
  if 200 < row.title.length then .error (.tooLong "title")
  else if row.status = .assigned ∧ row.assigneeId = none then
    .error (.check "chk_work_orders_assignee_when_assigned")
  else .ok ()

/-- `CreateWorkOrderDto`, after validation. -/
structure CreateWorkOrderDto where
  title : String
  description : String
  propertyId : Uuid
  priority : Nullish WorkOrderPriority
deriving DecidableEq

/-- The value an INSERT writes for a NOT NULL column with a default: `DEFAULT`
when the property is absent, `NULL`, which is refused, when it is `null`. -/
def insertedValue {α : Type} (column : String) (default : α) : Nullish α → Except DbError α
  | .undefined => .ok default
  | .null => .error (.notNull column)
  | .value a => .ok a

/-- The row an INSERT of the validated body produces, with the identity and the
time the database supplies. -/
def insertedRow (dto : CreateWorkOrderDto) (id : Uuid) (now : Instant) :
    Except DbError WorkOrder := do
  let priority ← insertedValue "priority" WorkOrderPriority.medium dto.priority
  .ok
    { id, title := dto.title, description := dto.description, propertyId := dto.propertyId
      priority, status := WorkOrderStatus.open, assigneeId := none, triageCategory := none
      triageUrgency := none, triageReasoning := none, triagedAt := none, createdAt := now }

/-- A new order is open, unassigned and untriaged. -/
theorem insertedRow_ok {dto : CreateWorkOrderDto} {id : Uuid} {now : Instant} {row : WorkOrder}
    (ok : insertedRow dto id now = .ok row) :
    row.id = id ∧ row.status = WorkOrderStatus.open ∧ row.assigneeId = none ∧
      row.triageColumns = (none, none, none, none) := by
  obtain ⟨priority, -, rest⟩ := bind_eq_ok.mp ok
  cases rest
  exact ⟨rfl, rfl, rfl, rfl⟩

/-- The committed rows of `work_orders`, each stored under its own primary key. -/
structure WorkOrdersTable where
  /-- The row of a primary key. -/
  find : Uuid → Option WorkOrder
  /-- A row is where its key is. -/
  keyed : ∀ {id : Uuid} {row : WorkOrder}, find id = some row → row.id = id

namespace WorkOrdersTable

/-- The table with no rows. -/
def empty : WorkOrdersTable where
  find := fun _ => none
  keyed := fun absent => nomatch absent

/-- Store a row under its key. -/
def put (table : WorkOrdersTable) (row : WorkOrder) : WorkOrdersTable where
  find := Function.update table.find row.id (some row)
  keyed := by
    intro id stored present
    by_cases same : id = row.id
    · subst same
      rw [Function.update_self] at present
      cases present
      rfl
    · rw [Function.update_of_ne same] at present
      exact table.keyed present

/-- What is stored is found under its id, -/
@[simp] theorem find_put_self (table : WorkOrdersTable) (row : WorkOrder) :
    (table.put row).find row.id = some row := Function.update_self _ _ _

/-- and every other row stays as it was. -/
theorem find_put_of_ne (table : WorkOrdersTable) {row : WorkOrder} {id : Uuid}
    (other : id ≠ row.id) : (table.put row).find id = table.find id :=
  Function.update_of_ne other _ _

/-- `manager.save` of a new entity: an INSERT under a primary key the database
generates. -/
def insert (table : WorkOrdersTable) (dto : CreateWorkOrderDto) (id : Uuid) (now : Instant) :
    Except DbError (WorkOrdersTable × WorkOrder) := do
  let row ← insertedRow dto id now
  checkConstraints row
  if (table.find id).isSome then .error (.unique "work_orders_pkey")
  else .ok (table.put row, row)

/-- `manager.save` of a loaded entity: every stored column becomes equal to the
in-memory entity, whatever was committed in between. -/
def save (table : WorkOrdersTable) (entity : WorkOrder) :
    Except DbError (WorkOrdersTable × WorkOrder) := do
  checkConstraints entity
  .ok (table.put entity, entity)

/-- A successful save changes one row, to the entity. -/
theorem save_ok {table after : WorkOrdersTable} {entity saved : WorkOrder}
    (ok : table.save entity = .ok (after, saved)) :
    saved = entity ∧ after = table.put entity := by
  obtain ⟨_, -, rest⟩ := bind_eq_ok.mp ok
  cases rest
  exact ⟨rfl, rfl⟩

/-- A successful insert adds the inserted row under a fresh key. -/
theorem insert_ok {table after : WorkOrdersTable} {dto : CreateWorkOrderDto} {id : Uuid}
    {now : Instant} {saved : WorkOrder} (ok : table.insert dto id now = .ok (after, saved)) :
    table.find id = none ∧ insertedRow dto id now = .ok saved ∧ after = table.put saved := by
  obtain ⟨row, inserted, rest⟩ := bind_eq_ok.mp ok
  obtain ⟨_, -, rest⟩ := bind_eq_ok.mp rest
  obtain ⟨fresh, rest⟩ := guard_eq_ok.mp rest
  cases rest
  exact ⟨by simpa using fresh, inserted, rfl⟩

end WorkOrdersTable

end PropFlow
