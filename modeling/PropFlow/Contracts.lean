import PropFlow.Library.CivilTime

/-!
# The contract library

`libs/contracts`: the event envelope, the work-order events that travel in it,
and the broker names every service shares.

Values that the code passes around as text but compares as something else are
kept as what they are: a `Uuid` is its canonical lower-case text (Postgres
compares uuids as values, so the spelling a client used is not a distinction),
and closed vocabularies are enumerations with their text as a function.

* `Nullish` — a property that may be absent or `null`.  Much of the code tells the two
  apart without meaning to: by `??`, by `=== undefined`, by `@IsOptional()`;
* `Thrown` — what a `catch` clause can catch, which need not be an `Error`;
* `Exchanges`, `Topics` — the names of the brokers;
* `WorkOrderEvent` — the event, which all services read.  Its priority and its status are
  any text, its category and its urgency are of a closed vocabulary: the types say so.
-/

namespace PropFlow

open Library.CivilTime

/-- A uuid, as its canonical text. -/
structure Uuid where
  text : String
deriving DecidableEq, Repr

/-- Numbers are told apart by their digits. -/
theorem toString_injective : Function.Injective fun n : ℕ => toString n := by
  intro n m same
  have digits : n.repr.toList = m.repr.toList := congrArg String.toList same
  rw [Nat.toList_repr, Nat.toList_repr] at digits
  rw [← Nat.ofDigitChars_ten_toDigits (n := n), digits, Nat.ofDigitChars_ten_toDigits]

/-- Names with a number at the end are told apart by the number. -/
theorem append_toString_injective (front : String) (k : ℕ) :
    Function.Injective fun n : ℕ => front ++ toString (k + n) := by
  intro n m same
  have ends : toString (k + n) = toString (k + m) := (String.append_right_inj front).mp same
  exact Nat.add_left_cancel (toString_injective ends)

/-- A uuid for every number, as long as there are digits. -/
def Uuid.numbered (n : ℕ) : Uuid := ⟨"00000000-0000-4000-8000-0000000" ++ toString (10000 + n)⟩

/-- Each number has a uuid of its own. -/
theorem Uuid.numbered_injective : Function.Injective Uuid.numbered :=
  fun _ _ same => append_toString_injective _ _ (congrArg Uuid.text same)

/-- A property `x?: T | null`: absent, `null`, or a value. -/
inductive Nullish (α : Type) where
  | undefined
  | null
  | value (a : α)
deriving DecidableEq, Repr

/-- The operator `x ?? null`. -/
def Nullish.orNull {α : Type} : Nullish α → Option α
  | .undefined => none
  | .null => none
  | .value a => some a

/-- The value is changed, if there is one. -/
def Nullish.map {α β : Type} (f : α → β) : Nullish α → Nullish β
  | .undefined => .undefined
  | .null => .null
  | .value a => .value (f a)

/-- A nullable value as a property that is always present. -/
def Nullish.ofOption {α : Type} : Option α → Nullish α
  | none => .null
  | some a => .value a

/-- A property that is always present loses nothing by `?? null`. -/
@[simp] theorem Nullish.orNull_ofOption {α : Type} (x : Option α) :
    (Nullish.ofOption x).orNull = x := by
  cases x <;> rfl

/-- What a `catch` clause can catch. -/
inductive Thrown where
  | error (message : String)
  | other (text : String)
deriving DecidableEq, Repr

/-- `error instanceof Error ? error.message : String(error)`. -/
def Thrown.text : Thrown → String
  | .error message => message
  | .other text => text

/-! ## Broker topology -/

namespace Exchanges

/-- Topic exchange all domain events are published to. -/
def events : String := "propflow.events"

/-- Messages that exhausted their retries end up here. -/
def deadLetter : String := "propflow.dlx"

end Exchanges

/-- Kafka topic of the work-order events. -/
def Topics.workOrderEvents : String := "propflow.work-orders"

/-! ## Work-order events -/

/-- `WORK_ORDER_EVENTS`: what happened to a work order. -/
inductive WorkOrderEventType where
  | created
  | assigned
  | started
  | completed
  | cancelled
  | triaged
deriving DecidableEq, Repr

/-- The routing key of an event type on the events exchange, which is also the
value of its `type` property. -/
def WorkOrderEventType.text : WorkOrderEventType → String
  | .created => "work-order.created"
  | .assigned => "work-order.assigned"
  | .started => "work-order.started"
  | .completed => "work-order.completed"
  | .cancelled => "work-order.cancelled"
  | .triaged => "work-order.triaged"

/-- `TRIAGE_CATEGORIES`. -/
inductive TriageCategory where
  | plumbing
  | electrical
  | hvac
  | appliance
  | structural
  | pestControl
  | other
deriving DecidableEq, Repr

/-- The text of a category, as it is stored and sent. -/
def TriageCategory.text : TriageCategory → String
  | .plumbing => "plumbing"
  | .electrical => "electrical"
  | .hvac => "hvac"
  | .appliance => "appliance"
  | .structural => "structural"
  | .pestControl => "pest_control"
  | .other => "other"

/-- `TRIAGE_URGENCIES`. -/
inductive TriageUrgency where
  | emergency
  | high
  | medium
  | low
deriving DecidableEq, Repr

/-- The text of an urgency, as it is stored and sent. -/
def TriageUrgency.text : TriageUrgency → String
  | .emergency => "emergency"
  | .high => "high"
  | .medium => "medium"
  | .low => "low"

/-- `WorkOrderTriage`: a classification and its one-sentence justification. -/
structure WorkOrderTriage where
  category : TriageCategory
  urgency : TriageUrgency
  reasoning : String
deriving DecidableEq, Repr

/-- `WorkOrderEventData`: the snapshot of the work order an event carries. -/
structure WorkOrderEventData where
  workOrderId : Uuid
  propertyId : Uuid
  title : String
  description : String
  priority : String
  status : String
  assigneeId : Option Uuid
  triage : Nullish WorkOrderTriage
deriving DecidableEq, Repr

/-- `EventEnvelope`: `eventId` is the idempotency key, `occurredAt` the domain
time.  Events that predate authentication carry no `actorId` at all. -/
structure EventEnvelope (TType TData : Type) where
  eventId : Uuid
  type : TType
  occurredAt : String
  correlationId : Option String
  actorId : Nullish String
  data : TData
deriving DecidableEq, Repr

/-- `WorkOrderEvent`. -/
abbrev WorkOrderEvent := EventEnvelope WorkOrderEventType WorkOrderEventData

end PropFlow
