import PropFlow.Library.Machine
import PropFlow.Library.PartialMap
import PropFlow.WorkOrders.Service

/-!
# Interleaved calls

The work-orders service as a machine: any number of calls, from any number of
replicas and queue consumers, over one database.  A call takes two steps.
`begin` reads the committed row, outside any transaction, and runs the method up
to its transaction; `commit` runs that transaction, which is atomic.  `abort` is
a transaction that dies at a given point.  Any list of actions is an
interleaving.

## What one action can do

`Effect` says once what an action can do, and `effect_of_step` that the machine
does nothing else.  Every invariant, here and in the modules that import this
one, is a case analysis of `Effect`, or of what it comes to for one work order:
`OrderChange` (`orderChange_of_step`).  Either the order's row and its events stay as
they are, or the row is inserted with its first event, or a call that was prepared for
the order writes the row and stages one event.

## What a call in flight knows

`ServiceState.Sound` says of every call in flight that what it is about to write is what
its method makes of a row that was once committed.  It does not say that the row is
still there unchanged, since it need not be.

## A database to run on

The last section has the rows and contexts that the witnesses of this development share.
-/

namespace PropFlow

open Library Library.CivilTime

/-- A call that has been read but not committed. -/
structure InFlight where
  /-- The context that it runs in. -/
  store : Option RequestContext
  /-- What it has found and is about to write. -/
  prepared : Prepared
deriving DecidableEq

/-- How a call ended. -/
inductive Reply where
  /-- It has returned the saved row. -/
  | saved (row : WorkOrder)
  /-- It was refused on what it had read. -/
  | rejected (exception : HttpException)
  /-- There was nothing to do. -/
  | dropped
  /-- Its transaction has failed. -/
  | failed (point : TxPoint) (error : DbError)
deriving DecidableEq

/-- Calls are told apart by a number. -/
abbrev CallId := ℕ

/-- The database, the calls between their two steps, and the replies so far. -/
structure ServiceState where
  /-- what is committed -/
  db : Database
  /-- the calls between their read and their transaction -/
  inFlight : CallId → Option InFlight
  /-- how the others have ended -/
  replies : List (CallId × Reply)

/-- The scheduler's choices. -/
inductive ServiceAction where
  /-- A call reads, checks, and changes its entity. -/
  | begin (c : CallId) (call : Call) (store : Option RequestContext) (now : Instant)
  /-- Its transaction runs to its end. -/
  | commit (c : CallId) (context : CommitContext)
  /-- Its transaction fails at a point, and is rolled back. -/
  | abort (c : CallId) (point : TxPoint)
deriving DecidableEq

namespace ServiceState

/-- The service before any call: no orders, no events. -/
def initial : ServiceState where
  db := { workOrders := .empty, outbox := { rows := [], nextId := 1 } }
  inFlight := fun _ => none
  replies := []

/-- The row committed for a work order. -/
def row (s : ServiceState) (id : Uuid) : Option WorkOrder := s.db.workOrders.find id

/-- A call ends. -/
def finish (s : ServiceState) (c : CallId) (db : Database) (reply : Reply) : ServiceState where
  db := db
  inFlight := Function.update s.inFlight c none
  replies := (c, reply) :: s.replies

/-- A triage is applied from a queue consumer, outside any request. -/
def storeOf (call : Call) (store : Option RequestContext) : Option RequestContext :=
  match call with
  | .applyTriage _ _ => none
  | _ => store

/-- The first step of call `c`. -/
def begin (s : ServiceState) (c : CallId) (call : Call) (store : Option RequestContext)
    (now : Instant) : ServiceState :=
  match call.prepare s.db.workOrders now with
  | .error e => { s with replies := (c, .rejected e) :: s.replies }
  | .ok none => { s with replies := (c, .dropped) :: s.replies }
  | .ok (some prepared) =>
      { s with
        inFlight := Function.update s.inFlight c (some ⟨storeOf call store, prepared⟩) }

/-- The second step of call `c`. -/
def commit (s : ServiceState) (c : CallId) (context : CommitContext) (flight : InFlight) :
    ServiceState :=
  match s.db.transaction flight.store context flight.prepared with
  | .ok (db, saved) => s.finish c db (.saved saved)
  | .error (point, e) => s.finish c (s.db.rolledBack point) (.failed point e)

/-- One action.  A call id is not reused while its call is in flight. -/
def step (s : ServiceState) : ServiceAction → Option ServiceState
  | .begin c call store now =>
      match s.inFlight c with
      | some _ => none
      | none => some (s.begin c call store now)
  | .commit c context => (s.inFlight c).map fun flight => s.commit c context flight
  | .abort c point =>
      (s.inFlight c).map fun _ =>
        s.finish c (s.db.rolledBack point) (.failed point .connection)

end ServiceState

/-- What the transaction that action `a` commits had prepared; `none` when `a`
commits none, be it a read, a failure, or a transaction the database refuses. -/
def ServiceState.committing (s : ServiceState) : ServiceAction → Option Prepared
  | .commit c context =>
      (s.inFlight c).bind fun flight =>
        match s.db.transaction flight.store context flight.prepared with
        | .ok _ => some flight.prepared
        | .error _ => none
  | _ => none

/-- The work-orders service under concurrency. -/
def service : Machine ServiceState ServiceAction where
  step := ServiceState.step

/-- What a successful transaction does: the saved row is stored, and its event,
if it has one, is appended to the outbox. -/
structure Committed (db : Database) (store : Option RequestContext) (context : CommitContext)
    (prepared : Prepared) (db' : Database) (saved : WorkOrder) : Prop where
  /-- The saved row is the prepared entity, or a new row under a fresh key. -/
  saved_eq : (∃ dto, prepared = .insert dto ∧ db.workOrders.find context.newId = none ∧
      insertedRow dto context.newId context.now = .ok saved) ∨
    ∃ call found write, prepared = .update call found write ∧ saved = write.entity
  /-- The saved row is stored in place of the one before. -/
  workOrders_eq : db'.workOrders = db.workOrders.put saved
  /-- The event, if there is one, comes last and takes the next id. -/
  outbox_eq : match prepared.event with
    | some type =>
        (∀ row ∈ db.outbox.rows, row.eventId ≠ context.eventId) ∧
          db'.outbox.rows = db.outbox.rows ++ [WorkOrderEventsOutbox.stagedRow
            db.outbox.nextId type saved (context.stageContext store)] ∧
          db'.outbox.nextId = db.outbox.nextId + 1
    | none => db'.outbox = db.outbox

/-- What a transaction that commits has done. -/
theorem Database.transaction_ok {db db' : Database} {store : Option RequestContext}
    {context : CommitContext} {prepared : Prepared} {saved : WorkOrder}
    (ok : db.transaction store context prepared = .ok (db', saved)) :
    Committed db store context prepared db' saved := by
  match prepared with
  | .insert dto =>
      obtain ⟨⟨workOrders, row⟩, insertion, rest⟩ := bind_eq_ok.mp ok
      obtain ⟨outbox, staging, rest⟩ := bind_eq_ok.mp rest
      cases rest
      obtain ⟨fresh, inserted, rfl⟩ :=
        WorkOrdersTable.insert_ok (mapError_eq_ok.mp insertion)
      exact ⟨Or.inl ⟨dto, rfl, fresh, inserted⟩, rfl,
        WorkOrderEventsOutbox.stage_ok (mapError_eq_ok.mp staging)⟩
  | .update call found { entity, event := some type } =>
      obtain ⟨⟨workOrders, row⟩, saving, rest⟩ := bind_eq_ok.mp ok
      obtain ⟨outbox, staging, rest⟩ := bind_eq_ok.mp rest
      cases rest
      obtain ⟨rfl, rfl⟩ := WorkOrdersTable.save_ok (mapError_eq_ok.mp saving)
      exact ⟨Or.inr ⟨call, found, _, rfl, rfl⟩, rfl,
        WorkOrderEventsOutbox.stage_ok (mapError_eq_ok.mp staging)⟩
  | .update call found { entity, event := none } =>
      obtain ⟨⟨workOrders, row⟩, saving, rest⟩ := bind_eq_ok.mp ok
      cases rest
      obtain ⟨rfl, rfl⟩ := WorkOrdersTable.save_ok (mapError_eq_ok.mp saving)
      exact ⟨Or.inr ⟨call, found, _, rfl, rfl⟩, rfl, rfl⟩

/-- What one action can do to a state. -/
inductive Effect (s : ServiceState) : ServiceAction → ServiceState → Prop where
  /-- A call is answered without a transaction: 404, 409, or a dropped triage. -/
  | answered {c call store now reply} :
      Effect s (.begin c call store now) { s with replies := (c, reply) :: s.replies }
  /-- A `create` has nothing to read. -/
  | insert {c dto store now} (idle : s.inFlight c = none) :
      Effect s (.begin c (.create dto) store now)
        { s with inFlight := Function.update s.inFlight c (some ⟨store, .insert dto⟩) }
  /-- A call has read the committed row and prepared its write. -/
  | read {c call store now id found write} (idle : s.inFlight c = none)
      (target : call.target = some id) (present : s.row id = some found)
      (writes : call.Writes now found write) :
      Effect s (.begin c call store now)
        { s with
          inFlight := Function.update s.inFlight c
            (some ⟨ServiceState.storeOf call store, .update call found write⟩) }
  /-- A transaction commits. -/
  | committed {c context flight db saved} (held : s.inFlight c = some flight)
      (effect : Committed s.db flight.store context flight.prepared db saved)
      (committing : s.committing (.commit c context) = some flight.prepared) :
      Effect s (.commit c context) (s.finish c db (.saved saved))
  /-- A transaction fails and is rolled back. -/
  | failed {c a point error} (committing : s.committing a = none) :
      Effect s a (s.finish c (s.db.rolledBack point) (.failed point error))

/-- **Nothing else happens.** -/
theorem effect_of_step {s s' : ServiceState} {a : ServiceAction}
    (moved : service.step s a = some s') : Effect s a s' := by
  cases a with
  | begin c call store now =>
      simp only [service, ServiceState.step] at moved
      cases idle : s.inFlight c with
      | some flight => simp [idle] at moved
      | none =>
          simp only [idle, Option.some.injEq] at moved
          subst moved
          unfold ServiceState.begin
          cases prepared : call.prepare s.db.workOrders now with
          | error e => exact .answered
          | ok outcome =>
              cases outcome with
              | none => exact .answered
              | some p =>
                  rcases Call.prepare_ok prepared with
                    ⟨dto, rfl, rfl⟩ | ⟨id, found, write, target, present, writes, rfl⟩
                  · exact .insert idle
                  · exact .read idle target present writes
  | commit c context =>
      simp only [service, ServiceState.step, Option.map_eq_some_iff] at moved
      obtain ⟨flight, held, rfl⟩ := moved
      unfold ServiceState.commit
      cases ran : s.db.transaction flight.store context flight.prepared with
      | ok result =>
          exact .committed held (Database.transaction_ok ran)
            (by simp [ServiceState.committing, held, ran])
      -- refused by the database, it is rolled back like one that dies
      | error e => exact .failed (by simp [ServiceState.committing, held, ran])
  | abort c point =>
      simp only [service, ServiceState.step, Option.map_eq_some_iff] at moved
      obtain ⟨flight, held, rfl⟩ := moved
      exact .failed rfl

/-- A transaction that dies leaves the rows as they were, -/
@[simp] theorem rolledBack_workOrders (db : Database) (point : TxPoint) :
    (db.rolledBack point).workOrders = db.workOrders := by
  cases point <;> rfl

/-- and the outbox. -/
@[simp] theorem rolledBack_rows (db : Database) (point : TxPoint) :
    (db.rolledBack point).outbox.rows = db.outbox.rows := by
  cases point <;> rfl

/-- The row a committed transaction leaves under the key it saved. -/
theorem Committed.row_saved {db db' : Database} {store : Option RequestContext}
    {context : CommitContext} {prepared : Prepared} {saved : WorkOrder}
    (effect : Committed db store context prepared db' saved) :
    db'.workOrders.find saved.id = some saved := by
  rw [effect.workOrders_eq, WorkOrdersTable.find_put_self]

/-- A committed transaction changes no other row. -/
theorem Committed.row_of_ne {db db' : Database} {store : Option RequestContext}
    {context : CommitContext} {prepared : Prepared} {saved : WorkOrder}
    (effect : Committed db store context prepared db' saved) {id : Uuid} (other : id ≠ saved.id) :
    db'.workOrders.find id = db.workOrders.find id := by
  rw [effect.workOrders_eq, WorkOrdersTable.find_put_of_ne _ other]

/-- A committed transaction stages nothing about another order. -/
theorem Committed.eventsOf_of_ne {db db' : Database} {store : Option RequestContext}
    {context : CommitContext} {prepared : Prepared} {saved : WorkOrder}
    (effect : Committed db store context prepared db' saved) {id : Uuid} (other : id ≠ saved.id) :
    db'.eventsOf id = db.eventsOf id := by
  have outbox := effect.outbox_eq
  unfold Database.eventsOf
  cases event : prepared.event with
  | none =>
      rw [event] at outbox
      rw [outbox]
  | some type =>
      rw [event] at outbox
      rw [outbox.2.1, List.filter_append, List.filter_singleton]
      simp [Ne.symm other]

/-- A committed transaction stages its event after the others of its order. -/
theorem Committed.eventsOf_saved {db db' : Database} {store : Option RequestContext}
    {context : CommitContext} {prepared : Prepared} {saved : WorkOrder} {type : WorkOrderEventType}
    (effect : Committed db store context prepared db' saved)
    (event : prepared.event = some type) :
    db'.eventsOf saved.id = db.eventsOf saved.id ++
      [WorkOrderEventsOutbox.stagedRow db.outbox.nextId type saved
        (context.stageContext store)] := by
  have outbox := effect.outbox_eq
  rw [event] at outbox
  unfold Database.eventsOf
  rw [outbox.2.1, List.filter_append, List.filter_singleton]
  simp

/-- Only a committed transaction changes a row. -/
theorem row_of_not_committing {s s' : ServiceState} {a : ServiceAction}
    (moved : service.step s a = some s') (idle : s.committing a = none) (id : Uuid) :
    s'.row id = s.row id := by
  cases effect_of_step moved with
  | answered => rfl
  | insert => rfl
  | read => rfl
  | committed _ _ committing => rw [committing] at idle; cases idle
  | failed => simp [ServiceState.row, ServiceState.finish]

/-- Rows are never deleted. -/
theorem row_isSome_of_step {s s' : ServiceState} {a : ServiceAction}
    (moved : service.step s a = some s') (id : Uuid) (present : (s.row id).isSome = true) :
    (s'.row id).isSome = true := by
  cases effect_of_step moved with
  | answered => exact present
  | insert => exact present
  | read => exact present
  | @committed c context flight db saved _ effect _ =>
      by_cases same : id = saved.id
      · subst same
        simp [ServiceState.row, ServiceState.finish, effect.row_saved]
      · simpa [ServiceState.row, ServiceState.finish, effect.row_of_ne same] using present
  | failed => simpa [ServiceState.row, ServiceState.finish] using present

/-- In some run of the service, a call that runs in this context has staged the
event. -/
def StagedUnder (store : Option RequestContext) (event : WorkOrderEvent) : Prop :=
  ∃ s s' c context flight row, service.Reachable .initial s ∧ s.inFlight c = some flight ∧
    flight.store = store ∧ service.step s (.commit c context) = some s' ∧
    s'.db.outbox.rows = s.db.outbox.rows ++ [row] ∧ row.payload = event

/-- A staged event is an envelope, made in the context of its call. -/
theorem StagedUnder.envelope_eq {store : Option RequestContext} {event : WorkOrderEvent}
    (staged : StagedUnder store event) : ∃ type workOrder context, context.store = store ∧
      event = WorkOrderEventsOutbox.envelope type workOrder context := by
  obtain ⟨s, s', c, context, flight, row, -, held, rfl, moved, staged, rfl⟩ := staged
  cases effect_of_step moved with
  | @committed _ _ flight' db saved held' effect _ =>
      cases held.symm.trans held'
      have outbox := effect.outbox_eq
      cases event : flight.prepared.event with
      | none =>
          rw [event] at outbox
          unfold ServiceState.finish at staged
          rw [outbox] at staged
          simp at staged
      | some type =>
          rw [event] at outbox
          unfold ServiceState.finish at staged
          rw [outbox.2.1, List.append_cancel_left_eq] at staged
          cases staged
          exact ⟨type, saved, _, rfl, rfl⟩
  | failed => simp [ServiceState.finish] at staged

/-! ## What a call in flight knows -/

/-- What is known of a prepared call however long ago it read: it was made by
its own guard, from a row stored under its own target, which is still there. -/
def Prepared.Sound (table : WorkOrdersTable) : Prepared → Prop
  | .insert _ => True
  | .update call found write =>
      call.target = some found.id ∧ (table.find found.id).isSome = true ∧
        ∃ now, call.Writes now found write

/-- Every call in flight is sound. -/
def ServiceState.Sound (s : ServiceState) : Prop :=
  ∀ c flight, s.inFlight c = some flight → flight.prepared.Sound s.db.workOrders

/-- No call is between its two steps. -/
def ServiceState.Quiescent (s : ServiceState) : Prop := ∀ c, s.inFlight c = none

/-- Nothing is in flight in a quiescent state. -/
theorem ServiceState.Quiescent.not_held {s : ServiceState} (quiescent : s.Quiescent) {c : CallId}
    {flight : InFlight} : s.inFlight c ≠ some flight := by
  rw [quiescent c]
  exact nofun

/-- So there is nothing to be sound. -/
theorem ServiceState.Quiescent.sound {s : ServiceState} (quiescent : s.Quiescent) : s.Sound :=
  fun _ _ held => absurd held quiescent.not_held

/-- The empty database is quiescent. -/
theorem ServiceState.quiescent_initial : ServiceState.initial.Quiescent := fun _ => rfl

/-- Where a call in flight comes from: it was in flight before, or it is the one
that has just begun, and then the committed rows are as they were. -/
theorem inFlight_of_step {s s' : ServiceState} {a : ServiceAction}
    (moved : service.step s a = some s') {c : CallId} {flight : InFlight}
    (held : s'.inFlight c = some flight) :
    s.inFlight c = some flight ∨ s'.db = s.db ∧
      ((∃ dto store now, a = .begin c (.create dto) store now ∧
          flight.prepared = .insert dto) ∨
        ∃ call store now id found write, a = .begin c call store now ∧
          call.target = some id ∧ s.row id = some found ∧ call.Writes now found write ∧
          flight.prepared = .update call found write) := by
  cases effect_of_step moved with
  | answered => exact Or.inl held
  | @insert d dto store now idle =>
      rcases update_some_eq_some.mp held with ⟨rfl, rfl⟩ | ⟨-, before⟩
      · exact Or.inr ⟨rfl, Or.inl ⟨dto, store, now, rfl, rfl⟩⟩
      · exact Or.inl before
  | @read d call store now id found write idle target present writes =>
      rcases update_some_eq_some.mp held with ⟨rfl, rfl⟩ | ⟨-, before⟩
      · exact Or.inr ⟨rfl, Or.inr
          ⟨call, store, now, id, found, write, rfl, target, present, writes, rfl⟩⟩
      · exact Or.inl before
  | committed => exact Or.inl (update_none_eq_some.mp held).2
  | failed => exact Or.inl (update_none_eq_some.mp held).2

/-- The same, of a call in flight that is about `id`: if it is the one that has
just begun, it has read the row committed for `id`. -/
theorem update_inFlight_of_step {s s' : ServiceState} {a : ServiceAction}
    (moved : service.step s a = some s') {id : Uuid} {c : CallId} {flight : InFlight} {call : Call}
    {found : WorkOrder} {write : Write} (held : s'.inFlight c = some flight)
    (prepared : flight.prepared = .update call found write) (target : call.target = some id) :
    s.inFlight c = some flight ∨
      s'.row id = some found ∧ ∃ store now, a = .begin c call store now := by
  rcases inFlight_of_step moved held with
    before | ⟨same, ⟨dto, -, -, -, inserts⟩ |
      ⟨call', store, now, id', found', write', begins, target', present, -, updates⟩⟩
  · exact Or.inl before
  · rw [prepared] at inserts
    cases inserts
  · rw [prepared] at updates
    cases updates
    rw [target] at target'
    cases target'
    refine Or.inr ⟨?_, store, now, begins⟩
    unfold ServiceState.row
    rw [same]
    exact present

/-- Every step keeps it: a call that begins has read a committed row. -/
theorem ServiceState.Sound.step {s s' : ServiceState} {a : ServiceAction} (sound : s.Sound)
    (moved : service.step s a = some s') : s'.Sound := by
  intro c flight held
  rcases inFlight_of_step moved held with
    before | ⟨same, ⟨dto, -, -, -, prepared⟩ |
      ⟨call, -, now, id, found, write, -, target, present, writes, prepared⟩⟩
  · have known := sound c flight before
    cases prepared : flight.prepared with
    | insert dto => trivial
    | update call found write =>
        rw [prepared] at known
        exact ⟨known.1, row_isSome_of_step moved _ known.2.1, known.2.2⟩
  · rw [prepared]
    trivial
  · have found_id : found.id = id := s.db.workOrders.keyed present
    rw [prepared, same]
    refine ⟨by rw [target, found_id], ?_, now, writes⟩
    rw [found_id, show s.db.workOrders.find id = some found from present]
    rfl

/-- The committed events of one work order. -/
def ServiceState.eventsOf (s : ServiceState) (id : Uuid) : List OutboxEvent := s.db.eventsOf id

/-- What one action does to one order, its row and its events. -/
inductive OrderChange (id : Uuid) (s : ServiceState) (a : ServiceAction) (s' : ServiceState) :
    Prop where
  /-- Nothing: no transaction about this work order commits. -/
  | same (unchanged : s'.row id = s.row id) (unstaged : s'.eventsOf id = s.eventsOf id)
      (elsewhere : ∀ call found write, s.committing a = some (.update call found write) →
        call.target ≠ some id)
  /-- It is created. -/
  | inserted {dto now saved outboxId context} (committing : s.committing a = some (.insert dto))
      (absent : s.row id = none) (inserted : insertedRow dto id now = .ok saved)
      (stored : s'.row id = some saved)
      (staged : s'.eventsOf id =
        s.eventsOf id ++ [WorkOrderEventsOutbox.stagedRow outboxId .created saved context])
  /-- A call's entity is saved over it. -/
  | written {c flight call found write now before type outboxId context}
      (held : s.inFlight c = some flight) (prepared : flight.prepared = .update call found write)
      (committing : s.committing a = some (.update call found write))
      (target : call.target = some id) (writes : call.Writes now found write)
      (present : s.row id = some before) (stored : s'.row id = some write.entity)
      (event : write.event = some type)
      (staged : s'.eventsOf id =
        s.eventsOf id ++ [WorkOrderEventsOutbox.stagedRow outboxId type write.entity context])

/-- **What a step does to one order.** -/
theorem orderChange_of_step {s s' : ServiceState} {a : ServiceAction} (sound : s.Sound)
    (moved : service.step s a = some s') (id : Uuid) : OrderChange id s a s' := by
  cases effect_of_step moved with
  | answered => exact .same rfl rfl fun _ _ _ committing => nomatch committing
  | insert => exact .same rfl rfl fun _ _ _ committing => nomatch committing
  | read => exact .same rfl rfl fun _ _ _ committing => nomatch committing
  | failed idle =>
      refine .same (row_of_not_committing moved idle id) ?_ fun _ _ _ committing => ?_
      · simp [ServiceState.eventsOf, Database.eventsOf, ServiceState.finish]
      · rw [idle] at committing
        cases committing
  | @committed c context flight db saved held effect committing =>
      -- the transaction saves one row, which is the one of `id` or another
      have elsewhere : id ≠ saved.id → (∀ call found write,
          flight.prepared = .update call found write → call.target ≠ some id) →
            OrderChange id s (.commit c context) (s.finish c db (.saved saved)) := by
        intro other untargeted
        refine .same (effect.row_of_ne other) (effect.eventsOf_of_ne other)
          fun call found write committing' => ?_
        rw [committing] at committing'
        exact untargeted call found write (Option.some.inj committing')
      rcases effect.saved_eq with
        ⟨dto, prepared, fresh, inserted⟩ | ⟨call, found, write, prepared, rfl⟩
      · have saved_id := (insertedRow_ok inserted).1
        rcases eq_or_ne id saved.id with rfl | other
        · have staged := effect.eventsOf_saved (by rw [prepared]; rfl)
          rw [← saved_id] at fresh inserted
          rw [prepared] at committing
          exact .inserted committing fresh inserted effect.row_saved staged
        · refine elsewhere other fun call found write prepared' => ?_
          rw [prepared] at prepared'
          cases prepared'
      · -- the row it found is still there, though perhaps not as it was found
        obtain ⟨target, there, now, writes⟩ :
            (Prepared.update call found write).Sound s.db.workOrders :=
          prepared ▸ sound c flight held
        rw [← writes.entity_id] at target there
        rcases eq_or_ne id write.entity.id with rfl | other
        · obtain ⟨before, present⟩ := Option.isSome_iff_exists.mp there
          obtain ⟨type, event⟩ := writes.event_isSome
          have staged := effect.eventsOf_saved (by rw [prepared]; exact event)
          rw [prepared] at committing
          exact .written held prepared committing target writes present effect.row_saved event
            staged
        · refine elsewhere other fun call' found' write' prepared' => ?_
          rw [prepared] at prepared'
          cases prepared'
          rw [target]
          exact fun same => other (Option.some.inj same).symm

/-! ## A database to run on -/

/-- The database that holds one committed order, and no call in flight. -/
def ServiceState.holding (row : WorkOrder) : ServiceState where
  db := { workOrders := WorkOrdersTable.empty.put row, outbox := { rows := [], nextId := 1 } }
  inFlight := fun _ => none
  replies := []

/-- So is a database with one row. -/
theorem ServiceState.quiescent_holding (row : WorkOrder) : (ServiceState.holding row).Quiescent :=
  fun _ => rfl

/-- What two successive transactions are supplied with. -/
def CommitContext.first : CommitContext where
  newId := ⟨"5a0c8a4e-6a4c-4d0c-8a59-0d3c9f1b7e01"⟩
  eventId := ⟨"c56a4180-65aa-42ec-a945-5fd21dec0538"⟩
  now := .epoch

/-- Another one. -/
def CommitContext.second : CommitContext where
  newId := ⟨"5a0c8a4e-6a4c-4d0c-8a59-0d3c9f1b7e02"⟩
  eventId := ⟨"c56a4180-65aa-42ec-a945-5fd21dec0539"⟩
  now := .epoch

/-- The body of a creation, and the row the first transaction makes of it. -/
def leakingTap : CreateWorkOrderDto :=
  ⟨"Leaking tap", "The kitchen tap drips.", ⟨"1b9d6bcd-bbfd-4b2d-9b5d-ab8dfbbd4bed"⟩, .undefined⟩

/-- The order that `leakingTap` opens. -/
def openOrder : WorkOrder where
  id := CommitContext.first.newId
  title := leakingTap.title
  description := leakingTap.description
  propertyId := leakingTap.propertyId
  priority := .medium
  status := WorkOrderStatus.open
  assigneeId := none
  triageCategory := none
  triageUrgency := none
  triageReasoning := none
  triagedAt := none
  createdAt := CommitContext.first.now

/-- Whom it is assigned to. -/
def technician : Uuid := ⟨"0f8fad5b-d9cb-469f-a165-70867728950e"⟩

end PropFlow
