import PropFlow.WorkOrders.OutboxLog

/-!
# One call at a time

What the service is for is simple: it performs calls, one after another, on a register of
work orders, and says of each what has become of the order (`Registry`).  What it does is
less simple, since a call reads first and writes later, and others come between.

## The register

`Registry` is the abstract state: the orders, the events that are owed, and the answers
given.  `registry` is its machine, of which one step is one call with all that it needs
(`Performance`); it reads and writes at once.

## The refinement

`ServiceState.registry` is what a state of the service looks like from there: calls in
flight are not seen, and neither are those that were rejected.  A step of the service is
then one step of the register, or none (`perform_of_step`): a step if it commits, and
none if it begins, is rejected or fails.

## The condition

Where each call still finds, when it commits, the row that it has read
(`FoundStandsAtCommit`), the two come to the same: the calls that commit might as well
have been made one at a time, in that order, with the same answers (`serializable`).
Calls that are rejected or fail in between leave no trace, and calls on other orders do
not matter.
-/

namespace PropFlow

open Library Library.CivilTime

/-! ## What commits -/

/-- An insert that succeeds has passed the constraints, -/
theorem WorkOrdersTable.insert_checked {table after : WorkOrdersTable} {dto : CreateWorkOrderDto}
    {id : Uuid} {now : Instant} {saved : WorkOrder}
    (ok : table.insert dto id now = .ok (after, saved)) : checkConstraints saved = .ok () := by
  obtain ⟨row, -, rest⟩ := bind_eq_ok.mp ok
  obtain ⟨_, checked, rest⟩ := bind_eq_ok.mp rest
  obtain ⟨-, rest⟩ := guard_eq_ok.mp rest
  cases rest
  exact checked

/-- and so has a save, -/
theorem WorkOrdersTable.save_checked {table after : WorkOrdersTable} {entity saved : WorkOrder}
    (ok : table.save entity = .ok (after, saved)) : checkConstraints saved = .ok () := by
  obtain ⟨_, checked, rest⟩ := bind_eq_ok.mp ok
  cases rest
  exact checked

/-- and so has a transaction. -/
theorem Database.transaction_checked {db db' : Database} {store : Option RequestContext}
    {context : CommitContext} {prepared : Prepared} {saved : WorkOrder}
    (ok : db.transaction store context prepared = .ok (db', saved)) :
    checkConstraints saved = .ok () := by
  match prepared with
  | .insert dto =>
      obtain ⟨_, insertion, rest⟩ := bind_eq_ok.mp ok
      obtain ⟨_, -, rest⟩ := bind_eq_ok.mp rest
      cases rest
      exact WorkOrdersTable.insert_checked (mapError_eq_ok.mp insertion)
  | .update call found { entity, event := some type } =>
      obtain ⟨_, saving, rest⟩ := bind_eq_ok.mp ok
      obtain ⟨_, -, rest⟩ := bind_eq_ok.mp rest
      cases rest
      exact WorkOrdersTable.save_checked (mapError_eq_ok.mp saving)
  | .update call found { entity, event := none } =>
      obtain ⟨_, saving, rest⟩ := bind_eq_ok.mp ok
      cases rest
      exact WorkOrdersTable.save_checked (mapError_eq_ok.mp saving)

/-- The row that a call was told has been saved. -/
def Reply.saved? : Reply → Option WorkOrder
  | .saved row => some row
  | _ => none

/-- What callers have been told was saved, the first first. -/
def ServiceState.answers (s : ServiceState) : List WorkOrder :=
  s.replies.reverse.filterMap fun reply => reply.2.saved?

/-- A call commits, and is answered. -/
structure Acknowledges (s : ServiceState) (flight : InFlight) (context : CommitContext)
    (type : WorkOrderEventType) (saved : WorkOrder) (s' : ServiceState) : Prop where
  /-- The saved row is the prepared entity, or a new row under a fresh key. -/
  saved_eq : (∃ dto, flight.prepared = .insert dto ∧ s.row context.newId = none ∧
      insertedRow dto context.newId context.now = .ok saved) ∨
    ∃ call found write, flight.prepared = .update call found write ∧ saved = write.entity
  /-- An event goes with it. -/
  event : flight.prepared.event = some type
  /-- The row violates no constraint. -/
  checked : checkConstraints saved = .ok ()
  /-- The event is a new one. -/
  fresh : ∀ row ∈ s.db.outbox.rows, row.eventId ≠ context.eventId
  /-- The row is stored. -/
  workOrders : s'.db.workOrders = s.db.workOrders.put saved
  /-- The event is staged, after all others. -/
  rows : s'.db.outbox.rows = s.db.outbox.rows ++ [WorkOrderEventsOutbox.stagedRow
    s.db.outbox.nextId type saved (context.stageContext flight.store)]
  /-- The row is the answer. -/
  answers : s'.answers = s.answers ++ [saved]

/-- What commits is answered, and nothing else is. -/
inductive CommitOutcome (s : ServiceState) (a : ServiceAction) (s' : ServiceState) : Prop where
  /-- The action commits nothing. -/
  | nothing (idle : s.committing a = none) (workOrders : s'.db.workOrders = s.db.workOrders)
      (rows : s'.db.outbox.rows = s.db.outbox.rows) (answers : s'.answers = s.answers)
  /-- It commits a call, which is answered. -/
  | commits {c flight context type saved} (isCommit : a = .commit c context)
      (held : s.inFlight c = some flight) (committing : s.committing a = some flight.prepared)
      (effect : Acknowledges s flight context type saved s')

section

variable {s s' : ServiceState} {a : ServiceAction}

/-- The latest reply counts if it has an order in it. -/
theorem answers_cons (db : Database) (inFlight : CallId → Option InFlight) (c : CallId)
    (reply : Reply) (replies : List (CallId × Reply)) :
    (ServiceState.mk db inFlight ((c, reply) :: replies)).answers =
      (ServiceState.mk db inFlight replies).answers ++ reply.saved?.toList := by
  show ((c, reply) :: replies).reverse.filterMap _ = _
  rw [List.reverse_cons, List.filterMap_append]
  cases saved : reply.saved? <;> simp [ServiceState.answers, saved]

/-- Finishing a call adds its reply. -/
theorem answers_finish (c : CallId) (db : Database) (reply : Reply) :
    (s.finish c db reply).answers = s.answers ++ reply.saved?.toList :=
  answers_cons db _ c reply s.replies

/-- A call that begins writes nothing, -/
theorem db_begin (c : CallId) (call : Call) (store : Option RequestContext) (now : Instant) :
    (s.begin c call store now).db = s.db := by
  unfold ServiceState.begin
  split <;> rfl

/-- and one that is rejected at once has no order to show. -/
theorem answers_begin (c : CallId) (call : Call) (store : Option RequestContext) (now : Instant) :
    (s.begin c call store now).answers = s.answers := by
  unfold ServiceState.begin
  split
  · exact (answers_cons s.db s.inFlight c _ s.replies).trans (List.append_nil _)
  · exact (answers_cons s.db s.inFlight c _ s.replies).trans (List.append_nil _)
  · rfl

/-- A sound call stages an event. -/
theorem Prepared.Sound.event {table : WorkOrdersTable} {prepared : Prepared}
    (sound : prepared.Sound table) : ∃ type, prepared.event = some type := by
  cases prepared with
  | insert dto => exact ⟨.created, rfl⟩
  | update call found write =>
      obtain ⟨-, -, now, writes⟩ := sound
      exact writes.event_isSome

/-- **A step commits a call or it changes nothing** that the register can see. -/
theorem outcome_of_step (sound : s.Sound) (moved : service.step s a = some s') :
    CommitOutcome s a s' := by
  cases a with
  | begin c call store now =>
      -- beginning reads and may refuse, but it commits nothing
      have begun : s' = s.begin c call store now := by
        simp only [service, ServiceState.step] at moved
        split at moved
        · cases moved
        · exact (Option.some.inj moved).symm
      rw [begun]
      refine .nothing rfl ?_ ?_ (answers_begin c call store now)
      · rw [db_begin]
      · rw [db_begin]
  | abort c point =>
      simp only [service, ServiceState.step, Option.map_eq_some_iff] at moved
      obtain ⟨flight, -, rfl⟩ := moved
      refine .nothing rfl (rolledBack_workOrders _ _) (rolledBack_rows _ _) ?_
      exact (answers_finish c _ _).trans (List.append_nil _)
  | commit c context =>
      simp only [service, ServiceState.step, Option.map_eq_some_iff] at moved
      obtain ⟨flight, held, rfl⟩ := moved
      unfold ServiceState.commit
      cases ran : s.db.transaction flight.store context flight.prepared with
      | error refused =>
          refine .nothing ?_ (rolledBack_workOrders _ _) (rolledBack_rows _ _) ?_
          · simp [ServiceState.committing, held, ran]
          · exact (answers_finish c _ _).trans (List.append_nil _)
      | ok result =>
          obtain ⟨db, saved⟩ := result
          have effect := Database.transaction_ok ran
          have committing : s.committing (.commit c context) = some flight.prepared := by
            simp [ServiceState.committing, held, ran]
          obtain ⟨type, event⟩ := (sound c flight held).event
          have outbox := effect.outbox_eq
          rw [event] at outbox
          exact .commits rfl held committing
            { saved_eq := effect.saved_eq
              event := event
              checked := Database.transaction_checked ran
              fresh := outbox.1
              workOrders := effect.workOrders_eq
              rows := outbox.2.1
              answers := answers_finish c db _ }

end

/-! ## A register of work orders -/

/-- A call, made all at once. -/
structure Performance where
  /-- What is asked for. -/
  call : Call
  /-- The context in which the event is staged. -/
  store : Option RequestContext
  /-- The time of its read. -/
  now : Instant
  /-- What the database and the process supply. -/
  context : CommitContext

/-- What the service is for. -/
structure Registry where
  /-- the orders -/
  orders : WorkOrdersTable
  /-- what has happened to them -/
  events : List WorkOrderEvent
  /-- what the callers have been told -/
  answers : List WorkOrder

namespace Registry

/-- No order, no event, no answer. -/
def empty : Registry := ⟨.empty, [], []⟩

/-- Store an order, owe its event and answer with it, unless the database would refuse. -/
def save (r : Registry) (type : WorkOrderEventType) (row : WorkOrder) (context : StageContext) :
    Option Registry := do
  (checkConstraints row).toOption
  if ∃ event ∈ r.events, event.eventId = context.eventId then none
  else
    some
      { orders := r.orders.put row
        events := r.events ++ [WorkOrderEventsOutbox.envelope type row context]
        answers := r.answers ++ [row] }

/-- What is found is what is written over. -/
def perform (r : Registry) (p : Performance) : Option Registry :=
  match p.call.prepare r.orders p.now with
  | .ok (some (.insert dto)) =>
      if (r.orders.find p.context.newId).isSome then none
      else do
        let row ← (insertedRow dto p.context.newId p.context.now).toOption
        r.save .created row (p.context.stageContext p.store)
  | .ok (some (.update _ _ write)) => do
      let type ← write.event
      r.save type write.entity (p.context.stageContext p.store)
  | _ => none

variable {r : Registry} {store : Option RequestContext} {now : Instant} {context : CommitContext}

/-- What a creation comes to. -/
theorem perform_create {dto : CreateWorkOrderDto} {row : WorkOrder}
    (fresh : r.orders.find context.newId = none)
    (inserted : insertedRow dto context.newId context.now = .ok row) :
    r.perform ⟨.create dto, store, now, context⟩ =
      r.save .created row (context.stageContext store) := by
  simp [perform, Call.prepare, fresh, inserted, Except.toOption]

/-- What any other call comes to. -/
theorem perform_update {call call' : Call} {found : WorkOrder} {write : Write}
    {type : WorkOrderEventType}
    (prepared : call.prepare r.orders now = .ok (some (.update call' found write)))
    (event : write.event = some type) :
    r.perform ⟨call, store, now, context⟩ =
      r.save type write.entity (context.stageContext store) := by
  simp [perform, prepared, event]

end Registry

/-- The register, one call at a time. -/
def registry : Machine Registry Performance where
  step := Registry.perform

/-- What the service has become, as a register. -/
def ServiceState.registry (s : ServiceState) : Registry where
  orders := s.db.workOrders
  events := s.db.outbox.rows.map OutboxEvent.payload
  answers := s.answers

/-- The call that a transaction belongs to. -/
def Prepared.call : Prepared → Call
  | .insert dto => .create dto
  | .update call _ _ => call

/-- The calls that commit. -/
def ServiceState.committed (s : ServiceState) (a : ServiceAction) : List Call :=
  ((s.committing a).map Prepared.call).toList

/-- What the call found is still there. -/
def Prepared.FoundStands (s : ServiceState) : Prepared → Prop
  | .insert _ => True
  | .update _ found _ => s.row found.id = some found

/-- At this step, if it commits a call, the row that the call has found is still there as it
was. -/
def FoundStandsAtCommit (s : ServiceState) (a : ServiceAction) (_ : ServiceState) : Prop :=
  ∀ prepared ∈ s.committing a, prepared.FoundStands s

instance (s : ServiceState) (prepared : Prepared) : Decidable (prepared.FoundStands s) :=
  match prepared with
  | .insert _ => .isTrue trivial
  | .update _ found _ => inferInstanceAs (Decidable (s.row found.id = some found))

instance (s : ServiceState) (a : ServiceAction) (s' : ServiceState) :
    Decidable (FoundStandsAtCommit s a s') :=
  inferInstanceAs (Decidable (∀ prepared ∈ s.committing a, prepared.FoundStands s))

section

variable {s s' : ServiceState} {a : ServiceAction}

/-- A call that is made on the row it found would do what it has prepared. -/
theorem prepare_of_writes {table : WorkOrdersTable} {now : Instant} {call : Call}
    {found : WorkOrder} {write : Write} (target : call.target = some found.id)
    (present : table.find found.id = some found) (writes : call.Writes now found write) :
    call.prepare table now = .ok (some (.update call found write)) := by
  cases call with
  | create dto => exact writes.elim
  | assign id assigneeId =>
      cases target
      have read : WorkOrdersService.findOne table found.id = .ok found := by
        rw [WorkOrdersService.findOne, present]
      exact bind_eq_ok.mpr ⟨found, read, bind_eq_ok.mpr ⟨write, writes, rfl⟩⟩
  | updateStatus id next =>
      cases target
      have read : WorkOrdersService.findOne table found.id = .ok found := by
        rw [WorkOrdersService.findOne, present]
      exact bind_eq_ok.mpr ⟨found, read, bind_eq_ok.mpr ⟨write, writes, rfl⟩⟩
  | applyTriage id triage =>
      cases target
      refine congrArg Except.ok (Option.bind_eq_some_iff.mpr ⟨found, present, ?_⟩)
      exact Option.bind_eq_some_iff.mpr ⟨write, writes, rfl⟩

/-- What a transaction saves is saved in the register. -/
theorem save_of_acknowledges (log : FaithfulLog s) {flight : InFlight} {context : CommitContext}
    {type : WorkOrderEventType} {saved : WorkOrder}
    (effect : Acknowledges s flight context type saved s') :
    s.registry.save type saved (context.stageContext flight.store) = some s'.registry := by
  have fresh : ¬ ∃ event ∈ s.registry.events,
      event.eventId = (context.stageContext flight.store).eventId := by
    rintro ⟨event, member, same⟩
    obtain ⟨row, isRow, rfl⟩ := List.mem_map.mp member
    exact effect.fresh row isRow ((log.wellTyped row isRow).eventId_eq.trans same)
  rw [Registry.save, effect.checked]
  show (if _ then none else some _) = _
  rw [if_neg fresh]
  unfold ServiceState.registry
  rw [effect.workOrders, effect.rows, effect.answers, List.map_append]
  rfl

/-- A transaction over what it has read is a call that is made all at once. -/
theorem perform_of_step (invariant : LogInvariant s) (moved : service.step s a = some s')
    (stands : FoundStandsAtCommit s a s') :
    ∃ ps, registry.run s.registry ps = some s'.registry ∧
      ps.map Performance.call = s.committed a := by
  cases outcome_of_step invariant.sound moved with
  | nothing idle workOrders rows answers =>
      refine ⟨[], ?_, ?_⟩
      · rw [ServiceState.registry, ServiceState.registry, workOrders, rows, answers]
        rfl
      · rw [ServiceState.committed, idle]
        rfl
  | @commits c flight context type saved _ held committing effect =>
      have saves := save_of_acknowledges invariant.log effect
      rcases effect.saved_eq with
        ⟨dto, inserts, fresh, inserted⟩ | ⟨call, found, write, updates, isSaved⟩
      · refine ⟨[⟨.create dto, flight.store, context.now, context⟩], ?_, ?_⟩
        · rw [Machine.run_singleton]
          obtain rfl : type = .created := by
            have event := effect.event
            rw [inserts] at event
            exact (Option.some.inj event).symm
          exact (Registry.perform_create fresh inserted).trans saves
        · rw [ServiceState.committed, committing, inserts]
          rfl
      · obtain ⟨target, -, now, writes⟩ :
            (Prepared.update call found write).Sound s.db.workOrders :=
          updates ▸ invariant.sound c flight held
        -- what the call has found still stands, so it would prepare the same now
        have present : s.row found.id = some found := by
          have here := stands flight.prepared committing
          rwa [updates] at here
        refine ⟨[⟨call, flight.store, now, context⟩], ?_, ?_⟩
        · rw [Machine.run_singleton]
          have event : write.event = some type := by
            have event := effect.event
            rwa [updates] at event
          rw [isSaved] at saves
          exact (Registry.perform_update (prepare_of_writes target present writes) event).trans
            saves
        · rw [ServiceState.committed, committing, updates]
          rfl

end

/-- **Serializability.**  A run in which what each call has read still stands when it commits
comes to the same as the calls that have committed, made one at a time in that order: the same
orders, the same events, and the same answers. -/
theorem serializable (actions : List ServiceAction) (s : ServiceState)
    (stands : service.Along FoundStandsAtCommit .initial actions)
    (ran : service.run .initial actions = some s) :
    ∃ performances, registry.run .empty performances = some s.registry ∧
      performances.map Performance.call =
        service.emitted ServiceState.committed .initial actions := by
  have one : ∀ {s s' : ServiceState} {a : ServiceAction}, LogInvariant s →
      service.step s a = some s' → FoundStandsAtCommit s a s' → LogInvariant s' ∧
        ∃ ps, registry.run s.registry ps = some s'.registry ∧
          ps.map Performance.call = s.committed a :=
    fun invariant moved stands => ⟨invariant.step moved, perform_of_step invariant moved stands⟩
  exact Machine.Along.refines service one LogInvariant.initial stands ran

/-- An assignment commits beside a cancellation that has read the same row, and dies. -/
def assignBesideFailure : List ServiceAction :=
  [ .begin 0 (.create leakingTap) none .epoch, .commit 0 .first,
    .begin 1 (.updateStatus openOrder.id .cancelled) none .epoch,
    .begin 2 (.assign openOrder.id technician) none .epoch, .abort 1 .commit, .commit 2 .second ]

/-- A call that fails beside an assignment leaves no trace. -/
theorem serializable_assignBesideFailure :
    ∃ performances, registry.run .empty performances =
        some ((service.run .initial assignBesideFailure).get (by decide)).registry ∧
      performances.map Performance.call = [.create leakingTap, .assign openOrder.id technician] :=
  serializable assignBesideFailure _ (by decide) (Option.some_get _).symm

end PropFlow
