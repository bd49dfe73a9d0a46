import PropFlow.Platform.Notifications

/-!
# Who did it

`actorId` says who an event is due to.  Nobody signs it: the gateway reads a token, puts
its subject in a header, the service copies the header into a context, the context is
read when the event is staged, and the event is sent on from a table.  Here the way back is
shown to be open.

## The property

`Accountable` says of an event that it leads back to the past of the run, in one of two
ways:

* `CausedByUser` — to a request whose token was verified for the user that the event names,
  and whose role permits what the event says has happened;
* `CausedByTriage` — it is a triage, which names nobody, of an order whose creation leads
  there.

`AllAccountable` says this of every event that any part of the platform holds.

## The argument

The induction is on the run, over what calls in flight know of the request they are
for (`Commissioned`): a call that begins has been let through by the guards
(`commissioned_of_prompted`), and what it stages is accountable by that
(`Commissioned.accountable`).  All other events are copies of staged ones.
-/

namespace PropFlow

open Library Library.CivilTime

/-- Who may bring about an event of this type. -/
def WorkOrderEventType.permittedRoles : WorkOrderEventType → List UserRole
  | .created => [.tenant, .manager]
  | .assigned => [.manager]
  | .started | .completed | .cancelled => [.technician, .manager]
  | .triaged => []

section

variable {Body Answer : Type} (jwt : JwtService) (past : List (PlatformAction Body Answer))

/-- The event is a user's doing, who may do that, and is named. -/
def CausedByUser (event : WorkOrderEvent) : Prop :=
  ∃ exchange c now user, .request exchange c now ∈ past ∧
    exchange.request.verifiedUser jwt = some user ∧ user.HasRoleOf event.type.permittedRoles ∧
    event.actorId = .value user.sub ∧ event.correlationId = some exchange.store.requestId

/-- The event is a triage of an order that a user has created. -/
def CausedByTriage (event : WorkOrderEvent) : Prop :=
  event.type = .triaged ∧ event.actorId = .null ∧ event.correlationId = none ∧
    ∃ created, created.type = .created ∧ created.data.workOrderId = event.data.workOrderId ∧
      CausedByUser jwt past created

/-- The event leads back to a request, or to a triage of what a request has created. -/
def Accountable (event : WorkOrderEvent) : Prop :=
  CausedByUser jwt past event ∨ CausedByTriage jwt past event

/-- **Nothing happens that nobody did.** -/
structure AllAccountable (s : PlatformState) : Prop where
  /-- So it is of what is in the outbox, -/
  staged : ∀ row ∈ s.service.db.outbox.rows, Accountable jwt past row.payload
  /-- of what RabbitMQ has accepted, -/
  published : ∀ event, s.relays.Published event → Accountable jwt past event
  /-- of what Kafka has accepted, -/
  recorded : ∀ event, .kafka (WorkOrderAuditProducer.record event) ∈ s.relays.accepted →
    Accountable jwt past event
  /-- and of what has been told to anyone. -/
  notified : ∀ event notification, .sent event notification ∈ s.notifications.history →
    Accountable jwt past event

/-- A call in flight knows what it is for. -/
inductive Commissioned : InFlight → Prop where
  /-- A request: it was verified, and its user may do what the call does. -/
  | requested {exchange : Exchange Body Answer} {c now user prepared}
      (member : .request exchange c now ∈ past)
      (verified : exchange.request.verifiedUser jwt = some user)
      (named : exchange.store.userId = some user.sub)
      (permitted : ∀ type, prepared.event = some type → user.HasRoleOf type.permittedRoles) :
      Commissioned ⟨some exchange.store, prepared⟩
  /-- A triage: of an order that such a request has created. -/
  | delivered {created found write} (isCreated : created.type = .created)
      (caused : CausedByUser jwt past created) (triaged : write.event = some .triaged)
      (same : write.entity.id = created.data.workOrderId) {call} :
      Commissioned ⟨none, .update call found write⟩

end

/-! ## More has happened -/

section

variable {Body Answer : Type} {validator : ClassValidator} {json : JsonText Body}
  {jwt : JwtService} {past : List (PlatformAction Body Answer)} {a : PlatformAction Body Answer}
  {s s' : PlatformState} {event : WorkOrderEvent}

/-- What has been caused by the past is caused by a longer one, -/
theorem CausedByUser.snoc (caused : CausedByUser jwt past event) :
    CausedByUser jwt (past ++ [a]) event := by
  obtain ⟨exchange, c, now, user, member, rest⟩ := caused
  exact ⟨exchange, c, now, user, List.mem_append_left _ member, rest⟩

/-- in either way, -/
theorem Accountable.snoc (accountable : Accountable jwt past event) :
    Accountable jwt (past ++ [a]) event := by
  refine accountable.imp CausedByUser.snoc ?_
  rintro ⟨type, actorId, correlationId, created, isCreated, same, caused⟩
  exact ⟨type, actorId, correlationId, created, isCreated, same, caused.snoc⟩

/-- and what a call knew it still knows. -/
theorem Commissioned.snoc {flight : InFlight} (commissioned : Commissioned jwt past flight) :
    Commissioned jwt (past ++ [a]) flight := by
  cases commissioned with
  | requested member verified named permitted =>
      exact .requested (List.mem_append_left _ member) verified named permitted
  | delivered isCreated caused triaged same => exact .delivered isCreated caused.snoc triaged same

/-- A creation is a user's. -/
theorem Accountable.user (accountable : Accountable jwt past event)
    (created : event.type = .created) : CausedByUser jwt past event := by
  refine accountable.resolve_right fun triage => ?_
  rw [triage.1] at created
  cases created

/-! ## Calls -/

/-- A call writes what its roles permit. -/
theorem permittedRoles_of_writes {now : Instant} {call : Call} {found : WorkOrder} {write : Write}
    (writes : call.Writes now found write) {type : WorkOrderEventType}
    (event : write.event = some type) : type.permittedRoles = call.permittedRoles := by
  cases call with
  | create dto => exact writes.elim
  | assign id assigneeId =>
      obtain ⟨-, rfl⟩ := WorkOrdersService.assign_ok writes
      cases event
      rfl
  | updateStatus id next =>
      obtain ⟨-, rfl⟩ := WorkOrdersService.updateStatus_ok writes
      cases next <;> cases event <;> rfl
  | applyTriage id triage =>
      obtain ⟨workOrder, -, -, rfl⟩ := TriageService.apply_eq_some writes
      cases event
      rfl

/-- What a call has prepared, of what is in the database. -/
inductive Prepares (s : ServiceState) (call : Call) : Prepared → Prop where
  /-- A new row. -/
  | insert {dto} (isCreate : call = .create dto) : Prepares s call (.insert dto)
  /-- A change of the row that the call has found. -/
  | update {now id found write} (target : call.target = some id) (present : s.row id = some found)
      (writes : call.Writes now found write) : Prepares s call (.update call found write)

/-- A call that begins is commissioned. -/
theorem commissioned_of_prompted (invariant : PlatformInvariant s)
    (staged : ∀ row ∈ s.service.db.outbox.rows, Accountable jwt past row.payload) {c : CallId}
    {call : Call} {store : Option RequestContext} {now : Instant}
    (prompted : Prompted validator json jwt s a (.begin c call store now)) {prepared : Prepared}
    (prepares : Prepares s.service call prepared) :
    Commissioned jwt (past ++ [a]) ⟨ServiceState.storeOf call store, prepared⟩ := by
  cases prompted with
  | @requested exchange _ _ _ issued received =>
      obtain ⟨user, verified, permitted, madeBy⟩ := Gateway.authorised issued received
      have isStore : ServiceState.storeOf call (some exchange.store) = some exchange.store := by
        cases call with
        -- no role is permitted to triage, so no request does
        | applyTriage =>
            obtain ⟨role, isPermitted, -⟩ := permitted
            cases isPermitted
        | _ => rfl
      have named : exchange.store.userId = some user.sub := by
        unfold Exchange.store requestContextMiddleware
        rw [madeBy.1]
        rfl
      rw [isStore]
      refine .requested (List.mem_append_right _ List.mem_cons_self) verified named ?_
      intro type event
      cases prepares with
      | insert isCreate =>
          cases event
          rw [isCreate] at permitted
          exact permitted
      | update _ _ writes => rwa [permittedRoles_of_writes writes event]
  | @delivered message _ _ _ _ accepted created classified =>
      obtain ⟨triage, -, rfl⟩ := Option.map_eq_some_iff.mp classified
      obtain ⟨row, member, broker, same⟩ := invariant.exists_of_accepted accepted
      cases broker with
      | kafka => cases same
      | rabbit =>
          cases same
          -- the queue is bound to created events, and the routing key is the type
          have isCreated : row.payload.type = .created :=
            (invariant.log.wellTyped row member).type_eq.symm.trans
              (WorkOrderEventType.eq_of_text created)
          cases prepares with
          | insert isCreate => cases isCreate
          | @update _ _ found _ target present writes =>
              obtain ⟨workOrder, same, -, rfl⟩ := TriageService.apply_eq_some writes
              cases same
              cases target
              have isId : found.id = row.payload.data.workOrderId :=
                s.service.db.workOrders.keyed present
              exact .delivered isCreated ((staged row member).user isCreated).snoc rfl isId
  | itself isBegin => cases isBegin

/-! ## The run -/

/-- Where a call in flight after a step comes from. -/
theorem flight_of_step {s s' : ServiceState} {b : ServiceAction}
    (moved : service.step s b = some s') {c : CallId} {flight : InFlight}
    (held : s'.inFlight c = some flight) :
    s.inFlight c = some flight ∨ ∃ call store now prepared, b = .begin c call store now ∧
      flight = ⟨ServiceState.storeOf call store, prepared⟩ ∧ Prepares s call prepared := by
  cases effect_of_step moved with
  | answered => exact Or.inl held
  | @insert d dto store now idle =>
      rcases update_some_eq_some.mp held with ⟨rfl, rfl⟩ | ⟨-, before⟩
      · exact Or.inr ⟨_, _, _, _, rfl, rfl, .insert rfl⟩
      · exact Or.inl before
  | @read d call store now id found write idle target present writes =>
      rcases update_some_eq_some.mp held with ⟨rfl, rfl⟩ | ⟨-, before⟩
      · exact Or.inr ⟨_, _, _, _, rfl, rfl, .update target present writes⟩
      · exact Or.inl before
  | committed => exact Or.inl (update_none_eq_some.mp held).2
  | failed => exact Or.inl (update_none_eq_some.mp held).2

/-- What a commissioned call stages is accountable. -/
theorem Commissioned.accountable {flight : InFlight} (commissioned : Commissioned jwt past flight)
    {type : WorkOrderEventType} (event : flight.prepared.event = some type) {saved : WorkOrder}
    (isSaved : ∀ call found write, flight.prepared = .update call found write →
      saved = write.entity) (context : CommitContext) :
    Accountable jwt past
      (WorkOrderEventsOutbox.envelope type saved (context.stageContext flight.store)) := by
  cases commissioned with
  | @requested exchange c now user prepared member verified named permitted =>
      refine Or.inl ⟨exchange, c, now, user, member, verified, permitted type event, ?_, rfl⟩
      show Nullish.ofOption exchange.store.userId = _
      rw [named]
      rfl
  | delivered isCreated caused triaged same =>
      obtain rfl := Option.some.inj (triaged.symm.trans event)
      rw [isSaved _ _ _ rfl]
      exact Or.inr ⟨rfl, rfl, rfl, _, isCreated, same.symm, caused⟩

/-- What is known after every run. -/
structure Accounts (jwt : JwtService) (past : List (PlatformAction Body Answer))
    (s : PlatformState) : Prop where
  /-- The parts agree. -/
  invariant : PlatformInvariant s
  /-- Every call knows what it is for, -/
  flights : ∀ c flight, s.service.inFlight c = some flight → Commissioned jwt past flight
  /-- and so does every event. -/
  staged : ∀ row ∈ s.service.db.outbox.rows, Accountable jwt past row.payload

/-- **Every step keeps it.** -/
theorem Accounts.step (accounts : Accounts jwt past s)
    (moved : (platform Answer validator json jwt).step s a = some s') :
    Accounts jwt (past ++ [a]) s' := by
  have invariant := accounts.invariant.step moved
  have flights : ∀ c flight, s.service.inFlight c = some flight →
      Commissioned jwt (past ++ [a]) flight :=
    fun c flight held => (accounts.flights c flight held).snoc
  have staged : ∀ row ∈ s.service.db.outbox.rows, Accountable jwt (past ++ [a]) row.payload :=
    fun row member => (accounts.staged row member).snoc
  cases platformEffect_of_step moved with
  | relayed => exact ⟨invariant, flights, staged⟩
  | notified => exact ⟨invariant, flights, staged⟩
  | served prompted acted =>
      refine ⟨invariant, fun c flight held => ?_, fun row member => ?_⟩
      · rcases flight_of_step acted held with before | ⟨call, store, now, prepared, rfl, rfl, made⟩
        · exact flights c flight before
        · exact commissioned_of_prompted accounts.invariant accounts.staged prompted made
      · rcases staged_of_step acted with
          same | ⟨c, context, flight, type, saved, -, held, event, isSaved, -, grown⟩
        · exact staged row (same ▸ member)
        · change row ∈ _ at member
          rw [grown] at member
          rcases List.mem_append.mp member with before | new
          · exact staged row before
          · rw [List.mem_singleton.mp new]
            exact (flights c flight held).accountable event isSaved context

/-- Over a whole run. -/
theorem Accounts.of_run
    (ran : (platform Answer validator json jwt).run .initial past = some s) :
    Accounts jwt past s := by
  have initial : Accounts jwt ([] : List (PlatformAction Body Answer)) .initial :=
    ⟨.initial, (fun _ _ absent => nomatch absent), (fun _ member => nomatch member)⟩
  exact (platform Answer validator json jwt).invariant_of_history
    (fun accounts moved => accounts.step moved) initial ran

/-- Every event that is anywhere is a copy of a staged one. -/
theorem Accounts.all (accounts : Accounts jwt past s) : AllAccountable jwt past s where
  staged := accounts.staged
  published := by
    intro event published
    obtain ⟨row, member, rfl⟩ := accounts.invariant.exists_of_published published
    exact accounts.staged row member
  recorded := by
    intro event accepted
    obtain ⟨row, member, rfl⟩ := accounts.invariant.exists_of_recorded accepted
    exact accounts.staged row member
  notified := by
    intro event notification sent
    obtain ⟨queue, known, -⟩ :=
      (SentKnown.of_reachable accounts.invariant.notifying).sent event notification sent
    obtain ⟨row, member, rfl⟩ := accounts.invariant.exists_of_entered known.entered
    exact accounts.staged row member

end

/-- **Accountability.**  Whatever has been staged, published, recorded or notified by the
end of a run is the doing of a user, verified and permitted, whom it names, by a request
of that run; or it is a triage, and the order was created by such a request. -/
theorem allAccountable_of_run {Body Answer : Type} (validator : ClassValidator)
    (json : JsonText Body) (jwt : JwtService) (actions : List (PlatformAction Body Answer))
    (s : PlatformState)
    (ran : (platform Answer validator json jwt).run .initial actions = some s) :
    AllAccountable jwt actions s :=
  (Accounts.of_run ran).all

/-- The opened order leads back to the resident. -/
theorem allAccountable_tapNotified : AllAccountable residentTokens tapRun tapNotified :=
  allAccountable_of_run plainValidator jsonBodies residentTokens tapRun _ run_tapRun

end PropFlow
