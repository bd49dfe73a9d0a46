import PropFlow.Gateway.Routing
import PropFlow.Notifications.Backlog
import PropFlow.Relay.OneInstance
import PropFlow.WorkOrders.OutboxLog

/-!
# The platform

The machines of the other modules put together: clients and the gateway, the
work-orders service with its triage consumer, the relays, and the notifications
consumer, all interleaved.

## Where they touch

In three places.  A call that the gateway makes for a client, or a message of the triage
queue, begins a call of the service.  What a transaction of the service stages is in the
table that the relays poll.  And what RabbitMQ accepts from a relay is in the queues that
are bound to its routing key.  So the actions by which one of those machines hears from
another are not the scheduler's here: they happen when the other one acts.

* `Exchange` — a request of a client and what the gateway makes of it; the call is among
  those that the gateway makes, and is what the service receives;
* `PlatformState`, `PlatformAction`, `platform` — the machine;
* `Prompted` — what makes the service act;
* `PlatformEffect` — what one action does: the service acts and its new rows are in the
  relays' table, a relay acts and the queues have what RabbitMQ accepts, or the
  notifications consumer acts.

## What holds of it

`PlatformInvariant` says that each part still runs as the machine that its own
theorems are about, and what the parts have in common: the rows of the two tables are the
same but for the stamps, and the events that have entered the notification queues are those
that RabbitMQ has accepted and has a queue for.  Every result about the platform starts
from it.

The last section is a run that the other modules use as their witness.
-/

namespace PropFlow

open Library Library.CivilTime

/-! ## The parts -/

/-- A request to the gateway, and one of the calls that it leads to. -/
structure Exchange (Body Answer : Type) where
  /-- The method of the request. -/
  method : String
  /-- The request, as it comes to the guards. -/
  request : HttpRequest (GatewayInput Body)
  /-- The id that the gateway takes if there is none. -/
  minted : MintedUuid
  /-- What the calls before this one have been answered. -/
  answers : List Answer
  /-- The call that reaches the service. -/
  call : DownstreamCall
  /-- The id that the service takes if there is none. -/
  atService : MintedUuid

/-- The context in which the service handles the call. -/
def Exchange.store {Body Answer : Type} (exchange : Exchange Body Answer) : RequestContext :=
  requestContextMiddleware exchange.call.headers exchange.atService

/-- The states of the parts. -/
structure PlatformState where
  /-- the work orders, their outbox, and the calls in flight -/
  service : ServiceState
  /-- the relays, and what the brokers have accepted -/
  relays : RelayState
  /-- the queues, and the process that sends -/
  notifications : NotificationsState

/-- A call begins because another part asks for it. -/
def ServiceAction.isBegin : ServiceAction → Bool
  | .begin _ _ _ _ => true
  | _ => false

/-- A writer's transaction, which is the service's. -/
def RelayAction.isWrite : RelayAction → Bool
  | .write _ _ _ _ => true
  | _ => false

/-- The arrival of a message, which a relay has sent. -/
def NotificationsAction.isArrival : NotificationsAction → Bool
  | .arrive _ => true
  | _ => false

/-- The scheduler's choices. -/
inductive PlatformAction (Body Answer : Type) where
  /-- A call of the gateway reaches the service, and begins there. -/
  | request (exchange : Exchange Body Answer) (c : CallId) (now : Instant)
  /-- The triage queue delivers a message, for the first time or again. -/
  | triage (message : RabbitMessage) (classify : TriageInput → Option WorkOrderTriage)
      (c : CallId) (now : Instant)
  /-- A call goes on: it commits, or fails. -/
  | service (a : ServiceAction)
  /-- A relay acts, or a broker accepts what it has sent. -/
  | relay (a : RelayAction)
  /-- The notifications service acts, or its queues do. -/
  | notify (a : NotificationsAction)

/-- No relay instance is started but this one. -/
def PlatformAction.TickedBy {Body Answer : Type} (i : InstanceId) :
    PlatformAction Body Answer → Prop
  | .relay a => a.TickedBy i
  | .request _ _ _ | .triage _ _ _ _ | .service _ | .notify _ => True

/-- Where the events exchange puts a message. -/
def NotificationsState.receive (n : NotificationsState) : Message → NotificationsState
  | .rabbit message => n.arrive message.content
  | .kafka _ => n

namespace PlatformState

/-- Nothing has happened. -/
def initial : PlatformState where
  service := .initial
  relays := .initial
  notifications := .initial

/-- The service acts; what it stages is staged for the relays. -/
def serve (s : PlatformState) (a : ServiceAction) : Option PlatformState :=
  (PropFlow.service.step s.service a).map fun after =>
    let staged := after.db.outbox.rows.drop s.service.db.outbox.rows.length
    { s with
      service := after
      relays := { s.relays with table := s.relays.table ++ staged } }

/-- A relay acts; what the brokers accept arrives. -/
def relay (s : PlatformState) (a : RelayAction) : Option PlatformState :=
  (PropFlow.relays.step s.relays a).map fun after =>
    let news := after.accepted.drop s.relays.accepted.length
    { s with
      relays := after
      notifications := news.foldl NotificationsState.receive s.notifications }

variable {Body Answer : Type} (validator : ClassValidator) (json : JsonText Body)
  (jwt : JwtService)

/-- One action.  A request needs a call that the gateway makes for it and the service can read, and
a message of the triage queue needs to have been published. -/
def step (s : PlatformState) : PlatformAction Body Answer → Option PlatformState
  | .request exchange c now =>
      if exchange.call ∈ Gateway.receive json jwt exchange.minted exchange.method
          exchange.request exchange.answers then
        (Service.receive validator json exchange.call.toDownstreamRequest).bind fun call =>
          s.serve (.begin c call (some exchange.store) now)
      else none
  | .triage message classify c now =>
      -- the binding of the queue
      if Message.rabbit message ∈ s.relays.accepted ∧
          message.routingKey = WorkOrderEventType.created.text then
        (WorkOrderTriageConsumer.onWorkOrderCreated classify message.content).bind fun call =>
          s.serve (.begin c call none now)
      else none
  | .service a => if a.isBegin then none else s.serve a
  | .relay a => if a.isWrite then none else s.relay a
  | .notify a =>
      if a.isArrival then none
      else
        (PropFlow.notifications.step s.notifications a).map fun after =>
          { s with notifications := after }

end PlatformState

section

variable {Body : Type} (Answer : Type) (validator : ClassValidator) (json : JsonText Body)
  (jwt : JwtService)

/-- The platform. -/
def platform : Machine PlatformState (PlatformAction Body Answer) where
  step := PlatformState.step validator json jwt

end

/-! ## What one action can do -/

section

variable {Body Answer : Type} (validator : ClassValidator) (json : JsonText Body)
  (jwt : JwtService)

/-- What makes the service act. -/
inductive Prompted (s : PlatformState) : PlatformAction Body Answer → ServiceAction → Prop where
  /-- A call of the gateway has reached a route and passed its pipe. -/
  | requested {exchange : Exchange Body Answer} {c now call}
      (issued : exchange.call ∈ Gateway.receive json jwt exchange.minted exchange.method
        exchange.request exchange.answers)
      (received : Service.receive validator json exchange.call.toDownstreamRequest = some call) :
      Prompted s (.request exchange c now) (.begin c call (some exchange.store) now)
  /-- A message of RabbitMQ is a created event, and has been classified. -/
  | delivered {message classify c now call} (accepted : Message.rabbit message ∈ s.relays.accepted)
      (created : message.routingKey = WorkOrderEventType.created.text)
      (classified : WorkOrderTriageConsumer.onWorkOrderCreated classify message.content =
        some call) :
      Prompted s (.triage message classify c now) (.begin c call none now)
  /-- What has begun goes on by itself. -/
  | itself {a} (isBegin : a.isBegin = false) : Prompted s (.service a) a

/-- What an action does, by the part that acts. -/
inductive PlatformEffect (s : PlatformState) :
    PlatformAction Body Answer → PlatformState → Prop where
  /-- The service acts, and the relays see the rows that it has staged. -/
  | served {a b after} (prompted : Prompted validator json jwt s a b)
      (moved : service.step s.service b = some after) :
      PlatformEffect s a
        { s with
          service := after
          relays :=
            { s.relays with
              table := s.relays.table ++
                after.db.outbox.rows.drop s.service.db.outbox.rows.length } }
  /-- A relay acts, and what RabbitMQ has accepted is in the queues it is routed to. -/
  | relayed {a after} (isWrite : a.isWrite = false) (moved : relays.step s.relays a = some after) :
      PlatformEffect s (.relay a)
        { s with
          relays := after
          notifications := (after.accepted.drop s.relays.accepted.length).foldl
            NotificationsState.receive s.notifications }
  /-- The notifications service acts, alone. -/
  | notified {a after} (isArrival : a.isArrival = false)
      (moved : notifications.step s.notifications a = some after) :
      PlatformEffect s (.notify a) { s with notifications := after }

variable {validator json jwt} {s s' : PlatformState} {a : PlatformAction Body Answer}

/-- **Nothing else happens.** -/
theorem platformEffect_of_step (moved : (platform Answer validator json jwt).step s a = some s') :
    PlatformEffect validator json jwt s a s' := by
  cases a with
  | request exchange c now =>
      simp only [platform, PlatformState.step] at moved
      split_ifs at moved with issued
      obtain ⟨call, received, served⟩ := Option.bind_eq_some_iff.mp moved
      obtain ⟨after, begun, rfl⟩ := Option.map_eq_some_iff.mp served
      exact .served (.requested issued received) begun
  | triage message classify c now =>
      simp only [platform, PlatformState.step] at moved
      split_ifs at moved with queued
      obtain ⟨call, classified, served⟩ := Option.bind_eq_some_iff.mp moved
      obtain ⟨after, begun, rfl⟩ := Option.map_eq_some_iff.mp served
      exact .served (.delivered queued.1 queued.2 classified) begun
  | service a =>
      simp only [platform, PlatformState.step] at moved
      split_ifs at moved with isBegin
      obtain ⟨after, acted, rfl⟩ := Option.map_eq_some_iff.mp moved
      exact .served (.itself (Bool.eq_false_of_not_eq_true isBegin)) acted
  | relay a =>
      simp only [platform, PlatformState.step] at moved
      split_ifs at moved with isWrite
      obtain ⟨after, acted, rfl⟩ := Option.map_eq_some_iff.mp moved
      exact .relayed (Bool.eq_false_of_not_eq_true isWrite) acted
  | notify a =>
      simp only [platform, PlatformState.step] at moved
      split_ifs at moved with isArrival
      obtain ⟨after, acted, rfl⟩ := Option.map_eq_some_iff.mp moved
      exact .notified (Bool.eq_false_of_not_eq_true isArrival) acted

variable (validator json jwt)

/-- A relay acts here as it does by itself, -/
theorem step_relay {a : RelayAction} (isWrite : a.isWrite = false) {after : RelayState}
    (moved : relays.step s.relays a = some after) :
    ∃ s', (platform Answer validator json jwt).step s (.relay a) = some s' ∧
      s'.relays = after ∧ s'.service = s.service := by
  obtain ⟨s', acted, parts⟩ : ∃ s', s.relay a = some s' ∧ s'.relays = after ∧
      s'.service = s.service := ⟨_, Option.map_eq_some_iff.mpr ⟨after, moved, rfl⟩, rfl, rfl⟩
  exact ⟨s', (if_neg (isWrite ▸ Bool.false_ne_true)).trans acted, parts⟩

/-- and so does the notifications consumer. -/
theorem step_notify {a : NotificationsAction} (isArrival : a.isArrival = false)
    {after : NotificationsState} (moved : notifications.step s.notifications a = some after) :
    ∃ s', (platform Answer validator json jwt).step s (.notify a) = some s' ∧
      s'.notifications = after ∧ s'.service = s.service ∧ s'.relays = s.relays := by
  exact ⟨{ s with notifications := after }, (if_neg (isArrival ▸ Bool.false_ne_true)).trans
    (Option.map_eq_some_iff.mpr ⟨after, moved, rfl⟩), rfl, rfl, rfl⟩

end

/-! ## Where the parts touch -/

/-- Two tables are one, seen with and without the stamps. -/
def SameEvents (table table' : List OutboxEvent) : Prop :=
  table.map OutboxEvent.event = table'.map OutboxEvent.event

/-- Such tables have the same rows but for the stamps. -/
theorem SameEvents.exists_mem {table table' : List OutboxEvent} (same : SameEvents table table')
    {row : OutboxEvent} (member : row ∈ table) : ∃ row' ∈ table', row'.event = row.event := by
  have mapped := List.mem_map_of_mem (f := OutboxEvent.event) member
  rw [same] at mapped
  exact List.mem_map.mp mapped

/-- It goes both ways, -/
theorem SameEvents.symm {table table' : List OutboxEvent} (same : SameEvents table table') :
    SameEvents table' table := Eq.symm same

/-- is kept when rows are staged, -/
theorem SameEvents.append {table table' : List OutboxEvent} (same : SameEvents table table')
    (rows : List OutboxEvent) : SameEvents (table ++ rows) (table' ++ rows) := by
  unfold SameEvents at *
  rw [List.map_append, List.map_append, same]

/-- and composes. -/
theorem SameEvents.trans {table table' table'' : List OutboxEvent}
    (first : SameEvents table table') (second : SameEvents table' table'') :
    SameEvents table table'' := Eq.trans first second

/-- A relay changes stamps only. -/
theorem sameEvents_of_step {r r' : RelayState} {a : RelayAction} (isWrite : a.isWrite = false)
    (moved : relays.step r a = some r') : SameEvents r'.table r.table := by
  cases relayEffect_of_step moved with
  | staged => cases isWrite
  | @committed _ _ stamped =>
      show (r.table.map (stampRow stamped)).map OutboxEvent.event = _
      rw [List.map_map]
      exact List.map_congr_left fun row _ => stampRow_event stamped row
  | crashed crash =>
      cases crash
      rfl
  | _ => rfl

/-- There is a queue for events of this type. -/
def Subscribed (type : WorkOrderEventType) : Prop := ∃ queue : WorkQueue, queue.eventType = type

/-- RabbitMQ has accepted the event. -/
def RelayState.Published (s : RelayState) (event : WorkOrderEvent) : Prop :=
  ∃ message, Message.rabbit message ∈ s.accepted ∧ message.content = event

/-- What a step of the service adds to the outbox. -/
theorem staged_of_step {s s' : ServiceState} {a : ServiceAction}
    (moved : service.step s a = some s') :
    s'.db.outbox.rows = s.db.outbox.rows ∨
      ∃ c context flight type saved, a = .commit c context ∧ s.inFlight c = some flight ∧
        flight.prepared.event = some type ∧
        (∀ call found write, flight.prepared = .update call found write → saved = write.entity) ∧
        (∀ row ∈ s.db.outbox.rows, row.eventId ≠ context.eventId) ∧
        s'.db.outbox.rows = s.db.outbox.rows ++ [WorkOrderEventsOutbox.stagedRow
          s.db.outbox.nextId type saved (context.stageContext flight.store)] := by
  cases effect_of_step moved with
  | answered => exact Or.inl rfl
  | insert => exact Or.inl rfl
  | read => exact Or.inl rfl
  | failed => exact Or.inl (rolledBack_rows _ _)
  | @committed c context flight db saved held effect _ =>
      have outbox := effect.outbox_eq
      cases event : flight.prepared.event with
      | none =>
          rw [event] at outbox
          exact Or.inl (congrArg OutboxTable.rows outbox)
      | some type =>
          rw [event] at outbox
          refine Or.inr ⟨c, context, flight, type, saved, rfl, held, event, ?_, outbox.1,
            outbox.2.1⟩
          intro call found write prepared
          rcases effect.saved_eq with
            ⟨dto, inserts, -, -⟩ | ⟨call', found', write', updates, isSaved⟩
          · rw [prepared] at inserts
            cases inserts
          · rw [prepared] at updates
            cases updates
            exact isSaved

/-- What the service has staged is a write to the table of the relays, under an id that comes
after all others. -/
theorem relays_serve {s s' : ServiceState} {a : ServiceAction} {r : RelayState}
    (invariant : LogInvariant s) (moved : service.step s a = some s')
    (same : SameEvents r.table s.db.outbox.rows) :
    let after := { r with
      table := r.table ++ s'.db.outbox.rows.drop s.db.outbox.rows.length }
    SameEvents after.table s'.db.outbox.rows ∧
      (after = r ∨ ∃ newId type workOrder context, (∀ row ∈ r.table, row.id < newId) ∧
        relays.step r (.write newId type workOrder context) = some after) := by
  rcases staged_of_step moved with
    rows | ⟨c, context, flight, type, saved, -, -, -, -, fresh, rows⟩
  · rw [rows, List.drop_length, List.append_nil]
    exact ⟨same, Or.inl rfl⟩
  · rw [rows, List.drop_left]
    have last : ∀ row ∈ r.table, row.id < s.db.outbox.nextId := by
      intro row member
      obtain ⟨row', member', sameEvent⟩ := same.exists_mem member
      rw [← OutboxEvent.id_eq sameEvent]
      exact invariant.bounded row' member'
    refine ⟨same.append _, Or.inr ⟨s.db.outbox.nextId, type, saved,
      context.stageContext flight.store, last, if_neg ?_⟩⟩
    rintro ⟨row, member, sameId | sameEventId⟩
    · exact (last row member).ne sameId
    · obtain ⟨row', member', sameEvent⟩ := same.exists_mem member
      rw [← OutboxEvent.eventId_eq sameEvent] at sameEventId
      exact fresh row' member' sameEventId

/-! ## Arrivals -/

section

variable {n : NotificationsState} {event : WorkOrderEvent}

/-- An event enters when it arrives and has a queue, -/
theorem entered_arrive {arriving : WorkOrderEvent} :
    Entered (n.arrive arriving) event ↔
      Entered n event ∨ (arriving = event ∧ Subscribed event.type) := by
  unfold Entered NotificationsState.arrive
  rcases route_events arriving.type with ⟨queue, type, routed⟩ | unrouted
  · rw [routed, if_neg (List.cons_ne_nil _ _)]
    simp only [NotificationsState.record, NotificationsState.enqueue, List.mem_append,
      List.mem_singleton, Happening.entered.injEq]
    refine or_congr_right ⟨?_, fun same => same.1.symm⟩
    rintro rfl
    exact ⟨rfl, queue, type⟩
  · rw [unrouted, if_pos rfl]
    refine (or_iff_left ?_).symm
    rintro ⟨rfl, queue, type⟩
    rw [← type, route_work] at unrouted
    cases unrouted

/-- that is, when RabbitMQ accepts it and it has one. -/
theorem entered_receive {message : Message} :
    Entered (n.receive message) event ↔
      Entered n event ∨ ∃ rabbit, message = .rabbit rabbit ∧ rabbit.content = event ∧
        Subscribed event.type := by
  cases message with
  | rabbit rabbit =>
      refine entered_arrive.trans (or_congr_right ⟨fun here => ⟨rabbit, rfl, here⟩, ?_⟩)
      rintro ⟨_, same, here⟩
      cases same
      exact here
  | kafka record =>
      refine (or_iff_left ?_).symm
      rintro ⟨_, same, -⟩
      cases same

/-- What RabbitMQ accepts is an arrival of the consumer, or none. -/
theorem reachable_receive (message : Message) : notifications.Reachable n (n.receive message) := by
  cases message with
  | rabbit rabbit => exact ⟨[.arrive rabbit.content], rfl⟩
  | kafka => exact notifications.reachable_refl n

end

/-! ## The invariant -/

/-- Each part is in a state that it can reach by itself, there is one outbox table, and
the events that have entered the notification queues are those that RabbitMQ has
accepted and has a queue for. -/
structure PlatformInvariant (s : PlatformState) : Prop where
  /-- The service is in one of its states, -/
  serving : service.Reachable .initial s.service
  /-- and the relays in one of theirs, -/
  relaying : relays.Reachable .initial s.relays
  /-- and the notifications in one of theirs. -/
  notifying : notifications.Reachable .initial s.notifications
  /-- The rows are the same but for their stamps. -/
  table : SameEvents s.relays.table s.service.db.outbox.rows
  /-- What has been published to a queue has entered it, and nothing else has. -/
  entered_iff : ∀ event, Entered s.notifications event ↔
    s.relays.Published event ∧ Subscribed event.type

namespace PlatformInvariant

/-- It holds at first. -/
theorem initial : PlatformInvariant .initial where
  serving := service.reachable_refl _
  relaying := relays.reachable_refl _
  notifying := notifications.reachable_refl _
  table := rfl
  entered_iff := fun _ =>
    iff_of_false (fun entered => nomatch entered) fun ⟨⟨_, accepted, _⟩, _⟩ => nomatch accepted

/-- What a relay has had accepted has arrived. -/
theorem arrivals {r r' : RelayState} {n : NotificationsState} {a : RelayAction}
    (reached : notifications.Reachable .initial n)
    (entered_iff : ∀ event, Entered n event ↔ r.Published event ∧ Subscribed event.type)
    (moved : relays.step r a = some r') :
    let n' := (r'.accepted.drop r.accepted.length).foldl NotificationsState.receive n
    notifications.Reachable .initial n' ∧
      ∀ event, Entered n' event ↔ r'.Published event ∧ Subscribed event.type := by
  unfold RelayState.Published at *
  rcases accepted_cases (relayEffect_of_step moved) with same | ⟨message, grown, -⟩
  · rw [same, List.drop_length]
    exact ⟨reached, entered_iff⟩
  · rw [grown, List.drop_left]
    refine ⟨reached.trans _ (reachable_receive message), fun event => ?_⟩
    rw [List.foldl_cons, List.foldl_nil, entered_receive, entered_iff]
    simp only [List.mem_append, List.mem_singleton]
    constructor
    · rintro (⟨⟨rabbit, accepted, same⟩, subscribed⟩ | ⟨rabbit, rfl, same, subscribed⟩)
      · exact ⟨⟨rabbit, Or.inl accepted, same⟩, subscribed⟩
      · exact ⟨⟨rabbit, Or.inr rfl, same⟩, subscribed⟩
    · rintro ⟨⟨rabbit, accepted | new, same⟩, subscribed⟩
      · exact Or.inl ⟨⟨rabbit, accepted, same⟩, subscribed⟩
      · exact Or.inr ⟨rabbit, new.symm, same, subscribed⟩

section

variable {Body Answer : Type} {validator : ClassValidator} {json : JsonText Body}
  {jwt : JwtService} {s s' : PlatformState} {a : PlatformAction Body Answer}

/-- The outbox is a faithful log of the orders. -/
theorem logged (invariant : PlatformInvariant s) : LogInvariant s.service :=
  Machine.Reachable.invariant service (fun invariant moved => invariant.step moved)
    LogInvariant.initial invariant.serving

/-- An action of the platform as one of its relays, where a transaction that commits is a
writer, and writers come in the order of their ids. -/
theorem relays_step (invariant : PlatformInvariant s)
    (moved : (platform Answer validator json jwt).step s a = some s') :
    s'.relays = s.relays ∨ ∃ b, relays.step s.relays b = some s'.relays ∧
      (∀ i, a.TickedBy i → b.TickedBy i) ∧ ∀ id, WritesInOrder id s.relays b s'.relays := by
  cases platformEffect_of_step moved with
  | served _ acted =>
      obtain ⟨-, unchanged | ⟨newId, type, workOrder, context, last, written⟩⟩ :=
        relays_serve invariant.logged acted invariant.table
      · exact Or.inl unchanged
      · exact Or.inr ⟨_, written, fun _ _ => trivial, fun _ _ row member _ => last row member⟩
  | @relayed b _ isWrite acted =>
      refine Or.inr ⟨b, acted, fun _ only => only, fun id => ?_⟩
      cases b with
      | write => cases isWrite
      | _ => trivial
  | notified => exact Or.inl rfl

/-- **Every step keeps it.** -/
theorem step (invariant : PlatformInvariant s)
    (moved : (platform Answer validator json jwt).step s a = some s') : PlatformInvariant s' := by
  have relaying : relays.Reachable .initial s'.relays := by
    rcases invariant.relays_step moved with unchanged | ⟨b, acted, -⟩
    · rw [unchanged]
      exact invariant.relaying
    · exact invariant.relaying.step relays acted
  cases platformEffect_of_step moved with
  | served _ acted =>
      exact
        { serving := invariant.serving.step service acted
          relaying := relaying
          notifying := invariant.notifying
          table := (relays_serve invariant.logged acted invariant.table).1
          entered_iff := invariant.entered_iff }
  | relayed isWrite acted =>
      -- what has been published just now enters, and nothing else does
      obtain ⟨notifying, entered_iff⟩ := arrivals invariant.notifying invariant.entered_iff acted
      exact
        { serving := invariant.serving
          relaying := relaying
          notifying := notifying
          table := (sameEvents_of_step isWrite acted).trans invariant.table
          entered_iff := entered_iff }
  | notified isArrival acted =>
      exact
        { serving := invariant.serving
          relaying := relaying
          notifying := invariant.notifying.step notifications acted
          table := invariant.table
          entered_iff := by
            intro event
            refine (entered_iff_of_step ?_ acted).trans (invariant.entered_iff event)
            rintro arriving rfl
            cases isArrival }

/-- In every state of the platform. -/
theorem of_reachable (reached : (platform Answer validator json jwt).Reachable .initial s) :
    PlatformInvariant s :=
  Machine.Reachable.invariant (platform Answer validator json jwt)
    (fun invariant moved => invariant.step moved) initial reached

end

end PlatformInvariant

/-! A resident opens an order, and the property's manager is notified. -/

/-- A property, as the decorators see it. -/
def bodyProperty : Json → JsonValue
  | .null => .null
  | .str text => .string text
  | _ => .other

/-- The properties of an object, or of an array. -/
def bodyProperties : Json → RequestBody
  | .obj fields => ⟨fields.map fun field => (field.1, bodyProperty field.2)⟩
  | .arr elements => ⟨elements.mapIdx fun i value => (toString i, bodyProperty value)⟩
  | _ => ⟨[]⟩

/-- A number is kept as it is written, so none is too large. -/
theorem bodyProperty_ne_infinity (value : Json) : bodyProperty value ≠ .infinity := by
  cases value <;> nofun

/-- So every body is sent on as it is. -/
theorem finite_bodyProperties (body : Json) : (bodyProperties body).Finite := by
  cases body with
  | obj fields =>
      intro property member
      obtain ⟨field, -, rfl⟩ := List.mem_map.mp member
      exact bodyProperty_ne_infinity field.2
  | arr elements =>
      intro property member
      obtain ⟨i, bound, rfl⟩ := List.mem_mapIdx.mp member
      exact bodyProperty_ne_infinity elements[i]
  | _ => exact fun _ member => nomatch member

/-- Bodies as the JSON they are sent as. -/
def jsonBodies : JsonText Json where
  toJsonCodec := jsonCodec
  properties := bodyProperties
  parse_stringify := by
    rintro body _ ⟨⟩
    exact ⟨body, Json.parse_stringify body, (RequestBody.resent_of_finite
      (finite_bodyProperties body)).symm⟩

/-- The body of the request, -/
def tapJson : Json :=
  .obj [("title", .str leakingTap.title), ("description", .str leakingTap.description),
    ("propertyId", .str leakingTap.propertyId.text)]

/-- and the request with its call. -/
def tapExchange : Exchange Json String where
  method := "POST"
  request :=
    { path := "/api/work-orders"
      input := ⟨.empty, some tapJson⟩
      user := none
      headers := ⟨.single "req-1", .absent⟩
      authorization := some "Bearer resident-token" }
  minted := mintedAtGateway
  answers := []
  call := DownstreamClient.call (some ⟨"req-1", some "resident@propflow.example"⟩)
    ⟨"/work-orders", "POST", some tapJson.stringify⟩
  atService := mintedAtService

/-- Its event, as RabbitMQ delivers it. -/
def tapDelivery : QueuedMessage where
  event := WorkOrderEventsOutbox.envelope .created openOrder
    (CommitContext.first.stageContext (some tapExchange.store))
  attempt := .absent
  lastError := none

/-- The order is stored, its event published, and the notification sent. -/
def tapRun : List (PlatformAction Json String) :=
  [ .request tapExchange 0 .epoch, .service (.commit 0 .first), .relay (.tick 0 0),
    .relay (.select 0), .relay (.lock 0), .relay (.lock 0), .relay (.accept 0),
    .notify (.deliver 0 .created tapDelivery), .notify (.sendOk 0) ]

/-- The platform on which it happens. -/
def tapPlatform : Machine PlatformState (PlatformAction Json String) :=
  platform String plainValidator jsonBodies residentTokens

/-- All of this can happen. -/
theorem isSome_tapRun : (tapPlatform.run .initial tapRun).isSome = true := by
  decide +kernel

/-- The platform after it. -/
def tapNotified : PlatformState := (tapPlatform.run .initial tapRun).get isSome_tapRun

/-- This is where the run leads, -/
theorem run_tapRun : tapPlatform.run .initial tapRun = some tapNotified :=
  (Option.some_get _).symm

/-- so it can be reached. -/
theorem reached_tapNotified : tapPlatform.Reachable .initial tapNotified :=
  ⟨tapRun, run_tapRun⟩

end PropFlow
