import PropFlow.Platform.AuditTrail

/-!
# The history that a client reads

The other end of the platform: somebody asks for the activity of a work order, page by page,
while the audit service goes on recording.  What the pages come to is what happened, no more
and no less, and the newest first.  Between the outbox and the last page there are a relay,
two brokers, a consumer that starts over, and a cursor that is a text.

* `Shows` — an entry of the feed is about an event, with all that it says;
* `Recounts` — what has been received are the entries of these events, in reverse order;
* `ReadsHistory` — it recounts a beginning of the order's history, and the whole of it
  when everything had been sent and read.

It is put together from the `Chronicle` of the order, with one relay, and from what a client
receives of a table that is written to meanwhile (`FeedRead`).  The rows that come are
above those that were there, since the audit service numbers them in turn.
-/

namespace PropFlow

open Library Library.CivilTime

/-- The item shows the event. -/
structure Shows (item : ActivityItem) (event : WorkOrderEvent) : Prop where
  eventType : item.eventType = event.type.text
  workOrderId : item.workOrderId = event.data.workOrderId
  propertyId : item.propertyId = event.data.propertyId
  correlationId : item.correlationId = event.correlationId
  actorId : item.actorId = event.actorId.orNull
  occurredAt : item.occurredAt = event.occurredAt
  payload : item.payload = event.data

/-- An audit row that carries an event is shown as the event. -/
theorem Carries.shows {stored : AuditEvent} {event : WorkOrderEvent}
    (carries : Carries stored event) : Shows (ActivityFeedService.item stored) event where
  eventType := carries.eventType
  workOrderId := carries.workOrderId
  propertyId := carries.propertyId
  correlationId := carries.correlationId
  actorId := carries.actorId
  occurredAt := carries.occurredAt
  payload := carries.payload

/-- The items are the events, the newest first. -/
def Recounts (received : List ActivityItem) (events : List OutboxEvent) : Prop :=
  List.Forall₂ (fun item row => Shows item row.payload) received.reverse events

/-- **What the client has got is the beginning of the history of the order**; and the whole
of it, when everything had been sent and read before it asked. -/
structure ReadsHistory (partitionOf : String → Partition) (id : Uuid) (s : PlatformState)
    (audit : AuditState) (received : List ActivityItem) : Prop where
  /-- In whatever state, what is there has no gap. -/
  beginning : Recounts received ((s.service.eventsOf id).take received.length)
  /-- When all has been sent and read, nothing is missing. -/
  whole : CaughtUp partitionOf s audit → (∀ row ∈ s.service.eventsOf id, s.relays.Sent row) →
    Recounts received (s.service.eventsOf id)

section

variable {Body Answer : Type} {validator : ClassValidator} {json : JsonText Body}
  {jwt : JwtService} {partitionOf : String → Partition} {i : InstanceId} {id : Uuid}
  {kind : PlatformAction Body Answer → Prop} {s : PlatformState} {audit : AuditState}

/-- A trail that tells events that fit is read as them. -/
theorem Tells.recounts {trail : List AuditEvent} {events : List OutboxEvent}
    (fits : ∀ row ∈ events, FitsColumns row.payload) (tells : Tells trail events) :
    Recounts (trail.reverse.map ActivityFeedService.item) events := by
  show List.Forall₂ _ (List.map _ trail.reverse).reverse events
  rw [List.map_reverse, List.reverse_reverse, List.forall₂_map_left_iff]
  have both := (List.forall₂_and_left events trail).mpr ⟨fits, tells.flip⟩
  exact both.flip.imp fun _ _ ⟨fit, retains⟩ => (retains.carries fit).shows

/-- Ids grow in the order of the rows, and the next one is beyond them. -/
theorem Audited.increasing (audited : Audited validator json jwt partitionOf kind s audit) :
    audit.table.rows.Pairwise (fun stored stored' => stored.id < stored'.id) ∧
      ∀ stored ∈ audit.table.rows, stored.id < audit.table.nextId := by
  obtain ⟨high, projects, -⟩ := audited.projected
  exact ⟨projects.increasing, projects.bounded⟩

/-- `audit_events`, as the feed reads it. -/
def Audited.feedTable (audited : Audited validator json jwt partitionOf kind s audit) :
    FeedTable where
  toAuditTable := audit.table
  unique := List.pairwise_map.mpr (audited.increasing.1.imp fun less => less.ne)

/-- Whoever reads the trail of an order reads its chronicle. -/
theorem Chronicle.readsHistory (fits : s.Fits) (chronicle : Chronicle partitionOf id s audit) :
    ReadsHistory partitionOf id s audit
      ((audit.trail id).reverse.map ActivityFeedService.item) where
  beginning := by
    rw [List.length_map, List.length_reverse]
    refine chronicle.beginning.recounts fun row member => fits row ?_
    exact (mem_eventsOf.mp (List.mem_of_mem_take member)).1
  whole := fun caughtUp sent => (chronicle.whole caughtUp sent).1.recounts
    fun row member => fits row (mem_eventsOf.mp member).1

end

/-- **End to end, reading.**  With one relay, a client that reads the activity of a work order
to its end has been told its history: in order, without a gap, and nothing twice; however
many pages it took, and whatever was recorded meanwhile. -/
theorem readsHistory_of_audited {Body Answer : Type} (validator : ClassValidator)
    (json : JsonText Body) (jwt : JwtService) (partitionOf : String → Partition) (i : InstanceId)
    (s : PlatformState) (audit : AuditState) (id : Uuid) (fits : s.Fits)
    (audited : @Audited Body Answer validator json jwt partitionOf (PlatformAction.TickedBy i)
      s audit)
    (limit : PageLimit) (actions : List FeedAction) (t : FeedState)
    (inserts : ∀ a ∈ actions, a.From audit.table.nextId)
    (ran : (feed (some id)).run (.start audited.feedTable) (.request limit :: actions) =
      some t)
    (finished : t.client = .finished) : ReadsHistory partitionOf id s audit t.received := by
  obtain ⟨ascending, below⟩ := audited.increasing
  have read : FeedRead (some id) audited.feedTable audit.table.nextId t :=
    .of_run below inserts ran
  have trail : audited.feedTable.matching (some id) = audit.trail id := by
    unfold FeedTable.matching AuditState.trail
    refine List.filter_congr fun stored _ => decide_eq_decide.mpr ?_
    show (∀ id' ∈ some id, stored.workOrderId = id') ↔ stored.workOrderId = id
    simp
  rw [read.received_eq ascending finished, trail]
  exact (audited.chronicle (fun _ single => single) id).readsHistory fits

/-- Somebody asks about the tap, when everything has been recorded. -/
theorem readsHistory_tapNotified :
    ∃ t audit received, t.service = tapNotified.service ∧ CaughtUp onePartition t audit ∧
      (∀ row ∈ t.service.eventsOf openOrder.id, t.relays.Sent row) ∧
        ReadsHistory onePartition openOrder.id t audit received := by
  obtain ⟨t, audit, -, -, audited, service, sent, caughtUp⟩ :=
    (audited_tapNotified fun _ single => single).exists_caughtUp fits_tapNotified
      fun _ delivers => delivers.tickedBy
  have fits : t.Fits := fun row member => fits_tapNotified row (service ▸ member)
  obtain ⟨-, below⟩ := audited.increasing
  obtain ⟨page, next, first, -⟩ :=
    @request_eq (.start audited.feedTable) (some openOrder.id) defaultLimit none rfl
  obtain ⟨requests, u, all, ran, finished⟩ :=
    (FeedRead.first below first).exists_finished defaultLimit
  refine ⟨t, audit, u.received, service, caughtUp,
    fun row member => sent row (mem_eventsOf.mp member).1, ?_⟩
  refine readsHistory_of_audited plainValidator jsonBodies residentTokens onePartition 0 t audit
    openOrder.id fits audited defaultLimit requests u ?_ ?_ finished
  · intro a member
    rw [all a member]
    trivial
  · exact (Machine.run_cons_eq_some _).mpr ⟨_, first, ran⟩

end PropFlow
