import PropFlow.AsyncApi
import PropFlow.Platform.Notifications
import PropFlow.WorkOrders.Serial

/-!
# Every message keeps to the document

`asyncapi.yaml` promises more than the types do: a title of at most 200 characters, and that
`priority` and `status` are of their vocabularies.  Nothing on the way of a message checks
this.  It holds because an event is a snapshot of a row that the database has accepted in the
same transaction, and because nothing changes it afterwards.

* `admissible_snapshot` — a row that has passed the constraints is what the document says;
* `ServiceState.Admissible` — so is every staged event, in every run of the service;
* `Conforms` — so is every message, wherever it is: published, recorded, waiting in a queue
  or in a delivery, and it is on the channel of its type.

`conforms_of_reachable` has this of every state of the platform.  A text is admitted if
what `JSON.parse` makes of it is valid against the schema of the channel.
-/

namespace PropFlow

open Library Library.CivilTime AsyncApi

/-- A message with this text may be sent on the channel. -/
def AsyncApi.Channel.AdmitsText (channel : Channel) (text : String) : Prop :=
  ∃ json, Json.parse text = some json ∧ channel.Admits json

/-! ## What is staged -/

/-- A row that the database has accepted. -/
theorem admissible_snapshot {row : WorkOrder} (checked : checkConstraints row = .ok ()) :
    Admissible (WorkOrderEventsOutbox.snapshot row) := by
  refine ⟨?_, ⟨row.priority, rfl⟩, ⟨row.status, rfl⟩⟩
  show row.title.length ≤ 200
  by_contra long
  rw [checkConstraints, if_pos (Nat.lt_of_not_le long)] at checked
  cases checked

/-- The data of every staged event keeps to the document. -/
def ServiceState.Admissible (s : ServiceState) : Prop :=
  ∀ row ∈ s.db.outbox.rows, AsyncApi.Admissible row.payload.data

/-- Every step keeps it: what is staged is a snapshot of what was saved. -/
theorem ServiceState.Admissible.step {s s' : ServiceState} {a : ServiceAction}
    (admissible : s.Admissible) (sound : s.Sound) (moved : service.step s a = some s') :
    s'.Admissible := by
  intro row member
  cases outcome_of_step sound moved with
  | nothing _ _ rows => exact admissible row (rows ▸ member)
  | commits _ _ _ effect =>
      rw [effect.rows] at member
      rcases List.mem_append.mp member with before | last
      · exact admissible row before
      · rw [List.mem_singleton.mp last]
        exact admissible_snapshot effect.checked

/-- So it holds of the service in the platform. -/
theorem PlatformInvariant.admissible {s : PlatformState} (invariant : PlatformInvariant s) :
    s.service.Admissible := by
  have holds : s.service.Sound ∧ s.service.Admissible :=
    Machine.Reachable.invariant service (I := fun s => s.Sound ∧ s.Admissible)
      (fun holds moved => ⟨holds.1.step moved, holds.2.step holds.1 moved⟩)
      ⟨ServiceState.quiescent_initial.sound, fun _ absent => absurd absent List.not_mem_nil⟩
      invariant.serving
  exact holds.2

/-! ## What is sent -/

/-- The text of an admissible event is admitted by its channel, and by the audit stream. -/
theorem admits_stringifyEvent {event : WorkOrderEvent}
    (admissible : AsyncApi.Admissible event.data) :
    (channelOf event.type).AdmitsText (stringifyEvent event) ∧
      auditStream.AdmitsText (stringifyEvent event) := by
  have read := eventOfJson?_eventToJson event
  have text : Json.parse (stringifyEvent event) = some (eventToJson event) :=
    Json.parse_stringify _
  exact ⟨⟨_, text, channelOf_admits_iff.mpr ⟨event, read, rfl, admissible⟩⟩,
    ⟨_, text, auditStream_admits_iff.mpr ⟨event, read, admissible⟩⟩⟩

/-- **What crosses the brokers is what the document says.** -/
structure Conforms (s : PlatformState) : Prop where
  /-- A message is sent on the events exchange, to a channel that admits it. -/
  published : ∀ message, .rabbit message ∈ s.relays.accepted →
    message.exchange = Exchanges.events ∧ ∃ channel ∈ channels,
      channel.address = message.routingKey ∧ channel.AdmitsText (stringifyEvent message.content)
  /-- The history is keyed by the aggregate. -/
  recorded : ∀ record, .kafka record ∈ s.relays.accepted →
    record.topic = auditStream.address ∧ auditStream.AdmitsText record.value ∧
      ∃ event, parseEvent record.value = some event ∧ record.key = event.data.workOrderId.text
  /-- What waits in a queue is what is sent on the queue's channel. -/
  queued : ∀ id m, m ∈ s.notifications.ready id →
    (channelOf id.queue.eventType).AdmitsText (stringifyEvent m.event)
  /-- So is what a handler has in hand. -/
  delivered : ∀ d delivery, s.notifications.deliveries d = some delivery →
    (channelOf delivery.queue.eventType).AdmitsText (stringifyEvent delivery.message.event)

/-- What is in a notification queue has been staged. -/
theorem PlatformInvariant.admits_of_known {s : PlatformState} (invariant : PlatformInvariant s)
    {queue : WorkQueue} {event : WorkOrderEvent} (known : Known s.notifications queue event) :
    (channelOf queue.eventType).AdmitsText (stringifyEvent event) := by
  obtain ⟨row, member, rfl⟩ :=
    invariant.exists_of_published ((invariant.entered_iff event).mp known.entered).1
  rw [known.type_eq]
  exact (admits_stringifyEvent (invariant.admissible row member)).1

/-- **Every message keeps to the document**, in every state of the platform. -/
theorem conforms_of_reachable {Body Answer : Type} (validator : ClassValidator)
    (json : JsonText Body) (jwt : JwtService) (s : PlatformState)
    (reached : (platform Answer validator json jwt).Reachable .initial s) : Conforms s := by
  have invariant := PlatformInvariant.of_reachable reached
  have admissible := invariant.admissible
  have sorted := (SentKnown.of_reachable invariant.notifying).sorted
  refine ⟨?_, ?_, fun id m ready => invariant.admits_of_known (sorted.ready ready),
    fun d delivery held => invariant.admits_of_known (sorted.held held)⟩
  · intro message accepted
    obtain ⟨row, member, broker, isMessage⟩ := invariant.exists_of_accepted accepted
    cases broker with
    | kafka => cases isMessage
    | rabbit =>
        cases isMessage
        refine ⟨rfl, channelOf row.type, channelOf_mem _, channelOf_address _, ?_⟩
        rw [(invariant.log.wellTyped row member).type_eq]
        exact (admits_stringifyEvent (admissible row member)).1
  · intro record accepted
    obtain ⟨row, member, broker, isMessage⟩ := invariant.exists_of_accepted accepted
    cases broker with
    | rabbit => cases isMessage
    | kafka =>
        cases isMessage
        exact ⟨rfl, (admits_stringifyEvent (admissible row member)).2, row.payload,
          parseEvent_stringifyEvent _, rfl⟩

/-- The event of the opened order has been published and is in a delivery. -/
theorem conforms_tapNotified : Conforms tapNotified :=
  conforms_of_reachable plainValidator jsonBodies residentTokens _ reached_tapNotified

end PropFlow
