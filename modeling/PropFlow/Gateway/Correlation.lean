import PropFlow.Gateway.Identity
import PropFlow.WorkOrders.Triage

/-!
# The way of a request id

From the client's `x-request-id` to the `correlationId` of the events its request
leads to.  Two things cut it short.

* The middleware keeps an empty request id, because `??` replaces only what is absent, and
  echoes it; the downstream client does not forward an empty one, and so the service mints
  its own.
* The triage consumer applies its triage outside any request, with no context to stamp the
  event from, although the event that it reacts to has the id in its envelope.

## Following a request

`Consequence` follows the events of one request through a run of the service, hop by hop:
a call that the gateway makes for it is begun and stages an event (`Stages`), and a
delivery of that event begins a triage, which stages another one.  Other calls may come
between at any place.

That a triage runs outside any request is an invariant of the runs (`TriageOutside`).

## The result

`correlationId_eq_echoed_iff`: an event has the request id that was echoed to the client
exactly when it was staged by a call for the request, and that id was not empty.
`not_echoed_tapTriaged_tapOpened` are the two ways in which it fails.
-/

namespace PropFlow

open Library

/-- How an event comes from a request. -/
inductive Hop where
  /-- It is staged by a call that the gateway makes for the request. -/
  | call
  /-- It is staged by the triage of an order that such a call has created. -/
  | triage
deriving DecidableEq

/-- `flight` commits, and its transaction stages the event. -/
def Stages (s : ServiceState) (flight : InFlight) (event : WorkOrderEvent)
    (s' : ServiceState) : Prop :=
  ∃ c context row, s.inFlight c = some flight ∧ service.step s (.commit c context) = some s' ∧
    s'.db.outbox.rows = s.db.outbox.rows ++ [row] ∧ row.payload = event

variable {Input Answer : Type}

/-- The `x-request-id` that the gateway sets on its response. -/
def HttpRequest.echoed (request : HttpRequest Input) (minted : MintedUuid) : String :=
  (requestContextMiddleware request.headers minted).requestId

/-- What a request has led to in a run of the service that has got to `s`. -/
inductive Consequence (jwt : JwtService) (route : Route Input Answer) (minted : MintedUuid)
    (request : HttpRequest Input) : Hop → WorkOrderEvent → ServiceState → Prop where
  /-- A call of the request commits, in the context that the service has opened for it. -/
  | call {answers calls call atService s s' flight event}
      (handled : Gateway.handle jwt route minted request answers = .ok calls)
      (issued : call ∈ calls) (reached : service.Reachable .initial s)
      (context : flight.store = some (requestContextMiddleware call.headers atService))
      (stages : Stages s flight event s') : Consequence jwt route minted request .call event s'
  /-- An event is delivered to the triage consumer, and its triage commits. -/
  | triage {classify created call s s' flight found write event}
      (cause : Consequence jwt route minted request .call created s)
      (routed : created.type = .created)
      (delivered : WorkOrderTriageConsumer.onWorkOrderCreated classify created = some call)
      (prepared : flight.prepared = .update call found write)
      (stages : Stages s flight event s') : Consequence jwt route minted request .triage event s'
  /-- It has happened before, and the run has gone on. -/
  | later {hop event s a s'} (before : Consequence jwt route minted request hop event s)
      (moved : service.step s a = some s') : Consequence jwt route minted request hop event s'

/-- What a call stages is stamped from the context it was begun with. -/
theorem Stages.stagedUnder {s s' : ServiceState} {flight : InFlight} {event : WorkOrderEvent}
    (stages : Stages s flight event s') (reached : service.Reachable .initial s) :
    StagedUnder flight.store event := by
  obtain ⟨c, context, row, held, moved, staged, payload⟩ := stages
  exact ⟨s, s', c, context, flight, row, reached, held, rfl, moved, staged, payload⟩

/-- What is staged has the request id of its context. -/
theorem StagedUnder.correlationId_eq {store : Option RequestContext} {event : WorkOrderEvent}
    (staged : StagedUnder store event) : event.correlationId = currentRequestId store := by
  obtain ⟨type, workOrder, context, rfl, rfl⟩ := staged.envelope_eq
  rfl

/-! ## From the client to the service -/

section Forwarding

variable {jwt : JwtService} {route : Route Input Answer} {minted : MintedUuid}
  {request : HttpRequest Input}

/-- An empty request id is echoed; whatever is minted is not empty. -/
theorem echoed_eq_empty_iff :
    request.echoed minted = "" ↔ request.headers.requestId.first = some "" := by
  unfold HttpRequest.echoed requestContextMiddleware
  cases request.headers.requestId.first with
  | none => simp [ne_empty_of_length, minted.length_eq]
  | some text => simp

/-- The guard may set the user of the context, and leaves its request id. -/
theorem JwtAuthGuard.requestId_of_ok {store store' : Option RequestContext}
    {request' : HttpRequest Input}
    (ok : JwtAuthGuard.canActivate jwt route request store = .ok (request', store')) :
    currentRequestId store' = currentRequestId store := by
  rcases JwtAuthGuard.canActivate_ok ok with ⟨-, -, rfl⟩ | ⟨token, user, -, -, -, rfl⟩
  · rfl
  · cases store <;> rfl

/-- Every call has the echoed request id, or none if that is empty. -/
theorem requestId_of_handle {answers : List Answer} {calls : List DownstreamCall}
    {call : DownstreamCall} (handled : Gateway.handle jwt route minted request answers = .ok calls)
    (issued : call ∈ calls) :
    call.headers.requestId = forwarded (some (request.echoed minted)) := by
  obtain ⟨⟨request', store'⟩, authenticated, rest⟩ := bind_eq_ok.mp handled
  obtain ⟨⟨⟩, -, rest⟩ := bind_eq_ok.mp rest
  cases rest
  obtain ⟨downstream, -, rfl⟩ := List.mem_map.mp issued
  show forwarded (currentRequestId store') = _
  rw [JwtAuthGuard.requestId_of_ok authenticated]
  rfl

/-- The service takes a request id over unless it is empty. -/
theorem requestId_eq_forwarded_iff {headers : RequestHeaders} {requestId : String}
    (sent : headers.requestId = forwarded (some requestId)) (atService : MintedUuid) :
    (requestContextMiddleware headers atService).requestId = requestId ↔ requestId ≠ "" := by
  unfold requestContextMiddleware
  rw [sent]
  by_cases empty : requestId = ""
  · subst empty
    have notEmpty : atService.text ≠ "" := ne_empty_of_length (by simp [atService.length_eq])
    simpa [forwarded, HeaderValue.first] using notEmpty
  · rw [forwarded_first_of_ne empty]
    simp [empty]

end Forwarding

/-! ## Outside any request -/

/-- A triage in flight has no context. -/
def TriageOutside (s : ServiceState) : Prop :=
  ∀ c flight id triage found write, s.inFlight c = some flight →
    flight.prepared = .update (.applyTriage id triage) found write → flight.store = none

/-- Every step keeps it: a triage is begun without a context. -/
theorem TriageOutside.step {s s' : ServiceState} {a : ServiceAction} (invariant : TriageOutside s)
    (moved : service.step s a = some s') : TriageOutside s' := by
  intro c flight id triage found write held prepared
  have before : s.inFlight c = some flight → flight.store = none := fun held =>
    invariant c flight id triage found write held prepared
  cases effect_of_step moved with
  | answered => exact before held
  | insert =>
      rcases update_some_eq_some.mp held with ⟨rfl, rfl⟩ | ⟨-, held⟩
      · cases prepared
      · exact before held
  | read =>
      rcases update_some_eq_some.mp held with ⟨rfl, rfl⟩ | ⟨-, held⟩
      · cases prepared
        rfl
      · exact before held
  | committed => exact before (update_none_eq_some.mp held).2
  | failed => exact before (update_none_eq_some.mp held).2

/-- So it holds in every run. -/
theorem triageOutside_of_reachable {s : ServiceState} (reached : service.Reachable .initial s) :
    TriageOutside s :=
  Machine.Reachable.invariant service (fun invariant moved => TriageOutside.step invariant moved)
    (fun _ _ _ _ _ _ held => absurd held ServiceState.quiescent_initial.not_held) reached

/-! ## Consequences -/

section Consequences

variable {jwt : JwtService} {route : Route Input Answer} {minted : MintedUuid}
  {request : HttpRequest Input} {hop : Hop} {event : WorkOrderEvent} {s : ServiceState}

/-- What comes after a run is part of a longer one. -/
theorem Stages.reachable {s' : ServiceState} {flight : InFlight}
    (stages : Stages s flight event s') (reached : service.Reachable .initial s) :
    service.Reachable .initial s' := by
  obtain ⟨c, context, -, -, moved, -⟩ := stages
  exact reached.step service moved

/-- The events of a request are events of a run. -/
theorem Consequence.reachable (consequence : Consequence jwt route minted request hop event s) :
    service.Reachable .initial s := by
  induction consequence with
  | call _ _ reached _ stages => exact stages.reachable reached
  | triage _ _ _ _ stages reached => exact stages.reachable reached
  | later _ moved reached => exact reached.step service moved

/-- What an event has for a correlation id: the one its service has taken over
from the gateway or minted, or nothing. -/
def Hop.Stamps (request : HttpRequest Input) (minted : MintedUuid) (event : WorkOrderEvent) :
    Hop → Prop
  | .call => ∃ (headers : RequestHeaders) (atService : MintedUuid),
      headers.requestId = forwarded (some (request.echoed minted)) ∧
        event.correlationId = some (requestContextMiddleware headers atService).requestId
  | .triage => event.correlationId = none

/-- **What the id of an event is**, at either hop. -/
theorem Consequence.stamps (consequence : Consequence jwt route minted request hop event s) :
    hop.Stamps request minted event := by
  induction consequence with
  | @call _ _ call atService _ _ flight event handled issued reached context stages =>
      refine ⟨call.headers, atService, requestId_of_handle handled issued, ?_⟩
      rw [(stages.stagedUnder reached).correlationId_eq, context]
      rfl
  | @triage classify created call s s' flight found write event cause _ delivered prepared stages =>
      obtain ⟨triage, -, rfl⟩ := Option.map_eq_some_iff.mp delivered
      have ⟨c, _, _, held, _⟩ := stages
      have outside := triageOutside_of_reachable cause.reachable c flight _ _ _ _ held prepared
      show event.correlationId = none
      rw [(stages.stagedUnder cause.reachable).correlationId_eq, outside]
      rfl
  | later _ _ same => exact same

end Consequences

/-- **When a request id survives.**  An event that a request has led to carries the
request id that was echoed to the client exactly when a call of the gateway has
staged it and the client did not send an empty one. -/
theorem correlationId_eq_echoed_iff (jwt : JwtService) (route : Route Input Answer)
    (minted : MintedUuid) (request : HttpRequest Input) (hop : Hop) (event : WorkOrderEvent)
    (s : ServiceState) (consequence : Consequence jwt route minted request hop event s) :
    event.correlationId = some (request.echoed minted) ↔
      hop = .call ∧ request.headers.requestId.first ≠ some "" := by
  have stamped := consequence.stamps
  cases hop with
  | call =>
      obtain ⟨headers, atService, sent, stamped⟩ := stamped
      rw [stamped, Option.some_inj, requestId_eq_forwarded_iff sent, ne_eq, echoed_eq_empty_iff]
      simp
  | triage =>
      rw [show event.correlationId = none from stamped]
      simp

/-! An order is opened, which a triage then classifies. -/

/-- The context in which the service handles the gateway's call. -/
def openTapContext (requestId : HeaderValue) : RequestContext :=
  requestContextMiddleware
    ⟨forwarded (some ((openTap requestId).echoed mintedAtGateway)),
      .single "resident@propflow.example"⟩
    mintedAtService

/-- The event of the new order. -/
def tapOpened (requestId : HeaderValue) : WorkOrderEvent :=
  WorkOrderEventsOutbox.envelope .created openOrder
    (CommitContext.first.stageContext (some (openTapContext requestId)))

/-- The event of its triage. -/
def tapTriaged : WorkOrderEvent :=
  WorkOrderEventsOutbox.envelope .triaged
    { openOrder with
      triageCategory := some burstPipe.category
      triageUrgency := some burstPipe.urgency
      triageReasoning := some burstPipe.reasoning
      triagedAt := some .epoch }
    (CommitContext.second.stageContext none)

/-- The service, when the order has been created. -/
def afterOpening (requestId : HeaderValue) : ServiceState :=
  let store := some (openTapContext requestId)
  (ServiceState.initial.begin 0 (.create leakingTap) store .epoch).commit 0 .first
    ⟨store, .insert leakingTap⟩

/-- The order is opened upon the request of a resident. -/
theorem consequence_tapOpened (requestId : HeaderValue) :
    Consequence residentTokens WorkOrdersController.create mintedAtGateway (openTap requestId) .call
      (tapOpened requestId) (afterOpening requestId) := by
  obtain ⟨call, handled, headers⟩ := handle_openTap requestId
  have context : some (openTapContext requestId) =
      some (requestContextMiddleware call.headers mintedAtService) := by
    rw [headers]
    rfl
  have stages : Stages
      (ServiceState.initial.begin 0 (.create leakingTap) (some (openTapContext requestId)) .epoch)
      ⟨some (openTapContext requestId), .insert leakingTap⟩ (tapOpened requestId)
      (afterOpening requestId) :=
    ⟨0, .first, _, rfl, rfl, rfl, rfl⟩
  exact .call handled (List.mem_singleton_self call)
    ⟨[.begin 0 (.create leakingTap) (some (openTapContext requestId)) .epoch], rfl⟩ context stages

/-- The triage consumer gets the event, and the classifier has an answer. -/
theorem consequence_tapTriaged (requestId : HeaderValue) :
    ∃ s, Consequence residentTokens WorkOrdersController.create mintedAtGateway (openTap requestId)
      .triage tapTriaged s := by
  have delivered : WorkOrderTriageConsumer.onWorkOrderCreated (fun _ => some burstPipe)
      (tapOpened requestId) = some (.applyTriage openOrder.id burstPipe) := rfl
  have begun : service.step (afterOpening requestId)
      (.begin 1 (.applyTriage openOrder.id burstPipe) none .epoch) =
        some ((afterOpening requestId).begin 1 (.applyTriage openOrder.id burstPipe) none .epoch) :=
    rfl
  have cause := Consequence.later (consequence_tapOpened requestId) begun
  exact ⟨_, .triage cause rfl delivered rfl ⟨1, .second, _, rfl, rfl, rfl, rfl⟩⟩

/-- Its event has the id of that request. -/
theorem correlationId_eq_echoed_tapOpened :
    (tapOpened (.single "req-1")).correlationId = some "req-1" :=
  (correlationId_eq_echoed_iff residentTokens WorkOrdersController.create mintedAtGateway
    (openTap (.single "req-1")) .call _ _ (consequence_tapOpened _)).mpr ⟨rfl, by decide⟩

/-- The two ways to lose it.  The client sends `req-1`, which comes back to it, and
the triage of its order has no request id; and it sends an empty request id, which
comes back as well, while the event of its order has the one of the service. -/
theorem not_echoed_tapTriaged_tapOpened :
    (∃ event s, Consequence residentTokens WorkOrdersController.create mintedAtGateway
        (openTap (.single "req-1")) .triage event s ∧
        event.correlationId ≠ some ((openTap (.single "req-1")).echoed mintedAtGateway)) ∧
      ∃ event s, Consequence residentTokens WorkOrdersController.create mintedAtGateway
        (openTap (.single "")) .call event s ∧
        event.correlationId ≠ some ((openTap (.single "")).echoed mintedAtGateway) := by
  constructor
  · obtain ⟨s, triaged⟩ := consequence_tapTriaged (.single "req-1")
    exact ⟨tapTriaged, s, triaged, by decide⟩
  · exact ⟨_, _, consequence_tapOpened (.single ""), by decide⟩

end PropFlow
