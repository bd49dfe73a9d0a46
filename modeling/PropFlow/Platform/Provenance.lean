import PropFlow.Platform.Accountability
import PropFlow.WorkOrders.Classifier
import PropFlow.WorkOrders.Triage

/-!
# Where a classification comes from

A triage block travels with every later snapshot of its order: through rows that other calls
have read and save again, through the outbox, both brokers and the mails.  It is advice,
written by a model, so what matters is what the model was asked.  Here it is followed back:
wherever the platform has a triage block, a classifier has been shown the title, the
description and the priority of that very order, and has answered this.

## The property

* `Asked` — in the past of the run the model was asked about the order with this report,
  and gave this answer, which is valid against its schema;
* `Classified` — the triage block of an event is such an answer, about the order of the
  event and what it says was reported;
* `Deployed` — the classifiers of the run are those of the code, over an API that keeps
  to the schema it is asked for.

## The argument

That the report is the one of the order needs an invariant: what the tenant reported is
never written again (`ReportKept`), although every call writes all columns.  With it
`Traced` is kept by every step: a call that saves a stale row saves an old answer about
the same report, and a triage saves a new one.
-/

namespace PropFlow

open Library Library.CivilTime

/-! ## What the tenant reported -/

/-- What the triage consumer shows the classifier. -/
def WorkOrderEventData.report (data : WorkOrderEventData) : TriageInput where
  title := data.title
  description := data.description
  priority := data.priority

/-- What a classifier is shown of an order. -/
def WorkOrder.report (row : WorkOrder) : TriageInput :=
  (WorkOrderEventsOutbox.snapshot row).report

/-- No call changes it. -/
theorem Call.Writes.report {now : Instant} {call : Call} {found : WorkOrder} {write : Write}
    (writes : call.Writes now found write) : write.entity.report = found.report := by
  cases call with
  | create dto => exact writes.elim
  | assign id assigneeId =>
      obtain ⟨-, rfl⟩ := WorkOrdersService.assign_ok writes
      rfl
  | updateStatus id next =>
      obtain ⟨-, rfl⟩ := WorkOrdersService.updateStatus_ok writes
      rfl
  | applyTriage id triage =>
      obtain ⟨workOrder, same, -, rfl⟩ := TriageService.apply_eq_some writes
      cases same
      rfl

/-- An order's row, the rows that calls have found of it, and its events agree on it. -/
structure ReportKept (s : ServiceState) : Prop where
  /-- The calls in flight have found what was there. -/
  sound : s.Sound
  /-- A row that a call has found says the same of the order as the row now. -/
  found : ∀ c flight call found write, s.inFlight c = some flight →
    flight.prepared = .update call found write →
      ∃ row, s.row found.id = some row ∧ found.report = row.report
  /-- So does each of its events. -/
  staged : ∀ id, ∀ event ∈ s.eventsOf id,
    ∃ row, s.row id = some row ∧ event.payload.data.report = row.report

namespace ReportKept

variable {s s' : ServiceState} {a : ServiceAction}

/-- There is no row at first. -/
theorem initial : ReportKept .initial where
  sound := ServiceState.quiescent_initial.sound
  found := fun _ _ _ _ _ absent => nomatch absent
  staged := fun _ _ absent => absurd absent List.not_mem_nil

/-- The row stays, with the same report. -/
theorem row_of_step (kept : ReportKept s) (moved : service.step s a = some s') {id : Uuid}
    {row : WorkOrder} (present : s.row id = some row) :
    ∃ row', s'.row id = some row' ∧ row.report = row'.report := by
  cases orderChange_of_step kept.sound moved id with
  | same unchanged => exact ⟨row, unchanged.trans present, rfl⟩
  | inserted _ absent =>
      rw [absent] at present
      cases present
  | @written c flight call found write now before _ _ _ held prepared _ _ writes present' stored =>
      obtain ⟨row', present'', same⟩ := kept.found c flight call found write held prepared
      have isId : found.id = id :=
        writes.entity_id.symm.trans (s'.db.workOrders.keyed stored)
      rw [isId, present, Option.some_inj] at present''
      subst present''
      exact ⟨write.entity, stored, (writes.report.trans same).symm⟩

/-- Every step keeps it. -/
theorem step (kept : ReportKept s) (moved : service.step s a = some s') : ReportKept s' where
  sound := kept.sound.step moved
  found := by
    intro c flight call found write held prepared
    rcases inFlight_of_step moved held with
      before | ⟨same, ⟨dto, -, -, -, inserts⟩ |
        ⟨call', store, now, id, found', write', -, -, present, -, updates⟩⟩
    · obtain ⟨row, present, same⟩ := kept.found c flight call found write before prepared
      obtain ⟨row', present', same'⟩ := kept.row_of_step moved present
      exact ⟨row', present', same.trans same'⟩
    · rw [prepared] at inserts
      cases inserts
    · rw [prepared] at updates
      cases updates
      have isId : found.id = id := s.db.workOrders.keyed present
      refine ⟨found, ?_, rfl⟩
      unfold ServiceState.row at present ⊢
      rw [same, isId, present]
  staged := by
    intro id event member
    have old : event ∈ s.eventsOf id →
        ∃ row, s'.row id = some row ∧ event.payload.data.report = row.report := by
      intro before
      obtain ⟨row, present, same⟩ := kept.staged id event before
      obtain ⟨row', present', same'⟩ := kept.row_of_step moved present
      exact ⟨row', present', same.trans same'⟩
    cases orderChange_of_step kept.sound moved id with
    | same _ unstaged => exact old (unstaged ▸ member)
    | inserted _ _ _ stored staged =>
        rw [staged] at member
        rcases List.mem_append.mp member with before | new
        · exact old before
        · exact ⟨_, stored, List.mem_singleton.mp new ▸ rfl⟩
    | written _ _ _ _ _ _ stored _ staged =>
        rw [staged] at member
        rcases List.mem_append.mp member with before | new
        · exact old before
        · exact ⟨_, stored, List.mem_singleton.mp new ▸ rfl⟩

/-- So it holds in every run of the service. -/
theorem of_reachable (reached : service.Reachable .initial s) : ReportKept s :=
  Machine.Reachable.invariant service (fun kept moved => kept.step moved) initial reached

end ReportKept

/-! ## Classified -/

section

variable {Body Answer : Type} (past : List (PlatformAction Body Answer))

/-- In the past the model was asked about the order, and this is what it answered. -/
def Asked (id : Uuid) (report : TriageInput) (triage : WorkOrderTriage) : Prop :=
  ∃ message classifier c now json,
    .triage message (AnthropicTriageClassifier.classify classifier) c now ∈ past ∧
      message.content.type = .created ∧ message.content.data.workOrderId = id ∧
      message.content.data.report = report ∧ classifier.Answers report json ∧
      triageSchema.valid json = true ∧ WorkOrderTriage.ofJson? json = some triage

/-- A triage block is an answer about the order it is on. -/
def Classified (data : WorkOrderEventData) : Prop :=
  ∀ triage, data.triage = .value triage → Asked past data.workOrderId data.report triage

/-- The classifiers of this run. -/
def Deployed : Prop :=
  ∀ message classify c now, .triage message classify c now ∈ past →
    ∃ classifier : AnthropicTriageClassifier,
      classifier.KeepsToSchema ∧ classify = classifier.classify

/-- **Every classification is an answer about its order.** -/
structure AllClassified (s : PlatformState) : Prop where
  /-- So it is of the rows, -/
  stored : ∀ id row, s.service.row id = some row →
    Classified past (WorkOrderEventsOutbox.snapshot row)
  /-- of what is in the outbox, -/
  staged : ∀ row ∈ s.service.db.outbox.rows, Classified past row.payload.data
  /-- of what RabbitMQ has accepted, -/
  published : ∀ event, s.relays.Published event → Classified past event.data
  /-- and of what Kafka has accepted. -/
  recorded : ∀ event, .kafka (WorkOrderAuditProducer.record event) ∈ s.relays.accepted →
    Classified past event.data

end

/-! ## One call -/

section

variable {Body Answer : Type} {validator : ClassValidator} {json : JsonText Body}
  {jwt : JwtService} {past : List (PlatformAction Body Answer)} {a : PlatformAction Body Answer}
  {s s' : PlatformState}

/-- An answer of the past is one of a longer past. -/
theorem Classified.snoc {data : WorkOrderEventData} (classified : Classified past data) :
    Classified (past ++ [a]) data := by
  intro triage block
  obtain ⟨message, classifier, c, now, json, member, rest⟩ := classified triage block
  exact ⟨message, classifier, c, now, json, List.mem_append_left _ member, rest⟩

/-- A new order has no classification. -/
theorem classified_of_insertedRow {dto : CreateWorkOrderDto} {id : Uuid} {now : Instant}
    {row : WorkOrder} (inserted : insertedRow dto id now = .ok row) :
    Classified past (WorkOrderEventsOutbox.snapshot row) := by
  intro triage block
  obtain ⟨category, -⟩ := (mirrors_snapshot row).triage_eq triage block
  obtain ⟨-, -, -, columns⟩ := insertedRow_ok inserted
  rw [show row.triageCategory = none from congrArg Prod.fst columns] at category
  cases category

/-- A user's call leaves the classification as it was found. -/
theorem classified_of_writes {now : Instant} {call : Call} {found : WorkOrder} {write : Write}
    (writes : call.Writes now found write) (byUser : call.permittedRoles ≠ [])
    (classified : Classified past (WorkOrderEventsOutbox.snapshot found)) :
    Classified past (WorkOrderEventsOutbox.snapshot write.entity) := by
  cases call with
  | create dto => exact writes.elim
  | assign id assigneeId =>
      obtain ⟨-, rfl⟩ := WorkOrdersService.assign_ok writes
      exact classified
  | updateStatus id next =>
      obtain ⟨-, rfl⟩ := WorkOrdersService.updateStatus_ok writes
      exact classified
  | applyTriage id triage => exact absurd rfl byUser

/-- A triage writes what the classifier has answered. -/
theorem classified_of_triage {message : RabbitMessage}
    {classifier : AnthropicTriageClassifier} {c : CallId} {now : Instant}
    (member : .triage message classifier.classify c now ∈ past)
    (created : message.content.type = .created) (keeps : classifier.KeepsToSchema)
    {triage : WorkOrderTriage}
    (answered : classifier.classify message.content.data.report = some triage)
    {found : WorkOrder} {write : Write} {at_ : Instant}
    (isOrder : found.id = message.content.data.workOrderId)
    (same : message.content.data.report = found.report)
    (writes : Call.Writes at_ (.applyTriage message.content.data.workOrderId triage) found write) :
    Classified past (WorkOrderEventsOutbox.snapshot write.entity) := by
  obtain ⟨json, answers, read⟩ := AnthropicTriageClassifier.classify_eq_some.mp answered
  obtain ⟨workOrder, isFound, -, rfl⟩ := TriageService.apply_eq_some writes
  cases isFound
  intro block isBlock
  cases isBlock
  refine ⟨message, classifier, c, now, json, member, created, isOrder.symm, same, ?_,
    answers.valid keeps, read⟩
  show classifier.Answers found.report json
  exact same ▸ answers

/-- What is known after every run. -/
structure Traced (past : List (PlatformAction Body Answer)) (s : PlatformState) : Prop where
  /-- The parts agree. -/
  invariant : PlatformInvariant s
  /-- What a call is about to write is classified, -/
  flights : ∀ c flight call found write, s.service.inFlight c = some flight →
    flight.prepared = .update call found write →
      Classified past (WorkOrderEventsOutbox.snapshot write.entity)
  /-- what is written is, -/
  stored : ∀ id row, s.service.row id = some row →
    Classified past (WorkOrderEventsOutbox.snapshot row)
  /-- and what is staged. -/
  staged : ∀ id, ∀ event ∈ s.service.eventsOf id, Classified past event.payload.data

namespace Traced

/-- What was reported is what is stored. -/
theorem kept (traced : Traced past s) : ReportKept s.service :=
  ReportKept.of_reachable traced.invariant.serving

/-- What a call that begins is about to write. -/
theorem prompted (traced : Traced past s) (deployed : Deployed (past ++ [a])) {c : CallId}
    {call : Call} {store : Option RequestContext} {now : Instant}
    (prompted : Prompted validator json jwt s a (.begin c call store now)) {found : WorkOrder}
    {write : Write} {id : Uuid} {at_ : Instant} (target : call.target = some id)
    (present : s.service.row id = some found) (writes : call.Writes at_ found write) :
    Classified (past ++ [a]) (WorkOrderEventsOutbox.snapshot write.entity) := by
  cases prompted with
  | requested issued received =>
      obtain ⟨user, -, ⟨role, permitted, -⟩, -⟩ := Gateway.authorised issued received
      exact classified_of_writes writes (List.ne_nil_of_mem permitted)
        (traced.stored id found present).snoc
  | @delivered message classify _ _ _ accepted created classified =>
      obtain ⟨triage, answered, rfl⟩ := Option.map_eq_some_iff.mp classified
      obtain ⟨classifier, keeps, rfl⟩ :=
        deployed message classify c now (List.mem_append_right _ List.mem_cons_self)
      obtain ⟨row, member, broker, same⟩ := traced.invariant.exists_of_accepted accepted
      cases broker with
      | kafka => cases same
      | rabbit =>
          cases same
          cases target
          have isCreated : row.payload.type = .created :=
            (traced.invariant.log.wellTyped row member).type_eq.symm.trans
              (WorkOrderEventType.eq_of_text created)
          have ofOrder : row ∈ s.service.eventsOf row.payload.data.workOrderId :=
            List.mem_filter.mpr ⟨member, decide_eq_true rfl⟩
          obtain ⟨row', present', report⟩ := traced.kept.staged _ row ofOrder
          cases present.symm.trans present'
          have isOrder : found.id = row.payload.data.workOrderId :=
            s.service.db.workOrders.keyed present
          exact classified_of_triage (List.mem_append_right _ List.mem_cons_self) isCreated keeps
            answered isOrder report writes
  | itself isBegin => cases isBegin

/-- The service acts. -/
theorem served (traced : Traced past s) (deployed : Deployed (past ++ [a])) {b : ServiceAction}
    {after : ServiceState} (prompted : Prompted validator json jwt s a b)
    (acted : service.step s.service b = some after) (invariant : PlatformInvariant s')
    (same : s'.service = after) : Traced (past ++ [a]) s' where
  invariant := invariant
  flights := by
    intro c flight call found write held prepared
    rw [same] at held
    rcases flight_of_step acted held with
      before | ⟨call', store, now, prepared', rfl, rfl, made⟩
    · exact (traced.flights c flight call found write before prepared).snoc
    · cases prepared
      -- a call that begins has classified what the classifier was shown
      cases made with
      | update target present writes =>
          exact traced.prompted deployed prompted target present writes
  stored := by
    intro id row present
    rw [same] at present
    cases orderChange_of_step traced.kept.sound acted id with
    | same unchanged => exact (traced.stored id row (unchanged ▸ present)).snoc
    | inserted _ _ inserted stored =>
        cases present.symm.trans stored
        exact classified_of_insertedRow inserted
    | written held prepared _ _ _ _ stored =>
        cases present.symm.trans stored
        exact (traced.flights _ _ _ _ _ held prepared).snoc
  staged := by
    intro id event member
    rw [same] at member
    have old : event ∈ s.service.eventsOf id → Classified (past ++ [a]) event.payload.data :=
      fun before => (traced.staged id event before).snoc
    cases orderChange_of_step traced.kept.sound acted id with
    | same _ unstaged => exact old (unstaged ▸ member)
    | inserted _ _ inserted _ staged =>
        rw [staged] at member
        rcases List.mem_append.mp member with before | new
        · exact old before
        · rw [List.mem_singleton.mp new]
          exact classified_of_insertedRow inserted
    | written held prepared _ _ _ _ _ _ staged =>
        rw [staged] at member
        rcases List.mem_append.mp member with before | new
        · exact old before
        · rw [List.mem_singleton.mp new]
          exact (traced.flights _ _ _ _ _ held prepared).snoc

/-- **Every step keeps it.** -/
theorem step (traced : Traced past s) (deployed : Deployed (past ++ [a]))
    (moved : (platform Answer validator json jwt).step s a = some s') :
    Traced (past ++ [a]) s' := by
  have invariant := traced.invariant.step moved
  have others : s'.service = s.service → Traced (past ++ [a]) s' := by
    intro same
    refine ⟨invariant, ?_, ?_, ?_⟩ <;> rw [same]
    · exact fun c flight call found write held prepared =>
        (traced.flights c flight call found write held prepared).snoc
    · exact fun id row present => (traced.stored id row present).snoc
    · exact fun id event member => (traced.staged id event member).snoc
  cases platformEffect_of_step moved with
  | served prompted acted => exact traced.served deployed prompted acted invariant rfl
  | relayed => exact others rfl
  | notified => exact others rfl

/-- Over a whole run. -/
theorem of_run (deployed : Deployed past)
    (ran : (platform Answer validator json jwt).run .initial past = some s) : Traced past s := by
  have initial : Traced ([] : List (PlatformAction Body Answer)) .initial :=
    ⟨.initial, (fun _ _ _ _ _ absent => nomatch absent), (fun _ _ absent => nomatch absent),
      fun _ _ member => absurd member List.not_mem_nil⟩
  refine (platform Answer validator json jwt).invariant_of_history
    (I := fun past s => Deployed past → Traced past s) ?_ (fun _ => initial) ran deployed
  intro past s s' a traced moved deployed
  refine (traced fun message classify c now member => ?_).step deployed moved
  exact deployed message classify c now (List.mem_append_left _ member)

/-- What is staged is about some order. -/
theorem all_staged (traced : Traced past s) :
    ∀ row ∈ s.service.db.outbox.rows, Classified past row.payload.data :=
  fun row member => traced.staged _ row (List.mem_filter.mpr ⟨member, decide_eq_true rfl⟩)

/-- What is anywhere else is a copy. -/
theorem all (traced : Traced past s) : AllClassified past s where
  stored := traced.stored
  staged := traced.all_staged
  published := by
    intro event published
    obtain ⟨row, member, rfl⟩ := traced.invariant.exists_of_published published
    exact traced.all_staged row member
  recorded := by
    intro event accepted
    obtain ⟨row, member, rfl⟩ := traced.invariant.exists_of_recorded accepted
    exact traced.all_staged row member

end Traced

end

/-- **Provenance.**  Wherever there is a triage block by the end of a run, be it on a row, in
the outbox or on its way through a broker, the model has been asked in that run about the
order it is on, by the report of its tenant, and the block is what it answered. -/
theorem allClassified_of_run {Body Answer : Type} (validator : ClassValidator)
    (json : JsonText Body) (jwt : JwtService) (actions : List (PlatformAction Body Answer))
    (s : PlatformState) (deployed : Deployed actions)
    (ran : (platform Answer validator json jwt).run .initial actions = some s) :
    AllClassified actions s :=
  (Traced.of_run deployed ran).all

/-! The tap of before is triaged, by a model that has one answer. -/

/-- It answers every request with the schema. -/
def tapModel : Anthropic := fun request =>
  if request.schema.valid drippingTap.toJson then
    some ⟨"end_turn", [⟨"text", drippingTap.toJson.stringify⟩]⟩
  else none

/-- A classifier that asks it. -/
def tapClassifier : AnthropicTriageClassifier := .new (some "key") none tapModel

/-- It keeps to the schema. -/
theorem keepsToSchema_tapClassifier : tapClassifier.KeepsToSchema := by
  rintro _ ⟨⟩ request response answered - block member - json parsed
  unfold tapModel at answered
  split_ifs at answered with valid
  cases answered
  rw [List.mem_singleton.mp member, Json.parse_stringify, Option.some_inj] at parsed
  exact parsed ▸ valid

/-- The order is opened, its event published, and its triage stored. -/
def tapTriageRun : List (PlatformAction Json String) :=
  [ .request tapExchange 0 .epoch, .service (.commit 0 .first), .relay (.tick 0 0),
    .relay (.select 0), .relay (.lock 0), .relay (.lock 0), .relay (.accept 0),
    .triage
      (OutboxRelay.publish (WorkOrderEventsOutbox.stagedRow 1 .created openOrder
        (CommitContext.first.stageContext (some tapExchange.store))))
      tapClassifier.classify 1 .epoch,
    .service (.commit 1 .second) ]

/-- All of this can happen. -/
theorem triaged_tapTriageRun :
    ((tapPlatform.run .initial tapTriageRun).any fun s =>
      (s.service.row openOrder.id).any fun row => row.triageCategory = some .plumbing) = true := by
  decide +kernel

/-- The triage is the answer of the model. -/
theorem allClassified_tapTriageRun :
    ∃ s, tapPlatform.run .initial tapTriageRun = some s ∧ AllClassified tapTriageRun s ∧
      ∃ row, s.service.row openOrder.id = some row ∧ row.triageCategory = some .plumbing := by
  obtain ⟨s, ran, plumbing⟩ := (Option.any_eq_true _ _).mp triaged_tapTriageRun
  obtain ⟨row, present, isPlumbing⟩ := (Option.any_eq_true _ _).mp plumbing
  refine ⟨s, ran, ?_, row, present, of_decide_eq_true isPlumbing⟩
  refine allClassified_of_run plainValidator jsonBodies residentTokens tapTriageRun s ?_ ran
  intro message classify c now member
  have isTriage : classify = tapClassifier.classify := by
    simp only [tapTriageRun, List.mem_cons, reduceCtorEq, PlatformAction.triage.injEq,
      false_or, List.not_mem_nil, or_false] at member
    exact member.2.1
  exact ⟨tapClassifier, keepsToSchema_tapClassifier, isTriage⟩

end PropFlow
