import PropFlow.WorkOrders.Triage

/-!
# Paid classifications

Deliveries of one `created` event, handled one after another by the triage
consumer.  The guard against duplicates is in `TriageService.apply`, behind the
classifier: a delivery of an order that has its triage changes nothing, and costs
a classification nevertheless.

## The machine

`triageConsumer` is `WorkOrderTriageConsumer.onWorkOrderCreated`, one delivery a step,
with what the classifier answers and what becomes of the transaction as its input.
`exists_run_of_deliver` connects it to the service: a step of it is a run of the
machine of interleaved calls in which nothing comes between.

## The condition

`ClassifiedOnce` says that a step does not classify an order that has its triage.
`NothingAfterStored` looks at the deliveries alone: nothing is delivered after the one
that stored the triage (`Stores`).  `classifiedOnce_iff` says that these are the same, so
a triaged order is never classified again exactly when it is never delivered again.
-/

namespace PropFlow

open Library Library.CivilTime

/-- What becomes of the transaction of a delivery. -/
inductive TxFate where
  /-- It runs to its end, and commits unless a constraint is violated. -/
  | runs (context : CommitContext)
  /-- The database fails at some point of it. -/
  | aborts (point : TxPoint)
deriving DecidableEq

/-- A delivery of the event: the classifier it meets, the time, and the fate of its
transaction, if it comes to one. -/
structure TriageDelivery where
  /-- What the model answers this time. -/
  classify : TriageInput → Option WorkOrderTriage
  /-- The time that would be `triagedAt`. -/
  now : Instant
  /-- What becomes of the transaction. -/
  fate : TxFate

/-- The database, and how often `classify` has been called. -/
structure TriageState where
  db : Database
  classifications : ℕ

namespace TriageState

/-- `apply(workOrderId, triage)`, with its transaction. -/
def apply (s : TriageState) (call : Call) (delivery : TriageDelivery) : TriageState :=
  match call.prepare s.db.workOrders delivery.now with
  | .ok (some prepared) =>
      match delivery.fate with
      | .runs context =>
          match s.db.transaction none context prepared with
          | .ok (db, _) => { s with db }
          | .error (point, _) => { s with db := s.db.rolledBack point }
      | .aborts point => { s with db := s.db.rolledBack point }
  -- the order is gone, or already triaged
  | _ => s

/-- `onWorkOrderCreated(event)`, to its end. -/
def deliver (event : WorkOrderEvent) (s : TriageState) (delivery : TriageDelivery) : TriageState :=
  let classified := { s with classifications := s.classifications + 1 }
  match WorkOrderTriageConsumer.onWorkOrderCreated delivery.classify event with
  | none => classified
  | some call => classified.apply call delivery

/-- A triage has been applied to the order. -/
def Triaged (s : TriageState) (id : Uuid) : Prop :=
  ∃ row, s.db.workOrders.find id = some row ∧ row.triagedAt.isSome = true

end TriageState

/-- The consumer, and the deliveries of an event. -/
def triageConsumer (event : WorkOrderEvent) : Machine TriageState TriageDelivery where
  step := fun s delivery => some (s.deliver event delivery)

/-- A delivery calls `classify` only if the order has no triage yet. -/
def ClassifiedOnce (id : Uuid) (s : TriageState) (_ : TriageDelivery) (s' : TriageState) : Prop :=
  s.Triaged id → s'.classifications = s.classifications

/-- What `apply` does to the database, a call of the service that nothing comes
between does. -/
theorem exists_run_of_apply (call : Call) (delivery : TriageDelivery) (s : ServiceState)
    {c : CallId} (idle : s.inFlight c = none) (n : ℕ) :
    ∃ actions s', service.run s actions = some s' ∧
      s'.db = (TriageState.apply ⟨s.db, n⟩ call delivery).db := by
  unfold TriageState.apply
  rcases prepared : call.prepare s.db.workOrders delivery.now with e | outcome
  · exact ⟨[], s, rfl, rfl⟩
  rcases outcome with _ | write
  · exact ⟨[], s, rfl, rfl⟩
  have outside : ServiceState.storeOf call none = none := by cases call <;> rfl
  let begun : ServiceState :=
    { s with inFlight := Function.update s.inFlight c (some ⟨none, write⟩) }
  have begins : service.step s (.begin c call none delivery.now) = some begun := by
    simp [service, ServiceState.step, ServiceState.begin, idle, prepared, outside, begun]
  have held : begun.inFlight c = some ⟨none, write⟩ := Function.update_self _ _ _
  have runs : ∀ action s', service.step begun action = some s' →
      service.run s [.begin c call none delivery.now, action] = some s' := by
    intro action s' moved
    exact service.run_cons_eq_some.mpr ⟨begun, begins, by simpa using moved⟩
  dsimp only
  cases fate : delivery.fate with
  | runs context =>
      refine ⟨_, begun.commit c context ⟨none, write⟩, runs (.commit c context) _ ?_, ?_⟩
      · simp [service, ServiceState.step, held]
      · simp only [ServiceState.commit]
        cases s.db.transaction none context write <;> rfl
  | aborts point =>
      refine ⟨_, begun.finish c (s.db.rolledBack point) (.failed point .connection),
        runs (.abort c point) _ ?_, rfl⟩
      simp [service, ServiceState.step, begun]

/-- **A delivery is a run of the service**, of one call at most. -/
theorem exists_run_of_deliver (event : WorkOrderEvent) (delivery : TriageDelivery)
    (s : ServiceState) {c : CallId} (idle : s.inFlight c = none) (n : ℕ) :
    ∃ actions s', service.run s actions = some s' ∧
      s'.db = (TriageState.deliver event ⟨s.db, n⟩ delivery).db := by
  unfold TriageState.deliver
  cases WorkOrderTriageConsumer.onWorkOrderCreated delivery.classify event with
  | none => exact ⟨[], s, rfl, rfl⟩
  | some call => exact exists_run_of_apply call delivery s idle (n + 1)

/-! ## When a delivery stores its triage -/

/-- The transaction that saves a row runs, and into nothing. -/
def Commits (s : TriageState) (delivery : TriageDelivery) (row : WorkOrder) : Prop :=
  ∃ context, delivery.fate = .runs context ∧ checkConstraints row = .ok () ∧
    ∀ staged ∈ s.db.outbox.rows, staged.eventId ≠ context.eventId

/-- The classifier has an answer, the order waits for it, and the transaction
commits. -/
def Stores (event : WorkOrderEvent) (s : TriageState) (delivery : TriageDelivery) : Prop :=
  (delivery.classify ⟨event.data.title, event.data.description, event.data.priority⟩).isSome =
      true ∧
    ∃ row, s.db.workOrders.find event.data.workOrderId = some row ∧ row.triagedAt = none ∧
      Commits s delivery row

/-- Only the last delivery stores its triage. -/
def NothingAfterStored (event : WorkOrderEvent) : TriageState → List TriageDelivery → Prop
  | _, [] => True
  | s, delivery :: rest =>
      (Stores event s delivery → rest = []) ∧
        NothingAfterStored event (s.deliver event delivery) rest

section

variable {event : WorkOrderEvent} {s : TriageState} {delivery : TriageDelivery}

/-- Every delivery is classified. -/
@[simp] theorem classifications_deliver :
    (s.deliver event delivery).classifications = s.classifications + 1 := by
  unfold TriageState.deliver TriageState.apply
  cases WorkOrderTriageConsumer.onWorkOrderCreated delivery.classify event with
  | none => rfl
  | some call =>
      dsimp only
      split
      · split
        · split <;> rfl
        · rfl
      · rfl

/-- When the transaction of an update runs into nothing. -/
theorem Database.transaction_update_ok_iff {db : Database} {store : Option RequestContext}
    {context : CommitContext} {call : Call} {found entity : WorkOrder} {type : WorkOrderEventType} :
    (∃ result, db.transaction store context (.update call found ⟨entity, some type⟩) =
        .ok result) ↔
      checkConstraints entity = .ok () ∧
        ∀ staged ∈ db.outbox.rows, staged.eventId ≠ context.eventId := by
  constructor
  · rintro ⟨result, ok⟩
    obtain ⟨⟨workOrders, saved⟩, saving, rest⟩ := bind_eq_ok.mp ok
    obtain ⟨outbox, staging, -⟩ := bind_eq_ok.mp rest
    obtain ⟨⟨⟩, checked, -⟩ := bind_eq_ok.mp (mapError_eq_ok.mp saving)
    exact ⟨checked, (WorkOrderEventsOutbox.stage_ok (mapError_eq_ok.mp staging)).1⟩
  · rintro ⟨checked, fresh⟩
    have unused : ¬ ∃ staged ∈ db.outbox.rows, staged.eventId = context.eventId := by
      rintro ⟨staged, member, same⟩
      exact fresh staged member same
    have saving : db.workOrders.save entity = .ok (db.workOrders.put entity, entity) := by
      rw [WorkOrdersTable.save, checked, ok_bind]
    have staging : ∃ outbox, WorkOrderEventsOutbox.stage db.outbox type entity
        (context.stageContext store) = .ok outbox := ⟨_, if_neg unused⟩
    obtain ⟨outbox, staging⟩ := staging
    exact ⟨(⟨db.workOrders.put entity, outbox⟩, entity),
      bind_eq_ok.mpr ⟨_, mapError_eq_ok.mpr saving,
        bind_eq_ok.mpr ⟨outbox, mapError_eq_ok.mpr staging, rfl⟩⟩⟩

/-- What `apply` does to the rows, once it has read one: it saves the entity if the
transaction commits, and changes nothing otherwise. -/
theorem workOrders_apply {call call' : Call} {found entity : WorkOrder} {type : WorkOrderEventType}
    (prepared : call.prepare s.db.workOrders delivery.now =
      .ok (some (.update call' found ⟨entity, some type⟩))) :
    (Commits s delivery entity ∧
        (s.apply call delivery).db.workOrders = s.db.workOrders.put entity) ∨
      (¬ Commits s delivery entity ∧
        (s.apply call delivery).db.workOrders = s.db.workOrders) := by
  unfold TriageState.apply
  simp only [prepared]
  -- a transaction commits if it is not cut off and no constraint is violated
  cases fate : delivery.fate with
  | aborts point =>
      refine Or.inr ⟨?_, by simp⟩
      rintro ⟨context, runs, -⟩
      rw [fate] at runs
      cases runs
  | runs context =>
      have accepts : (∃ result, s.db.transaction none context
          (.update call' found ⟨entity, some type⟩) = .ok result) ↔ _ :=
        Database.transaction_update_ok_iff
      cases ran : s.db.transaction none context (.update call' found ⟨entity, some type⟩) with
      | ok result =>
          obtain ⟨db, saved⟩ := result
          refine Or.inl ⟨⟨context, fate, accepts.mp ⟨_, ran⟩⟩, ?_⟩
          have effect := Database.transaction_ok ran
          rcases effect.saved_eq with ⟨dto, inserts, -⟩ | ⟨_, _, write, same, rfl⟩
          · cases inserts
          · cases same
            simp only [ran]
            exact effect.workOrders_eq
      | error failure =>
          refine Or.inr ⟨?_, by simp [ran]⟩
          rintro ⟨context', runs, accepted⟩
          cases fate.symm.trans runs
          obtain ⟨result, ok⟩ := accepts.mpr accepted
          rw [ok] at ran
          cases ran

/-- A triage of an untriaged order prepares to save it with its triage, and with
what the database checks as it was. -/
theorem prepare_applyTriage {table : WorkOrdersTable} {id : Uuid} {row : WorkOrder}
    (found : table.find id = some row) (untriaged : row.triagedAt = none)
    (triage : WorkOrderTriage) (now : Instant) :
    ∃ entity : WorkOrder, entity.id = row.id ∧ entity.triagedAt.isSome = true ∧
      checkConstraints entity = checkConstraints row ∧
      (Call.applyTriage id triage).prepare table now =
        .ok (some (.update (.applyTriage id triage) row ⟨entity, some .triaged⟩)) := by
  refine ⟨{ row with
    triageCategory := some triage.category
    triageUrgency := some triage.urgency
    triageReasoning := some triage.reasoning
    triagedAt := some now }, rfl, rfl, rfl, ?_⟩
  simp [Call.prepare, TriageService.apply, found, untriaged]

/-- Whether a transaction commits is up to what the database checks. -/
theorem commits_congr {entity row : WorkOrder}
    (same : checkConstraints entity = checkConstraints row) :
    Commits s delivery entity ↔ Commits s delivery row := by
  unfold Commits
  rw [same]

/-- The triage of an untriaged order is stored exactly when its transaction commits. -/
theorem stores_iff_commits {row : WorkOrder}
    (answered : (delivery.classify
      ⟨event.data.title, event.data.description, event.data.priority⟩).isSome = true)
    (found : s.db.workOrders.find event.data.workOrderId = some row)
    (untriaged : row.triagedAt = none) :
    Stores event s delivery ↔ Commits s delivery row := by
  constructor
  · rintro ⟨-, row', found', -, commits⟩
    cases found.symm.trans found'
    exact commits
  · exact fun commits => ⟨answered, row, found, untriaged, commits⟩

/-- What a delivery does to the rows: it stores a triage, or leaves them as they
are. -/
theorem workOrders_deliver :
    (Stores event s delivery ∧ (s.deliver event delivery).Triaged event.data.workOrderId) ∨
      (¬ Stores event s delivery ∧ (s.deliver event delivery).db.workOrders = s.db.workOrders) := by
  unfold TriageState.deliver WorkOrderTriageConsumer.onWorkOrderCreated
  cases answer : delivery.classify
      ⟨event.data.title, event.data.description, event.data.priority⟩ with
  | none => exact Or.inr ⟨fun stores => by simp [Stores, answer] at stores, rfl⟩
  | some triage =>
      simp only [Option.map_some]
      cases found : s.db.workOrders.find event.data.workOrderId with
      | none =>
          refine Or.inr ⟨fun stores => ?_, ?_⟩
          · simp [Stores, found] at stores
          · simp [TriageState.apply, Call.prepare, found]
      | some row =>
          cases triaged : row.triagedAt with
          | some time =>
              refine Or.inr ⟨fun stores => ?_, ?_⟩
              · simp [Stores, found, triaged] at stores
              · simp [TriageState.apply, Call.prepare, TriageService.apply, found, triaged]
          | none =>
              obtain ⟨entity, sameId, isTriaged, sameCheck, prepared⟩ :=
                prepare_applyTriage found triaged triage delivery.now
              have key := s.db.workOrders.keyed found
              have stores_iff : Stores event s delivery ↔ Commits s delivery entity :=
                (stores_iff_commits (by simp [answer]) found triaged).trans
                  (commits_congr sameCheck).symm
              have classified : (Call.applyTriage event.data.workOrderId triage).prepare
                  { s with classifications := s.classifications + 1 }.db.workOrders delivery.now =
                    .ok (some (.update (.applyTriage event.data.workOrderId triage) row
                      ⟨entity, some .triaged⟩)) := prepared
              rcases workOrders_apply classified with ⟨stores, stored⟩ | ⟨fails, same⟩
              · refine Or.inl ⟨stores_iff.mpr stores, entity, ?_, isTriaged⟩
                rw [stored, ← key, ← sameId]
                exact WorkOrdersTable.find_put_self _ _
              · exact Or.inr ⟨fun stores => fails (stores_iff.mp stores), same⟩

/-- Whether an order has its triage is read off its row. -/
theorem TriageState.Triaged.of_workOrders {s' : TriageState} {id : Uuid} (triaged : s'.Triaged id)
    (same : s'.db.workOrders = s.db.workOrders) : s.Triaged id := by
  unfold TriageState.Triaged at triaged ⊢
  rwa [same] at triaged

/-- A triaged order is not classified again exactly when nothing is delivered. -/
theorem along_of_triaged {rest : List TriageDelivery}
    (triaged : s.Triaged event.data.workOrderId) :
    (triageConsumer event).Along (ClassifiedOnce event.data.workOrderId) s rest ↔ rest = [] := by
  cases rest with
  | nil => exact iff_of_true trivial rfl
  | cons delivery rest =>
      refine iff_of_false (fun along => ?_) nofun
      have same := (along _ rfl).1 triaged
      rw [classifications_deliver] at same
      omega

/-- A delivery of an order that is not triaged is not one too many. -/
theorem along_cons_of_untriaged {rest : List TriageDelivery}
    (untriaged : ¬ s.Triaged event.data.workOrderId) :
    (triageConsumer event).Along (ClassifiedOnce event.data.workOrderId) s (delivery :: rest) ↔
      (triageConsumer event).Along (ClassifiedOnce event.data.workOrderId)
        (s.deliver event delivery) rest := by
  refine ⟨fun along => (along _ rfl).2, fun along s' moved => ?_⟩
  cases moved
  exact ⟨fun triaged => absurd triaged untriaged, along⟩

/-- An order that is not triaged is classified no more exactly when only the last
delivery stores. -/
theorem along_of_untriaged (untriaged : ¬ s.Triaged event.data.workOrderId)
    (deliveries : List TriageDelivery) :
    (triageConsumer event).Along (ClassifiedOnce event.data.workOrderId) s deliveries ↔
      NothingAfterStored event s deliveries := by
  induction deliveries generalizing s with
  | nil => exact Iff.rfl
  | cons delivery rest ih =>
      rw [along_cons_of_untriaged untriaged, NothingAfterStored]
      rcases workOrders_deliver with ⟨stores, triaged⟩ | ⟨fails, same⟩
      · -- it is triaged now, and whatever comes next is one delivery too many
        rw [along_of_triaged triaged]
        constructor
        · rintro rfl
          exact ⟨fun _ => rfl, trivial⟩
        · exact fun both => both.1 stores
      · rw [ih fun triaged => untriaged (triaged.of_workOrders same)]
        exact ⟨fun rest => ⟨fun stores => absurd stores fails, rest⟩, And.right⟩

end

/-- **When an order is classified only once.**  Over any deliveries of its event, with
any answers of the classifier and any failures of the database: exactly when none
is handled after the one that stores the triage, or of an order that has one. -/
theorem classifiedOnce_iff (event : WorkOrderEvent) (s : TriageState)
    (deliveries : List TriageDelivery) :
    (triageConsumer event).Along (ClassifiedOnce event.data.workOrderId) s deliveries ↔
      (s.Triaged event.data.workOrderId → deliveries = []) ∧
        (¬ s.Triaged event.data.workOrderId → NothingAfterStored event s deliveries) := by
  by_cases triaged : s.Triaged event.data.workOrderId
  · rw [along_of_triaged triaged]
    exact ⟨fun none => ⟨fun _ => none, absurd triaged⟩, fun both => both.1 triaged⟩
  · rw [along_of_untriaged triaged]
    exact ⟨fun nothing => ⟨fun isTriaged => absurd isTriaged triaged, fun _ => nothing⟩,
      fun both => both.2 triaged⟩

/-- The classifier finds a burst pipe. -/
def answered (fate : TxFate) : TriageDelivery := ⟨fun _ => some burstPipe, .epoch, fate⟩

/-- A database with one order, which has no triage. -/
def openOrderStored : TriageState := ⟨(ServiceState.holding openOrder).db, 0⟩

/-- It has none. -/
theorem not_triaged_openOrder : ¬ openOrderStored.Triaged openOrderCreated.data.workOrderId := by
  rintro ⟨row, stored, triaged⟩
  cases stored
  cases triaged

/-- The classifier is down, then the connection; the third delivery is stored. -/
theorem classifiedOnce_thirdStored :
    (triageConsumer openOrderCreated).Along (ClassifiedOnce openOrderCreated.data.workOrderId)
      openOrderStored
      [⟨fun _ => none, .epoch, .runs .first⟩, answered (.aborts .commit),
        answered (.runs .second)] := by
  refine (classifiedOnce_iff openOrderCreated openOrderStored _).mpr
    ⟨fun triaged => absurd triaged not_triaged_openOrder, fun _ =>
      ⟨fun stores => absurd stores.1 (by decide), fun stores => ?_, fun _ => rfl, trivial⟩⟩
  obtain ⟨-, row, -, -, context, runs, -⟩ := stores
  cases runs

/-- The relay publishes the event twice, and the classifier is paid twice. -/
theorem not_classifiedOnce_duplicate :
    ¬ (triageConsumer openOrderCreated).Along
      (ClassifiedOnce openOrderCreated.data.workOrderId) openOrderStored
      [answered (.runs .first), answered (.runs .second)] := by
  intro along
  obtain ⟨-, second⟩ := along _ rfl
  have same := (second _ rfl).1 ⟨_, rfl, rfl⟩
  exact absurd same (by decide)

end PropFlow
