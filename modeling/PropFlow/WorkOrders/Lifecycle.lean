import PropFlow.WorkOrders.Concurrency

/-!
# The lifecycle under concurrency

The transition table is enforced on the row a call *read*; what is committed is
a change from the row that is there when the call *commits*.  This file settles
how far the table survives that gap.

## The law

* `Allowed` — what the table and the assignment guard allow after a status;
* `LawfulChange` — the law one committed status change should obey;
* `LifecycleSafe` — the law for a whole run: every change is lawful, and a terminal
  status is final.

The code breaks it (`not_lifecycleSafe_of_race`): a cancellation and a start that read
the same assigned row both pass their guards, and the start then revives the cancelled
order.

## The condition

`StatusHolds` says of a status that was read that it still stands: the committed status
is the same, or it is the one requested anyway, or the request is a cancellation and the
order has not been completed.  The last two are the kinds of staleness that do no harm.
`allowed_iff_statusHolds` is the arithmetic of it, by a search of the table; its one
hypothesis beside the guard is that an order never goes back to `open`, which is kept by
the runs (`LifecycleInvariant`).

`lifecycleSafe_iff_statusStands` puts the two together: a run is safe exactly when at
each commit the status that was read still stands.
-/

namespace PropFlow

open Library Library.CivilTime

/-- The status a call asks for. -/
def Call.requestedStatus : Call → Option WorkOrderStatus
  | .assign _ _ => some .assigned
  | .updateStatus _ next => some next
  | _ => none

/-- What the lifecycle allows after `before`, in one committed change. -/
def Allowed (before after : WorkOrderStatus) : Prop :=
  canTransition before after = true ∨ (canAssign before = true ∧ after = .assigned)

instance (before after : WorkOrderStatus) : Decidable (Allowed before after) :=
  inferInstanceAs (Decidable (_ ∨ _))

/-- A change of the committed status of `id` is one the lifecycle allows. -/
def LawfulChange (id : Uuid) (s : ServiceState) (_ : ServiceAction) (s' : ServiceState) : Prop :=
  ∀ before ∈ s.row id, ∀ after ∈ s'.row id,
    after.status ≠ before.status → Allowed before.status after.status

/-- **Lifecycle safety of a run**: every committed status change of `id` is
allowed from the status committed immediately before it, and a terminal status
is final. -/
structure LifecycleSafe (id : Uuid) (s : ServiceState) (actions : List ServiceAction) : Prop where
  /-- Each change is one of `ALLOWED_TRANSITIONS`. -/
  lawful : service.Along (LawfulChange id) s actions
  /-- Whatever comes later, a terminal status stays. -/
  final : ∀ (front back : List ServiceAction) (t t' : ServiceState) (before after : WorkOrder),
    actions = front ++ back → service.run s front = some t → service.run t back = some t' →
      t.row id = some before → before.status.Terminal → t'.row id = some after →
        after.status = before.status

/-- The status a call read still stands when it commits over a row in status
`current`: nothing has changed it, or only to what the call asks for, or the call
is a cancellation and the order has not been completed. -/
def StatusHolds (read current requested : WorkOrderStatus) : Prop :=
  current = read ∨ current = requested ∨ (requested = .cancelled ∧ current ≠ .completed)

instance (read current requested : WorkOrderStatus) :
    Decidable (StatusHolds read current requested) :=
  inferInstanceAs (Decidable (_ ∨ _))

/-- What a prepared call on `id` read still stands over `row`. -/
def Prepared.StatusStands (id : Uuid) (row : WorkOrder) : Prepared → Prop
  | .insert _ => True
  | .update call found _ =>
      call.target = some id →
        ∀ requested ∈ call.requestedStatus, StatusHolds found.status row.status requested

instance (id : Uuid) (row : WorkOrder) (prepared : Prepared) :
    Decidable (prepared.StatusStands id row) :=
  match prepared with
  | .insert _ => .isTrue trivial
  | .update _ _ _ => inferInstanceAs (Decidable (_ → _))

/-- At this step, if it commits a call on `id`, what the call read still stands. -/
def StatusStandsAtCommit (id : Uuid) (s : ServiceState) (a : ServiceAction) (_ : ServiceState) :
    Prop :=
  ∀ prepared ∈ s.committing a, ∀ row ∈ s.row id, prepared.StatusStands id row

instance (id : Uuid) (s : ServiceState) (a : ServiceAction) (s' : ServiceState) :
    Decidable (StatusStandsAtCommit id s a s') :=
  inferInstanceAs (Decidable (∀ prepared ∈ s.committing a, ∀ row ∈ s.row id, _))

/-- The action begins no call on `id` but an assignment or a status update. -/
def OnlyLifecycleCalls (id : Uuid) : ServiceAction → Prop
  | .begin _ call _ _ => call.target = some id → (call.requestedStatus).isSome = true
  | _ => True

instance (id : Uuid) (a : ServiceAction) : Decidable (OnlyLifecycleCalls id a) :=
  match a with
  | .begin _ _ _ _ => inferInstanceAs (Decidable (_ → _))
  | .abort _ _ | .commit _ _ => .isTrue trivial

/-! ## One commit -/

/-- No change the lifecycle allows leaves a terminal status. -/
theorem Allowed.not_terminal {before after : WorkOrderStatus} (allowed : Allowed before after) :
    ¬ before.Terminal := by
  intro terminal
  rcases allowed with transition | ⟨assignable, -⟩
  · rw [not_canTransition_of_terminal terminal] at transition
    cases transition
  · rw [not_canAssign_of_terminal terminal] at assignable
    cases assignable

/-- No change the lifecycle allows enters `open`. -/
theorem Allowed.ne_open {before after : WorkOrderStatus} (allowed : Allowed before after) :
    after ≠ WorkOrderStatus.open := by
  rcases allowed with transition | ⟨-, rfl⟩
  · rcases canTransition_target transition with rfl | rfl | rfl <;> decide
  · decide

/-- **The status arithmetic.**  A request that the table allowed from the status
it read, committed over a row that cannot have gone back to `open`, makes a
lawful change exactly when the status that was read still stands. -/
theorem allowed_iff_statusHolds {read current requested : WorkOrderStatus}
    (guarded : Allowed read requested)
    (forward : current = WorkOrderStatus.open → read = WorkOrderStatus.open) :
    (requested ≠ current → Allowed current requested) ↔ StatusHolds read current requested := by
  -- five statuses each: the table is searched
  revert guarded forward
  cases read <;> cases current <;> cases requested <;> decide

/-- What the guards of `assign` and `updateStatus` let through. -/
theorem Call.Writes.requested {now : Instant} {call : Call} {found : WorkOrder} {write : Write}
    {requested : WorkOrderStatus} (writes : call.Writes now found write)
    (request : call.requestedStatus = some requested) :
    write.entity.status = requested ∧ Allowed found.status requested := by
  cases call with
  | create dto => cases request
  | assign id assigneeId =>
      cases request
      obtain ⟨allowed, rfl⟩ := WorkOrdersService.assign_ok writes
      exact ⟨rfl, Or.inr ⟨allowed, rfl⟩⟩
  | updateStatus id next =>
      cases request
      obtain ⟨allowed, rfl⟩ := WorkOrdersService.updateStatus_ok writes
      exact ⟨rfl, Or.inl allowed⟩
  | applyTriage id triage => cases request

/-! ## The invariant of a run -/

/-- What holds of the calls on `id` in flight, however stale: they are lifecycle
calls, the row they found still exists, and it has not gone back to `open`. -/
structure LifecycleInvariant (id : Uuid) (s : ServiceState) : Prop where
  /-- The calls in flight have found what was there. -/
  sound : s.Sound
  /-- A stale call may have found `open` where it is no longer, and not the other way. -/
  inFlight : ∀ c flight call found write, s.inFlight c = some flight →
    flight.prepared = .update call found write → call.target = some id →
      (call.requestedStatus).isSome = true ∧
        ∃ row, s.row id = some row ∧
          (row.status = WorkOrderStatus.open → found.status = WorkOrderStatus.open)

/-- It holds where nothing is in flight. -/
theorem LifecycleInvariant.of_quiescent {id : Uuid} {s : ServiceState} (quiescent : s.Quiescent) :
    LifecycleInvariant id s where
  sound := quiescent.sound
  inFlight := fun _ _ _ _ _ held => absurd held quiescent.not_held

/-- A row that exists stays, and does not go back to `open`. -/
theorem LifecycleInvariant.row_forward {id : Uuid} {s s' : ServiceState} {a : ServiceAction}
    (invariant : LifecycleInvariant id s) (moved : service.step s a = some s') {row : WorkOrder}
    (present : s.row id = some row) :
    ∃ row', s'.row id = some row' ∧
      (row'.status = WorkOrderStatus.open → row.status = WorkOrderStatus.open) := by
  cases orderChange_of_step invariant.sound moved id with
  | same unchanged => exact ⟨row, by rw [unchanged, present], fun isOpen => isOpen⟩
  | inserted _ absent =>
      rw [absent] at present
      cases present
  | @written c flight call found write now before _ _ _ held prepared _ target writes _ stored =>
      obtain ⟨lifecycle, -⟩ := invariant.inFlight c flight call found write held prepared target
      obtain ⟨requested, request⟩ := Option.isSome_iff_exists.mp lifecycle
      obtain ⟨status, guarded⟩ := writes.requested request
      exact ⟨write.entity, stored, fun isOpen => absurd (status.symm.trans isOpen) guarded.ne_open⟩

/-- Every step keeps it: rows move forward only, and a call that begins has just read its
row. -/
theorem LifecycleInvariant.step {id : Uuid} {s s' : ServiceState} {a : ServiceAction}
    (invariant : LifecycleInvariant id s) (only : OnlyLifecycleCalls id a)
    (moved : service.step s a = some s') : LifecycleInvariant id s' where
  sound := invariant.sound.step moved
  inFlight := by
    intro c flight call found write held prepared target
    rcases update_inFlight_of_step moved held prepared target with
      before | ⟨present, store, now, rfl⟩
    · obtain ⟨lifecycle, row, present, forward⟩ :=
        invariant.inFlight c flight call found write before prepared target
      obtain ⟨row', present', forward'⟩ := invariant.row_forward moved present
      exact ⟨lifecycle, row', present', fun isOpen => forward (forward' isOpen)⟩
    · exact ⟨only target, found, present, fun isOpen => isOpen⟩

/-- **One step is lawful exactly when what the call read still stands.** -/
theorem LifecycleInvariant.lawful_iff {id : Uuid} {s s' : ServiceState} {a : ServiceAction}
    (invariant : LifecycleInvariant id s) (moved : service.step s a = some s') :
    LawfulChange id s a s' ↔ StatusStandsAtCommit id s a s' := by
  cases orderChange_of_step invariant.sound moved id with
  | same unchanged _ elsewhere =>
      constructor
      · rintro - prepared committing row -
        cases prepared with
        | insert dto => trivial
        | update call found write =>
            exact fun target => absurd target (elsewhere call found write committing)
      · intro _ before present after present' changed
        rw [unchanged, present] at present'
        cases present'
        exact absurd rfl changed
  | inserted _ absent =>
      -- there was no row to leave, and none that could have been read
      constructor
      · intro _ prepared _ row present
        rw [absent] at present
        cases present
      · intro _ before present
        rw [absent] at present
        cases present
  | @written c flight call found write now before _ _ _ held prepared committing target writes _
      stored =>
      obtain ⟨lifecycle, row, present, forward⟩ :=
        invariant.inFlight c flight call found write held prepared target
      obtain ⟨requested, request⟩ := Option.isSome_iff_exists.mp lifecycle
      obtain ⟨status, guarded⟩ := writes.requested request
      -- the guard has allowed the change from the status that was read
      have arithmetic := allowed_iff_statusHolds guarded forward
      rw [← status] at arithmetic
      constructor
      · intro lawful prepared' committing' row' present'
        rw [committing] at committing'
        cases committing'
        rw [present] at present'
        cases present'
        intro _ requested' request'
        rw [request] at request'
        cases request'
        rw [← status]
        exact arithmetic.mp (lawful row present write.entity stored)
      · intro stands before present' after stored' changed
        rw [present] at present'
        cases present'
        rw [stored] at stored'
        cases stored'
        refine arithmetic.mpr ?_ changed
        rw [status]
        exact stands _ committing row present target requested request

/-! ## Runs -/

/-- A terminal status survives every lawful run. -/
theorem status_of_lawful_of_terminal {id : Uuid} {s t : ServiceState}
    {actions : List ServiceAction} {before after : WorkOrder}
    (lawful : service.Along (LawfulChange id) s actions)
    (ran : service.run s actions = some t) (present : s.row id = some before)
    (terminal : before.status.Terminal) (present' : t.row id = some after) :
    after.status = before.status := by
  have kept : ∃ row, t.row id = some row ∧ row.status = before.status := by
    refine Machine.Along.invariant service (A := fun _ => True)
      (I := fun t => ∃ row, t.row id = some row ∧ row.status = before.status) ?_
      ⟨before, present, rfl⟩ (fun _ _ => trivial) lawful ran
    rintro u u' a ⟨row, here, same⟩ - moved law
    obtain ⟨row', there⟩ := Option.isSome_iff_exists.mp
      (row_isSome_of_step moved id (by rw [here]; rfl))
    refine ⟨row', there, ?_⟩
    by_contra changed
    rw [← same] at changed terminal
    exact (law row here row' there changed).not_terminal terminal
  obtain ⟨row, here, same⟩ := kept
  rw [present'] at here
  cases here
  exact same

/-- Along a run every change is lawful exactly when each commit finds what it
read still standing. -/
theorem along_lawful_iff {id : Uuid} {s : ServiceState} {actions : List ServiceAction}
    (invariant : LifecycleInvariant id s) (only : ∀ a ∈ actions, OnlyLifecycleCalls id a) :
    service.Along (LawfulChange id) s actions ↔
      service.Along (StatusStandsAtCommit id) s actions :=
  service.along_congr (I := LifecycleInvariant id)
    (fun invariant only moved => invariant.step only moved)
    (fun invariant _ moved => invariant.lawful_iff moved) invariant only

/-- **When the lifecycle is safe.**  Start the assignments and status updates of
one order, with any calls on other orders, from any committed database: whatever
the interleaving, the run is safe exactly when at each commit the status that
was read still stands. -/
theorem lifecycleSafe_iff_statusStands (id : Uuid) (s : ServiceState)
    (actions : List ServiceAction) (quiescent : s.Quiescent)
    (only : ∀ a ∈ actions, OnlyLifecycleCalls id a) :
    LifecycleSafe id s actions ↔ service.Along (StatusStandsAtCommit id) s actions := by
  have lawful_iff := along_lawful_iff (LifecycleInvariant.of_quiescent quiescent) only
  constructor
  · exact fun safe => lawful_iff.mp safe.lawful
  · intro holds
    have lawful := lawful_iff.mpr holds
    refine ⟨lawful, ?_⟩
    rintro front back t t' before after rfl ranFront ranBack present terminal present'
    exact status_of_lawful_of_terminal (Machine.Along.back service lawful ranFront) ranBack
      present terminal present'

/-! ## The race -/

/-- The order, assigned. -/
def assignedOrder : WorkOrder :=
  { openOrder with status := .assigned, assigneeId := some technician }

/-- Two updates read the assigned row; the cancellation commits, then the start. -/
def cancelThenStart : List ServiceAction :=
  [ .begin 0 (.updateStatus assignedOrder.id .cancelled) none .epoch,
    .begin 1 (.updateStatus assignedOrder.id .inProgress) none .epoch,
    .commit 0 .first,
    .commit 1 .second ]

/-- The same two updates, which commit the other way round. -/
def startThenCancel : List ServiceAction :=
  [ .begin 0 (.updateStatus assignedOrder.id .cancelled) none .epoch,
    .begin 1 (.updateStatus assignedOrder.id .inProgress) none .epoch,
    .commit 1 .first,
    .commit 0 .second ]

/-- The status committed at the end of a run. -/
def statusAfter (id : Uuid) (s : ServiceState) (actions : List ServiceAction) :
    Option WorkOrderStatus :=
  ((service.run s actions).bind fun t => t.row id).map WorkOrder.status

/-- What a computed status says about the run. -/
theorem statusAfter_eq_some {id : Uuid} {s : ServiceState} {actions : List ServiceAction}
    {status : WorkOrderStatus} (computed : statusAfter id s actions = some status) :
    ∃ t row, service.run s actions = some t ∧ t.row id = some row ∧ row.status = status := by
  obtain ⟨row, found, rfl⟩ := Option.map_eq_some_iff.mp computed
  obtain ⟨t, ran, present⟩ := Option.bind_eq_some_iff.mp found
  exact ⟨t, row, ran, present, rfl⟩

/-- An order that has been started can still be cancelled, so what the cancellation read
stands although it is stale. -/
theorem lifecycleSafe_startThenCancel :
    LifecycleSafe assignedOrder.id (.holding assignedOrder) startThenCancel :=
  (lifecycleSafe_iff_statusStands assignedOrder.id (.holding assignedOrder) startThenCancel
    (ServiceState.quiescent_holding _) (by decide)).mpr (by decide)

/-- **The race.**  A cancelled order is revived. -/
theorem not_lifecycleSafe_of_race :
    ¬ ∀ (id : Uuid) (s : ServiceState) (actions : List ServiceAction), s.Quiescent →
      (∀ a ∈ actions, OnlyLifecycleCalls id a) → LifecycleSafe id s actions := by
  intro safe
  have race := safe assignedOrder.id (.holding assignedOrder) cancelThenStart
    (ServiceState.quiescent_holding _) (by decide)
  have cancelled : statusAfter assignedOrder.id (.holding assignedOrder)
      (cancelThenStart.take 3) = some .cancelled := by decide
  have started : statusAfter assignedOrder.id (.holding assignedOrder)
      (cancelThenStart.take 3 ++ cancelThenStart.drop 3) = some .inProgress := by decide
  obtain ⟨t, before, ran, present, isCancelled⟩ := statusAfter_eq_some cancelled
  obtain ⟨t', after, ran', present', isStarted⟩ := statusAfter_eq_some started
  obtain ⟨u, ranFront, ranBack⟩ := service.run_append_eq_some.mp ran'
  rw [ran] at ranFront
  cases ranFront
  have kept := race.final _ _ t t' before after rfl ran ranBack present (Or.inr isCancelled)
    present'
  rw [isStarted, isCancelled] at kept
  cases kept

end PropFlow
