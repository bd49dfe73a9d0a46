import PropFlow.WorkOrders.Concurrency

/-!
# Triage beside the lifecycle

`TriageService.apply` runs from a queue, seconds after it was asked to, beside
the calls of users on the same order.  Two things are expected of it: that
triage and lifecycle keep out of each other's columns, and that a duplicate
`created` event is triaged once.

Both rest on a read that nothing protects, so both fail when a commit falls
between a read and a commit: `not_frameKept_of_overlap` reverts an assignment,
`not_triagedOnce_of_overlap` triages twice.

## Each side's columns

* `Call.SameFrame` — two rows agree in the columns that a call has no business with: the
  triage columns for the lifecycle calls, all others for a triage;
* `FrameKept` — a commit changes no column of the other side;
* `FrameStandsAtCommit` — at a commit, those columns of the row are as they were read.

`frameKept_iff_frameStands` says that along every run the two are the same.
`frameStands_of_exclusive` gives a discipline under which they hold: no triage of an order
overlaps another kind of call on it.

## Triage once

* `TriagedOnce` — one `triaged` event at most, and a triage that is stored does not
  change;
* `UntriagedAtCommit` — no delivery commits over a triage;
* `TriageLedger` — the invariant: an order has a triage exactly if it has a `triaged`
  event, and only triages of it are in flight.

`triagedOnce_iff_untriaged` is the exact condition, over all interleavings of deliveries
of one event.
-/

namespace PropFlow

open Library Library.CivilTime

/-! ## Each side's columns -/

/-- The columns a call does not own are the same in both rows: status and
assignee for triage, the triage columns for the lifecycle calls. -/
def Call.SameFrame (call : Call) (x y : WorkOrder) : Prop :=
  match call with
  | .create _ => True
  | .assign _ _ | .updateStatus _ _ => y.triageColumns = x.triageColumns
  | .applyTriage _ _ => y.status = x.status ∧ y.assigneeId = x.assigneeId

instance (call : Call) (x y : WorkOrder) : Decidable (call.SameFrame x y) :=
  match call with
  | .create _ => .isTrue trivial
  | .assign _ _ | .updateStatus _ _ => decEq y.triageColumns x.triageColumns
  | .applyTriage _ _ => inferInstanceAs (Decidable (_ ∧ _))

/-- Agreement in these columns is an equivalence: -/
theorem Call.SameFrame.refl (call : Call) (x : WorkOrder) : call.SameFrame x x := by
  cases call with
  | create dto => trivial
  | assign id assigneeId => rfl
  | updateStatus id next => rfl
  | applyTriage id triage => exact ⟨rfl, rfl⟩

/-- it goes both ways, -/
theorem Call.SameFrame.symm {call : Call} {x y : WorkOrder} (same : call.SameFrame x y) :
    call.SameFrame y x := by
  cases call with
  | create dto => trivial
  | assign id assigneeId => exact Eq.symm same
  | updateStatus id next => exact Eq.symm same
  | applyTriage id triage => exact ⟨same.1.symm, same.2.symm⟩

/-- and it composes. -/
theorem Call.SameFrame.trans {call : Call} {x y z : WorkOrder} (first : call.SameFrame x y)
    (second : call.SameFrame y z) : call.SameFrame x z := by
  cases call with
  | create dto => trivial
  | assign id assigneeId => exact Eq.trans second first
  | updateStatus id next => exact Eq.trans second first
  | applyTriage id triage => exact ⟨second.1.trans first.1, second.2.trans first.2⟩

/-- **A write keeps the frame of the row it was made from.**  What it does to
the row it is committed over is another matter. -/
theorem Call.Writes.sameFrame {now : Instant} {call : Call} {found : WorkOrder} {write : Write}
    (writes : call.Writes now found write) : call.SameFrame found write.entity := by
  cases call with
  | create dto => trivial
  | assign id assigneeId =>
      obtain ⟨-, rfl⟩ := WorkOrdersService.assign_ok writes
      rfl
  | updateStatus id next =>
      obtain ⟨-, rfl⟩ := WorkOrdersService.updateStatus_ok writes
      rfl
  | applyTriage id triage =>
      obtain ⟨workOrder, same, -, rfl⟩ := TriageService.apply_eq_some writes
      cases same
      exact ⟨rfl, rfl⟩

/-- The work order a prepared call is about. -/
def Prepared.target : Prepared → Option Uuid
  | .insert _ => none
  | .update call _ _ => call.target

/-- This prepared call, if it is about `id`, leaves its frame as it was. -/
def Prepared.KeepsFrame (id : Uuid) (before after : WorkOrder) : Prepared → Prop
  | .insert _ => True
  | .update call _ _ => call.target = some id → call.SameFrame before after

instance (id : Uuid) (before after : WorkOrder) (prepared : Prepared) :
    Decidable (prepared.KeepsFrame id before after) :=
  match prepared with
  | .insert _ => .isTrue trivial
  | .update _ _ _ => inferInstanceAs (Decidable (_ → _))

/-- What this prepared call on `id` found agrees with `row` on the call's frame. -/
def Prepared.FrameStands (id : Uuid) (row : WorkOrder) : Prepared → Prop
  | .insert _ => True
  | .update call found _ => call.target = some id → call.SameFrame row found

instance (id : Uuid) (row : WorkOrder) (prepared : Prepared) :
    Decidable (prepared.FrameStands id row) :=
  match prepared with
  | .insert _ => .isTrue trivial
  | .update _ _ _ => inferInstanceAs (Decidable (_ → _))

/-- A commit on `id` leaves the columns its call does not own as they were last
committed. -/
def FrameKept (id : Uuid) (s : ServiceState) (a : ServiceAction) (s' : ServiceState) : Prop :=
  ∀ prepared ∈ s.committing a, ∀ before ∈ s.row id, ∀ after ∈ s'.row id,
    prepared.KeepsFrame id before after

instance (id : Uuid) (s : ServiceState) (a : ServiceAction) (s' : ServiceState) :
    Decidable (FrameKept id s a s') :=
  inferInstanceAs (Decidable (∀ prepared ∈ s.committing a, ∀ before ∈ s.row id,
    ∀ after ∈ s'.row id, _))

/-- At this step, if it commits a call on `id`, the row the call found still
agrees with the committed one on the columns the call does not own. -/
def FrameStandsAtCommit (id : Uuid) (s : ServiceState) (a : ServiceAction) (_ : ServiceState) :
    Prop :=
  ∀ prepared ∈ s.committing a, ∀ row ∈ s.row id, prepared.FrameStands id row

instance (id : Uuid) (s : ServiceState) (a : ServiceAction) (s' : ServiceState) :
    Decidable (FrameStandsAtCommit id s a s') :=
  inferInstanceAs (Decidable (∀ prepared ∈ s.committing a, ∀ row ∈ s.row id, _))

/-- One commit keeps its frame exactly when the frame it read still stands. -/
theorem ServiceState.Sound.frameKept_iff {id : Uuid} {s s' : ServiceState} {a : ServiceAction}
    (sound : s.Sound) (moved : service.step s a = some s') :
    FrameKept id s a s' ↔ FrameStandsAtCommit id s a s' := by
  cases orderChange_of_step sound moved id with
  | same _ _ elsewhere =>
      constructor
      · rintro - prepared committing row -
        cases prepared with
        | insert dto => trivial
        | update call found write =>
            exact fun target => absurd target (elsewhere call found write committing)
      · rintro - prepared committing before - after -
        cases prepared with
        | insert dto => trivial
        | update call found write =>
            exact fun target => absurd target (elsewhere call found write committing)
  | inserted _ absent =>
      constructor
      · intro _ prepared _ row present
        rw [absent] at present
        cases present
      · intro _ prepared _ before present
        rw [absent] at present
        cases present
  | written _ _ committing _ writes _ stored =>
      -- the call writes back the frame that it found
      have frame := writes.sameFrame
      constructor
      · intro kept prepared committing' row present
        have kept := kept prepared committing' row present _ stored
        rw [committing] at committing'
        cases committing'
        exact fun target => (kept target).trans frame.symm
      · intro stands prepared committing' before present after stored'
        have stands := stands prepared committing' before present
        rw [committing] at committing'
        cases committing'
        rw [stored] at stored'
        cases stored'
        exact fun target => (stands target).trans frame

/-- **When triage and lifecycle do not overwrite each other.**  Whatever calls
run, in whatever interleaving: every commit on an order keeps the columns it does
not own exactly when, at each commit, those columns are still what its call read. -/
theorem frameKept_iff_frameStands (id : Uuid) (s : ServiceState) (actions : List ServiceAction)
    (quiescent : s.Quiescent) :
    service.Along (FrameKept id) s actions ↔ service.Along (FrameStandsAtCommit id) s actions :=
  service.along_congr (I := ServiceState.Sound) (A := fun _ => True)
    (fun sound _ moved => sound.step moved)
    (fun sound _ moved => sound.frameKept_iff moved) quiescent.sound (fun _ _ => trivial)

/-- An answer of the classifier. -/
def burstPipe : WorkOrderTriage where
  category := .plumbing
  urgency := .emergency
  reasoning := "Water is running."

/-- The overlap: a triage reads the open order, an assignment reads and commits,
the triage commits. -/
def assignDuringTriage : List ServiceAction :=
  [ .begin 0 (.applyTriage openOrder.id burstPipe) none .epoch,
    .begin 1 (.assign openOrder.id technician) none .epoch,
    .commit 1 .first,
    .commit 0 .second ]

/-- The same two calls, one after the other. -/
def assignAfterTriage : List ServiceAction :=
  [ .begin 0 (.applyTriage openOrder.id burstPipe) none .epoch,
    .commit 0 .first,
    .begin 1 (.assign openOrder.id technician) none .epoch,
    .commit 1 .second ]

/-- In turn, neither undoes what the other has done. -/
theorem frameKept_assignAfterTriage :
    service.Along (FrameKept openOrder.id) (.holding openOrder) assignAfterTriage :=
  (frameKept_iff_frameStands openOrder.id (.holding openOrder) assignAfterTriage
    (ServiceState.quiescent_holding _)).mpr (by decide)

/-- **The overlap.**  The triage puts the order back to open, without assignee. -/
theorem not_frameKept_of_overlap :
    ¬ ∀ (id : Uuid) (s : ServiceState) (actions : List ServiceAction), s.Quiescent →
      service.Along (FrameKept id) s actions := by
  intro kept
  have overlaps : ¬ service.Along (FrameKept openOrder.id) (.holding openOrder)
      assignDuringTriage := by decide
  exact overlaps (kept _ _ _ (ServiceState.quiescent_holding _))

/-! ### Keeping the two sides apart

Serialising the two kinds of call is enough, and calls of one kind may still
overlap each other. -/

/-- The calls that own the triage columns. -/
def Call.isTriage : Call → Bool
  | .applyTriage _ _ => true
  | _ => false

/-- When a call on `id` commits, no call of the other kind on `id` is in flight. -/
def Exclusive (id : Uuid) (s : ServiceState) (a : ServiceAction) (_ : ServiceState) : Prop :=
  ∀ call found write, s.committing a = some (.update call found write) → call.target = some id →
    ∀ c flight call' found' write', s.inFlight c = some flight →
      flight.prepared = .update call' found' write' → call'.target = some id →
        call'.isTriage = call.isTriage

/-- The frame of a call that reads a row depends only on its kind. -/
theorem Call.sameFrame_iff {call : Call} {x y : WorkOrder} {id : Uuid}
    (target : call.target = some id) :
    call.SameFrame x y ↔
      if call.isTriage then y.status = x.status ∧ y.assigneeId = x.assigneeId
      else y.triageColumns = x.triageColumns := by
  cases call with
  | create dto => cases target
  | assign id assigneeId => rfl
  | updateStatus id next => rfl
  | applyTriage id triage => rfl

/-- Calls of one kind on one order have one frame. -/
theorem Call.SameFrame.of_isTriage {call call' : Call} {x y : WorkOrder} {id : Uuid}
    (same : call.SameFrame x y) (target : call.target = some id)
    (target' : call'.target = some id) (kind : call'.isTriage = call.isTriage) :
    call'.SameFrame x y := by
  rw [Call.sameFrame_iff target']
  rw [Call.sameFrame_iff target, ← kind] at same
  exact same

/-- Every call on `id` in flight has read what is still committed in its frame. -/
structure FramesStand (id : Uuid) (s : ServiceState) : Prop where
  /-- The calls in flight have found what was there. -/
  sound : s.Sound
  /-- What a call will write back unchanged is what is there. -/
  inFlight : ∀ c flight call found write, s.inFlight c = some flight →
    flight.prepared = .update call found write → call.target = some id →
      ∃ row, s.row id = some row ∧ call.SameFrame row found

/-- Every step that keeps the two kinds of calls apart keeps what was read standing. -/
theorem FramesStand.step {id : Uuid} {s s' : ServiceState} {a : ServiceAction}
    (stand : FramesStand id s) (moved : service.step s a = some s')
    (exclusive : Exclusive id s a s') : FramesStand id s' where
  sound := stand.sound.step moved
  inFlight := by
    intro c flight call found write held prepared target
    rcases update_inFlight_of_step moved held prepared target with before | ⟨present, -⟩
    · obtain ⟨row, present, frame⟩ :=
        stand.inFlight c flight call found write before prepared target
      cases orderChange_of_step stand.sound moved id with
      | same unchanged => exact ⟨row, unchanged.trans present, frame⟩
      | inserted _ absent =>
          rw [absent] at present
          cases present
      | @written d flight' call' found' write' now _ _ _ _ held' prepared' committing target'
          writes _ stored =>
          obtain ⟨row', present', frame'⟩ :=
            stand.inFlight d flight' call' found' write' held' prepared' target'
          rw [present] at present'
          cases present'
          -- the committed call and the one in flight are of one kind, so of one frame
          have kind := exclusive call' found' write' committing target' c flight call found write
            before prepared target
          have kept := (frame'.trans writes.sameFrame).of_isTriage target' target kind
          exact ⟨write'.entity, stored, kept.symm.trans frame⟩
    · exact ⟨found, present, Call.SameFrame.refl call found⟩

/-- What every call in flight read stands for the one that commits. -/
theorem FramesStand.atCommit {id : Uuid} {s s' : ServiceState} {a : ServiceAction}
    (stand : FramesStand id s) (moved : service.step s a = some s') :
    FrameStandsAtCommit id s a s' := by
  intro prepared committing row present
  cases prepared with
  | insert dto => trivial
  | update call found write =>
      intro target
      cases orderChange_of_step stand.sound moved id with
      | same _ _ elsewhere => exact absurd target (elsewhere call found write committing)
      | inserted committing' =>
          rw [committing'] at committing
          cases committing
      | @written d flight call' found' write' now _ _ _ _ held prepared committing' target' =>
          rw [committing'] at committing
          cases committing
          obtain ⟨row', present', frame⟩ :=
            stand.inFlight d flight call found write held prepared target'
          rw [present] at present'
          cases present'
          exact frame

/-- **Serialising triage and lifecycle calls keeps both sides' columns.** -/
theorem frameStands_of_exclusive {id : Uuid} {s : ServiceState} {actions : List ServiceAction}
    (quiescent : s.Quiescent) (exclusive : service.Along (Exclusive id) s actions) :
    service.Along (FrameStandsAtCommit id) s actions := by
  refine service.along_of_along (I := FramesStand id) (A := fun _ => True)
    (fun stand _ moved exclusive => ⟨stand.step moved exclusive, stand.atCommit moved⟩)
    ⟨quiescent.sound, ?_⟩ (fun _ _ => trivial) exclusive
  exact fun _ _ _ _ _ held => absurd held quiescent.not_held

/-! ## Triage once -/

/-- The `triaged` events staged for an order so far. -/
def triagedCount (id : Uuid) (s : ServiceState) : ℕ :=
  (s.eventsOf id).countP fun event => event.type = .triaged

/-- The row is there and has been triaged. -/
def Triaged (id : Uuid) (s : ServiceState) : Prop := ∃ row ∈ s.row id, row.triagedAt.isSome = true

/-- Once the triage columns are committed, this step leaves them. -/
def TriageFrozen (id : Uuid) (s : ServiceState) (_ : ServiceAction) (s' : ServiceState) : Prop :=
  ∀ before ∈ s.row id, before.triagedAt.isSome = true →
    ∀ after ∈ s'.row id, after.triageColumns = before.triageColumns

/-- **Triage is applied at most once along a run**: no reachable state has two
`triaged` events of the order, and committed triage columns never change. -/
structure TriagedOnce (id : Uuid) (s : ServiceState) (actions : List ServiceAction) : Prop where
  /-- In no state of the run has the order two `triaged` events. -/
  once : ∀ (front back : List ServiceAction) (t : ServiceState), actions = front ++ back →
    service.run s front = some t → triagedCount id t ≤ 1
  /-- No step changes the triage of an order that has one. -/
  frozen : service.Along (TriageFrozen id) s actions

/-- The only calls on the order are those its `created` event leads to. -/
def OnlyDeliveriesOf (event : WorkOrderEvent) : ServiceAction → Prop
  | .begin _ call _ _ => call.target = some event.data.workOrderId →
      ∃ classify, WorkOrderTriageConsumer.onWorkOrderCreated classify event = some call
  | _ => True

/-- At this step, if it commits a call on `id`, the order is still untriaged. -/
def UntriagedAtCommit (id : Uuid) (s : ServiceState) (a : ServiceAction) (_ : ServiceState) :
    Prop :=
  ∀ prepared ∈ s.committing a, ∀ row ∈ s.row id,
    prepared.target = some id → row.triagedAt = none

instance (id : Uuid) (s : ServiceState) (a : ServiceAction) (s' : ServiceState) :
    Decidable (UntriagedAtCommit id s a s') :=
  inferInstanceAs (Decidable (∀ prepared ∈ s.committing a, ∀ row ∈ s.row id, _))

/-- A delivery leads to a triage of the order its event is about. -/
theorem WorkOrderTriageConsumer.onWorkOrderCreated_eq_some
    {classify : TriageInput → Option WorkOrderTriage} {event : WorkOrderEvent} {call : Call}
    (handled : onWorkOrderCreated classify event = some call) :
    ∃ triage, call = .applyTriage event.data.workOrderId triage := by
  obtain ⟨triage, -, rfl⟩ := Option.map_eq_some_iff.mp handled
  exact ⟨triage, rfl⟩

/-- What ties the count to the row: every call on the order in flight is a
triage, and events have been staged exactly if the row is triaged. -/
structure TriageLedger (id : Uuid) (s : ServiceState) : Prop where
  /-- The calls in flight have found what was there. -/
  sound : s.Sound
  /-- No other call could write a stale triage back. -/
  inFlight : ∀ c flight call found write, s.inFlight c = some flight →
    flight.prepared = .update call found write → call.target = some id → call.isTriage = true
  /-- The row tells whether there is an event. -/
  counted : Triaged id s ↔ triagedCount id s ≠ 0

/-- What one action does to the triage of one order. -/
inductive TriageChange (id : Uuid) (s : ServiceState) (a : ServiceAction) (s' : ServiceState) :
    Prop where
  /-- Nothing: no triage of the order commits. -/
  | quiet (count : triagedCount id s' = triagedCount id s)
      (triaged : Triaged id s' ↔ Triaged id s) (frozen : TriageFrozen id s a s')
      (untriaged : UntriagedAtCommit id s a s')
  /-- A triage of the order commits, whether or not there was one already. -/
  | applied (count : triagedCount id s' = triagedCount id s + 1) (triaged : Triaged id s')
      (first : UntriagedAtCommit id s a s' ↔ ¬ Triaged id s)

/-- What a triage writes. -/
theorem Call.Writes.triage {now : Instant} {call : Call} {found : WorkOrder} {write : Write}
    (writes : call.Writes now found write) (kind : call.isTriage = true) :
    write.event = some .triaged ∧ write.entity.triagedAt.isSome = true := by
  cases call with
  | create dto => exact writes.elim
  | assign id assigneeId => cases kind
  | updateStatus id next => cases kind
  | applyTriage id triage =>
      obtain ⟨workOrder, -, -, rfl⟩ := TriageService.apply_eq_some writes
      exact ⟨rfl, rfl⟩

/-- **What a step does to the triage of an order.** -/
theorem TriageLedger.change {id : Uuid} {s s' : ServiceState} {a : ServiceAction}
    (ledger : TriageLedger id s) (moved : service.step s a = some s') :
    TriageChange id s a s' := by
  cases orderChange_of_step ledger.sound moved id with
  | same unchanged unstaged elsewhere =>
      refine .quiet (by rw [triagedCount, unstaged, triagedCount])
        (by rw [Triaged, unchanged, Triaged]) ?_ ?_
      · intro before present _ after present'
        rw [unchanged, present] at present'
        cases present'
        rfl
      · intro prepared committing row _ target
        cases prepared with
        | insert dto => cases target
        | update call found write => exact absurd target (elsewhere call found write committing)
  | @inserted dto now saved outboxId context _ absent inserted stored staged =>
      have untriaged : ¬ Triaged id s := by
        rintro ⟨row, present, -⟩
        rw [absent] at present
        cases present
      apply TriageChange.quiet
      · rw [triagedCount, staged, List.countP_append, triagedCount]
        simp
      · refine ⟨?_, fun triaged => absurd triaged untriaged⟩
        rintro ⟨row, present, triaged⟩
        rw [stored] at present
        cases present
        have columns := (insertedRow_ok inserted).2.2.2
        unfold WorkOrder.triageColumns at columns
        rw [Prod.mk.injEq, Prod.mk.injEq, Prod.mk.injEq] at columns
        rw [columns.2.2.2] at triaged
        cases triaged
      · intro before present
        rw [absent] at present
        cases present
      · intro prepared _ row present
        rw [absent] at present
        cases present
  | @written c flight call found write now _ type outboxId context held prepared committing target
      writes _ stored event staged =>
      -- every call on the order is a triage, so this commit stages a `triaged` event
      obtain ⟨isTriaged, triagedAt⟩ :=
        writes.triage (ledger.inFlight c flight call found write held prepared target)
      rw [isTriaged] at event
      cases event
      refine .applied ?_ ⟨write.entity, stored, triagedAt⟩ ⟨?_, ?_⟩
      · rw [triagedCount, staged, List.countP_append, triagedCount]
        simp
      · rintro untriaged ⟨row, present, triaged⟩
        rw [untriaged _ committing row present target] at triaged
        cases triaged
      · intro untriaged prepared' _ row present _
        rw [← Option.not_isSome_iff_eq_none]
        exact fun triaged => untriaged ⟨row, present, triaged⟩

/-- Every step keeps the ledger, if the only calls on the order are deliveries. -/
theorem TriageLedger.step {event : WorkOrderEvent} {s s' : ServiceState} {a : ServiceAction}
    (ledger : TriageLedger event.data.workOrderId s) (only : OnlyDeliveriesOf event a)
    (moved : service.step s a = some s') : TriageLedger event.data.workOrderId s' where
  sound := ledger.sound.step moved
  inFlight := by
    intro c flight call found write held prepared target
    rcases update_inFlight_of_step moved held prepared target with before | ⟨-, store, now, rfl⟩
    · exact ledger.inFlight c flight call found write before prepared target
    · obtain ⟨classify, handled⟩ := only target
      obtain ⟨triage, rfl⟩ := WorkOrderTriageConsumer.onWorkOrderCreated_eq_some handled
      rfl
  counted := by
    cases ledger.change moved with
    | quiet count triaged => rw [count, triaged, ledger.counted]
    | applied count triaged =>
        rw [count]
        exact iff_of_true triaged (Nat.succ_ne_zero _)

/-- A run on which nothing of the order's triage has happened yet. -/
theorem TriageLedger.of_quiescent {id : Uuid} {s : ServiceState} (quiescent : s.Quiescent)
    (untriaged : ¬ Triaged id s) (unstaged : triagedCount id s = 0) : TriageLedger id s where
  sound := quiescent.sound
  inFlight := fun _ _ _ _ _ held => absurd held quiescent.not_held
  counted := iff_of_false untriaged (not_not.mpr unstaged)

/-- **When triage is applied at most once.**  Deliver the `created` event of an
untriaged order any number of times, in any interleaving: at most one triage
takes effect exactly when at each commit the order is still untriaged. -/
theorem triagedOnce_iff_untriaged (event : WorkOrderEvent) (s : ServiceState)
    (actions : List ServiceAction) (quiescent : s.Quiescent)
    (untriaged : ¬ Triaged event.data.workOrderId s)
    (unstaged : triagedCount event.data.workOrderId s = 0)
    (only : ∀ a ∈ actions, OnlyDeliveriesOf event a) :
    TriagedOnce event.data.workOrderId s actions ↔
      service.Along (UntriagedAtCommit event.data.workOrderId) s actions := by
  have start := TriageLedger.of_quiescent quiescent untriaged unstaged
  constructor
  · intro safe
    refine service.along_iff_forall_split.mpr fun front back a t t' split ran moved => ?_
    have ledger : TriageLedger event.data.workOrderId t :=
      service.invariant_of_run_of (A := OnlyDeliveriesOf event)
        (fun ledger only moved => ledger.step only moved) start
        (fun b member => only b (split ▸ List.mem_append_left _ member)) ran
    cases ledger.change moved with
    | quiet _ _ _ untriaged => exact untriaged
    | applied count _ first =>
        -- a second triage would be a second `triaged` event
        refine first.mpr fun triaged => ?_
        have once := safe.once (front ++ [a]) back t' (by rw [split]; simp)
          (service.run_append_eq_some.mpr ⟨t, ran, by simpa using moved⟩)
        have counted := ledger.counted.mp triaged
        omega
  · intro along
    constructor
    · rintro front back t rfl ran
      refine (Machine.Along.invariant service (A := OnlyDeliveriesOf event)
        (I := fun u => TriageLedger event.data.workOrderId u ∧
          triagedCount event.data.workOrderId u ≤ 1) ?_ ⟨start, by omega⟩
        (fun b member => only b (List.mem_append_left _ member))
        (Machine.Along.of_append service along) ran).2
      rintro u u' a ⟨ledger, once⟩ only moved holds
      refine ⟨ledger.step only moved, ?_⟩
      cases ledger.change moved with
      | quiet count => rw [count]; exact once
      | applied count _ first =>
          -- at a first triage there is no event yet, and then there is one
          have none : triagedCount event.data.workOrderId u = 0 :=
            not_not.mp (mt ledger.counted.mpr (first.mp holds))
          rw [count, none]
    · refine service.along_of_along (I := TriageLedger event.data.workOrderId)
        (fun ledger only moved holds => ⟨ledger.step only moved, ?_⟩) start only along
      cases ledger.change moved with
      | quiet _ _ frozen => exact frozen
      | applied _ _ first =>
          intro before present triaged
          exact absurd ⟨before, present, triaged⟩ (first.mp holds)

/-- The `created` event of the order nobody has touched. -/
def openOrderCreated : WorkOrderEvent :=
  WorkOrderEventsOutbox.envelope .created openOrder (CommitContext.first.stageContext none)

/-- A second opinion of the classifier on the same order. -/
def drippingTap : WorkOrderTriage where
  category := .plumbing
  urgency := .low
  reasoning := "The tap only drips."

/-- Two deliveries, the second after the first has committed. -/
def deliveredTwiceInTurn : List ServiceAction :=
  [ .begin 0 (.applyTriage openOrder.id burstPipe) none .epoch,
    .commit 0 .first,
    .begin 1 (.applyTriage openOrder.id drippingTap) none .epoch ]

/-- Two deliveries that overlap: both read the untriaged row. -/
def deliveredTwiceAtOnce : List ServiceAction :=
  [ .begin 0 (.applyTriage openOrder.id burstPipe) none .epoch,
    .begin 1 (.applyTriage openOrder.id drippingTap) none .epoch,
    .commit 0 .first,
    .commit 1 .second ]

/-- A delivery is one, -/
theorem onlyDeliveriesOf_begin (event : WorkOrderEvent) (c : CallId) (triage : WorkOrderTriage)
    (store : Option RequestContext) (now : Instant) :
    OnlyDeliveriesOf event (.begin c (.applyTriage event.data.workOrderId triage) store now) :=
  fun _ => ⟨fun _ => some triage, rfl⟩

/-- and so is its commit. -/
theorem onlyDeliveriesOf_commit (event : WorkOrderEvent) (c : CallId) (context : CommitContext) :
    OnlyDeliveriesOf event (.commit c context) := trivial

/-- The order of the runs below has no triage yet. -/
theorem not_triaged_holding_openOrder : ¬ Triaged openOrder.id (.holding openOrder) := by
  unfold Triaged
  decide

/-- A redelivery that comes after the commit finds the triage and stops. -/
theorem triagedOnce_deliveredTwiceInTurn :
    TriagedOnce openOrder.id (.holding openOrder) deliveredTwiceInTurn :=
  (triagedOnce_iff_untriaged openOrderCreated (.holding openOrder) deliveredTwiceInTurn
    (ServiceState.quiescent_holding _) not_triaged_holding_openOrder rfl
    (by
      simp only [deliveredTwiceInTurn, List.forall_mem_cons]
      exact ⟨onlyDeliveriesOf_begin openOrderCreated 0 burstPipe none .epoch,
        onlyDeliveriesOf_commit _ 0 .first,
        onlyDeliveriesOf_begin openOrderCreated 1 drippingTap none .epoch,
        fun _ member => nomatch member⟩)).mpr
    (by decide)

/-- **The overlap.**  The order is triaged twice. -/
theorem not_triagedOnce_of_overlap :
    ¬ ∀ (event : WorkOrderEvent) (s : ServiceState) (actions : List ServiceAction), s.Quiescent →
      ¬ Triaged event.data.workOrderId s → triagedCount event.data.workOrderId s = 0 →
        (∀ a ∈ actions, OnlyDeliveriesOf event a) →
          TriagedOnce event.data.workOrderId s actions := by
  intro once
  have overlap := once openOrderCreated (.holding openOrder) deliveredTwiceAtOnce
    (ServiceState.quiescent_holding _) not_triaged_holding_openOrder rfl
    (by
      simp only [deliveredTwiceAtOnce, List.forall_mem_cons]
      exact ⟨onlyDeliveriesOf_begin openOrderCreated 0 burstPipe none .epoch,
        onlyDeliveriesOf_begin openOrderCreated 1 drippingTap none .epoch,
        onlyDeliveriesOf_commit _ 0 .first, onlyDeliveriesOf_commit _ 1 .second,
        fun _ member => nomatch member⟩)
  have twice : (service.run (.holding openOrder) deliveredTwiceAtOnce).map
      (triagedCount openOrder.id) = some 2 := by decide
  obtain ⟨t, ran, count⟩ := Option.map_eq_some_iff.mp twice
  have atMost := overlap.once deliveredTwiceAtOnce [] t (by simp) ran
  rw [show triagedCount openOrderCreated.data.workOrderId t = 2 from count] at atMost
  exact absurd atMost (by decide)

end PropFlow
