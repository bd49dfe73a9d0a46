import PropFlow.WorkOrders.OutboxLog

/-!
# Every status has its event

An order that is in progress, completed or cancelled has an event of that type in
the outbox, whichever call wrote the row last.  A triage may save the status it found
minutes ago, over a newer one; but what it found had been committed, with its event.

So the invariant (`StatusLogged`) is about the rows that calls hold as well as about
those of the table.  Events are only added (`eventsOf_of_step`), so a status that has its
event keeps it (`staged_of_step`), and a status that is new comes with one
(`statusEvents_of_writes`).
-/

namespace PropFlow

open Library Library.CivilTime

/-- The event of the row's status has been staged. -/
def StatusStaged (s : ServiceState) (row : WorkOrder) : Prop :=
  ∀ type, WorkOrdersService.statusEvents row.status = some type →
    ∃ event ∈ s.eventsOf row.id, event.type = type

/-- It has for every row, be it stored or held by a call. -/
structure StatusLogged (s : ServiceState) : Prop where
  /-- The calls in flight have found what was there. -/
  sound : s.Sound
  /-- So it is of what is stored, -/
  stored : ∀ id row, s.row id = some row → StatusStaged s row
  /-- and of what a call has found. -/
  found : ∀ c flight call found write, s.inFlight c = some flight →
    flight.prepared = .update call found write → StatusStaged s found

namespace StatusLogged

variable {s s' : ServiceState} {a : ServiceAction}

/-- There is no row at first. -/
theorem initial : StatusLogged .initial where
  sound := ServiceState.quiescent_initial.sound
  stored := fun _ _ absent => nomatch absent
  found := fun _ _ _ _ _ absent => nomatch absent

/-- Events stay staged. -/
theorem eventsOf_of_step (sound : s.Sound) (moved : service.step s a = some s') {id : Uuid}
    {event : OutboxEvent} (member : event ∈ s.eventsOf id) : event ∈ s'.eventsOf id := by
  cases orderChange_of_step sound moved id with
  | same _ unstaged => rwa [unstaged]
  | inserted _ _ _ _ staged =>
      rw [staged]
      exact List.mem_append_left _ member
  | written _ _ _ _ _ _ _ _ staged =>
      rw [staged]
      exact List.mem_append_left _ member

/-- An event that is staged stays staged. -/
theorem staged_of_step (sound : s.Sound) (moved : service.step s a = some s') {row : WorkOrder}
    (staged : StatusStaged s row) : StatusStaged s' row := by
  intro type isType
  obtain ⟨event, member, same⟩ := staged type isType
  exact ⟨event, eventsOf_of_step sound moved member, same⟩

/-- What a call writes has the event that is staged with it, or the status it found. -/
theorem statusEvents_of_writes {now : Instant} {call : Call} {found : WorkOrder} {write : Write}
    (writes : call.Writes now found write) {type : WorkOrderEventType}
    (isType : WorkOrdersService.statusEvents write.entity.status = some type) :
    write.event = some type ∨ write.entity.status = found.status := by
  cases call with
  | create dto => exact writes.elim
  | assign id assigneeId =>
      obtain ⟨-, rfl⟩ := WorkOrdersService.assign_ok writes
      cases isType
  | updateStatus id next =>
      obtain ⟨-, rfl⟩ := WorkOrdersService.updateStatus_ok writes
      exact Or.inl isType
  | applyTriage id triage =>
      obtain ⟨workOrder, same, -, rfl⟩ := TriageService.apply_eq_some writes
      cases same
      exact Or.inr rfl

/-- Every step keeps it. A row is written with the status that was found, which is logged,
or with a new one and its event. -/
theorem step (logged : StatusLogged s) (moved : service.step s a = some s') : StatusLogged s' where
  sound := logged.sound.step moved
  stored := by
    intro id row present
    have keeps : ∀ {row}, StatusStaged s row → StatusStaged s' row :=
      staged_of_step logged.sound moved
    cases orderChange_of_step logged.sound moved id with
    | same unchanged =>
        rw [unchanged] at present
        exact keeps (logged.stored id row present)
    | inserted _ _ inserted stored =>
        rw [stored] at present
        cases present
        intro type isType
        rw [(insertedRow_ok inserted).2.1] at isType
        cases isType
    | @written c flight call found write now before newType outboxId context held prepared _ _
        writes _ stored event staged =>
        rw [stored] at present
        cases present
        intro type isType
        have isId : write.entity.id = id := s'.db.workOrders.keyed stored
        rcases statusEvents_of_writes writes isType with isEvent | unchanged
        · -- the call changes the status, and stages its event
          obtain rfl := Option.some.inj (event.symm.trans isEvent)
          rw [isId, staged]
          exact ⟨_, List.mem_append_right _ List.mem_cons_self, rfl⟩
        · -- it writes the status back that it found, whose event is there already
          have earlier := keeps (logged.found c flight call found write held prepared)
          rw [writes.entity_id]
          exact earlier type (unchanged ▸ isType)
  found := by
    intro c flight call found write held prepared
    have keeps : ∀ {row}, StatusStaged s row → StatusStaged s' row :=
      staged_of_step logged.sound moved
    rcases inFlight_of_step moved held with
      before | ⟨same, ⟨dto, -, -, -, inserts⟩ |
        ⟨call', store, now, id, found', write', -, -, present, -, updates⟩⟩
    · exact keeps (logged.found c flight call found write before prepared)
    · rw [prepared] at inserts
      cases inserts
    · rw [prepared] at updates
      cases updates
      exact keeps (logged.stored id found present)

/-- **In every reachable state.** -/
theorem of_reachable (reached : service.Reachable .initial s) : StatusLogged s :=
  Machine.Reachable.invariant service (fun logged moved => logged.step moved) initial reached

end StatusLogged

end PropFlow
