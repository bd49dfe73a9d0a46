import PropFlow.Notifications.Consumer
import Mathlib.Data.Finset.Card
import Mathlib.Data.List.Nodup

/-!
# Deduplication

A handler asks the store before it sends and marks after it has sent, so that a
crash in between repeats a notification rather than losing it.  The two are on
either side of an await: a second delivery of the event that makes its check in
between is not recognised, and sends as well (`not_sentOnce_overlapping`).
Redelivery one after the other is recognised, as long as the store has not
forgotten the event.

## The conditions

* `CheckedAlone` — a delivery makes its duplicate check while no other delivery of the same
  event is between its check and its mark;
* `FewMarkedBetween` — between two deliveries of an event fewer than `MAX_ENTRIES` others
  are marked;
* there is no crash, which loses the store.

## The argument

Only three things matter here, and `Turn` says what an action does to them: the
*critical* deliveries, which are between their check and their mark, the store,
and the record.  The invariant is `Deduplicated`: an event that has been sent is marked or
about to be, no two critical deliveries are of one event, and the store holds the last ids
that were marked.  The step lemma goes by the kinds of turns.  The one that needs an
argument is the check of an event that is new to the store (`Deduplicated.started`): it has
never been marked, or too many others have been since, which `FewMarkedBetween` excludes.

`sentOnce_of_checkedAlone` is the result: in such runs no event is sent twice.
-/

namespace PropFlow

open Library

/-! ## The record -/

/-- The event ids of the successful sends. -/
def sends (history : List Happening) : List Uuid :=
  history.filterMap fun
    | .sent event _ => some event.eventId
    | _ => none

/-- The event ids of the marks. -/
def marks (history : List Happening) : List Uuid :=
  history.filterMap fun
    | .marked eventId => some eventId
    | _ => none

/-- No event has been sent twice. -/
def SentOnce (history : List Happening) : Prop := (sends history).Nodup

/-- Between two deliveries of an event fewer than `MAX_ENTRIES` others are marked. -/
def FewMarkedBetween (history : List Happening) : Prop :=
  ∀ before between after event event',
    history = before ++ .checked event :: (between ++ .checked event' :: after) →
      event.eventId = event'.eventId →
        ((marks between).toFinset.erase event.eventId).card < ProcessedEventsStore.maxEntries

/-- A process that has just started, whatever is in the queues. -/
structure FreshProcess (s : NotificationsState) : Prop where
  /-- The store is in memory, and new. -/
  store : s.store = .empty
  /-- No handler is running. -/
  deliveries : ∀ d, s.deliveries d = none
  /-- Nothing has been sent by this process. -/
  history : s.history = []

/-- The delivery is between its duplicate check and its mark. -/
def Delivery.Critical (delivery : Delivery) : Prop :=
  delivery.phase = .sending ∨ delivery.phase = .sent

instance (delivery : Delivery) : Decidable delivery.Critical :=
  inferInstanceAs (Decidable (_ ∨ _))

/-- A delivery makes its duplicate check while no other delivery of the same event
is between its check and its mark. -/
def CheckedAlone (s : NotificationsState) (a : NotificationsAction) (_ : NotificationsState) :
    Prop :=
  match a with
  | .deliver _ _ message => ∀ d delivery, s.deliveries d = some delivery →
      delivery.message.event.eventId = message.event.eventId → ¬ delivery.Critical
  | _ => True

/-! ## What an action does to the critical deliveries -/

/-- The critical deliveries, and how far they are. -/
def NotificationsState.critical (s : NotificationsState) (d : DeliveryId) :
    Option (HandlerPhase × WorkOrderEvent) :=
  (s.deliveries d).bind fun delivery =>
    if delivery.Critical then some (delivery.phase, delivery.message.event) else none

/-- A critical delivery, by its phase and its event. -/
theorem critical_eq_some {s : NotificationsState} {d : DeliveryId} {phase : HandlerPhase}
    {event : WorkOrderEvent} :
    s.critical d = some (phase, event) ↔ ∃ delivery, s.deliveries d = some delivery ∧
      delivery.Critical ∧ delivery.phase = phase ∧ delivery.message.event = event := by
  simp [NotificationsState.critical, Option.bind_eq_some_iff]

/-- One action, seen from the critical deliveries, the store and the record. -/
inductive Turn (s s' : NotificationsState) : NotificationsAction → Prop where
  /-- None of the three changes, but for an event that enters. -/
  | unrelated {a} (critical : s'.critical = s.critical) (store : s'.store = s.store)
      (history : s'.history = s.history ∨ ∃ event, s'.history = s.history ++ [.entered event]) :
      Turn s s' a
  /-- A duplicate is skipped. -/
  | skipped {d queue message} (critical : s'.critical = s.critical) (store : s'.store = s.store)
      (history : s'.history = s.history ++ [.checked message.event]) :
      Turn s s' (.deliver d queue message)
  /-- A new event passes the check, and its delivery is critical from here. -/
  | started {d queue message} (new : s.store.has message.event.eventId = false)
      (free : s.critical d = none)
      (critical : s'.critical = Function.update s.critical d (some (.sending, message.event)))
      (store : s'.store = s.store) (history : s'.history = s.history ++ [.checked message.event]) :
      Turn s s' (.deliver d queue message)
  /-- Its notification is out. -/
  | sent {a d event notification} (held : s.critical d = some (.sending, event))
      (critical : s'.critical = Function.update s.critical d (some (.sent, event)))
      (store : s'.store = s.store)
      (history : s'.history = s.history ++ [.sent event notification]) :
      Turn s s' a
  /-- Its id is in the store, and the delivery is critical no longer. -/
  | marked {a d event} (held : s.critical d = some (.sent, event))
      (critical : s'.critical = Function.update s.critical d none)
      (store : s'.store = s.store.mark event.eventId)
      (history : s'.history = s.history ++ [.marked event.eventId]) : Turn s s' a
  /-- Its send has failed, and it is critical no longer. -/
  | failed {a d event} (held : s.critical d = some (.sending, event))
      (critical : s'.critical = Function.update s.critical d none)
      (store : s'.store = s.store) (history : s'.history = s.history) : Turn s s' a

variable {s s' : NotificationsState} {a : NotificationsAction}

/-- The critical deliveries after one delivery was updated. -/
theorem critical_of_put {d : DeliveryId} {delivery : Option Delivery}
    (updated : s'.deliveries = Function.update s.deliveries d delivery) :
    s'.critical = Function.update s.critical d (delivery.bind fun delivery =>
      if delivery.Critical then some (delivery.phase, delivery.message.event) else none) := by
  funext d'
  rw [NotificationsState.critical, updated]
  by_cases same : d' = d
  · subst same
    rw [Function.update_self, Function.update_self]
  · rw [Function.update_of_ne same, Function.update_of_ne same]
    rfl

/-- Nothing critical about an update. -/
theorem critical_of_put_eq {d : DeliveryId} {delivery : Option Delivery}
    (updated : s'.deliveries = Function.update s.deliveries d delivery)
    (same : (delivery.bind fun delivery =>
      if delivery.Critical then some (delivery.phase, delivery.message.event) else none) =
        s.critical d) : s'.critical = s.critical := by
  rw [critical_of_put updated, same, Function.update_eq_self]

/-- **What an action does, but for a crash.** -/
theorem turn_of_effect (effect : DeliveryEffect s a s') (running : a ≠ .crash) : Turn s s' a := by
  cases effect with
  | arrived => exact .unrelated rfl rfl (Or.inr ⟨_, rfl⟩)
  | unrouted => exact .unrelated rfl rfl (Or.inl rfl)
  | accepted => exact .unrelated rfl rfl (Or.inl rfl)
  | expired => exact .unrelated rfl rfl (Or.inl rfl)
  | crashed => exact absurd rfl running
  | @delivered d queue message fresh idle member =>
      -- a duplicate is resolved at once and never critical
      by_cases duplicate : s.store.has message.event.eventId = true
      · refine .skipped (critical_of_put_eq rfl ?_) rfl rfl
        simp [NotificationsState.critical, fresh, duplicate, Delivery.Critical]
      · have free : s.critical d = none := by
          unfold NotificationsState.critical
          rw [fresh]
          rfl
        refine .started (Bool.eq_false_of_not_eq_true duplicate) free ?_ rfl rfl
        refine (critical_of_put (s := s) rfl).trans ?_
        simp [duplicate, Delivery.Critical]
  | @sent d delivery held phase =>
      have before : s.critical d = some (.sending, delivery.message.event) :=
        critical_eq_some.mpr ⟨delivery, held, Or.inl phase, phase, rfl⟩
      refine .sent before ((critical_of_put (s := s) rfl).trans ?_) rfl rfl
      simp [Delivery.Critical]
  | @marked d delivery held phase =>
      have before : s.critical d = some (.sent, delivery.message.event) :=
        critical_eq_some.mpr ⟨delivery, held, Or.inr phase, phase, rfl⟩
      refine .marked before ((critical_of_put (s := s) rfl).trans ?_) rfl rfl
      simp [Delivery.Critical]
  | @publishing d error delivery held phase =>
      have before : s.critical d = some (.sending, delivery.message.event) :=
        critical_eq_some.mpr ⟨delivery, held, Or.inl phase, phase, rfl⟩
      refine .failed before ((critical_of_put (s := s) rfl).trans ?_) rfl rfl
      simp [Delivery.Critical]
  | published held phase =>
      refine .unrelated (critical_of_put_eq rfl ?_) rfl (Or.inl rfl)
      simp [NotificationsState.critical, held, phase, Delivery.Critical]
  | unpublished held phase =>
      refine .unrelated (critical_of_put_eq rfl ?_) rfl (Or.inl rfl)
      simp [NotificationsState.critical, held, phase, Delivery.Critical]
  | acknowledged held phase =>
      refine .unrelated (critical_of_put_eq rfl ?_) rfl (Or.inl rfl)
      rcases phase with phase | phase <;>
        simp [NotificationsState.critical, held, phase, Delivery.Critical]
  | requeued held phase =>
      refine .unrelated (critical_of_put_eq rfl ?_) rfl (Or.inl rfl)
      simp [NotificationsState.critical, held, phase, Delivery.Critical]
  | redelivered held live =>
      refine .unrelated (critical_of_put_eq rfl ?_) rfl (Or.inl rfl)
      unfold NotificationsState.critical
      rw [held]
      rfl

/-! ## The invariant -/

/-- The sends of a longer record, -/
theorem sends_append (h h' : List Happening) : sends (h ++ h') = sends h ++ sends h' :=
  List.filterMap_append

/-- and its marks. -/
theorem marks_append (h h' : List Happening) : marks (h ++ h') = marks h ++ marks h' :=
  List.filterMap_append

/-- A mark has a place in the record. -/
theorem exists_split_of_mem_marks {h : List Happening} {eventId : Uuid}
    (member : eventId ∈ marks h) : ∃ before after, h = before ++ .marked eventId :: after := by
  obtain ⟨happening, inRecord, same⟩ := List.mem_filterMap.mp member
  cases happening with
  | marked eventId' =>
      cases same
      exact List.append_of_mem inRecord
  | entered => cases same
  | checked => cases same
  | sent => cases same

/-- Every mark comes after a check of the same event id. -/
def CheckedBeforeMark (h : List Happening) : Prop :=
  ∀ before after eventId, h = before ++ .marked eventId :: after →
    ∃ event, .checked event ∈ before ∧ event.eventId = eventId

/-- What keeps an event from being sent twice. -/
structure Deduplicated (s : NotificationsState) : Prop where
  /-- **No event has been sent twice.** -/
  sends_nodup : (sends s.history).Nodup
  /-- No id has been marked twice. -/
  marks_nodup : (marks s.history).Nodup
  /-- The store has the last marks, as many as it holds. -/
  store_eq : s.store.seen = mostRecent ProcessedEventsStore.maxEntries (marks s.history)
  /-- A mark comes after the check of its event. -/
  ordered : CheckedBeforeMark s.history
  /-- A send that has succeeded has been marked, or is about to be. -/
  accounted : ∀ {eventId}, eventId ∈ sends s.history → eventId ∈ marks s.history ∨
    ∃ d event, s.critical d = some (.sent, event) ∧ event.eventId = eventId
  /-- A critical delivery has made its check. -/
  checked : ∀ {d phase event}, s.critical d = some (phase, event) → .checked event ∈ s.history
  /-- Its id has not been marked before. -/
  unmarked : ∀ {d phase event}, s.critical d = some (phase, event) →
    event.eventId ∉ marks s.history
  /-- Before its send, its event has not been sent. -/
  unsent : ∀ {d event}, s.critical d = some (.sending, event) → event.eventId ∉ sends s.history
  /-- Critical deliveries are of different events. -/
  alone : ∀ {d d' phase phase' event event'}, s.critical d = some (phase, event) →
    s.critical d' = some (phase', event') → event.eventId = event'.eventId → d = d'

/-- Part of a record has fewer marks. -/
theorem FewMarkedBetween.before {h rest : List Happening} (few : FewMarkedBetween (h ++ rest)) :
    FewMarkedBetween h := by
  intro before between after event event' split same
  exact few before between (after ++ rest) event event' (by rw [split]; simp) same

/-- A record with few marks has few between any two deliveries. -/
theorem FewMarkedBetween.of_length {h : List Happening}
    (few : (marks h).length < ProcessedEventsStore.maxEntries) : FewMarkedBetween h := by
  intro before between after event event' split _
  have card_le := (Finset.card_le_card (Finset.erase_subset event.eventId
    (marks between).toFinset)).trans (List.toFinset_card_le _)
  have length_le : (marks between).length ≤ (marks h).length := by
    have sublist : between.Sublist h := by
      rw [split]
      exact ((List.sublist_append_left _ _).cons _).trans (List.sublist_append_right _ _)
    exact (sublist.filterMap _).length_le
  omega

/-- The record stays in order if what is marked has been checked. -/
theorem CheckedBeforeMark.snoc {h : List Happening} {happening : Happening}
    (ordered : CheckedBeforeMark h)
    (last : ∀ eventId, happening = .marked eventId →
      ∃ event, .checked event ∈ h ∧ event.eventId = eventId) :
    CheckedBeforeMark (h ++ [happening]) := by
  intro before after eventId split
  rcases List.eq_nil_or_concat after with rfl | ⟨init, final, rfl⟩
  · obtain ⟨rfl, same⟩ := List.append_inj' split rfl
    exact last eventId (List.cons.inj same).1
  · have split' : h ++ [happening] = (before ++ .marked eventId :: init) ++ [final] := by
      rw [split]
      simp
    exact ordered before init eventId (List.append_inj' split' rfl).1

namespace Deduplicated

/-- A fresh process has sent nothing. -/
theorem of_fresh (fresh : FreshProcess s) : Deduplicated s := by
  have idle : ∀ d, s.critical d = none := by
    intro d
    unfold NotificationsState.critical
    rw [fresh.deliveries]
    rfl
  constructor
  case ordered =>
    rw [fresh.history]
    intro before after eventId split
    simp at split
  all_goals simp [fresh.history, fresh.store, sends, marks, ProcessedEventsStore.empty, mostRecent,
    idle]

/-- **The store answers for the past.**  If few others are marked between two
deliveries of an event, an event that has been marked is recognised. -/
theorem has_of_marked (deduplicated : Deduplicated s) {event : WorkOrderEvent}
    (few : FewMarkedBetween (s.history ++ [.checked event]))
    (member : event.eventId ∈ marks s.history) : s.store.has event.eventId = true := by
  -- the record: the check of the event that was marked, its mark, and then this check
  obtain ⟨before, after, split⟩ := exists_split_of_mem_marks member
  obtain ⟨first, checked, same⟩ := deduplicated.ordered before after event.eventId split
  obtain ⟨front, middle, rfl⟩ := List.append_of_mem checked
  have marks_eq : marks s.history =
      marks (front ++ .checked first :: middle) ++ event.eventId :: marks after := by
    rw [split, marks_append]
    rfl
  have bound := few front (middle ++ .marked event.eventId :: after) [] first event
    (by rw [split]; simp) same
  -- what was marked since is among what was marked between the two checks
  have others : marks after ⊆ marks (middle ++ .marked event.eventId :: after) := by
    rw [marks_append]
    exact fun eventId later => List.mem_append_right _ (List.mem_cons_of_mem _ later)
  have nodup := deduplicated.marks_nodup
  rw [marks_eq, List.nodup_append] at nodup
  obtain ⟨notLater, nodupLater⟩ := List.nodup_cons.mp nodup.2.1
  have length_le : (marks after).length ≤
      ((marks (middle ++ .marked event.eventId :: after)).toFinset.erase first.eventId).card := by
    rw [← List.toFinset_card_of_nodup nodupLater]
    refine Finset.card_le_card fun eventId later => ?_
    rw [List.mem_toFinset] at later
    rw [Finset.mem_erase, List.mem_toFinset]
    refine ⟨?_, others later⟩
    rintro rfl
    exact notLater (same ▸ later)
  by_contra forgotten
  rw [ProcessedEventsStore.has_iff, deduplicated.store_eq, marks_eq] at forgotten
  exact absurd (length_le_of_notMem_mostRecent forgotten) (by omega)

/-- Nobody is critical who was not. -/
theorem of_critical (deduplicated : Deduplicated s) (store : s'.store = s.store)
    (sends_eq : sends s'.history = sends s.history) (marks_eq : marks s'.history = marks s.history)
    (ordered : CheckedBeforeMark s'.history) (grows : ∀ h ∈ s.history, h ∈ s'.history)
    (fewer : ∀ {d phase event}, s'.critical d = some (phase, event) →
      s.critical d = some (phase, event))
    (sent : ∀ {d event}, s.critical d = some (.sent, event) → s'.critical d = some (.sent, event)) :
    Deduplicated s' where
  sends_nodup := sends_eq ▸ deduplicated.sends_nodup
  marks_nodup := marks_eq ▸ deduplicated.marks_nodup
  store_eq := by rw [store, marks_eq, deduplicated.store_eq]
  ordered := ordered
  accounted := by
    intro eventId member
    rw [sends_eq] at member
    rw [marks_eq]
    refine (deduplicated.accounted member).imp_right ?_
    rintro ⟨d, event, held, same⟩
    exact ⟨d, event, sent held, same⟩
  checked := fun held => grows _ (deduplicated.checked (fewer held))
  unmarked := fun held => marks_eq ▸ deduplicated.unmarked (fewer held)
  unsent := fun held => sends_eq ▸ deduplicated.unsent (fewer held)
  alone := fun held held' => deduplicated.alone (fewer held) (fewer held')

/-- **An event that is new to the store.** Nobody else is sending it, and it has not been
sent. -/
theorem started (deduplicated : Deduplicated s) {d : DeliveryId} {event : WorkOrderEvent}
    (new : s.store.has event.eventId = false) (free : s.critical d = none)
    (critical : s'.critical = Function.update s.critical d (some (.sending, event)))
    (store : s'.store = s.store) (history : s'.history = s.history ++ [.checked event])
    (few : FewMarkedBetween s'.history)
    (idle : ∀ {d phase event'}, s.critical d = some (phase, event') →
      event'.eventId ≠ event.eventId) : Deduplicated s' := by
  have sends_eq : sends s'.history = sends s.history := by
    rw [history, sends_append]
    simp [sends]
  have marks_eq : marks s'.history = marks s.history := by
    rw [history, marks_append]
    simp [marks]
  -- so few marks ago the store would still know it
  have unmarked : event.eventId ∉ marks s.history := by
    intro member
    rw [deduplicated.has_of_marked (history ▸ few) member] at new
    cases new
  have unsent : event.eventId ∉ sends s.history := by
    intro member
    -- it was sent by a delivery that has been marked, or that is critical still
    rcases deduplicated.accounted member with marked | ⟨d', event', held, same⟩
    · exact unmarked marked
    · exact idle held same
  have cases_critical : ∀ {d' phase event'}, s'.critical d' = some (phase, event') →
      (d' = d ∧ phase = .sending ∧ event' = event) ∨
        (d' ≠ d ∧ s.critical d' = some (phase, event')) := by
    intro d' phase event' held
    rw [critical, update_some_eq_some] at held
    exact held.imp_left fun ⟨here, same⟩ => by cases same; exact ⟨here, rfl, rfl⟩
  constructor
  case sends_nodup => exact sends_eq ▸ deduplicated.sends_nodup
  case marks_nodup => exact marks_eq ▸ deduplicated.marks_nodup
  case store_eq => rw [store, marks_eq, deduplicated.store_eq]
  case ordered => exact history ▸ deduplicated.ordered.snoc fun _ => nofun
  case accounted =>
    intro eventId member
    rw [sends_eq] at member
    rw [marks_eq]
    rcases deduplicated.accounted member with marked | ⟨d', event', held, same⟩
    · exact Or.inl marked
    · refine Or.inr ⟨d', event', ?_, same⟩
      rw [critical, update_some_eq_some]
      refine Or.inr ⟨?_, held⟩
      rintro rfl
      cases free.symm.trans held
  case checked =>
    intro d' phase event' held
    rw [history]
    rcases cases_critical held with ⟨-, -, rfl⟩ | ⟨-, before⟩
    · exact List.mem_append_right _ List.mem_cons_self
    · exact List.mem_append_left _ (deduplicated.checked before)
  case unmarked =>
    intro d' phase event' held
    rw [marks_eq]
    rcases cases_critical held with ⟨-, -, rfl⟩ | ⟨-, before⟩
    · exact unmarked
    · exact deduplicated.unmarked before
  case unsent =>
    intro d' event' held
    rw [sends_eq]
    rcases cases_critical held with ⟨-, -, rfl⟩ | ⟨-, before⟩
    · exact unsent
    · exact deduplicated.unsent before
  case alone =>
    intro d₁ d₂ phase₁ phase₂ event₁ event₂ held₁ held₂ same
    rcases cases_critical held₁ with ⟨rfl, -, rfl⟩ | ⟨-, before₁⟩ <;>
      rcases cases_critical held₂ with ⟨rfl, -, rfl⟩ | ⟨-, before₂⟩
    · rfl
    · exact absurd same.symm (idle before₂)
    · exact absurd same (idle before₁)
    · exact deduplicated.alone before₁ before₂ same

/-- Its send succeeds: it is critical still, and has now been sent once. -/
theorem sent (deduplicated : Deduplicated s) {d : DeliveryId} {event : WorkOrderEvent}
    {notification : Notification} (held : s.critical d = some (.sending, event))
    (critical : s'.critical = Function.update s.critical d (some (.sent, event)))
    (store : s'.store = s.store) (history : s'.history = s.history ++ [.sent event notification]) :
    Deduplicated s' := by
  have sends_eq : sends s'.history = sends s.history ++ [event.eventId] := by
    rw [history, sends_append]
    rfl
  have marks_eq : marks s'.history = marks s.history := by
    rw [history, marks_append]
    simp [marks]
  have cases_critical : ∀ {d' phase event'}, s'.critical d' = some (phase, event') →
      ∃ phase', s.critical d' = some (phase', event') ∧
        (phase = .sending → d' ≠ d ∧ phase' = phase) := by
    intro d' phase event' held'
    rw [critical, update_some_eq_some] at held'
    rcases held' with ⟨rfl, same⟩ | ⟨other, before⟩
    · cases same
      exact ⟨.sending, held, nofun⟩
    · exact ⟨phase, before, fun _ => ⟨other, rfl⟩⟩
  constructor
  case sends_nodup =>
    rw [sends_eq, ← List.concat_eq_append]
    exact List.Nodup.concat (deduplicated.unsent held) deduplicated.sends_nodup
  case marks_nodup => exact marks_eq ▸ deduplicated.marks_nodup
  case store_eq => rw [store, marks_eq, deduplicated.store_eq]
  case ordered => exact history ▸ deduplicated.ordered.snoc fun _ => nofun
  case accounted =>
    intro eventId member
    rw [marks_eq, critical]
    rw [sends_eq] at member
    rcases List.mem_append.mp member with before | last
    · refine (deduplicated.accounted before).imp_right ?_
      rintro ⟨d', event', held', same⟩
      refine ⟨d', event', update_some_eq_some.mpr (Or.inr ⟨?_, held'⟩), same⟩
      rintro rfl
      cases held.symm.trans held'
    · exact Or.inr ⟨d, event, Function.update_self _ _ _, (List.mem_singleton.mp last).symm⟩
  case checked =>
    intro d' phase event' held'
    obtain ⟨phase', before, -⟩ := cases_critical held'
    rw [history]
    exact List.mem_append_left _ (deduplicated.checked before)
  case unmarked =>
    intro d' phase event' held'
    obtain ⟨phase', before, -⟩ := cases_critical held'
    rw [marks_eq]
    exact deduplicated.unmarked before
  case unsent =>
    intro d' event' held'
    obtain ⟨phase', before, stays⟩ := cases_critical held'
    obtain ⟨other, rfl⟩ := stays rfl
    rw [sends_eq, List.mem_append, List.mem_singleton]
    rintro (old | same)
    · exact deduplicated.unsent before old
    · -- two critical deliveries of one event are the same one
      exact other (deduplicated.alone before held same)
  case alone =>
    intro d₁ d₂ phase₁ phase₂ event₁ event₂ held₁ held₂ same
    obtain ⟨_, before₁, -⟩ := cases_critical held₁
    obtain ⟨_, before₂, -⟩ := cases_critical held₂
    exact deduplicated.alone before₁ before₂ same

/-- It is marked: the store has it, and it is critical no longer. -/
theorem marked (deduplicated : Deduplicated s) {d : DeliveryId} {event : WorkOrderEvent}
    (held : s.critical d = some (.sent, event))
    (critical : s'.critical = Function.update s.critical d none)
    (store : s'.store = s.store.mark event.eventId)
    (history : s'.history = s.history ++ [.marked event.eventId]) : Deduplicated s' := by
  have sends_eq : sends s'.history = sends s.history := by
    rw [history, sends_append]
    simp [sends]
  have marks_eq : marks s'.history = marks s.history ++ [event.eventId] := by
    rw [history, marks_append]
    rfl
  have before : ∀ {d' phase event'}, s'.critical d' = some (phase, event') →
      d' ≠ d ∧ s.critical d' = some (phase, event') := by
    intro d' phase event' held'
    rw [critical] at held'
    exact update_none_eq_some.mp held'
  constructor
  case sends_nodup => exact sends_eq ▸ deduplicated.sends_nodup
  case marks_nodup =>
    rw [marks_eq, ← List.concat_eq_append]
    exact List.Nodup.concat (deduplicated.unmarked held) deduplicated.marks_nodup
  case store_eq =>
    rw [store, marks_eq, ProcessedEventsStore.seen_mark, deduplicated.store_eq,
      remember_mostRecent ProcessedEventsStore.maxEntries_pos (deduplicated.unmarked held)]
  case ordered =>
    refine history ▸ deduplicated.ordered.snoc fun eventId same => ?_
    cases same
    exact ⟨event, deduplicated.checked held, rfl⟩
  case accounted =>
    intro eventId member
    rw [sends_eq] at member
    rw [marks_eq, List.mem_append, critical]
    rcases deduplicated.accounted member with old | ⟨d', event', held', same⟩
    · exact Or.inl (Or.inl old)
    · -- the send that was about to be marked is marked now
      by_cases here : d' = d
      · subst here
        cases held.symm.trans held'
        exact Or.inl (Or.inr (List.mem_singleton.mpr same.symm))
      · exact Or.inr ⟨d', event', update_none_eq_some.mpr ⟨here, held'⟩, same⟩
  case checked =>
    intro d' phase event' held'
    rw [history]
    exact List.mem_append_left _ (deduplicated.checked (before held').2)
  case unmarked =>
    intro d' phase event' held'
    obtain ⟨other, held'⟩ := before held'
    rw [marks_eq, List.mem_append, List.mem_singleton]
    rintro (old | same)
    · exact deduplicated.unmarked held' old
    · exact other (deduplicated.alone held' held same)
  case unsent => exact fun held' => sends_eq ▸ deduplicated.unsent (before held').2
  case alone => exact fun held₁ held₂ => deduplicated.alone (before held₁).2 (before held₂).2

/-- **One action** that is not a check in the wrong moment. -/
theorem step (deduplicated : Deduplicated s) (turn : Turn s s' a)
    (few : FewMarkedBetween s'.history) (alone : CheckedAlone s a s') : Deduplicated s' := by
  cases turn with
  | unrelated critical store history =>
      rcases history with history | ⟨event, history⟩
      · exact deduplicated.of_critical store (by rw [history]) (by rw [history])
          (history ▸ deduplicated.ordered) (fun h => by rw [history]; exact id)
          (fun held => by rwa [critical] at held) (fun held => by rwa [critical])
      · exact deduplicated.of_critical store (by rw [history, sends_append]; simp [sends])
          (by rw [history, marks_append]; simp [marks])
          (history ▸ deduplicated.ordered.snoc fun _ => nofun)
          (fun h => by rw [history]; exact List.mem_append_left _)
          (fun held => by rwa [critical] at held) (fun held => by rwa [critical])
  | skipped critical store history =>
      exact deduplicated.of_critical store (by rw [history, sends_append]; simp [sends])
        (by rw [history, marks_append]; simp [marks])
        (history ▸ deduplicated.ordered.snoc fun _ => nofun)
        (fun h => by rw [history]; exact List.mem_append_left _)
        (fun held => by rwa [critical] at held) (fun held => by rwa [critical])
  | failed held critical store history =>
      refine deduplicated.of_critical store (by rw [history]) (by rw [history])
        (history ▸ deduplicated.ordered) (fun h => by rw [history]; exact id) ?_ ?_
      · intro d' phase event' held'
        rw [critical, update_none_eq_some] at held'
        exact held'.2
      · intro d' event' held'
        rw [critical, update_none_eq_some]
        refine ⟨?_, held'⟩
        rintro rfl
        cases held.symm.trans held'
  | @started d queue message new free critical store history =>
      refine deduplicated.started new free critical store history few ?_
      intro d' phase event held same
      obtain ⟨delivery, here, isCritical, -, rfl⟩ := critical_eq_some.mp held
      exact alone d' delivery here same isCritical
  | sent held critical store history => exact deduplicated.sent held critical store history
  | marked held critical store history => exact deduplicated.marked held critical store history

end Deduplicated

/-! ## Every run -/

/-- The record of a run only grows. -/
theorem history_of_run {actions : List NotificationsAction}
    (ran : notifications.run s actions = some s') : ∃ rest, s'.history = s.history ++ rest := by
  refine notifications.invariant_of_run (I := fun t => ∃ rest, t.history = s.history ++ rest)
    ?_ ⟨[], (List.append_nil _).symm⟩ ran
  rintro t t' a ⟨rest, grown⟩ moved
  obtain ⟨rest', grown'⟩ := history_of_effect (deliveryEffect_of_step moved)
  exact ⟨rest ++ rest', by rw [grown', grown, List.append_assoc]⟩

/-- **Over a whole run.** -/
theorem Deduplicated.run {actions : List NotificationsAction} :
    ∀ {s t : NotificationsState}, Deduplicated s → (∀ a ∈ actions, a ≠ .crash) →
      notifications.Along CheckedAlone s actions → notifications.run s actions = some t →
        FewMarkedBetween t.history → Deduplicated t := by
  induction actions with
  | nil =>
      intro s t deduplicated _ _ ran _
      cases ran
      exact deduplicated
  | cons a rest ih =>
      intro s t deduplicated running along ran few
      obtain ⟨s', moved, ranRest⟩ := (notifications.run_cons_eq_some).mp ran
      obtain ⟨alone, alongRest⟩ := along s' moved
      obtain ⟨later, grown⟩ := history_of_run ranRest
      have turn := turn_of_effect (deliveryEffect_of_step moved) (running a List.mem_cons_self)
      exact ih (deduplicated.step turn (grown ▸ few).before alone)
        (fun b member => running b (List.mem_cons_of_mem a member)) alongRest ranRest few

/-- **At most one notification per event**, in one running process, if no delivery
makes its duplicate check while another of the same event is between its check
and its mark. -/
theorem sentOnce_of_checkedAlone {s t : NotificationsState} {actions : List NotificationsAction}
    (fresh : FreshProcess s) (running : ∀ a ∈ actions, a ≠ .crash)
    (ran : notifications.run s actions = some t) (few : FewMarkedBetween t.history)
    (alone : notifications.Along CheckedAlone s actions) : SentOnce t.history :=
  ((Deduplicated.of_fresh fresh).run running alone ran few).sends_nodup

/-- The relay publishes an event twice, and the second copy is delivered after the
first has been sent. -/
def inTurn : List NotificationsAction :=
  [ .arrive tapCreated, .arrive tapCreated, .deliver 0 .created tapMessage, .sendOk 0, .mark 0,
    .deliver 1 .created tapMessage ]

/-- The first process is one. -/
theorem freshProcess_initial : FreshProcess .initial := ⟨rfl, fun _ => rfl, rfl⟩

/-- The two deliveries below do not overlap. -/
theorem checkedAlone_inTurn (idle : ∀ d, s.deliveries d = none) :
    notifications.Along CheckedAlone s inTurn := by
  intro s₁ moved₁
  refine ⟨trivial, ?_⟩
  intro s₂ moved₂
  refine ⟨trivial, ?_⟩
  have idle₂ : ∀ d, s₂.deliveries d = none := by
    intro d
    cases deliveryEffect_of_step moved₁ <;> cases deliveryEffect_of_step moved₂ <;> exact idle d
  intro s₃ moved₃
  refine ⟨?_, ?_⟩
  · intro d delivery held
    rw [idle₂] at held
    cases held
  intro s₄ moved₄
  refine ⟨trivial, ?_⟩
  intro s₅ moved₅
  refine ⟨trivial, ?_⟩
  intro s₆ moved₆
  refine ⟨?_, trivial⟩
  -- the only delivery that is there when the second copy is checked has been marked
  intro d delivery held _
  cases deliveryEffect_of_step moved₃
  cases deliveryEffect_of_step moved₄
  cases deliveryEffect_of_step moved₅
  rcases update_some_eq_some.mp held with ⟨rfl, rfl⟩ | ⟨later, held⟩
  · rintro (sending | sent)
    · cases sending
    · cases sent
  · obtain ⟨-, held⟩ := (update_some_eq_some.mp held).resolve_left fun here => later here.1
    obtain ⟨-, held⟩ := (update_some_eq_some.mp held).resolve_left fun here => later here.1
    cases (idle₂ d).symm.trans held

/-- The second delivery is skipped. -/
theorem sentOnce_inTurn :
    SentOnce ((notifications.run .initial inTurn).get (by decide)).history :=
  sentOnce_of_checkedAlone freshProcess_initial (by decide) (Option.some_get _).symm
    (.of_length (by decide)) (checkedAlone_inTurn fun _ => rfl)

/-- The same two copies, both delivered before the first has been sent. -/
def overlapping : List NotificationsAction :=
  [ .arrive tapCreated, .arrive tapCreated, .deliver 0 .created tapMessage,
    .deliver 1 .created tapMessage, .sendOk 0, .mark 0, .sendOk 1, .mark 1 ]

/-- **Two deliveries at once** send twice. -/
theorem not_sentOnce_overlapping :
    FreshProcess .initial ∧ (∀ a ∈ overlapping, a ≠ .crash) ∧
      ∃ t, notifications.run .initial overlapping = some t ∧ FewMarkedBetween t.history ∧
        ¬ SentOnce t.history :=
  ⟨freshProcess_initial, by decide, (notifications.run .initial overlapping).get (by decide),
    (Option.some_get _).symm, .of_length (by decide), by unfold SentOnce; decide⟩

end PropFlow
