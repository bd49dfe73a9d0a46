import PropFlow.Notifications.Handlers

/-!
# The store of processed events

`ProcessedEventsStore` beside what it is for: a first-in-first-out set of at most
`MAX_ENTRIES` ids that ignores an id it has.  `mark` makes room before it looks for
the id, so a full store that is told an id again evicts its oldest id for nothing.

* `marked` — the store after a sequence of marks, for any capacity;
* `reference` — the set that it stands for;
* `FifoSet` — after every prefix of the sequence the two have the same ids, there are no
  more than fit, and a mark of an id that is there forgets no other.

The two differ in the order of their ids at most, until a repeated mark falls on a full
store.  `fifoSet_iff` says of which sequences of marks this cannot be seen, and the library
(`Library.InRounds`) says what that means for the marks: each repeated one on a full store
comes in its turn.
-/

namespace PropFlow

open Library

namespace ProcessedEventsStore

/-- `mark(eventId)`, of a store whose `MAX_ENTRIES` is `capacity`. -/
def markWithin (capacity : ℕ) (store : ProcessedEventsStore) (eventId : Uuid) :
    ProcessedEventsStore :=
  ⟨remember capacity store.seen eventId⟩

/-- At the capacity of the code. -/
theorem mark_eq_markWithin (store : ProcessedEventsStore) (eventId : Uuid) :
    store.mark eventId = store.markWithin maxEntries eventId := rfl

/-- The store after a sequence of marks. -/
def marked (capacity : ℕ) (eventIds : List Uuid) : ProcessedEventsStore :=
  eventIds.foldl (markWithin capacity) empty

/-- The ids in the set that the store stands for, the oldest first. -/
def reference (capacity : ℕ) (eventIds : List Uuid) : List Uuid :=
  eventIds.foldl (offer capacity) []

/-- **A bounded first-in-first-out set**, over every prefix of a sequence of marks. -/
structure FifoSet (capacity : ℕ) (eventIds : List Uuid) : Prop where
  /-- The store has the ids that the reference has. -/
  has_iff : ∀ front, front <+: eventIds → ∀ eventId,
    (marked capacity front).has eventId = true ↔ eventId ∈ reference capacity front
  /-- It has no more than its capacity. -/
  size_le : ∀ front, front <+: eventIds → (marked capacity front).seen.length ≤ capacity
  /-- A mark of an id that the store has forgets no other. -/
  keeps : ∀ front eventId, front ++ [eventId] <+: eventIds →
    (marked capacity front).has eventId = true → ∀ other,
      (marked capacity front).has other = true →
        (marked capacity (front ++ [eventId])).has other = true

section Marks

variable {capacity : ℕ} {eventIds front : List Uuid} {eventId : Uuid}

/-- One more mark on the store, -/
theorem seen_marked_concat (capacity : ℕ) (front : List Uuid) (eventId : Uuid) :
    (marked capacity (front ++ [eventId])).seen =
      remember capacity (marked capacity front).seen eventId := by
  unfold marked
  rw [List.foldl_append]
  rfl

/-- and on the set. -/
theorem reference_concat (capacity : ℕ) (front : List Uuid) (eventId : Uuid) :
    reference capacity (front ++ [eventId]) =
      offer capacity (reference capacity front) eventId := by
  unfold reference
  rw [List.foldl_append]
  rfl

/-- The store remembers what it is told. -/
theorem seen_marked (capacity : ℕ) (front : List Uuid) :
    (marked capacity front).seen = front.foldl (remember capacity) [] := by
  induction front using List.reverseRecOn with
  | nil => rfl
  | append_singleton front eventId ih =>
      rw [seen_marked_concat, ih, List.foldl_append]
      rfl

/-- The store has no id twice, -/
theorem nodup_seen_marked (capacity : ℕ) (front : List Uuid) :
    (marked capacity front).seen.Nodup := by
  induction front using List.reverseRecOn with
  | nil => exact List.nodup_nil
  | append_singleton front eventId ih =>
      rw [seen_marked_concat]
      exact nodup_remember ih eventId

/-- nor has the set. -/
theorem nodup_reference (capacity : ℕ) (front : List Uuid) : (reference capacity front).Nodup := by
  induction front using List.reverseRecOn with
  | nil => exact List.nodup_nil
  | append_singleton front eventId ih =>
      rw [reference_concat]
      exact nodup_offer ih eventId

/-- There are never more ids than fit. -/
theorem length_seen_marked_le (positive : 0 < capacity) (front : List Uuid) :
    (marked capacity front).seen.length ≤ capacity := by
  induction front using List.reverseRecOn with
  | nil => exact Nat.zero_le capacity
  | append_singleton front eventId ih =>
      rw [seen_marked_concat]
      exact length_remember_le positive ih eventId

/-- The store has the ids of the set. -/
theorem perm_reference_iff :
    (marked capacity front).seen.Perm (reference capacity front) ↔
      ∀ eventId, (marked capacity front).has eventId = true ↔
        eventId ∈ reference capacity front := by
  rw [List.perm_ext_iff_of_nodup (nodup_seen_marked capacity front)
    (nodup_reference capacity front)]
  simp only [has_iff]

/-- **All marks.** -/
theorem forall_perm_reference_iff (positive : 0 < capacity) :
    (∀ front, front <+: eventIds →
        (marked capacity front).seen.Perm (reference capacity front)) ↔
      InRounds capacity [] 0 eventIds := by
  simp only [seen_marked, reference]
  exact forall_perm_foldl_iff ⟨positive.trans_le, fun _ => rfl⟩ positive List.nodup_nil

/-- The set forgets nothing when it is told an id it has. -/
theorem reference_concat_of_mem (known : eventId ∈ reference capacity front) :
    reference capacity (front ++ [eventId]) = reference capacity front := by
  rw [reference_concat]
  exact if_pos known

/-- If the marks come in rounds, the store is the set, -/
theorem fifoSet_of_inRounds (positive : 0 < capacity)
    (inRounds : InRounds capacity [] 0 eventIds) : FifoSet capacity eventIds := by
  have same := (forall_perm_reference_iff positive).mpr inRounds
  constructor
  case has_iff => exact fun front isPrefix => perm_reference_iff.mp (same front isPrefix)
  case size_le => exact fun front _ => length_seen_marked_le positive front
  case keeps =>
    intro front eventId isPrefix known other held
    have before := same front ((List.prefix_append front [eventId]).trans isPrefix)
    have after := same _ isPrefix
    rw [ProcessedEventsStore.has_iff] at known held ⊢
    rw [after.mem_iff, reference_concat_of_mem (before.mem_iff.mp known), ← before.mem_iff]
    exact held

/-- and only then. -/
theorem FifoSet.inRounds (fifo : FifoSet capacity eventIds) (positive : 0 < capacity) :
    InRounds capacity [] 0 eventIds :=
  (forall_perm_reference_iff positive).mp fun front isPrefix =>
    perm_reference_iff.mpr (fifo.has_iff front isPrefix)

/-- Ids that are marked once each, as they are when no two deliveries of one overlap. -/
theorem fifoSet_of_nodup (positive : 0 < capacity) (nodup : eventIds.Nodup) :
    FifoSet capacity eventIds :=
  fifoSet_of_inRounds positive (inRounds_of_nodup nodup fun _ _ => List.not_mem_nil)

/-- A store with room for all of them has them. -/
theorem seen_marked_of_nodup (nodup : front.Nodup) (room : front.length ≤ capacity) :
    (marked capacity front).seen = front := by
  induction front using List.reverseRecOn with
  | nil => rfl
  | append_singleton front eventId ih =>
      rw [← List.concat_eq_append, List.nodup_concat] at nodup
      rw [List.length_append, List.length_singleton] at room
      have notFull : ¬ capacity ≤ front.length := Nat.not_le.mpr room
      rw [seen_marked_concat, ih nodup.2 (Nat.le_of_succ_le room),
        remember_eq_offer fun full => absurd full notFull]
      unfold offer
      rw [if_neg nodup.1, if_neg notFull]

end Marks

/-- **When the store is a bounded first-in-first-out set**: over the sequences of marks
that, once it is full, mark the ids it has in rounds, and over no others. -/
theorem fifoSet_iff (capacity : ℕ) (positive : 1 ≤ capacity) (eventIds : List Uuid) :
    FifoSet capacity eventIds ↔ InRounds capacity [] 0 eventIds :=
  ⟨fun fifo => fifo.inRounds positive, fifoSet_of_inRounds positive⟩

/-- Two ids are marked again before the third one evicts the first of them. -/
theorem fifoSet_threeIds :
    FifoSet 2 [⟨"first"⟩, ⟨"second"⟩, ⟨"first"⟩, ⟨"second"⟩, ⟨"third"⟩] :=
  (fifoSet_iff 2 (by decide) _).mpr (by decide)

/-- As many ids as the store has room for. -/
def distinctIds : List Uuid := (List.range maxEntries).map Uuid.numbered

/-- They are distinct, -/
theorem nodup_distinctIds : distinctIds.Nodup :=
  List.nodup_range.map Uuid.numbered_injective

/-- begin with the first, -/
theorem head?_distinctIds : distinctIds.head? = some (.numbered 0) := by
  unfold distinctIds
  rw [List.head?_map, List.head?_range, if_neg maxEntries_pos.ne']
  rfl

/-- and are numbered. -/
theorem mem_distinctIds {n : ℕ} (less : n < maxEntries) : Uuid.numbered n ∈ distinctIds :=
  List.mem_map_of_mem (List.mem_range.mpr less)

/-- **A known id costs another one.**  The store is full, and the last id is marked
again, as overlapping deliveries of one event do: the first id is forgotten. -/
theorem not_fifoSet_remarked : ¬ FifoSet maxEntries (distinctIds ++ [.numbered 9999]) := by
  intro fifo
  have length : distinctIds.length = maxEntries :=
    (List.length_map _).trans List.length_range
  have seen : (marked maxEntries distinctIds).seen = distinctIds :=
    seen_marked_of_nodup nodup_distinctIds length.le
  have known : ∀ n, n < maxEntries → (marked maxEntries distinctIds).has (.numbered n) = true := by
    intro n less
    rw [has_iff, seen]
    exact mem_distinctIds less
  have kept := fifo.keeps distinctIds (.numbered 9999) List.prefix_rfl (known 9999 (by decide))
    (.numbered 0) (known 0 maxEntries_pos)
  rw [has_iff, seen_marked_concat, seen, remember, if_pos length.ge, mem_insertNew] at kept
  rcases kept with later | last
  · obtain ⟨rest, isCons⟩ := List.head?_eq_some_iff.mp head?_distinctIds
    have nodup := nodup_distinctIds
    rw [isCons] at nodup later
    exact (List.nodup_cons.mp nodup).1 later
  · exact absurd (Uuid.numbered_injective last) (by decide)

end ProcessedEventsStore

end PropFlow
