import PropFlow.Library.Machine
import Mathlib.Logic.Function.Basic
import Mathlib.Order.Basic

/-!
# Consumer groups

Partitioned logs, and a group that reads them at least once.  The members share a table, which
they write by handling messages, and for each partition an offset that has been committed.
A member starts where the last commit was, handles the message it has got to, and moves on
once that has succeeded.  Members die, share partitions, lose them and start over, so any
message that has been handled may be handled again.

The messages, the table and the handler are parameters; the handler may decline a message,
and may depend on an input of its own, such as the time.

## What a step comes to

All of this comes to little more than a distinction.  What a step does to the table is to
handle a message at an offset that is in use (`InUse`), and what it does to the offsets is to
move them to others in use, or past that message (`step_cases`).

## The rules

* `exists_readTo` — invariants of a group are about how far its partitions have been
  read: they have to be extended by the next message, and kept by the old ones;
* `reachable_of_prefix` — a group that has read a log has read any longer one as well;
* `exists_read_all` — a member can by itself read every partition up to where messages can
  be handled.

A message that cannot be handled is one beyond which nobody gets.
-/

namespace Library

universe u v w

/-- The table, the committed offsets, and where each member is in the partitions that it has
been assigned. -/
structure GroupState (τ : Type u) where
  /-- What the handlers write to. -/
  table : τ
  /-- The offset from which a partition would be read again. -/
  committed : ℕ → ℕ
  /-- The offset of the next message, for a member that has the partition. -/
  position : ℕ → ℕ → Option ℕ

/-- What can happen to a group. -/
inductive GroupAction (ι : Type w) where
  /-- A member starts at the committed offset of a partition. -/
  | assign (c p : ℕ)
  /-- The next message is handled, and the member moves on. -/
  | consume (c p : ℕ) (input : ι)
  /-- The next message is handled, and the member does not get to move on. -/
  | handleOnly (c p : ℕ) (input : ι)
  /-- A member loses a partition. -/
  | abandon (c p : ℕ)
  /-- A member commits where it is. -/
  | commitOffset (c p : ℕ)
  /-- A member dies. -/
  | crash (c : ℕ)
  /-- The committed offset of a partition is set back to 0. -/
  | rewind (p : ℕ)

namespace GroupState

variable {τ : Type u} {μ : Type v} {ι : Type w}

/-- Nothing has been read. -/
def start (table : τ) : GroupState τ where
  table := table
  committed := fun _ => 0
  position := fun _ _ => none

/-- Move a member in a partition. -/
def seek (s : GroupState τ) (c p : ℕ) (offset : Option ℕ) : GroupState τ :=
  { s with position := Function.update s.position c (Function.update (s.position c) p offset) }

variable (messages : ℕ → List μ) (handle : ι → τ → μ → Option τ)

/-- The offset of a member, and what handling the message there makes of the table. -/
def handled (s : GroupState τ) (c p : ℕ) (input : ι) : Option (ℕ × τ) :=
  (s.position c p).bind fun offset =>
    ((messages p)[offset]?).bind fun message =>
      (handle input s.table message).map fun table => (offset, table)

/-- One step of a member. -/
def step (s : GroupState τ) : GroupAction ι → Option (GroupState τ)
  | .assign c p => some (s.seek c p (some (s.committed p)))
  | .consume c p input =>
      (s.handled messages handle c p input).map fun (offset, table) =>
        { s with table }.seek c p (some (offset + 1))
  | .handleOnly c p input =>
      (s.handled messages handle c p input).map fun (_, table) => { s with table }
  | .abandon c p => some (s.seek c p none)
  | .commitOffset c p =>
      (s.position c p).map fun offset =>
        { s with committed := Function.update s.committed p offset }
  | .crash c => some { s with position := Function.update s.position c fun _ => none }
  | .rewind p => some { s with committed := Function.update s.committed p 0 }

/-- The offset is one that a member may get to without handling a message of the partition. -/
def InUse (s : GroupState τ) (p n : ℕ) : Prop :=
  n = 0 ∨ s.committed p = n ∨ ∃ c, s.position c p = some n

/-- No offset is beyond what has been read. -/
def ReadTo (high : ℕ → ℕ) (s : GroupState τ) : Prop := ∀ p n, s.InUse p n → n ≤ high p

end GroupState

/-- The group that reads these logs. -/
def group {τ : Type u} {μ : Type v} {ι : Type w} (messages : ℕ → List μ)
    (handle : ι → τ → μ → Option τ) : Machine (GroupState τ) (GroupAction ι) where
  step := GroupState.step messages handle

namespace GroupState

variable {τ : Type u} {μ : Type v} {ι : Type w} {messages : ℕ → List μ}
  {handle : ι → τ → μ → Option τ} {s s' : GroupState τ} {a : GroupAction ι}

/-- What a member handles is the message at its position. -/
theorem handled_eq_some {c p n : ℕ} {input : ι} {table : τ} :
    s.handled messages handle c p input = some (n, table) ↔
      s.position c p = some n ∧ ∃ message, (messages p)[n]? = some message ∧
        handle input s.table message = some table := by
  simp [handled, Option.bind_eq_some_iff]

/-! ## What a step can do -/

/-- A member that moves uses the offset it moves to. -/
theorem InUse.of_seek {c p q n : ℕ} {offset : Option ℕ} (inUse : (s.seek c p offset).InUse q n) :
    s.InUse q n ∨ (q = p ∧ offset = some n) := by
  rcases inUse with zero | committed | ⟨c', held⟩
  · exact Or.inl (Or.inl zero)
  · exact Or.inl (Or.inr (Or.inl committed))
  · change Function.update s.position c (Function.update (s.position c) p offset) c' q =
      some n at held
    by_cases member : c' = c
    · subst member
      rw [Function.update_self] at held
      by_cases partition : q = p
      · subst partition
        rw [Function.update_self] at held
        exact Or.inr ⟨rfl, held⟩
      · rw [Function.update_of_ne partition] at held
        exact Or.inl (Or.inr (Or.inr ⟨c', held⟩))
    · rw [Function.update_of_ne member] at held
      exact Or.inl (Or.inr (Or.inr ⟨c', held⟩))

/-- A commit uses an offset that was in use. -/
theorem InUse.of_commit {p q n offset : ℕ} (known : s.InUse p offset)
    (inUse : { s with committed := Function.update s.committed p offset }.InUse q n) :
    s.InUse q n := by
  rcases inUse with zero | committed | held
  · exact Or.inl zero
  · change Function.update s.committed p offset q = n at committed
    by_cases here : q = p
    · subst here
      rw [Function.update_self] at committed
      exact committed ▸ known
    · rw [Function.update_of_ne here] at committed
      exact Or.inr (Or.inl committed)
  · exact Or.inr (Or.inr held)

/-- **What a step can do**: it moves offsets to others in use, or it handles the message at one
of them, and then at most moves past it. -/
theorem step_cases (moved : (group messages handle).step s a = some s') :
    (s'.table = s.table ∧ ∀ q n, s'.InUse q n → s.InUse q n) ∨
      ∃ p n message input, s.InUse p n ∧ (messages p)[n]? = some message ∧
        handle input s.table message = some s'.table ∧
        ∀ q m, s'.InUse q m → s.InUse q m ∨ (q = p ∧ m = n + 1) := by
  cases a with
  | assign c p =>
      cases moved
      refine Or.inl ⟨rfl, fun q n inUse => ?_⟩
      rcases inUse.of_seek with old | ⟨rfl, isCommitted⟩
      · exact old
      · exact Or.inr (Or.inl (Option.some.inj isCommitted))
  | consume c p input =>
      obtain ⟨⟨offset, table⟩, handled, rfl⟩ := Option.map_eq_some_iff.mp moved
      obtain ⟨held, message, here, ok⟩ := handled_eq_some.mp handled
      refine Or.inr ⟨p, offset, message, input, Or.inr (Or.inr ⟨c, held⟩), here, ok, ?_⟩
      intro q m inUse
      rcases inUse.of_seek with old | ⟨isHere, next⟩
      · exact Or.inl old
      · exact Or.inr ⟨isHere, (Option.some.inj next).symm⟩
  | handleOnly c p input =>
      obtain ⟨⟨offset, table⟩, handled, rfl⟩ := Option.map_eq_some_iff.mp moved
      obtain ⟨held, message, here, ok⟩ := handled_eq_some.mp handled
      exact Or.inr ⟨p, offset, message, input, Or.inr (Or.inr ⟨c, held⟩), here, ok,
        fun q m inUse => Or.inl inUse⟩
  | abandon c p =>
      cases moved
      refine Or.inl ⟨rfl, fun q n inUse => ?_⟩
      exact inUse.of_seek.resolve_right fun ⟨_, absent⟩ => nomatch absent
  | commitOffset c p =>
      obtain ⟨offset, held, rfl⟩ := Option.map_eq_some_iff.mp moved
      exact Or.inl ⟨rfl, fun q n inUse => InUse.of_commit (Or.inr (Or.inr ⟨c, held⟩)) inUse⟩
  | crash c =>
      cases moved
      refine Or.inl ⟨rfl, fun q n inUse => ?_⟩
      rcases inUse with zero | committed | ⟨c', held⟩
      · exact Or.inl zero
      · exact Or.inr (Or.inl committed)
      · -- the other members are where they were
        change Function.update s.position c (fun _ => none) c' q = some n at held
        by_cases dead : c' = c
        · rw [dead, Function.update_self] at held
          cases held
        · rw [Function.update_of_ne dead] at held
          exact Or.inr (Or.inr ⟨c', held⟩)
  | rewind p =>
      cases moved
      exact Or.inl ⟨rfl, fun q n inUse => InUse.of_commit (Or.inl rfl) inUse⟩

/-! ## How far a group has read -/

/-- At first no partition has been read. -/
theorem readTo_start (table : τ) : (start table).ReadTo fun _ => 0 := by
  rintro p n (rfl | committed | ⟨c, held⟩)
  · exact le_rfl
  · exact committed.symm.le
  · cases held

variable {J : (ℕ → ℕ) → τ → Prop}

/-- **Reading at least once.**  An invariant of the table, and of how far each partition has been
read, that handling the next message of a partition extends and handling an old one
keeps is one of the group: in every state that it reaches, nobody is beyond what has been
read. -/
theorem exists_readTo
    (again : ∀ {high table table' p n message input}, J high table → n < high p →
      (messages p)[n]? = some message → handle input table message = some table' →
        J high table')
    (next : ∀ {high table table' p message input}, J high table →
      (messages p)[high p]? = some message → handle input table message = some table' →
        J (Function.update high p (high p + 1)) table')
    {table : τ} (holds : J (fun _ => 0) table)
    (reached : (group messages handle).Reachable (start table) s) :
    ∃ high, J high s.table ∧ s.ReadTo high := by
  refine Machine.Reachable.invariant (group messages handle)
    (I := fun s => ∃ high, J high s.table ∧ s.ReadTo high) ?_ ⟨_, holds, readTo_start table⟩
    reached
  rintro s s' a ⟨high, invariant, readTo⟩ moved
  rcases step_cases moved with ⟨table, offsets⟩ | ⟨p, n, message, input, inUse, here, ok, offsets⟩
  · exact ⟨high, table ▸ invariant, fun q m used => readTo q m (offsets q m used)⟩
  · rcases Nat.lt_or_eq_of_le (readTo p n inUse) with before | atEnd
    · -- the message has been handled before, and the partition has been read past it
      refine ⟨high, again invariant before here ok, fun q m used => ?_⟩
      rcases offsets q m used with old | ⟨rfl, rfl⟩
      · exact readTo q m old
      · exact before
    · subst atEnd
      refine ⟨_, next invariant here ok, fun q m used => ?_⟩
      rcases offsets q m used with old | ⟨rfl, rfl⟩
      · have grows : high ≤ Function.update high p (high p + 1) :=
          le_update_self_iff.mpr (Nat.le_succ _)
        exact (readTo q m old).trans (grows q)
      · rw [Function.update_self]

/-! ## Logs that grow -/

/-- **What a group has come to, it can come to with what has been appended since.** -/
theorem reachable_of_prefix {messages' : ℕ → List μ} (grown : ∀ p, messages p <+: messages' p)
    (reached : (group messages handle).Reachable s s') :
    (group messages' handle).Reachable s s' := by
  have still : ∀ {s : GroupState τ} {c p : ℕ} {input : ι} {next : ℕ × τ},
      s.handled messages handle c p input = some next →
        s.handled messages' handle c p input = some next := by
    rintro s c p input ⟨n, table⟩ handled
    obtain ⟨held, message, here, ok⟩ := handled_eq_some.mp handled
    obtain ⟨appended, split⟩ := grown p
    refine handled_eq_some.mpr ⟨held, message, ?_, ok⟩
    rwa [← split, List.getElem?_append_left (List.getElem?_eq_some_iff.mp here).1]
  refine Machine.Reachable.invariant (group messages handle)
    (I := (group messages' handle).Reachable s) ?_ (Machine.reachable_refl _ s) reached
  intro t t' a reached moved
  refine reached.step _ (a := a) ?_
  cases a with
  | consume c p input =>
      obtain ⟨next, handled, rfl⟩ := Option.map_eq_some_iff.mp moved
      exact Option.map_eq_some_iff.mpr ⟨next, still handled, rfl⟩
  | handleOnly c p input =>
      obtain ⟨next, handled, rfl⟩ := Option.map_eq_some_iff.mp moved
      exact Option.map_eq_some_iff.mpr ⟨next, still handled, rfl⟩
  | _ => exact moved

/-! ## Progress -/

/-- A member can read on, past messages that can be handled whatever the table is. -/
theorem exists_read (input : ι) {c p : ℕ} (left : ℕ) :
    ∀ {s : GroupState τ} {n : ℕ}, s.position c p = some n →
      (∀ m < n + left, ∃ message, (messages p)[m]? = some message ∧
        ∀ table, (handle input table message).isSome) →
      ∃ s', (group messages handle).Reachable s s' ∧ s'.position c p = some (n + left) ∧
        s'.committed = s.committed ∧ ∀ q, q ≠ p → s'.position c q = s.position c q := by
  induction left with
  | zero =>
      intro s n held _
      exact ⟨s, Machine.reachable_refl _ s, held, rfl, fun _ _ => rfl⟩
  | succ left ih =>
      intro s n held readable
      obtain ⟨message, here, succeeds⟩ := readable n (by omega)
      obtain ⟨table, ok⟩ := Option.isSome_iff_exists.mp (succeeds s.table)
      let moved := { s with table }.seek c p (some (n + 1))
      have first : (group messages handle).Reachable s moved := by
        refine ⟨[.consume c p input], ?_⟩
        rw [Machine.run_singleton]
        exact Option.map_eq_some_iff.mpr
          ⟨(n, table), handled_eq_some.mpr ⟨held, message, here, ok⟩, rfl⟩
      have isThere : moved.position c p = some (n + 1) := by simp [moved, seek]
      obtain ⟨s', reached, arrived, committed, others⟩ :=
        ih isThere fun m before => readable m (by omega)
      refine ⟨s', first.trans _ reached, ?_, committed, fun q other => ?_⟩
      · rw [arrived, Nat.add_right_comm, Nat.add_assoc]
      · rw [others q other]
        simp [moved, seek, Function.update_of_ne other]

/-- A member can read the first partitions, one after another, each from its beginning. -/
theorem exists_read_all (input : ι) (c : ℕ) (s : GroupState τ) (target : ℕ → ℕ)
    (readable : ∀ p, ∀ n < target p, ∃ message, (messages p)[n]? = some message ∧
      ∀ table, (handle input table message).isSome) (partitions : ℕ) :
    ∃ s', (group messages handle).Reachable s s' ∧
      ∀ p < partitions, s'.position c p = some (target p) := by
  induction partitions with
  | zero => exact ⟨s, Machine.reachable_refl _ s, fun p absent => absurd absent (Nat.not_lt_zero p)⟩
  | succ p ih =>
      obtain ⟨s₁, reached₁, ends₁⟩ := ih
      -- the next partition is read from the beginning, whatever was committed of it
      let rewound := { s₁ with committed := Function.update s₁.committed p 0 }
      let assigned := rewound.seek c p (some (rewound.committed p))
      have restarted : (group messages handle).Reachable s₁ assigned :=
        ⟨[.rewind p, .assign c p], rfl⟩
      have atStart : assigned.position c p = some 0 := by simp [assigned, rewound, seek]
      obtain ⟨s₂, reached₂, end₂, -, others₂⟩ :=
        exists_read input (target p) atStart fun m before => readable p m (by omega)
      refine ⟨s₂, (reached₁.trans _ restarted).trans _ reached₂, fun q before => ?_⟩
      by_cases here : q = p
      · rw [here, end₂, Nat.zero_add]
      · rw [others₂ q here]
        simpa [assigned, rewound, seek, here] using ends₁ q (by omega)

end GroupState

end Library
