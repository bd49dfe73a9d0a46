import PropFlow.Relay.Ordering

/-!
# One relay instance

`SKIP LOCKED` steps over rows that another transaction holds.  With a single instance
there is no other transaction: its `draining` flag keeps its drains apart, a crash or a
lost connection takes the locks with it, and what a drain locks is what it has claimed.

## The argument

* `Scanning` — a scan covers the unpublished rows of a work order from the first one on:
  every such row is claimed already, is still to come, or is behind all those to come,
  as a row that is staged after the snapshot is;
* `locking_of_step` — a scan changes with the steps of its own `SELECT` only;
* `ScanInvariant` — all drains belong to the instance, and each scan of one is of that
  kind.

From the invariant, a claim never leaves an earlier event of its order behind
(`ScanInvariant.claimsInOrder`), and `keepsOrder_of_oneInstance` follows, whatever
fails.

## What is assumed

* `RelayAction.TickedBy` — no other instance is started.  The one may have any number of
  drains, one after another, and any of them may fail, lose its connection or crash;
* `WritesInOrder` — the ids of an order are given out as its events commit, as they are by
  the service (`FaithfulLog.ordered`).

`keepsOrder_crashedBetween` is a run in which the instance dies after an event has reached
one broker and not the other.
-/

namespace PropFlow

open Library Library.CivilTime

/-- No other instance is started. -/
def RelayAction.TickedBy (i : InstanceId) : RelayAction → Prop
  | .tick i' _ => i' = i
  | _ => True

instance (i : InstanceId) (a : RelayAction) : Decidable (a.TickedBy i) :=
  match a with
  | .tick i' _ => decEq i' i
  | .write _ _ _ _ | .select _ | .lock _ | .accept _ | .resolve _ | .stamp _ _ | .commit _
  | .fail _ _ | .disconnect _ | .finish _ | .crash _ | .acceptLate _ _ => .isTrue trivial

/-! ## A scan -/

/-- A `SELECT` that has claimed `rows` and has still to look at `ids`: each row of the work
order is published or claimed, or still to be looked at, or was written since. -/
structure Scanning (id : Uuid) (table : List OutboxEvent) (ids : List ℕ)
    (rows : List OutboxEvent) : Prop where
  /-- The candidates are in the order of their ids. -/
  sorted : ids.Pairwise (· ≤ ·)
  /-- They are rows of the table; none is ever deleted. -/
  stored : ∀ k ∈ ids, ∃ row ∈ table, row.id = k
  /-- A row that the scan will not come by is done with, claimed, or later than all it
  will. -/
  covered : ∀ row ∈ table, row.About id →
    row.publishedAt.isSome = true ∨ row.id ∈ rows.map OutboxEvent.id ∨ row.id ∈ ids ∨
      ∀ other ∈ table, other.About id → other.id ∈ ids → other.id < row.id

namespace Scanning

variable {id : Uuid} {table : List OutboxEvent} {ids rest : List ℕ} {rows : List OutboxEvent}
  {k : ℕ}

/-- The candidates are all the unpublished rows. -/
theorem select (table : List OutboxEvent) : Scanning id table (candidates table) [] where
  sorted := List.pairwise_insertionSort _ _
  stored := by
    intro k member
    rw [candidates, List.mem_insertionSort, List.mem_map] at member
    obtain ⟨row, unpublished, rfl⟩ := member
    exact ⟨row, List.mem_of_mem_filter unpublished, rfl⟩
  covered := by
    intro row member _
    cases published : row.publishedAt with
    | some now => exact Or.inl rfl
    | none =>
        refine Or.inr (Or.inr (Or.inl ?_))
        rw [candidates, List.mem_insertionSort, List.mem_map]
        exact ⟨row, List.mem_filter.mpr ⟨member, decide_eq_true published⟩, rfl⟩

/-- The scan goes on, when the row it has looked at is published or claimed. -/
theorem next {rows' : List OutboxEvent} (scanning : Scanning id table (k :: rest) rows)
    (kept : ∀ row ∈ rows, row ∈ rows')
    (looked : ∀ row ∈ table, row.id = k →
      row.publishedAt.isSome = true ∨ row.id ∈ rows'.map OutboxEvent.id) :
    Scanning id table rest rows' where
  sorted := (List.pairwise_cons.mp scanning.sorted).2
  stored := fun k' member => scanning.stored k' (List.mem_cons_of_mem k member)
  covered := by
    intro row member about
    rcases scanning.covered row member about with published | claimed | waiting | later
    · exact Or.inl published
    · obtain ⟨row', isClaimed, same⟩ := List.mem_map.mp claimed
      exact Or.inr (Or.inl (same ▸ List.mem_map_of_mem (kept row' isClaimed)))
    · rcases List.mem_cons.mp waiting with here | waiting
      · exact (looked row member here).imp_right Or.inl
      · exact Or.inr (Or.inr (Or.inl waiting))
    · refine Or.inr (Or.inr (Or.inr fun other isRow aboutOther waiting => ?_))
      exact later other isRow aboutOther (List.mem_cons_of_mem k waiting)

/-- A row is written meanwhile. -/
theorem write {new : OutboxEvent} (scanning : Scanning id table ids rows)
    (fresh : ∀ row ∈ table, row.id ≠ new.id)
    (last : new.About id → ∀ row ∈ table, row.About id → row.id < new.id) :
    Scanning id (table ++ [new]) ids rows where
  sorted := scanning.sorted
  stored := by
    intro k member
    obtain ⟨row, isRow, same⟩ := scanning.stored k member
    exact ⟨row, List.mem_append_left _ isRow, same⟩
  covered := by
    have absent : new.id ∉ ids := by
      intro waiting
      obtain ⟨row, isRow, same⟩ := scanning.stored _ waiting
      exact fresh row isRow same
    -- what is in the table and among the candidates was there before
    have before : ∀ other ∈ table ++ [new], other.id ∈ ids → other ∈ table := by
      intro other member waiting
      rcases List.mem_append.mp member with member | isNew
      · exact member
      · rw [List.mem_singleton.mp isNew] at waiting
        exact absurd waiting absent
    intro row member about
    rcases List.mem_append.mp member with member | isNew
    · refine (scanning.covered row member about).imp_right (Or.imp_right (Or.imp_right ?_))
      intro later other isRow aboutOther waiting
      exact later other (before other isRow waiting) aboutOther waiting
    · obtain rfl := List.mem_singleton.mp isNew
      refine Or.inr (Or.inr (Or.inr fun other isRow aboutOther waiting => ?_))
      exact last about other (before other isRow waiting) aboutOther

/-- The earlier events of the row that is next are published or claimed. -/
theorem earlier (scanning : Scanning id table (k :: rest) rows) {row : OutboxEvent}
    (member : row ∈ table) (about : row.About id) (here : row.id = k) {before : OutboxEvent}
    (isRow : before ∈ table) (aboutBefore : before.About id) (less : before.id < row.id) :
    before.publishedAt.isSome = true ∨ before.id ∈ rows.map OutboxEvent.id := by
  rcases scanning.covered before isRow aboutBefore with published | claimed | waiting | later
  · exact Or.inl published
  · exact Or.inr claimed
  · have atLeast : row.id ≤ before.id := by
      rcases List.mem_cons.mp waiting with same | waiting
      · exact (here.trans same.symm).le
      · exact here ▸ (List.pairwise_cons.mp scanning.sorted).1 _ waiting
    exact absurd less (Nat.not_lt.mpr atLeast)
  · have after := later row member about (here ▸ List.mem_cons_self)
    exact absurd less (Nat.lt_asymm after)

end Scanning

/-! ## The scans of a run -/

section

variable {id : Uuid} {i : InstanceId} {s s' : RelayState} {a : RelayAction}

/-- A `SELECT` in progress was in progress before, unless this step is one of its own. -/
theorem locking_of_step (moved : relays.step s a = some s') (notSelect : ∀ e, a ≠ .select e)
    (notLock : ∀ e, a ≠ .lock e) {d : DrainId} {j : InstanceId} {connected : Bool} {ids : List ℕ}
    {rows : List OutboxEvent} (held' : s'.drains d = some ⟨j, connected, .locking ids rows⟩) :
    ∃ connected, s.drains d = some ⟨j, connected, .locking ids rows⟩ := by
  -- `s'` is `s`, but for a drain that is in another phase
  have of_set : ∀ {e : DrainId} {drain : Drain},
      (s.set e drain).drains d = some ⟨j, connected, .locking ids rows⟩ →
        (∀ ids rows, drain.phase ≠ .locking ids rows) →
          ∃ connected, s.drains d = some ⟨j, connected, .locking ids rows⟩ := by
    intro e drain held' other
    rcases set_drains_eq_some.mp held' with ⟨-, same⟩ | ⟨-, held⟩
    · exact absurd (congrArg Drain.phase same) (other ids rows)
    · exact ⟨connected, held⟩
  have loop_ne : ∀ stamped (batch : List OutboxEvent) ids rows,
      OutboxRelay.loop stamped batch ≠ .locking ids rows := by
    intro stamped batch ids rows
    cases batch <;> simp [OutboxRelay.loop]
  -- the remaining actions move a drain to a phase that is no scan, or leave the drains alone
  cases a with
  | select e => exact absurd rfl (notSelect e)
  | lock e => exact absurd rfl (notLock e)
  | write =>
      simp only [relays, RelayState.step] at moved
      split_ifs at moved
      cases moved
      exact ⟨connected, held'⟩
  | tick =>
      simp only [relays, RelayState.step] at moved
      split_ifs at moved
      · cases moved
        exact ⟨connected, held'⟩
      · split at moved <;> cases moved
        exact of_set held' (by simp)
  | accept =>
      simp only [relays, RelayState.step] at moved
      split at moved <;> cases moved
      exact of_set held' (by simp)
  | resolve =>
      simp only [relays, RelayState.step] at moved
      split at moved <;> cases moved
      · exact of_set held' (by simp)
      · exact of_set held' (by simp)
  | stamp =>
      simp only [relays, RelayState.step] at moved
      split at moved <;> cases moved
      exact of_set held' (loop_ne _ _)
  | commit =>
      simp only [relays, RelayState.step] at moved
      split at moved <;> cases moved
      exact of_set held' (by simp)
  | fail =>
      simp only [relays, RelayState.step] at moved
      split at moved
      · split_ifs at moved
        cases moved
        exact of_set held' (by simp)
      · cases moved
  | disconnect e =>
      simp only [relays, RelayState.step] at moved
      split at moved
      next held =>
        split_ifs at moved
        cases moved
        rcases set_drains_eq_some.mp held' with ⟨rfl, same⟩ | ⟨-, before⟩
        · cases same
          exact ⟨true, held⟩
        · exact ⟨connected, before⟩
      · cases moved
  | finish =>
      simp only [relays, RelayState.step] at moved
      split at moved <;> cases moved
      exact ⟨connected, (update_none_eq_some.mp held').2⟩
  | crash => exact ⟨connected, ((drains_of_crash moved).mp held').1⟩
  | acceptLate =>
      simp only [relays, RelayState.step] at moved
      split_ifs at moved
      cases moved
      exact ⟨connected, held'⟩

/-- One instance, whose scans step over nothing. -/
structure ScanInvariant (id : Uuid) (i : InstanceId) (s : RelayState) : Prop where
  /-- The rows, the drains and the brokers agree, as in every run. -/
  rows : RowInvariant s
  /-- A claimed row is locked by the drain that has it. -/
  locks : LockInvariant s
  /-- An instance has one drain at most. -/
  flags : FlagInvariant s
  /-- All drains are of the one instance. -/
  alone : ∀ d j, s.owner d = some j → j = i
  /-- None of its scans has stepped over a row. -/
  scans : ∀ d j connected ids rows, s.drains d = some ⟨j, connected, .locking ids rows⟩ →
    Scanning id s.table ids rows

/-- Only a writer and a commit change the table. -/
theorem table_of_step (moved : relays.step s a = some s')
    (notWrite : ∀ id type workOrder context, a ≠ .write id type workOrder context)
    (notCommit : ∀ d, a ≠ .commit d) : s'.table = s.table := by
  cases relayEffect_of_step moved with
  | staged => exact absurd rfl (notWrite _ _ _ _)
  | committed => exact absurd rfl (notCommit _)
  | crashed crash => cases crash; rfl
  | _ => rfl

/-- The scan of one drain does not move another. -/
theorem lockNext_drains_of_ne {d e : DrainId} (other : d ≠ e) {j : InstanceId} {ids : List ℕ}
    {rows : List OutboxEvent} : (s.lockNext e j rows ids).drains d = s.drains d := by
  have unchanged : ∀ drain, (s.set e drain).drains d = s.drains d :=
    fun drain => Function.update_of_ne other _ _
  cases ids with
  | nil => exact unchanged _
  | cons k rest =>
      rw [RelayState.lockNext]
      split_ifs
      · exact unchanged _
      · split
        · split_ifs
          · exact unchanged _
          · exact unchanged _
        · exact unchanged _

/-- A drain gets its owner from the tick that starts it. -/
theorem owner_of_effect (effect : RelayEffect s a s') {d : DrainId} {j : InstanceId}
    (owned : s'.owner d = some j) : s.owner d = some j ∨ ∃ e, a = .tick j e := by
  have of_held : ∀ {e : DrainId} {drain drain' : Drain}, (s.set e drain').owner d = some j →
      s.drains e = some drain → drain'.owner = drain.owner → s.owner d = some j :=
    fun owned held same => owner_set_of_held held same ▸ owned
  cases effect with
  | staged => exact Or.inl owned
  | skippedTick => exact Or.inl owned
  | @entered i' e =>
      have owned : (s.set e ⟨i', true, .selecting⟩).owner d = some j := owned
      rw [owner_set] at owned
      rcases update_some_eq_some.mp owned with ⟨-, rfl⟩ | ⟨-, before⟩
      · exact Or.inr ⟨e, rfl⟩
      · exact Or.inl before
  | advanced held => exact Or.inl (of_held owned held rfl)
  | locked _ held => exact Or.inl (of_held owned held rfl)
  | accepted held => exact Or.inl (of_held owned held rfl)
  | committed held => exact Or.inl (of_held owned held rfl)
  | failed held => exact Or.inl (of_held owned held rfl)
  | disconnected held => exact Or.inl (of_held owned held rfl)
  | finished =>
      obtain ⟨drain, held', owner⟩ := Option.map_eq_some_iff.mp owned
      exact Or.inl (Option.map_eq_some_iff.mpr ⟨drain, (update_none_eq_some.mp held').2, owner⟩)
  | crashed crash =>
      obtain ⟨drain, held', owner⟩ := Option.map_eq_some_iff.mp owned
      exact Or.inl (Option.map_eq_some_iff.mpr ⟨drain, ((drains_of_crash crash).mp held').1, owner⟩)
  | late => exact Or.inl owned

namespace ScanInvariant

/-- There is no scan at first. -/
theorem initial (id : Uuid) (i : InstanceId) : ScanInvariant id i .initial where
  rows := .initial
  locks := .initial
  flags := .initial
  alone := fun _ _ held => nomatch held
  scans := fun _ _ _ _ _ held => nomatch held

/-- There is one drain at a time. -/
theorem eq_of_held (invariant : ScanInvariant id i s) {d e : DrainId} {drain drain' : Drain}
    (held : s.drains d = some drain) (held' : s.drains e = some drain') : d = e := by
  have owner : s.owner d = some drain.owner := by rw [RelayState.owner, held]; rfl
  have owner' : s.owner e = some drain'.owner := by rw [RelayState.owner, held']; rfl
  have same : drain.owner = drain'.owner :=
    (invariant.alone d _ owner).trans (invariant.alone e _ owner').symm
  exact invariant.flags.single d e _ owner (same ▸ owner')

/-- What is locked has been claimed by the drain itself. -/
theorem mem_of_locked (invariant : ScanInvariant id i s) {d e : DrainId} {drain : Drain}
    (held : s.drains d = some drain) {k : ℕ} (locked : s.locks k = some e) :
    k ∈ drain.phase.rows.map OutboxEvent.id := by
  obtain ⟨drain', held', -, row, claimed, rfl⟩ := invariant.locks.owned k e locked
  obtain rfl := invariant.eq_of_held held held'
  obtain rfl := Option.some.inj (held.symm.trans held')
  exact List.mem_map_of_mem claimed

/-- If nobody else ticks, the drains stay those of the instance. -/
theorem alone_step (invariant : ScanInvariant id i s) (only : a.TickedBy i)
    (moved : relays.step s a = some s') : ∀ d j, s'.owner d = some j → j = i := by
  intro d j owned
  rcases owner_of_effect (relayEffect_of_step moved) owned with before | ⟨e, rfl⟩
  · exact invariant.alone d j before
  · exact only

/-- The candidate that is looked at is claimed, or has been claimed or published. -/
theorem scanning_lockNext (invariant : ScanInvariant id i s) {d : DrainId} {j : InstanceId}
    {ids : List ℕ} {rows : List OutboxEvent}
    (held : s.drains d = some ⟨j, true, .locking ids rows⟩) {j' : InstanceId} {connected : Bool}
    {ids' : List ℕ} {rows' : List OutboxEvent}
    (held' : (s.lockNext d j rows ids).drains d = some ⟨j', connected, .locking ids' rows'⟩) :
    Scanning id s.table ids' rows' := by
  have scanning := invariant.scans d j true ids rows held
  have loops : (s.set d ⟨j, true, OutboxRelay.loop [] rows⟩).drains d ≠
      some ⟨j', connected, .locking ids' rows'⟩ := by
    intro here
    rcases set_drains_eq_some.mp here with ⟨-, same⟩ | ⟨other, -⟩
    · cases rows <;> cases same
    · exact other rfl
  have goes : ∀ {phase : Phase} {s' : RelayState}, s'.drains = (s.set d ⟨j, true, phase⟩).drains →
      s'.drains d = some ⟨j', connected, .locking ids' rows'⟩ → phase = .locking ids' rows' := by
    intro phase s' drains here
    rw [drains] at here
    rcases set_drains_eq_some.mp here with ⟨-, same⟩ | ⟨other, -⟩
    · exact congrArg Drain.phase same
    · exact absurd rfl other
  cases ids with
  | nil => exact absurd held' loops
  | cons k rest =>
      rw [RelayState.lockNext] at held'
      split_ifs at held' with full
      · exact absurd held' loops
      · split at held'
        next row free found =>
          have here : row.id = k := by simpa using List.find?_some found
          have isRow := List.mem_of_find?_eq_some found
          have unique : ∀ row' ∈ s.table, row'.id = k → row' = row := fun row' member same =>
            invariant.rows.eq_of_id member isRow (same.trans here.symm)
          split_ifs at held' with unpublished
          · -- it is claimed
            cases goes rfl held'
            refine scanning.next (fun row member => List.mem_append_left _ member) ?_
            intro row' member same
            obtain rfl := unique row' member same
            exact Or.inr (by simp)
          · -- it has been published since the candidates were found
            cases goes rfl held'
            refine scanning.next (fun row member => member) fun row' member same => Or.inl ?_
            rw [unique row' member same]
            exact Option.isSome_iff_ne_none.mpr unpublished
        next passed =>
          cases goes rfl held'
          refine scanning.next (fun row member => member) fun row' member same => Or.inr ?_
          cases locked : s.locks k with
          -- the only drain that could hold the lock is this one, which has claimed the row
          | some e => exact same ▸ invariant.mem_of_locked held locked
          | none =>
              obtain ⟨row, found⟩ := Option.isSome_iff_exists.mp
                (List.find?_isSome (p := fun row : OutboxEvent => decide (row.id = k)).mpr
                  ⟨row', member, decide_eq_true same⟩)
              exact (passed row locked found).elim

/-- So the scans of an instance never step over an event. -/
theorem step (invariant : ScanInvariant id i s) (only : a.TickedBy i)
    (moved : relays.step s a = some s') (writes : WritesInOrder id s a s') :
    ScanInvariant id i s' where
  rows := invariant.rows.step moved
  locks := invariant.locks.step moved
  flags := invariant.flags.step moved
  alone := invariant.alone_step only moved
  scans := by
    intro d j connected ids rows held'
    cases a with
    | select e =>
        simp only [relays, RelayState.step] at moved
        split at moved <;> cases moved
        rcases set_drains_eq_some.mp held' with ⟨rfl, same⟩ | ⟨-, held⟩
        · cases same
          exact .select s.table
        · exact invariant.scans d j connected ids rows held
    | lock e =>
        have table := table_of_step moved (by simp) (by simp)
        simp only [relays, RelayState.step] at moved
        split at moved <;> cases moved
        next holder candidates claimed held =>
          rw [table]
          by_cases same : d = e
          · subst same
            exact invariant.scanning_lockNext held held'
          · rw [lockNext_drains_of_ne same] at held'
            exact invariant.scans d j connected ids rows held'
    | write newId type workOrder context =>
        simp only [relays, RelayState.step] at moved
        split_ifs at moved with taken
        cases moved
        refine (invariant.scans d j connected ids rows held').write (fun row member same => ?_) ?_
        · exact taken ⟨row, member, Or.inl same⟩
        · exact writes
    | commit e =>
        obtain ⟨before, held⟩ := locking_of_step moved (by simp) (by simp) held'
        simp only [relays, RelayState.step] at moved
        split at moved <;> cases moved
        next committing =>
          -- the drain that commits is the only one
          obtain rfl := invariant.eq_of_held held committing
          rw [held] at committing
          cases committing
    | _ =>
        obtain ⟨before, held⟩ := locking_of_step moved (by simp) (by simp) held'
        rw [table_of_step moved (by simp) (by simp)]
        exact invariant.scans d j before ids rows held

/-- What is claimed is the next event of its work order. -/
theorem claimsInOrder (invariant : ScanInvariant id i s) : ClaimsInOrder id s a s' := by
  intro claim isClaim about earlier member aboutEarlier less
  cases a with
  | lock d =>
      rw [RelayState.claim] at isClaim
      split at isClaim
      next j k rest rows held =>
        split_ifs at isClaim
        · cases isClaim
        · split at isClaim
          next row free found =>
            split_ifs at isClaim
            · cases isClaim
              have here : row.id = k := by simpa using List.find?_some found
              have scanning := invariant.scans d j true (k :: rest) rows held
              refine (scanning.earlier (List.mem_of_find?_eq_some found) about here member
                aboutEarlier less).symm.imp_right fun published => ?_
              exact invariant.rows.stamped earlier member published .kafka
            · cases isClaim
          · cases isClaim
      · cases isClaim
  | _ => cases isClaim

end ScanInvariant

end

/-- **With one relay instance, the events of a work order keep their order**: on Kafka and
in the audit table, in every run, with any crashes, lost connections, rejected calls and
late acceptances.  All it takes is that outbox ids are given out in commit order. -/
theorem keepsOrder_of_oneInstance (id : Uuid) (i : InstanceId) (actions : List RelayAction)
    (s : RelayState) (only : ∀ a ∈ actions, a.TickedBy i)
    (writes : relays.Along (WritesInOrder id) .initial actions)
    (ran : relays.run .initial actions = some s) : KeepsOrder id s := by
  have keeps : ∀ {s s' : RelayState} {a : RelayAction},
      ScanInvariant id i s ∧ OrderInvariant id s → a.TickedBy i → relays.step s a = some s' →
        WritesInOrder id s a s' → ScanInvariant id i s' ∧ OrderInvariant id s' :=
    fun both only moved writes => ⟨both.1.step only moved writes,
      both.2.step moved writes both.1.claimsInOrder⟩
  exact (writes.invariant relays keeps ⟨.initial id i, .initial id⟩ only ran).2.keepsOrder

/-- The relay dies between the two events, and the new one starts again. -/
def crashedBetween : List RelayAction :=
  [ .write 1 .created openOrder (CommitContext.first.stageContext none),
    .write 2 .cancelled { openOrder with status := .cancelled }
      (CommitContext.second.stageContext none),
    .tick 0 0, .select 0, .lock 0, .lock 0, .lock 0, .accept 0, .resolve 0, .crash 0,
    .tick 0 1, .select 1, .lock 1, .lock 1, .lock 1, .accept 1, .resolve 1, .accept 1,
    .resolve 1, .stamp 1 .epoch, .accept 1, .resolve 1, .accept 1 ]

/-- A crash between the two brokers, and a second drain: the order is kept. -/
theorem keepsOrder_crashedBetween :
    ∃ s, relays.run .initial crashedBetween = some s ∧ KeepsOrder openOrder.id s :=
  ⟨_, rfl, keepsOrder_of_oneInstance openOrder.id 0 crashedBetween _ (by decide) (by decide) rfl⟩

end PropFlow
