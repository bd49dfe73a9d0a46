import PropFlow.Relay.Delivery

/-!
# A drain by itself

What `drain()` does when nothing comes between its steps: it claims the first
`batchSize` rows that are neither published nor locked, in the order of their ids,
sends each to RabbitMQ and then to Kafka, and stamps them all at once.

## What is left to do

The result is described from the state at any moment of the drain, not only from its
start.

* `RelayState.claimable` — the rows that a drain would find now, in order;
* `RelayState.todo`, `RelayState.unsent` — the rows and messages that a drain in this
  phase has still to send;
* `RelayState.left` — the number of steps it has still to take;
* `RelayState.completed` — the state when it will have returned.

`CompletesTo` is that result, seen from any phase of the drain.

## The argument

One step of the drain does not change what it completes to and brings it nearer
(`OwnStep.returned_or_nearer`).  There is always a next step (`exists_own_step`).  The
induction over the run is `run_own`.

## The result

`drain_undisturbed` says of a whole drain, from any reachable state in which its instance
is idle: it can return within a number of steps that is known beforehand, every maximal
run of its own steps does return, and the state then is the one before with the rows
stamped and the messages accepted (`RelayState.drained`), and nothing else changed.
-/

namespace PropFlow

open Library Library.CivilTime

/-! ## What is left to do -/

/-- The unpublished rows, in the order of their ids. -/
def RelayState.unpublished (s : RelayState) : List OutboxEvent :=
  (s.table.filter fun row => row.publishedAt = none).insertionSort fun a b => a.id ≤ b.id

/-- Those of them that no transaction has locked. -/
def RelayState.claimable (s : RelayState) : List OutboxEvent :=
  s.unpublished.filter fun row => s.locks row.id = none

/-- What the `SELECT` finds under these ids. -/
def RelayState.found (s : RelayState) (ids : List ℕ) : List OutboxEvent :=
  ids.filterMap fun id =>
    match s.locks id, s.table.find? fun row => row.id = id with
    | none, some row => if row.publishedAt = none then some row else none
    | _, _ => none

/-- The two messages about a row. -/
def OutboxRelay.messages (row : OutboxEvent) : List Message :=
  [message row .rabbit, message row .kafka]

/-- The rows whose `UPDATE` has been awaited, with their stamps. -/
def Phase.stamped : Phase → List (OutboxEvent × Instant)
  | .sending _ batch _ | .stamping batch => batch.stamped
  | .committing stamped => stamped
  | _ => []

/-- The rows that a drain in this phase has yet to stamp. -/
def RelayState.todo (s : RelayState) : Phase → List OutboxEvent
  | .selecting => (s.found (candidates s.table)).take batchSize
  | .locking ids rows => rows ++ (s.found ids).take (batchSize - rows.length)
  | .sending _ batch _ | .stamping batch => batch.row :: batch.rest
  | .committing _ | .ended _ => []

/-- The messages that the brokers have yet to accept from it. -/
def RelayState.unsent (s : RelayState) : Phase → List Message
  | .sending .rabbit batch true | .sending .kafka batch false =>
      OutboxRelay.message batch.row .kafka :: batch.rest.flatMap OutboxRelay.messages
  | .sending .kafka batch true | .stamping batch => batch.rest.flatMap OutboxRelay.messages
  | .selecting => (s.todo .selecting).flatMap OutboxRelay.messages
  | .locking ids rows => (s.todo (.locking ids rows)).flatMap OutboxRelay.messages
  | .sending .rabbit batch false => (batch.row :: batch.rest).flatMap OutboxRelay.messages
  | .committing _ | .ended _ => []

/-- How many steps it has to take, at most. -/
def RelayState.left (s : RelayState) : Phase → ℕ
  | .selecting => 6 * (candidates s.table).length + 4
  | .locking ids rows => 6 * ids.length + 5 * rows.length + 3
  | .sending .rabbit batch false => 5 * batch.rest.length + 7
  | .sending .rabbit batch true => 5 * batch.rest.length + 6
  | .sending .kafka batch false => 5 * batch.rest.length + 5
  | .sending .kafka batch true => 5 * batch.rest.length + 4
  | .stamping batch => 5 * batch.rest.length + 3
  | .committing _ => 2
  | .ended _ => 1

/-- The same of drain `d`, if it is in progress. -/
def RelayState.toGo (s : RelayState) (d : DrainId) : ℕ :=
  match s.drains d with
  | none => 0
  | some drain => s.left drain.phase

/-- A drain that has not returned has a step left. -/
theorem left_pos (s : RelayState) (phase : Phase) : 0 < s.left phase := by
  unfold RelayState.left
  split <;> exact Nat.succ_pos _

/-- Drain `d` of instance `i` returns, with these rows stamped and these messages
accepted since. -/
def RelayState.completed (s : RelayState) (i : InstanceId) (d : DrainId)
    (stamps : List (OutboxEvent × Instant)) (messages : List Message) : RelayState :=
  { s.release d with
    table := s.table.map (stampRow stamps)
    accepted := s.accepted ++ messages
    drains := Function.update s.drains d none
    draining := Function.update s.draining i false
    returned := s.returned ++ [⟨d, .ok (), false⟩] }

/-- `t` is `s` with the rest of the drain done. -/
def CompletesTo (i : InstanceId) (d : DrainId) (s : RelayState) (phase : Phase)
    (t : RelayState) : Prop :=
  ∃ stamps : List (OutboxEvent × Instant), stamps.map Prod.fst = s.todo phase ∧
    t = s.completed i d (phase.stamped ++ stamps) (s.unsent phase)

/-! ## The steps of a drain -/

/-- A step of the drain itself, and no failure. -/
def RelayAction.Own (d : DrainId) : RelayAction → Prop
  | .select d' | .lock d' | .accept d' | .resolve d' | .stamp d' _ | .commit d' | .finish d' =>
      d' = d
  | _ => False

/-- The candidates are different rows, the limit is kept, and nothing has failed. -/
def RelayState.Orderly (s : RelayState) (d : DrainId) : Phase → Prop
  | .locking ids rows => ids.Nodup ∧ rows.length ≤ batchSize
  | .ended result => result = .ok () ∧ ∀ id, s.locks id ≠ some d
  | _ => True

/-- What a drain can do in each phase. -/
inductive OwnStep (s : RelayState) (i : InstanceId) (d : DrainId) : Phase → RelayState → Prop where
  /-- The candidates are those of the table as it is. -/
  | selected : OwnStep s i d .selecting (s.set d ⟨i, true, .locking (candidates s.table) []⟩)
  /-- The next candidate is claimed or skipped. -/
  | locked {ids rows} : OwnStep s i d (.locking ids rows) (s.lockNext d i rows ids)
  /-- The broker takes what is in flight. -/
  | accepted {broker batch} : OwnStep s i d (.sending broker batch false)
      { s.set d ⟨i, true, .sending broker batch true⟩ with
        accepted := s.accepted ++ [OutboxRelay.message batch.row broker] }
  /-- RabbitMQ has confirmed. -/
  | published {batch} : OwnStep s i d (.sending .rabbit batch true)
      (s.set d ⟨i, true, .sending .kafka batch false⟩)
  /-- Kafka has confirmed. -/
  | recorded {batch} : OwnStep s i d (.sending .kafka batch true)
      (s.set d ⟨i, true, .stamping batch⟩)
  /-- The row is stamped, and the next one is sent. -/
  | stamped {batch} (now : Instant) : OwnStep s i d (.stamping batch)
      (s.set d ⟨i, true, OutboxRelay.loop (batch.stamped ++ [(batch.row, now)]) batch.rest⟩)
  /-- The stamps are written to the table. -/
  | committed {stamped} : OwnStep s i d (.committing stamped)
      { (s.set d ⟨i, true, .ended (.ok ())⟩).release d with
        table := s.table.map (stampRow stamped) }
  /-- `drain` returns, and the flag goes down. -/
  | finished {result} : OwnStep s i d (.ended result)
      { s with
        drains := Function.update s.drains d none
        draining := Function.update s.draining i false
        warnings := s.warnings ++ RelayState.warning result
        returned := s.returned ++ [⟨d, .ok (), Function.update s.draining i false i⟩] }

section

variable {s s' t : RelayState} {i : InstanceId} {d : DrainId} {phase : Phase} {a : RelayAction}

/-- A step of the drain that does not fail is one of those. -/
theorem ownStep_of_step (own : a.Own d) (held : s.drains d = some ⟨i, true, phase⟩)
    (moved : relays.step s a = some s') : OwnStep s i d phase s' := by
  cases a with
  | select e =>
      obtain rfl : e = d := own
      simp only [relays, RelayState.step, held] at moved
      split at moved <;> cases moved
      next same => cases same; exact .selected
  | lock e =>
      obtain rfl : e = d := own
      simp only [relays, RelayState.step, held] at moved
      split at moved <;> cases moved
      next same => cases same; exact .locked
  | accept e =>
      obtain rfl : e = d := own
      simp only [relays, RelayState.step, held] at moved
      split at moved <;> cases moved
      next same => cases same; exact .accepted
  | resolve e =>
      obtain rfl : e = d := own
      simp only [relays, RelayState.step, held] at moved
      split at moved <;> cases moved
      next same => cases same; exact .published
      next same => cases same; exact .recorded
  | stamp e now =>
      obtain rfl : e = d := own
      simp only [relays, RelayState.step, held] at moved
      split at moved <;> cases moved
      next same => cases same; exact .stamped now
  | commit e =>
      obtain rfl : e = d := own
      simp only [relays, RelayState.step, held] at moved
      split at moved <;> cases moved
      next same => cases same; exact .committed
  | finish e =>
      obtain rfl : e = d := own
      simp only [relays, RelayState.step, held] at moved
      split at moved <;> cases moved
      next same => cases same; exact .finished
  | write | tick | fail | disconnect | crash | acceptLate => exact own.elim

/-- No phase is one to be stuck in. -/
theorem exists_own_step (held : s.drains d = some ⟨i, true, phase⟩) :
    ∃ a s', a.Own d ∧ relays.step s a = some s' := by
  -- the action of the phase, and what `step` makes of it
  have enabled : ∀ {a : RelayAction}, a.Own d → (relays.step s a).isSome = true →
      ∃ a s', a.Own d ∧ relays.step s a = some s' := by
    intro a own isSome
    exact ⟨a, _, own, (Option.some_get isSome).symm⟩
  cases phase with
  | selecting => exact enabled (a := .select d) rfl (by simp [relays, RelayState.step, held])
  | locking ids rows => exact enabled (a := .lock d) rfl (by simp [relays, RelayState.step, held])
  | sending broker batch accepted =>
      cases accepted with
      | false => exact enabled (a := .accept d) rfl (by simp [relays, RelayState.step, held])
      | true =>
          refine enabled (a := .resolve d) rfl ?_
          cases broker with
          | rabbit => simp [relays, RelayState.step, held]
          | kafka => simp [relays, RelayState.step, held]
  | stamping batch =>
      exact enabled (a := .stamp d .epoch) rfl (by simp [relays, RelayState.step, held])
  | committing stamped =>
      exact enabled (a := .commit d) rfl (by simp [relays, RelayState.step, held])
  | ended result => exact enabled (a := .finish d) rfl (by simp [relays, RelayState.step, held])

/-! ## One step -/

/-- What is found depends on the table and on the locks of the candidates only. -/
theorem found_congr (table : s'.table = s.table) {ids : List ℕ}
    (locks : ∀ id ∈ ids, s'.locks id = s.locks id) : s'.found ids = s.found ids := by
  unfold RelayState.found
  refine List.filterMap_congr fun id member => ?_
  rw [table, locks id member]

/-- What the drain is doing when it returns is forgotten. -/
theorem completed_set (drain : Drain) (stamps : List (OutboxEvent × Instant))
    (messages : List Message) :
    (s.set d drain).completed i d stamps messages = s.completed i d stamps messages := by
  unfold RelayState.completed RelayState.set
  rw [Function.update_idem]
  rfl

/-- So are its locks. -/
theorem completed_lock {id : ℕ} (free : s.locks id = none) (drain : Drain)
    (stamps : List (OutboxEvent × Instant)) (messages : List Message) :
    RelayState.completed { s.set d drain with locks := Function.update s.locks id (some d) }
      i d stamps messages = s.completed i d stamps messages := by
  have released : (RelayState.release { s with locks := Function.update s.locks id (some d) }
      d).locks = (s.release d).locks := by
    funext id'
    by_cases same : id' = id
    · subst same
      simp [RelayState.release, free]
    · simp [RelayState.release, same]
  unfold RelayState.completed RelayState.set
  rw [Function.update_idem]
  exact congrArg (fun locks => { s.completed i d stamps messages with locks }) released

/-- What a broker accepts is one message less to wait for. -/
theorem completed_accept (drain : Drain) (message : Message)
    (stamps : List (OutboxEvent × Instant)) (messages : List Message) :
    RelayState.completed { s.set d drain with accepted := s.accepted ++ [message] } i d stamps
      messages = s.completed i d stamps (message :: messages) := by
  unfold RelayState.completed RelayState.set
  rw [Function.update_idem, List.append_assoc]
  rfl

/-- An ended transaction holds no lock. -/
theorem release_locks_ne (id : ℕ) : (s.release d).locks id ≠ some d := by
  show (if s.locks id = some d then none else s.locks id) ≠ some d
  split_ifs with mine
  · exact nofun
  · exact mine

/-- Ending a transaction that holds no lock changes nothing. -/
theorem release_of_unlocked (unlocked : ∀ id, s.locks id ≠ some d) : s.release d = s := by
  unfold RelayState.release
  simp only [unlocked, if_false]

/-- Without locks there is nothing to release. -/
theorem completed_of_released (unlocked : ∀ id, s.locks id ≠ some d)
    (stamps : List (OutboxEvent × Instant)) (messages : List Message) :
    s.completed i d stamps messages =
      { s with
        table := s.table.map (stampRow stamps)
        accepted := s.accepted ++ messages
        drains := Function.update s.drains d none
        draining := Function.update s.draining i false
        returned := s.returned ++ [⟨d, .ok (), false⟩] } := by
  rw [RelayState.completed, release_of_unlocked unlocked]

/-- Without stamps nothing is stamped. -/
theorem stampRow_nil : stampRow [] = id := rfl

/-- What is committed is done. -/
theorem completed_commit (drain : Drain) (stamped : List (OutboxEvent × Instant)) :
    RelayState.completed
      { (s.set d drain).release d with table := s.table.map (stampRow stamped) } i d [] [] =
        s.completed i d stamped [] := by
  have unlocked : ∀ id, RelayState.locks
      { (s.set d drain).release d with table := s.table.map (stampRow stamped) } id ≠ some d :=
    release_locks_ne (s := s.set d drain)
  refine (completed_of_released unlocked [] []).trans ?_
  unfold RelayState.completed RelayState.set RelayState.release
  rw [Function.update_idem, stampRow_nil, List.map_id]

/-- Drain `d` goes on in another phase, with less to do, towards the same end. -/
structure Nearer (i : InstanceId) (d : DrainId) (s : RelayState) (phase : Phase)
    (s' : RelayState) (phase' : Phase) : Prop where
  /-- It is still there, and still connected. -/
  held : s'.drains d = some ⟨i, true, phase'⟩
  /-- It has claimed and not sent what it should have. -/
  orderly : s'.Orderly d phase'
  /-- Fewer steps are left: this is what the induction is on. -/
  left : s'.left phase' < s.left phase
  /-- Whatever it leads to from here, it led to before. -/
  completes : ∀ t, CompletesTo i d s' phase' t → CompletesTo i d s phase t

/-- The drain goes on, and nothing else has changed. -/
theorem nearer_set {phase' : Phase} (orderly : s.Orderly d phase')
    (left : s.left phase' < s.left phase)
    (todo : s.todo phase' = s.todo phase) (stamped : phase'.stamped = phase.stamped)
    (unsent : s.unsent phase' = s.unsent phase) :
    Nearer i d s phase (s.set d ⟨i, true, phase'⟩) phase' where
  held := Function.update_self _ _ _
  orderly := orderly
  left := left
  completes := by
    rintro t ⟨stamps, rows, rfl⟩
    refine ⟨stamps, rows.trans todo, ?_⟩
    rw [completed_set, stamped]
    exact congrArg _ unsent

/-- At the head of the loop, the rows are all to do; -/
@[simp] theorem todo_loop (stamped : List (OutboxEvent × Instant)) (rows : List OutboxEvent) :
    s.todo (OutboxRelay.loop stamped rows) = rows := by
  cases rows <;> rfl

/-- the stamps are those made so far; -/
@[simp] theorem stamped_loop (stamped : List (OutboxEvent × Instant)) (rows : List OutboxEvent) :
    (OutboxRelay.loop stamped rows).stamped = stamped := by
  cases rows <;> rfl

/-- both messages of every row are unsent; -/
@[simp] theorem unsent_loop (stamped : List (OutboxEvent × Instant)) (rows : List OutboxEvent) :
    s.unsent (OutboxRelay.loop stamped rows) = rows.flatMap OutboxRelay.messages := by
  cases rows <;> rfl

/-- each row takes five steps, and the end of the drain two; -/
@[simp] theorem left_loop (stamped : List (OutboxEvent × Instant)) (rows : List OutboxEvent) :
    s.left (OutboxRelay.loop stamped rows) = 5 * rows.length + 2 := by
  cases rows <;> rfl

/-- and nothing is locked beside the claims. -/
theorem orderly_loop (stamped : List (OutboxEvent × Instant)) (rows : List OutboxEvent) :
    s.Orderly d (OutboxRelay.loop stamped rows) := by
  cases rows <;> trivial

/-- A row is claimed. -/
theorem nearer_lock {id : ℕ} {rest : List ℕ} {rows : List OutboxEvent} {row : OutboxEvent}
    (absent : id ∉ rest) (distinct : rest.Nodup) (room : rows.length < batchSize)
    (free : s.locks id = none) (stored : (s.table.find? fun row => row.id = id) = some row)
    (unpublished : row.publishedAt = none) :
    Nearer i d s (.locking (id :: rest) rows)
      { s.set d ⟨i, true, .locking rest (rows ++ [row])⟩ with
        locks := Function.update s.locks id (some d) }
      (.locking rest (rows ++ [row])) := by
  have first : s.found (id :: rest) = row :: s.found rest := by
    simp [RelayState.found, free, stored, unpublished]
  -- the lock is on another row than those to come, so these are found as before
  have others : RelayState.found { s.set d ⟨i, true, .locking rest (rows ++ [row])⟩ with
      locks := Function.update s.locks id (some d) } rest = s.found rest := by
    refine found_congr ?_ fun id' member => ?_
    · rfl
    · have other : id' ≠ id := fun same => absent (same ▸ member)
      exact Function.update_of_ne other _ _
  have todo : RelayState.todo { s.set d ⟨i, true, .locking rest (rows ++ [row])⟩ with
      locks := Function.update s.locks id (some d) } (.locking rest (rows ++ [row])) =
        s.todo (.locking (id :: rest) rows) := by
    obtain ⟨k, more⟩ := Nat.exists_eq_add_of_lt room
    have roomAfter : batchSize - (rows ++ [row]).length = k := by
      rw [List.length_append, List.length_singleton]
      omega
    have roomBefore : batchSize - rows.length = k + 1 := by omega
    rw [RelayState.todo, RelayState.todo, others, first, roomAfter, roomBefore,
      List.take_succ_cons, List.append_assoc, List.singleton_append]
  refine ⟨Function.update_self _ _ _, ⟨distinct, ?_⟩, ?_, ?_⟩
  · rw [List.length_append]
    exact room
  · simp only [RelayState.left, List.length_cons, List.length_append, List.length_nil]
    omega
  · rintro t ⟨stamps, rows', rfl⟩
    refine ⟨stamps, rows'.trans todo, ?_⟩
    rw [completed_lock free, RelayState.unsent, RelayState.unsent, todo]
    rfl

/-- A candidate that is locked, or published since, is passed over. -/
theorem found_cons_of_none {id : ℕ} {ids : List ℕ}
    (other : ∀ row, s.locks id = none → (s.table.find? fun row => row.id = id) = some row → False) :
    s.found (id :: ids) = s.found ids := by
  unfold RelayState.found
  rw [List.filterMap_cons]
  cases locked : s.locks id with
  | some e => rfl
  | none =>
      cases stored : s.table.find? fun row => row.id = id with
      | none => rfl
      | some row => exact (other row locked stored).elim

/-- One candidate is looked at. -/
theorem nearer_lockNext {ids : List ℕ} {rows : List OutboxEvent}
    (orderly : s.Orderly d (.locking ids rows)) :
    ∃ phase', Nearer i d s (.locking ids rows) (s.lockNext d i rows ids) phase' := by
  have looping : (s.found ids).take (batchSize - rows.length) = [] →
      Nearer i d s (.locking ids rows) (s.set d ⟨i, true, OutboxRelay.loop [] rows⟩)
        (OutboxRelay.loop [] rows) := by
    intro full
    refine nearer_set (orderly_loop [] rows) ?_ ?_ (stamped_loop [] rows) ?_
    · rw [left_loop, RelayState.left]
      omega
    · rw [todo_loop, RelayState.todo, full, List.append_nil]
    · rw [unsent_loop, RelayState.unsent, RelayState.todo, full, List.append_nil]
  obtain ⟨distinct, limit⟩ := orderly
  cases ids with
  | nil => exact ⟨_, looping (by simp [RelayState.found])⟩
  | cons id rest =>
      obtain ⟨absent, distinct⟩ := List.nodup_cons.mp distinct
      have skipping : s.found (id :: rest) = s.found rest →
          Nearer i d s (.locking (id :: rest) rows) (s.set d ⟨i, true, .locking rest rows⟩)
            (.locking rest rows) := by
        intro skipped
        refine nearer_set ⟨distinct, limit⟩ ?_ ?_ rfl ?_
        · simp only [RelayState.left, List.length_cons]
          omega
        · rw [RelayState.todo, RelayState.todo, skipped]
        · rw [RelayState.unsent, RelayState.unsent, RelayState.todo, RelayState.todo, skipped]
      rw [RelayState.lockNext]
      split_ifs with full
      · exact ⟨_, looping (by rw [full, Nat.sub_self, List.take_zero])⟩
      · split
        next row free found =>
          split_ifs with unpublished
          · exact ⟨_, nearer_lock absent distinct (by omega) free found unpublished⟩
          · exact ⟨_, skipping (by simp [RelayState.found, free, found, unpublished])⟩
        next other => exact ⟨_, skipping (found_cons_of_none other)⟩

/-- The drain has taken a step: it has returned, or is nearer to that. -/
theorem OwnStep.returned_or_nearer (distinct : (candidates s.table).Nodup)
    (step : OwnStep s i d phase s') (orderly : s.Orderly d phase) :
    s'.drains d = none ∧ CompletesTo i d s phase s' ∨ ∃ phase', Nearer i d s phase s' phase' := by
  cases step with
  | selected =>
      refine Or.inr ⟨_, nearer_set ⟨distinct, Nat.zero_le _⟩ ?_ ?_ rfl ?_⟩
      · simp only [RelayState.left, List.length_nil]
        omega
      · rfl
      · rfl
  | locked => exact Or.inr (nearer_lockNext orderly)
  | @accepted broker batch =>
      refine Or.inr ⟨.sending broker batch true, Function.update_self _ _ _, trivial, ?_, ?_⟩
      · cases broker with
        | rabbit => exact Nat.lt_succ_self _
        | kafka => exact Nat.lt_succ_self _
      · rintro t ⟨stamps, rows, rfl⟩
        refine ⟨stamps, rows, ?_⟩
        rw [completed_accept]
        cases broker with
        | rabbit => rfl
        | kafka => rfl
  | published => exact Or.inr ⟨_, nearer_set trivial (Nat.lt_succ_self _) rfl rfl rfl⟩
  | recorded => exact Or.inr ⟨_, nearer_set trivial (Nat.lt_succ_self _) rfl rfl rfl⟩
  | @stamped batch now =>
      refine Or.inr ⟨_, Function.update_self _ _ _, orderly_loop _ _, ?_, ?_⟩
      · rw [left_loop]
        exact Nat.lt_succ_self _
      · rintro t ⟨stamps, rows, rfl⟩
        rw [todo_loop] at rows
        refine ⟨(batch.row, now) :: stamps, congrArg (List.cons batch.row) rows, ?_⟩
        rw [completed_set, stamped_loop, unsent_loop, List.append_assoc]
        rfl
  | @committed stamped =>
      refine Or.inr ⟨.ended (.ok ()), Function.update_self _ _ _,
        ⟨rfl, release_locks_ne⟩, Nat.lt_succ_self _, ?_⟩
      rintro t ⟨stamps, rows, rfl⟩
      obtain rfl : stamps = [] := List.map_eq_nil_iff.mp rows
      refine ⟨[], rfl, ?_⟩
      rw [List.append_nil, List.append_nil]
      exact completed_commit _ stamped
  | @finished result =>
      obtain ⟨rfl, unlocked⟩ := orderly
      refine Or.inl ⟨Function.update_self _ _ _, [], rfl, ?_⟩
      rw [completed_of_released unlocked]
      simp [stampRow_nil, RelayState.warning, RelayState.unsent, Phase.stamped]

/-! ## The whole drain -/

/-- No row is a candidate twice. -/
theorem nodup_candidates (rows : RowInvariant s) : (candidates s.table).Nodup := by
  have ids := rows.ids.sublist ((List.filter_sublist (p := fun row : OutboxEvent =>
    decide (row.publishedAt = none)) (l := s.table)).map OutboxEvent.id)
  exact (List.perm_insertionSort _ _).nodup_iff.mpr ids

/-- A drain that has returned takes no step. -/
theorem step_own_of_returned (own : a.Own d) (returned : s.drains d = none) :
    relays.step s a = none := by
  cases a with
  | write | tick | fail | disconnect | crash | acceptLate => exact own.elim
  | _ =>
      cases own
      simp only [relays, RelayState.step, returned]

/-- The state of a drain after some of its own steps. -/
theorem run_own {actions : List RelayAction} (own : ∀ a ∈ actions, a.Own d) :
    ∀ {s : RelayState} {phase : Phase}, RowInvariant s → s.drains d = some ⟨i, true, phase⟩ →
      s.Orderly d phase → relays.run s actions = some t →
        t.drains d = none ∧ CompletesTo i d s phase t ∧ actions.length ≤ s.left phase ∨
          ∃ phase', t.drains d = some ⟨i, true, phase'⟩ ∧
            actions.length + t.left phase' ≤ s.left phase := by
  induction actions with
  | nil =>
      intro s phase _ held _ ran
      cases ran
      exact Or.inr ⟨phase, held, by simp⟩
  | cons a rest ih =>
      intro s phase rows held orderly ran
      obtain ⟨s', moved, ranRest⟩ := relays.run_cons_eq_some.mp ran
      have step := ownStep_of_step (own a List.mem_cons_self) held moved
      have ownRest : ∀ b ∈ rest, b.Own d := fun b member => own b (List.mem_cons_of_mem a member)
      rcases step.returned_or_nearer (nodup_candidates rows) orderly with
        ⟨returned, completes⟩ | ⟨phase', nearer⟩
      · -- nothing is left to do
        cases rest with
        | nil =>
            cases ranRest
            exact Or.inl ⟨returned, completes, left_pos s phase⟩
        | cons b rest =>
            rw [relays.run_cons, step_own_of_returned (ownRest b List.mem_cons_self) returned]
              at ranRest
            cases ranRest
      · have less := nearer.left
        rw [List.length_cons]
        rcases ih ownRest (rows.step moved) nearer.held nearer.orderly ranRest with
          ⟨returned, completes, bound⟩ | ⟨phase'', held'', bound⟩
        · exact Or.inl ⟨returned, nearer.completes t completes, by omega⟩
        · exact Or.inr ⟨phase'', held'', by omega⟩

/-- The drain has returned, or is under way. -/
def Undisturbed (i : InstanceId) (d : DrainId) (s : RelayState) : Prop :=
  RowInvariant s ∧ (s.drains d = none ∨
    ∃ phase, s.drains d = some ⟨i, true, phase⟩ ∧ s.Orderly d phase)

/-- It comes to an end. -/
theorem exists_returned (undisturbed : Undisturbed i d s) :
    ∃ t, relays.ReachableBy (RelayAction.Own d) s t ∧ t.drains d = none := by
  have nearer : ∀ {s : RelayState}, Undisturbed i d s → ¬ s.drains d = none →
      ∃ s', relays.ReachableBy (RelayAction.Own d) s s' ∧ Undisturbed i d s' ∧
        s'.toGo d < s.toGo d := by
    rintro s ⟨rows, returned | ⟨phase, held, orderly⟩⟩ running
    · exact absurd returned running
    obtain ⟨a, s', own, moved⟩ := exists_own_step held
    have toGo : s.toGo d = s.left phase := by rw [RelayState.toGo, held]
    refine ⟨s', .head relays own moved (relays.reachableBy_refl _ _), ?_⟩
    rcases (ownStep_of_step own held moved).returned_or_nearer (nodup_candidates rows) orderly with
      ⟨returned, -⟩ | ⟨phase', nearer⟩
    · refine ⟨⟨rows.step moved, Or.inl returned⟩, ?_⟩
      rw [toGo, RelayState.toGo, returned]
      exact left_pos s phase
    · refine ⟨⟨rows.step moved, Or.inr ⟨phase', nearer.held, nearer.orderly⟩⟩, ?_⟩
      rw [toGo, RelayState.toGo, nearer.held]
      exact nearer.left
  obtain ⟨t, reached, -, returned⟩ := relays.exists_of_decreasing nearer undisturbed
  exact ⟨t, reached, returned⟩

/-! ## What it has done -/

/-- The rows without a stamp, in any order. -/
theorem mem_unpublished {row : OutboxEvent} :
    row ∈ s.unpublished ↔ row ∈ s.table ∧ row.publishedAt = none := by
  rw [RelayState.unpublished, List.mem_insertionSort, List.mem_filter, decide_eq_true_eq]

/-- The candidates of the `SELECT` are the ids of these. -/
theorem candidates_eq (s : RelayState) : candidates s.table = s.unpublished.map OutboxEvent.id :=
  (List.map_insertionSort (fun a b : OutboxEvent => a.id ≤ b.id) (· ≤ ·) OutboxEvent.id _
    fun _ _ _ _ => Iff.rfl).symm

/-- The `SELECT` finds what can be claimed. -/
theorem found_candidates (rows : RowInvariant s) : s.found (candidates s.table) = s.claimable := by
  rw [RelayState.found, candidates_eq, List.filterMap_map, RelayState.claimable,
    ← List.filterMap_eq_filter]
  refine List.filterMap_congr fun row member => ?_
  obtain ⟨stored, unpublished⟩ := mem_unpublished.mp member
  have found : (s.table.find? fun row' => row'.id = row.id) = some row := by
    obtain ⟨row', isFound⟩ := Option.isSome_iff_exists.mp
      (List.find?_isSome (p := fun row' : OutboxEvent => decide (row'.id = row.id)).mpr
        ⟨row, stored, decide_eq_true rfl⟩)
    have same : row'.id = row.id := by simpa using List.find?_some isFound
    rw [isFound, rows.eq_of_id (List.mem_of_find?_eq_some isFound) stored same]
  rw [Function.comp_apply, found]
  cases locked : s.locks row.id with
  | none => simp [unpublished, Option.guard, locked]
  | some e => simp [Option.guard, locked]

/-- Drain `d` has run, and stamped these rows. -/
def RelayState.drained (s : RelayState) (d : DrainId) (stamps : List (OutboxEvent × Instant)) :
    RelayState :=
  { s with
    table := s.table.map (stampRow stamps)
    accepted := s.accepted ++ (stamps.map Prod.fst).flatMap OutboxRelay.messages
    returned := s.returned ++ [⟨d, .ok (), false⟩] }

/-- A tick that starts a drain. -/
theorem step_tick (idle : s.draining i = false) (fresh : s.drains d = none) :
    relays.step s (.tick i d) =
      some
        { s.set d ⟨i, true, .selecting⟩ with
          draining := Function.update s.draining i true } := by
  simp [relays, RelayState.step, idle, fresh]

/-- What the drain comes to from there. -/
theorem eq_drained_of_completesTo (rows : RowInvariant s) (locks : LockInvariant s)
    (idle : s.draining i = false) (fresh : s.drains d = none)
    (completes : CompletesTo i d { s.set d ⟨i, true, .selecting⟩ with
      draining := Function.update s.draining i true } .selecting t) :
    ∃ stamps : List (OutboxEvent × Instant),
      stamps.map Prod.fst = s.claimable.take batchSize ∧ t = s.drained d stamps := by
  obtain ⟨stamps, claimed, rfl⟩ := completes
  have claims : stamps.map Prod.fst = (s.found (candidates s.table)).take batchSize := claimed
  have unlocked : ∀ id, s.locks id ≠ some d := by
    intro id locked
    obtain ⟨drain, held, -⟩ := locks.owned id d locked
    rw [fresh] at held
    cases held
  refine ⟨stamps, by rw [claims, found_candidates rows], ?_⟩
  have released : (s.release d).locks = s.locks := by rw [release_of_unlocked unlocked]
  have drains : Function.update s.drains d none = s.drains :=
    Function.update_eq_self_iff.mpr fresh.symm
  have draining : Function.update s.draining i false = s.draining :=
    Function.update_eq_self_iff.mpr idle.symm
  have messages : RelayState.unsent { s.set d ⟨i, true, .selecting⟩ with
      draining := Function.update s.draining i true } .selecting =
        (stamps.map Prod.fst).flatMap OutboxRelay.messages := by
    rw [claims]
    rfl
  rw [messages]
  unfold RelayState.completed RelayState.set RelayState.drained
  rw [Function.update_idem, Function.update_idem, drains, draining]
  exact congrArg (fun locks => { s.drained d stamps with locks }) released

/-- So it can be done. -/
theorem exists_drained (rows : RowInvariant s) (locks : LockInvariant s)
    (idle : s.draining i = false) (fresh : s.drains d = none) :
    ∃ s' t stamps, relays.step s (.tick i d) = some s' ∧
      relays.ReachableBy (RelayAction.Own d) s' t ∧
      stamps.map Prod.fst = s.claimable.take batchSize ∧ t = s.drained d stamps := by
  have tick := step_tick idle fresh
  have rows' := rows.step tick
  have held : RelayState.drains { s.set d ⟨i, true, .selecting⟩ with
      draining := Function.update s.draining i true } d = some ⟨i, true, .selecting⟩ :=
    Function.update_self _ _ _
  obtain ⟨t, ⟨actions, own, ran⟩, returned⟩ :=
    exists_returned ⟨rows', Or.inr ⟨.selecting, held, trivial⟩⟩
  rcases run_own own rows' held trivial ran with ⟨-, completes, -⟩ | ⟨phase', running, -⟩
  · obtain ⟨stamps, claimed, rfl⟩ := eq_drained_of_completesTo rows locks idle fresh completes
    exact ⟨_, _, stamps, tick, ⟨actions, own, ran⟩, claimed, rfl⟩
  · rw [returned] at running
    cases running

end

/-- **A drain by itself.**  From any state that the relays can reach, a drain that no other
step comes between returns, after so many steps at most.  It has sent the first
`batchSize` of the rows that were neither published nor locked, in the order of their
ids, each to RabbitMQ and then to Kafka; it has stamped these rows and nothing else. -/
theorem drain_undisturbed (s : RelayState) (i : InstanceId) (d : DrainId)
    (reached : relays.Reachable .initial s) (idle : s.draining i = false)
    (fresh : s.drains d = none) :
    (∃ actions t, (∀ a ∈ actions, a.Own d) ∧ relays.run s (.tick i d :: actions) = some t ∧
        t.drains d = none) ∧
      ∀ actions t, (∀ a ∈ actions, a.Own d) → relays.run s (.tick i d :: actions) = some t →
        actions.length ≤ 6 * s.unpublished.length + 4 ∧ (t.drains d = none →
          ∃ stamps : List (OutboxEvent × Instant),
            stamps.map Prod.fst = s.claimable.take batchSize ∧ t = s.drained d stamps) := by
  have rows : RowInvariant s := Machine.Reachable.invariant relays
    (fun invariant moved => invariant.step moved) RowInvariant.initial reached
  have locks : LockInvariant s := Machine.Reachable.invariant relays
    (fun invariant moved => invariant.step moved) LockInvariant.initial reached
  have tick := step_tick idle fresh
  have rows' := rows.step tick
  have held : RelayState.drains { s.set d ⟨i, true, .selecting⟩ with
      draining := Function.update s.draining i true } d = some ⟨i, true, .selecting⟩ :=
    Function.update_self _ _ _
  constructor
  · obtain ⟨t, ⟨actions, own, ran⟩, returned⟩ :=
      exists_returned ⟨rows', Or.inr ⟨.selecting, held, trivial⟩⟩
    exact ⟨actions, t, own, relays.run_cons_eq_some.mpr ⟨_, tick, ran⟩, returned⟩
  · intro actions t own ran
    obtain ⟨s', tick', ranRest⟩ := relays.run_cons_eq_some.mp ran
    obtain rfl := Option.some.inj (tick.symm.trans tick')
    -- the measure at the start of a drain
    have bound : RelayState.left { s.set d ⟨i, true, .selecting⟩ with
        draining := Function.update s.draining i true } .selecting =
          6 * s.unpublished.length + 4 := by
      show 6 * (candidates s.table).length + 4 = _
      rw [candidates_eq, List.length_map]
    rcases run_own own rows' held trivial ranRest with
      ⟨-, completes, length⟩ | ⟨phase', running, length⟩
    · exact ⟨bound ▸ length, fun _ => eq_drained_of_completesTo rows locks idle fresh completes⟩
    · refine ⟨by omega, fun returned => ?_⟩
      rw [running] at returned
      cases returned

/-- One row is staged. -/
def stagedOne : RelayState :=
  { RelayState.initial with
    table := [WorkOrderEventsOutbox.stagedRow 1 .created openOrder
      (CommitContext.first.stageContext none)] }

/-- One row, one drain: the rows are claimed, sent and stamped as `drained` has it. -/
theorem drain_undisturbed_stagedOne :
    ∃ t, relays.run stagedOne (stagedAndDrained.drop 1) = some t ∧
      ∃ stamps : List (OutboxEvent × Instant),
        stamps.map Prod.fst = stagedOne.claimable.take batchSize ∧ t = stagedOne.drained 0 stamps :=
  have undisturbed := (drain_undisturbed stagedOne 0 0 ⟨stagedAndDrained.take 1, rfl⟩ rfl rfl).2
    (stagedAndDrained.drop 2) _ (by simp [stagedAndDrained, RelayAction.Own]) rfl
  ⟨_, rfl, undisturbed.2 rfl⟩

end PropFlow
