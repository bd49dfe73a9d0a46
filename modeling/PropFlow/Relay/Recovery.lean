import PropFlow.Relay.Drain
import Mathlib.Data.Set.Card

/-!
# Recovery

A relay that fails leaves nothing behind that another one would have to clear up:
its locks are gone with its transaction, and what it had claimed is claimed again
by the next tick, anywhere.

## The argument

* `Calm` — a reachable state in which nothing runs.  One can be reached from every
  state without a commit (`exists_calm`): the processes die, all of them, since only
  finitely many have ever ticked (`finite_draining`);
* `Recovered` — what one drain after another does to a calm state.  It is conserved that
  the messages accepted so far, followed by those that the unpublished rows are owed,
  are the same sequence, and that the rows are the same but for their stamps;
* each drain publishes one row at least, so the number of unpublished rows is the
  measure of the induction (`Calm.exists_published`).

## The result

`exists_allPublished`: whatever has happened, one instance can publish all that is
unpublished, alone; and what it sends is what was unpublished, in the order of the ids.
-/

namespace PropFlow

open Library Library.CivilTime

/-- The instance, by itself, after the others have died. -/
def RelayAction.Recovers (i : InstanceId) : RelayAction → Prop
  | .tick i' _ => i' = i
  | .crash _ | .select _ | .lock _ | .accept _ | .resolve _ | .stamp _ _ | .commit _ | .finish _ =>
      True
  | .write _ _ _ _ | .fail _ _ | .disconnect _ | .acceptLate _ _ => False

section

variable {s t : RelayState} {i : InstanceId} {d : DrainId}

/-! ## Everything stops -/

/-- Nothing is in progress. -/
structure Calm (s : RelayState) : Prop where
  /-- The state is one of a run, with whatever failures before. -/
  reached : relays.Reachable .initial s
  /-- No flag is up, so the next tick starts a drain. -/
  idle : ∀ i, s.draining i = false

namespace Calm

/-- Calm or not, the rows are in order. -/
theorem rows (calm : Calm s) : RowInvariant s :=
  Machine.Reachable.invariant relays (fun invariant moved => invariant.step moved)
    RowInvariant.initial calm.reached

/-- No drain is left, since no flag is up. -/
theorem drains (calm : Calm s) (d : DrainId) : s.drains d = none := by
  have flags : FlagInvariant s := Machine.Reachable.invariant relays
    (fun invariant moved => invariant.step moved) FlagInvariant.initial calm.reached
  cases held : s.drains d with
  | none => rfl
  | some drain =>
      have busy := (flags.flag drain.owner).mpr ⟨d, by rw [RelayState.owner, held]; rfl⟩
      rw [calm.idle] at busy
      cases busy

/-- No lock is left, since no drain is. -/
theorem locks (calm : Calm s) (id : ℕ) : s.locks id = none := by
  have locks : LockInvariant s := Machine.Reachable.invariant relays
    (fun invariant moved => invariant.step moved) LockInvariant.initial calm.reached
  cases locked : s.locks id with
  | none => rfl
  | some d =>
      obtain ⟨drain, held, -⟩ := locks.owned id d locked
      rw [calm.drains] at held
      cases held

/-- Then all that is unpublished can be claimed. -/
theorem claimable_eq (calm : Calm s) : s.claimable = s.unpublished :=
  List.filter_eq_self.mpr fun row _ => decide_eq_true (calm.locks row.id)

end Calm

/-- Only finitely many instances have been started. -/
theorem finite_draining (reached : relays.Reachable .initial s) :
    {i | s.draining i = true}.Finite := by
  refine Machine.Reachable.invariant relays (I := fun s => {i | s.draining i = true}.Finite)
    (fun {s s' a} finite moved => ?_) (by simp [RelayState.initial]) reached
  have within : ∀ {i : InstanceId} {flag : Bool},
      {j | Function.update s.draining i flag j = true} ⊆ insert i {j | s.draining j = true} := by
    intro i flag j busy
    by_cases same : j = i
    · exact Or.inl same
    · exact Or.inr (by simpa [Function.update_of_ne same] using busy)
  cases flagChange_of_effect (relayEffect_of_step moved) with
  | same _ draining => rwa [draining]
  | entered _ _ _ draining => exact draining ▸ (finite.insert _).subset within
  | finished _ _ draining => exact draining ▸ (finite.insert _).subset within
  | crashed _ draining => exact draining ▸ (finite.insert _).subset within

/-- All of them die. -/
theorem exists_calm (reached : relays.Reachable .initial s) (i : InstanceId) :
    ∃ t, relays.ReachableBy (RelayAction.Recovers i) s t ∧ Calm t ∧ t.table = s.table ∧
      t.accepted = s.accepted := by
  have nearer : ∀ {t : RelayState},
      (relays.Reachable .initial t ∧ t.table = s.table ∧ t.accepted = s.accepted) →
        ¬ (∀ j, t.draining j = false) → ∃ t', relays.ReachableBy (RelayAction.Recovers i) t t' ∧
          (relays.Reachable .initial t' ∧ t'.table = s.table ∧ t'.accepted = s.accepted) ∧
            {j | t'.draining j = true}.ncard < {j | t.draining j = true}.ncard := by
    rintro t ⟨reached, table, accepted⟩ busy
    obtain ⟨j, busy⟩ := not_forall.mp busy
    have moved : ∃ t', relays.step t (.crash j) = some t' ∧ t'.table = t.table ∧
        t'.accepted = t.accepted ∧ t'.draining = Function.update t.draining j false :=
      ⟨_, rfl, rfl, rfl, rfl⟩
    obtain ⟨t', moved, table', accepted', draining⟩ := moved
    have dies : RelayAction.Recovers i (.crash j) := trivial
    refine ⟨t', .head relays dies moved (relays.reachableBy_refl _ _),
      ⟨reached.step relays moved, table'.trans table, accepted'.trans accepted⟩, ?_⟩
    refine Set.ncard_lt_ncard ⟨fun k up => ?_, fun subset => ?_⟩ (finite_draining reached)
    · by_cases same : k = j
      · subst same
        simp [draining] at up
      · simpa [draining, Function.update_of_ne same] using up
    · have up : t'.draining j = true := subset (show t.draining j = true by simpa using busy)
      simp [draining] at up
  obtain ⟨t, calmed, ⟨reached, table, accepted⟩, idle⟩ :=
    relays.exists_of_decreasing nearer ⟨reached, rfl, rfl⟩
  exact ⟨t, calmed, ⟨reached, idle⟩, table, accepted⟩

/-! ## One drain after another -/

/-- Which rows a list of stamps leaves alone. -/
theorem find?_stamp_eq_none_iff {stamps : List (OutboxEvent × Instant)} {id : ℕ} :
    (stamps.find? fun stamp => stamp.1.id = id) = none ↔
      id ∉ (stamps.map Prod.fst).map OutboxEvent.id := by
  simp [List.find?_eq_none]

/-- These keep what they had. -/
theorem stampRow_of_notMem {stamps : List (OutboxEvent × Instant)} {row : OutboxEvent}
    (other : row.id ∉ (stamps.map Prod.fst).map OutboxEvent.id) : stampRow stamps row = row := by
  rw [stampRow, find?_stamp_eq_none_iff.mpr other]

/-- A row is unpublished after the drain if it was before and has not been stamped. -/
theorem unpublished_stampRow_iff {stamps : List (OutboxEvent × Instant)} {row : OutboxEvent} :
    (stampRow stamps row).publishedAt = none ↔
      row.publishedAt = none ∧ row.id ∉ (stamps.map Prod.fst).map OutboxEvent.id := by
  cases found : stamps.find? fun stamp => stamp.1.id = row.id with
  | none =>
      have other := find?_stamp_eq_none_iff.mp found
      rw [stampRow_of_notMem other]
      exact (and_iff_left other).symm
  | some stamp =>
      rw [stampRow, found]
      refine iff_of_false nofun fun unstamped => ?_
      rw [find?_stamp_eq_none_iff.mpr unstamped.2] at found
      cases found

/-- A list without what is at its front. -/
theorem filter_notMem_front {α κ : Type} [DecidableEq κ] {key : α → κ} {front back : List α}
    (nodup : ((front ++ back).map key).Nodup) :
    ((front ++ back).filter fun a => key a ∉ front.map key) = back := by
  rw [List.map_append] at nodup
  have disjoint := (List.nodup_append.mp nodup).2.2
  have taken : (front.filter fun a => key a ∉ front.map key) = [] := by
    refine List.filter_eq_nil_iff.mpr fun a member other => ?_
    exact of_decide_eq_true other (List.mem_map_of_mem member)
  have kept : (back.filter fun a => key a ∉ front.map key) = back := by
    refine List.filter_eq_self.mpr fun a member => decide_eq_true fun inFront => ?_
    exact disjoint _ inFront _ (List.mem_map_of_mem member) rfl
  rw [List.filter_append, taken, kept, List.nil_append]

/-- The unpublished rows are in the order of their ids, -/
theorem pairwise_unpublished (s : RelayState) :
    s.unpublished.Pairwise fun a b => a.id ≤ b.id :=
  List.pairwise_insertionSort _ _

/-- they are the rows of the table without a stamp, -/
theorem perm_unpublished (s : RelayState) :
    s.unpublished.Perm (s.table.filter fun row => row.publishedAt = none) :=
  List.perm_insertionSort _ _

/-- and none of them is there twice. -/
theorem nodup_unpublished (rows : RowInvariant s) : (s.unpublished.map OutboxEvent.id).Nodup := by
  rw [← candidates_eq]
  exact nodup_candidates rows

/-- A drain takes the first rows off the queue. -/
theorem unpublished_drained (rows : RowInvariant s) {stamps : List (OutboxEvent × Instant)} {k : ℕ}
    (claimed : stamps.map Prod.fst = s.unpublished.take k) :
    (s.drained d stamps).unpublished = s.unpublished.drop k := by
  have left : (s.drained d stamps).table.filter (fun row => row.publishedAt = none) =
      (s.table.filter fun row => row.publishedAt = none).filter
        fun row => row.id ∉ (s.unpublished.take k).map OutboxEvent.id := by
    show (s.table.map (stampRow stamps)).filter (fun row => row.publishedAt = none) = _
    rw [List.filter_map, List.filter_filter, ← claimed]
    have same : (s.table.filter ((fun row => decide (row.publishedAt = none)) ∘ stampRow stamps)) =
        s.table.filter fun row => decide (row.id ∉ (stamps.map Prod.fst).map OutboxEvent.id) &&
          decide (row.publishedAt = none) := by
      refine List.filter_congr fun row _ => ?_
      rw [Function.comp_apply, ← Bool.decide_and]
      exact decide_eq_decide.mpr (unpublished_stampRow_iff.trans and_comm)
    rw [same]
    refine (List.map_congr_left fun row member => ?_).trans (List.map_id _)
    have kept := (List.mem_filter.mp member).2
    rw [Bool.and_eq_true, decide_eq_true_eq] at kept
    exact stampRow_of_notMem kept.1
  -- what was stamped is the front of the queue, and the rest of it is left
  have perm : (s.drained d stamps).unpublished.Perm (s.unpublished.drop k) := by
    refine (perm_unpublished _).trans ?_
    rw [left]
    refine ((perm_unpublished s).symm.filter _).trans ?_
    have queue := s.unpublished.take_append_drop k
    have nodup := nodup_unpublished rows
    rw [← queue] at nodup
    have others := filter_notMem_front nodup
    rw [queue] at others
    rw [others]
  -- both are in the order of their ids, which differ
  refine List.Perm.eq_of_pairwise (fun a b inside inside' less more => ?_)
    (pairwise_unpublished _) ((pairwise_unpublished s).sublist (List.drop_sublist _ _)) perm
  have inside := mem_unpublished.mp (List.mem_of_mem_drop (perm.subset inside))
  have inside' := mem_unpublished.mp (List.mem_of_mem_drop inside')
  exact rows.eq_of_id inside.1 inside'.1 (Nat.le_antisymm less more)

/-- What a drain does not change: the events, and which messages have been accepted or
are owed, in their order. -/
structure Recovered (s t : RelayState) : Prop where
  /-- The drain is over. -/
  calm : Calm t
  /-- The events of the table are the same. -/
  events : t.table.map OutboxEvent.event = s.table.map OutboxEvent.event
  /-- What was owed is owed or sent, and nothing is sent again. -/
  messages : t.accepted ++ t.unpublished.flatMap OutboxRelay.messages =
    s.accepted ++ s.unpublished.flatMap OutboxRelay.messages

/-- One drain publishes the first rows of the queue. -/
theorem Recovered.drain (recovered : Recovered s t) (i : InstanceId) :
    ∃ t', relays.ReachableBy (RelayAction.Recovers i) t t' ∧ Recovered s t' ∧
      t'.unpublished = t.unpublished.drop batchSize := by
  have calm := recovered.calm
  have locks : LockInvariant t := Machine.Reachable.invariant relays
    (fun invariant moved => invariant.step moved) LockInvariant.initial calm.reached
  obtain ⟨t₁, t', stamps, tick, own, claimed, drained⟩ :=
    exists_drained calm.rows locks (calm.idle i) (calm.drains 0)
  rw [calm.claimable_eq] at claimed
  have ticks : RelayAction.Recovers i (.tick i 0) := rfl
  have recovers : ∀ a, RelayAction.Own 0 a → RelayAction.Recovers i a := by
    intro a own
    cases a with
    | write | tick | fail | disconnect | crash | acceptLate => exact own.elim
    | select | lock | accept | resolve | stamp | commit | finish => trivial
  have run : relays.ReachableBy (RelayAction.Recovers i) t t' :=
    .head relays ticks tick (own.mono relays recovers)
  have queue : t'.unpublished = t.unpublished.drop batchSize :=
    drained ▸ unpublished_drained calm.rows claimed
  refine ⟨t', run, ⟨⟨calm.reached.trans relays (run.reachable relays), ?_⟩, ?_, ?_⟩, queue⟩
  · rw [drained]
    exact calm.idle
  · refine Eq.trans ?_ recovered.events
    rw [drained]
    show (t.table.map (stampRow stamps)).map OutboxEvent.event = _
    rw [List.map_map]
    exact List.map_congr_left fun row _ => stampRow_event stamps row
  · refine Eq.trans ?_ recovered.messages
    rw [queue, drained]
    show (t.accepted ++ (stamps.map Prod.fst).flatMap OutboxRelay.messages) ++ _ = _
    rw [claimed, List.append_assoc, ← List.flatMap_append, List.take_append_drop]

/-- Drain after drain, until nothing is left. -/
theorem Calm.exists_published (calm : Calm s) (i : InstanceId) :
    ∃ t, relays.ReachableBy (RelayAction.Recovers i) s t ∧ Recovered s t ∧
      t.unpublished = [] := by
  refine relays.exists_of_decreasing (μ := fun t => t.unpublished.length)
    (fun {t} recovered left => ?_) (⟨calm, rfl, rfl⟩ : Recovered s s)
  obtain ⟨t', run, recovered', queue⟩ := recovered.drain i
  refine ⟨t', run, recovered', ?_⟩
  have waiting := List.length_pos_iff.mpr left
  rw [queue, List.length_drop]
  have positive : 0 < batchSize := by decide
  omega

/-- When none is left, all are published. -/
theorem published_of_unpublished (queue : t.unpublished = []) :
    ∀ row ∈ t.table, row.publishedAt.isSome = true := by
  intro row member
  by_contra unstamped
  have waiting : row ∈ t.unpublished :=
    mem_unpublished.mpr ⟨member, Option.not_isSome_iff_eq_none.mp unstamped⟩
  rw [queue] at waiting
  cases waiting

/-- They are read off the table. -/
theorem unpublished_congr (table : t.table = s.table) : t.unpublished = s.unpublished := by
  unfold RelayState.unpublished
  rw [table]

end

/-- **Recovery.**  Whatever the relays have been doing when the others die, one instance
by itself can publish everything: no writer, failure or late acceptance is needed for it,
and none happens.  It sends two messages about each row that was unpublished, row by row
in the order of the ids, and nothing else; of the rows it changes the stamps only. -/
theorem exists_allPublished (s : RelayState) (i : InstanceId)
    (reached : relays.Reachable .initial s) :
    ∃ t, relays.ReachableBy (RelayAction.Recovers i) s t ∧
      (∀ row ∈ t.table, row.publishedAt.isSome = true) ∧
      t.table.map OutboxEvent.event = s.table.map OutboxEvent.event ∧
      t.accepted = s.accepted ++ s.unpublished.flatMap OutboxRelay.messages := by
  obtain ⟨u, died, calm, table, accepted⟩ := exists_calm reached i
  obtain ⟨t, drained, recovered, queue⟩ := calm.exists_published i
  have messages := recovered.messages
  rw [queue, unpublished_congr table, accepted, List.flatMap_nil, List.append_nil] at messages
  refine ⟨t, died.trans relays drained, published_of_unpublished queue, ?_, messages⟩
  rw [recovered.events, table]

/-- A relay dies between its two messages, and another one takes over. -/
theorem exists_allPublished_takeover :
    ∃ s t, relays.run .initial (stagedAndDrained.take 6) = some s ∧
      relays.ReachableBy (RelayAction.Recovers 1) s t ∧
      ∀ row ∈ t.table, row.publishedAt.isSome = true :=
  have ⟨t, run, published, _⟩ := exists_allPublished _ 1 ⟨stagedAndDrained.take 6, rfl⟩
  ⟨_, t, rfl, run, published⟩

end PropFlow
