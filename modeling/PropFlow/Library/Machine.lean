import Mathlib.Data.List.Basic
import Mathlib.Order.OrderIsoNat

/-!
# Labelled machines and their runs

A **machine** is a partial, deterministic step: given a state and an action it
either moves or declines.  All nondeterminism (the scheduler, the network, the
clock, what fails and when) is in the choice of actions, so "for every
interleaving" is "for every list of actions".

Three things are developed here and used everywhere else.

* **Invariants.**  `Machine.invariant_of_run` packages the induction over a run
  once; `Machine.invariant_of_run_of` is the same with the actions restricted.
* **Recovery.**  `exists_of_decreasing` reaches a goal by runs each of which gets
  nearer to it; `ReachableBy` keeps track of what kind of actions that takes, and
  `ReachableBy.simulate` carries such runs over to a machine that contains this one.
* **Properties of transitions.**  `Along P` says that every transition a run
  takes satisfies `P`.  A law such as "a commit never undoes another one" is a
  property of transitions, not of states, and conditional safety, "if every
  step meets `Q` then every step satisfies `P`", is `Along Q → Along P`.
  `along_of_along` and `along_congr` reduce both directions to one step under
  an invariant.
-/

namespace Library

universe u v

/-- A machine: a partial step on states, driven by an explicit action.  `none`
is an action the state does not enable. -/
structure Machine (σ : Type u) (α : Type v) where
  step : σ → α → Option σ

namespace Machine

variable {σ : Type u} {α : Type v} (M : Machine σ α)

/-- Perform a list of actions, one after another. -/
def run : σ → List α → Option σ
  | s, [] => some s
  | s, a :: rest => (M.step s a).bind fun s' => run s' rest

/-- No action, no step. -/
@[simp] theorem run_nil (s : σ) : M.run s [] = some s := rfl

/-- The first action, and then the others. -/
theorem run_cons (s : σ) (a : α) (rest : List α) :
    M.run s (a :: rest) = (M.step s a).bind fun s' => M.run s' rest := rfl

/-- A run of one action is a step. -/
@[simp] theorem run_singleton (s : σ) (a : α) : M.run s [a] = M.step s a := by
  simp [run_cons]

/-- A run that begins with an action passes through the state after it, -/
theorem run_cons_eq_some {s t : σ} {a : α} {rest : List α} :
    M.run s (a :: rest) = some t ↔
      ∃ s', M.step s a = some s' ∧ M.run s' rest = some t := by
  rw [run_cons, Option.bind_eq_some_iff]

/-- a longer run is one run after another, -/
theorem run_append (s : σ) (front back : List α) :
    M.run s (front ++ back) = (M.run s front).bind fun s' => M.run s' back := by
  induction front generalizing s with
  | nil => rfl
  | cons a rest ih =>
      rw [List.cons_append, run_cons, run_cons, Option.bind_assoc]
      exact congrArg _ (funext fun s' => ih s')

/-- and passes through the state between them. -/
theorem run_append_eq_some {s t : σ} {front back : List α} :
    M.run s (front ++ back) = some t ↔
      ∃ s', M.run s front = some s' ∧ M.run s' back = some t := by
  rw [run_append, Option.bind_eq_some_iff]

/-- The states a machine can be in when started in `start`. -/
def Reachable (start s : σ) : Prop := ∃ actions, M.run start actions = some s

/-- Where a run starts it can stay. -/
theorem reachable_refl (s : σ) : M.Reachable s s := ⟨[], rfl⟩

/-- What can be reached in two runs can be reached in one, -/
theorem Reachable.trans {s t r : σ} (first : M.Reachable s t)
    (second : M.Reachable t r) : M.Reachable s r := by
  obtain ⟨front, runFront⟩ := first
  obtain ⟨back, runBack⟩ := second
  exact ⟨front ++ back, (M.run_append_eq_some).mpr ⟨t, runFront, runBack⟩⟩

/-- and so can what is one step away. -/
theorem Reachable.step {s t r : σ} {a : α} (reached : M.Reachable s t)
    (moved : M.step t a = some r) : M.Reachable s r :=
  Reachable.trans M reached ⟨[a], by simpa using moved⟩

/-! ## Invariants -/

/-- **Invariants along restricted runs.**  If every step with an A action
keeps `I`, then so does every run of A actions. -/
theorem invariant_of_run_of {I : σ → Prop} {A : α → Prop}
    (keeps : ∀ {s s' : σ} {a : α}, I s → A a → M.step s a = some s' → I s') :
    ∀ {actions : List α} {s t : σ}, I s → (∀ a ∈ actions, A a) →
      M.run s actions = some t → I t := by
  intro actions
  induction actions with
  | nil =>
      intro s t holds _ ran
      cases ran
      exact holds
  | cons a rest ih =>
      intro s t holds all ran
      obtain ⟨s', moved, ranRest⟩ := (M.run_cons_eq_some).mp ran
      exact ih (keeps holds (all a List.mem_cons_self) moved)
        (fun b member => all b (List.mem_cons_of_mem a member)) ranRest

/-- **Invariants along runs.** -/
theorem invariant_of_run {I : σ → Prop}
    (keeps : ∀ {s s' : σ} {a : α}, I s → M.step s a = some s' → I s')
    {actions : List α} {s t : σ} (holds : I s) (ran : M.run s actions = some t) :
    I t :=
  M.invariant_of_run_of (A := fun _ => True)
    (fun holds _ moved => keeps holds moved) holds (fun _ _ => trivial) ran

/-- **The induction over a run**, for a property that every step keeps. -/
theorem Reachable.invariant {I : σ → Prop}
    (keeps : ∀ {s s' : σ} {a : α}, I s → M.step s a = some s' → I s')
    {start s : σ} (holds : I start) (reached : M.Reachable start s) : I s := by
  obtain ⟨actions, ran⟩ := reached
  exact M.invariant_of_run keeps holds ran

/-- **Invariants with a past.**  What has been done may be part of an invariant. -/
theorem invariant_of_history {I : List α → σ → Prop}
    (keeps : ∀ {past : List α} {s s' : σ} {a : α}, I past s → M.step s a = some s' →
      I (past ++ [a]) s') :
    ∀ {past future : List α} {s t : σ}, I past s → M.run s future = some t →
      I (past ++ future) t := by
  intro past future
  induction future generalizing past with
  | nil =>
      intro s t holds ran
      cases ran
      rwa [List.append_nil]
  | cons a rest ih =>
      intro s t holds ran
      obtain ⟨s', moved, ranRest⟩ := (M.run_cons_eq_some).mp ran
      have later := ih (keeps holds moved) ranRest
      rwa [List.append_assoc] at later

/-- No action is enabled. -/
def Quiet (s : σ) : Prop := ∀ a, M.step s a = none

/-- **Bounded runs.**  A measure that every step makes smaller bounds the length of
a run. -/
theorem length_le_of_decreasing {μ : σ → ℕ} {I : σ → Prop}
    (one : ∀ {s s' : σ} {a : α}, I s → M.step s a = some s' → I s' ∧ μ s' < μ s) :
    ∀ {actions : List α} {s t : σ}, I s → M.run s actions = some t →
      actions.length + μ t ≤ μ s := by
  intro actions
  induction actions with
  | nil =>
      intro s t _ ran
      cases ran
      simp
  | cons a rest ih =>
      intro s t holds ran
      obtain ⟨s', moved, ranRest⟩ := (M.run_cons_eq_some).mp ran
      obtain ⟨holds', less⟩ := one holds moved
      have later := ih holds' ranRest
      rw [List.length_cons]
      omega

/-- **Termination.**  Then every state leads to a quiet one. -/
theorem exists_quiet {μ : σ → ℕ} {I : σ → Prop}
    (one : ∀ {s s' : σ} {a : α}, I s → M.step s a = some s' → I s' ∧ μ s' < μ s) {s : σ}
    (holds : I s) : ∃ t, M.Reachable s t ∧ M.Quiet t := by
  induction bound : μ s using Nat.strong_induction_on generalizing s with
  | _ n ih =>
      by_cases quiet : M.Quiet s
      · exact ⟨s, M.reachable_refl s, quiet⟩
      · obtain ⟨a, enabled⟩ := not_forall.mp quiet
        obtain ⟨s', moved⟩ := Option.ne_none_iff_exists'.mp enabled
        obtain ⟨holds', less⟩ := one holds moved
        obtain ⟨t, reached, isQuiet⟩ := ih (μ s') (bound ▸ less) holds' rfl
        exact ⟨t, .trans M ⟨[a], by simpa using moved⟩ reached, isQuiet⟩

/-- The states reached by actions of one kind only. -/
def ReachableBy (A : α → Prop) (start s : σ) : Prop :=
  ∃ actions, (∀ a ∈ actions, A a) ∧ M.run start actions = some s

/-- No action is of no kind. -/
theorem reachableBy_refl (A : α → Prop) (s : σ) : M.ReachableBy A s s :=
  ⟨[], (fun _ none => nomatch none), rfl⟩

/-- What some actions can reach can be reached. -/
theorem ReachableBy.reachable {A : α → Prop} {s t : σ} (reached : M.ReachableBy A s t) :
    M.Reachable s t := by
  obtain ⟨actions, -, ran⟩ := reached
  exact ⟨actions, ran⟩

/-- More actions reach no less. -/
theorem ReachableBy.mono {A B : α → Prop} (weaker : ∀ a, A a → B a) {s t : σ}
    (reached : M.ReachableBy A s t) : M.ReachableBy B s t := by
  obtain ⟨actions, all, ran⟩ := reached
  exact ⟨actions, fun a member => weaker a (all a member), ran⟩

/-- One run after another, -/
theorem ReachableBy.trans {A : α → Prop} {s t r : σ} (first : M.ReachableBy A s t)
    (second : M.ReachableBy A t r) : M.ReachableBy A s r := by
  obtain ⟨front, allFront, runFront⟩ := first
  obtain ⟨back, allBack, runBack⟩ := second
  refine ⟨front ++ back, fun a member => ?_, (M.run_append_eq_some).mpr ⟨t, runFront, runBack⟩⟩
  exact (List.mem_append.mp member).elim (allFront a) (allBack a)

/-- and a run after a step. -/
theorem ReachableBy.head {A : α → Prop} {s t r : σ} {a : α} (kind : A a)
    (moved : M.step s a = some t) (later : M.ReachableBy A t r) : M.ReachableBy A s r :=
  .trans M ⟨[a], by simpa using kind, by simpa using moved⟩ later

/-- The same induction, over runs of one kind of actions. -/
theorem ReachableBy.invariant {I : σ → Prop} {A : α → Prop}
    (keeps : ∀ {s s' : σ} {a : α}, I s → A a → M.step s a = some s' → I s') {s t : σ}
    (holds : I s) (reached : M.ReachableBy A s t) : I t := by
  obtain ⟨actions, all, ran⟩ := reached
  exact M.invariant_of_run_of keeps holds all ran

/-- **Recovery.**  If every state short of the goal leads to one that is nearer to it,
then the goal is reached. -/
theorem exists_of_decreasing {A : α → Prop} {I goal : σ → Prop} {μ : σ → ℕ}
    (nearer : ∀ {s : σ}, I s → ¬ goal s → ∃ t, M.ReachableBy A s t ∧ I t ∧ μ t < μ s) {s : σ}
    (holds : I s) : ∃ t, M.ReachableBy A s t ∧ I t ∧ goal t := by
  induction bound : μ s using Nat.strong_induction_on generalizing s with
  | _ n ih =>
      by_cases reached : goal s
      · exact ⟨s, M.reachableBy_refl A s, holds, reached⟩
      · obtain ⟨t, near, holds', less⟩ := nearer holds reached
        obtain ⟨r, far, holds'', isGoal⟩ := ih (μ t) (bound ▸ less) holds' rfl
        exact ⟨r, near.trans M far, holds'', isGoal⟩

/-- **Simulation.**  If a machine can follow each step of another one, it can follow its
runs. -/
theorem ReachableBy.simulate {τ : Type*} {β : Type*} {N : Machine τ β} {A : β → Prop}
    {B : α → Prop} {R : σ → τ → Prop}
    (one : ∀ {s : σ} {t t' : τ} {b : β}, R s t → A b → N.step t b = some t' →
      ∃ s', M.ReachableBy B s s' ∧ R s' t')
    {s : σ} {t t' : τ} (related : R s t) (reached : N.ReachableBy A t t') :
    ∃ s', M.ReachableBy B s s' ∧ R s' t' := by
  obtain ⟨actions, all, ran⟩ := reached
  induction actions generalizing s t with
  | nil =>
      cases ran
      exact ⟨s, M.reachableBy_refl B s, related⟩
  | cons b rest ih =>
      obtain ⟨t₁, moved, ranRest⟩ := (N.run_cons_eq_some).mp ran
      obtain ⟨s₁, near, related₁⟩ := one related (all b List.mem_cons_self) moved
      obtain ⟨s₂, far, related₂⟩ :=
        ih related₁ (fun c member => all c (List.mem_cons_of_mem b member)) ranRest
      exact ⟨s₂, near.trans M far, related₂⟩

/-- **Progress.**  In an infinite run, actions that make a well-founded measure
smaller happen finitely often, if no other action makes it greater. -/
theorem finite_of_decreasing {γ : Type*} [PartialOrder γ] [WellFoundedLT γ] {μ : σ → γ}
    {I : σ → Prop} {A : α → Prop}
    (keeps : ∀ {s s' : σ} {a : α}, I s → M.step s a = some s' → I s')
    (noIncrease : ∀ {s s' : σ} {a : α}, I s → M.step s a = some s' → μ s' ≤ μ s)
    (decrease : ∀ {s s' : σ} {a : α}, I s → A a → M.step s a = some s' → μ s' < μ s)
    {states : ℕ → σ} {actions : ℕ → α} (holds : I (states 0))
    (runs : ∀ n, M.step (states n) (actions n) = some (states (n + 1))) :
    {n | A (actions n)}.Finite := by
  have invariant : ∀ n, I (states n) := by
    intro n
    induction n with
    | zero => exact holds
    | succ n ih => exact keeps ih (runs n)
  have antitone : Antitone fun n => μ (states n) :=
    antitone_nat_of_succ_le fun n => noIncrease (invariant n) (runs n)
  -- the measure is constant from some point on
  obtain ⟨n, constant⟩ := WellFoundedGT.monotone_chain_condition
    (⟨fun n => OrderDual.toDual (μ (states n)), antitone⟩ : ℕ →o γᵒᵈ)
  refine (Set.finite_lt_nat n).subset fun m happens => ?_
  by_contra late
  have before : μ (states n) = μ (states m) := constant m (Nat.not_lt.mp late)
  have after : μ (states n) = μ (states (m + 1)) :=
    constant (m + 1) ((Nat.not_lt.mp late).trans (Nat.le_succ m))
  exact absurd (after.symm.trans before) (decrease (invariant m) happens (runs m)).ne

/-! ## Properties of the transitions of a run -/

/-- Every transition taken along the run satisfies `P`.  A run that reaches a
disabled action stops there, so only transitions that happen are asked about. -/
def Along (P : σ → α → σ → Prop) : σ → List α → Prop
  | _, [] => True
  | s, a :: rest => ∀ s', M.step s a = some s' → P s a s' ∧ Along P s' rest

/-- There is no transition in an empty run. -/
@[simp] theorem along_nil (P : σ → α → σ → Prop) (s : σ) : M.Along P s [] := trivial

/-- The first transition, and then the others. -/
theorem along_cons {P : σ → α → σ → Prop} {s : σ} {a : α} {rest : List α} :
    M.Along P s (a :: rest) ↔
      ∀ s', M.step s a = some s' → P s a s' ∧ M.Along P s' rest := Iff.rfl

/-- Decided by performing the run. -/
instance decidableAlong (P : σ → α → σ → Prop) [∀ s a s', Decidable (P s a s')] :
    ∀ (s : σ) (actions : List α), Decidable (M.Along P s actions)
  | _, [] => inferInstanceAs (Decidable True)
  | s, a :: rest =>
      match moved : M.step s a with
      -- the run stops here, and nothing more is asked
      | none => .isTrue fun _ moved' => nomatch moved.symm.trans moved'
      | some s' =>
          have := decidableAlong P s' rest
          decidable_of_iff (P s a s' ∧ M.Along P s' rest)
            ⟨fun both _ moved' => Option.some.inj (moved.symm.trans moved') ▸ both,
              fun along => along s' moved⟩

/-- What the run is asked about, without the recursion: every split of the
actions at a transition that happens. -/
theorem along_iff_forall_split {P : σ → α → σ → Prop} {s : σ} {actions : List α} :
    M.Along P s actions ↔
      ∀ (front back : List α) (a : α) (t t' : σ), actions = front ++ a :: back →
        M.run s front = some t → M.step t a = some t' → P t a t' := by
  induction actions generalizing s with
  | nil => simp
  | cons b rest ih =>
      rw [along_cons]
      constructor
      · intro along front back a t t' split ran moved
        -- the transition asked about is the first one, or one of the rest
        cases front with
        | nil =>
            obtain ⟨rfl, -⟩ := List.cons.inj split
            cases ran
            exact (along t' moved).1
        | cons c front =>
            obtain ⟨rfl, splitRest⟩ := List.cons.inj split
            obtain ⟨s', movedFirst, ranRest⟩ := (M.run_cons_eq_some).mp ran
            exact ih.mp (along s' movedFirst).2 front back a t t' splitRest ranRest moved
      · intro all s' moved
        refine ⟨all [] rest b s s' rfl rfl moved, ih.mpr ?_⟩
        intro front back a t t' split ran movedLater
        exact all (b :: front) back a t t' (by rw [split]; rfl)
          ((M.run_cons_eq_some).mpr ⟨s', moved, ran⟩) movedLater

/-- The transitions of a prefix are transitions of the run. -/
theorem Along.of_append {P : σ → α → σ → Prop} {s : σ} {front back : List α}
    (along : M.Along P s (front ++ back)) : M.Along P s front := by
  induction front generalizing s with
  | nil => trivial
  | cons a rest ih => exact fun s' moved => ⟨(along s' moved).1, ih (along s' moved).2⟩

/-- Part of a run has its transitions. -/
theorem Along.back {P : σ → α → σ → Prop} {s t : σ} {front back : List α}
    (along : M.Along P s (front ++ back)) (ran : M.run s front = some t) :
    M.Along P t back := by
  induction front generalizing s with
  | nil => cases ran; exact along
  | cons a rest ih =>
      obtain ⟨s', moved, ranRest⟩ := (M.run_cons_eq_some).mp ran
      exact ih (along s' moved).2 ranRest

/-- Two properties of the transitions are one. -/
theorem Along.and {P Q : σ → α → σ → Prop} {s : σ} {actions : List α}
    (first : M.Along P s actions) (second : M.Along Q s actions) :
    M.Along (fun s a s' => P s a s' ∧ Q s a s') s actions := by
  induction actions generalizing s with
  | nil => trivial
  | cons a rest ih =>
      intro s' moved
      obtain ⟨here, later⟩ := first s' moved
      obtain ⟨here', later'⟩ := second s' moved
      exact ⟨⟨here, here'⟩, ih later later'⟩

/-- **Conditional safety, one step at a time.**  Under an invariant that the
conditioned steps keep, a condition that implies the law at each transition
implies it along the run. -/
theorem along_of_along {I : σ → Prop} {A : α → Prop} {P Q : σ → α → σ → Prop}
    (one : ∀ {s s' : σ} {a : α}, I s → A a → M.step s a = some s' → Q s a s' →
      I s' ∧ P s a s') :
    ∀ {actions : List α} {s : σ}, I s → (∀ a ∈ actions, A a) →
      M.Along Q s actions → M.Along P s actions := by
  intro actions
  induction actions with
  | nil => intro s _ _ _; trivial
  | cons a rest ih =>
      intro s holds all along s' moved
      obtain ⟨condition, alongRest⟩ := along s' moved
      obtain ⟨holds', law⟩ := one holds (all a List.mem_cons_self) moved condition
      exact ⟨law, ih holds' (fun b member => all b (List.mem_cons_of_mem a member)) alongRest⟩

/-- Two transition properties that agree under an invariant agree along runs. -/
theorem along_congr {I : σ → Prop} {A : α → Prop} {P Q : σ → α → σ → Prop}
    (keeps : ∀ {s s' : σ} {a : α}, I s → A a → M.step s a = some s' → I s')
    (agree : ∀ {s s' : σ} {a : α}, I s → A a → M.step s a = some s' →
      (P s a s' ↔ Q s a s'))
    {actions : List α} {s : σ} (holds : I s) (all : ∀ a ∈ actions, A a) :
    M.Along P s actions ↔ M.Along Q s actions :=
  ⟨M.along_of_along (fun hI ha moved law => ⟨keeps hI ha moved, (agree hI ha moved).mp law⟩)
      holds all,
    M.along_of_along (fun hI ha moved law => ⟨keeps hI ha moved, (agree hI ha moved).mpr law⟩)
      holds all⟩

/-- **Invariants along conditioned runs.** -/
theorem Along.invariant {I : σ → Prop} {A : α → Prop} {Q : σ → α → σ → Prop}
    (keeps : ∀ {s s' : σ} {a : α}, I s → A a → M.step s a = some s' → Q s a s' → I s') :
    ∀ {actions : List α} {s t : σ}, I s → (∀ a ∈ actions, A a) → M.Along Q s actions →
      M.run s actions = some t → I t := by
  intro actions
  induction actions with
  | nil =>
      intro s t holds _ _ ran
      cases ran
      exact holds
  | cons a rest ih =>
      intro s t holds all along ran
      obtain ⟨s', moved, ranRest⟩ := (M.run_cons_eq_some).mp ran
      obtain ⟨condition, alongRest⟩ := along s' moved
      exact ih (keeps holds (all a List.mem_cons_self) moved condition)
        (fun b member => all b (List.mem_cons_of_mem a member)) alongRest ranRest

/-! ## Refinement -/

/-- What the actions of a run emit, one after another. -/
def emitted {γ : Type*} (emit : σ → α → List γ) : σ → List α → List γ
  | _, [] => []
  | s, a :: rest => emit s a ++ ((M.step s a).map fun s' => emitted emit s' rest).getD []

/-- **Refinement.**  If under a condition each step is a run of an abstract machine, between
what the states stand for, a run whose steps all meet the condition is one as well; and its
actions are those that the steps have given, in this order. -/
theorem Along.refines {τ : Type*} {β : Type*} {γ : Type*} {N : Machine τ β} {I : σ → Prop}
    {Q : σ → α → σ → Prop} {abs : σ → τ} {emit : σ → α → List γ} {label : β → γ}
    (one : ∀ {s s' : σ} {a : α}, I s → M.step s a = some s' → Q s a s' →
      I s' ∧ ∃ bs, N.run (abs s) bs = some (abs s') ∧ bs.map label = emit s a) :
    ∀ {actions : List α} {s t : σ}, I s → M.Along Q s actions → M.run s actions = some t →
      ∃ bs, N.run (abs s) bs = some (abs t) ∧ bs.map label = M.emitted emit s actions := by
  intro actions
  induction actions with
  | nil =>
      intro s t _ _ ran
      cases ran
      exact ⟨[], rfl, rfl⟩
  | cons a rest ih =>
      intro s t holds along ran
      obtain ⟨s', moved, ranRest⟩ := (M.run_cons_eq_some).mp ran
      obtain ⟨condition, alongRest⟩ := along s' moved
      obtain ⟨holds', front, first, isFront⟩ := one holds moved condition
      obtain ⟨back, then_, isBack⟩ := ih holds' alongRest ranRest
      refine ⟨front ++ back, (N.run_append_eq_some).mpr ⟨abs s', first, then_⟩, ?_⟩
      rw [List.map_append, isFront, isBack, emitted, moved, Option.map_some, Option.getD_some]

end Machine

end Library
