import PropFlow.Notifications.Consumer

/-!
# Retries

`EventRetryHandler` is half of a loop; the other half is the broker's, which lets
a copy expire in the retry queue and puts it back.  Here the loop is closed, for
any bound on the attempts, any queue and any topology around it: a message is
followed from its first delivery to where it stays, while the handler succeeds or
fails as it likes.

## The loop

* `Subscription` — a queue with its routing key, and the two queues that
  `resilienceQueues` adds to it; the topology is those of all subscriptions, and the
  others have other names (`Subscription.Apart`);
* `handle` — what one delivery comes to, with the bound as a parameter; at the bound of
  the code it is `EventRetryHandler.republish` (`handle_error`);
* `retries` — the machine: a message is delivered, or expires.

## The counter

The counter of the loop is the `x-attempt` header, and `RetryInvariant` says what
ties it to the number of invocations that there have been.  The message is in exactly one
place, and `RetryState.left` bounds the steps that are left.

## The result

`BoundedRetries` has five parts: the message gets to where it stays, in so many steps at
most; the handler is invoked up to its first success or as often as is allowed; if all
attempts fail the event is in the dead-letter queue with the last error, and otherwise in
none; and no other consumer gets anything of it.  `boundedRetries` proves them.
-/

namespace PropFlow

open Library

/-! ## Any consumer -/

/-- A consumer of the events exchange. -/
structure Subscription where
  /-- The queue it consumes. -/
  queue : String
  /-- The key it is bound by. -/
  routingKey : String
deriving DecidableEq, Repr

namespace Subscription

/-- Its three queues, as `@RabbitSubscribe` and `resilienceQueues` declare them. -/
def queues (subscription : Subscription) : List QueueConfig :=
  [ { name := subscription.queue, exchange := some Exchanges.events
      routingKey := some subscription.routingKey, messageTtl := none, deadLetterExchange := none
      deadLetterRoutingKey := none },
    (resilienceQueues subscription.queue).1,
    (resilienceQueues subscription.queue).2 ]

/-- Their names. -/
def names (subscription : Subscription) : List String :=
  [subscription.queue, retryQueue subscription.queue, deadLetterQueue subscription.queue]

/-- Its queues, beside those of other consumers. -/
def topology (subscription : Subscription) (others : List Subscription) : List QueueConfig :=
  subscription.queues ++ others.flatMap queues

end Subscription

/-- The names of the queues that a message goes to.  Topics are routed by exact key. -/
def routeIn (topology : List QueueConfig) (exchange routingKey : String) : List String :=
  (topology.filter fun config =>
    if exchange = "" then config.name = routingKey
    else config.exchange = some exchange ∧ config.routingKey = some routingKey).map QueueConfig.name

/-- What an invocation of a handler ends with. -/
abbrev Outcome := Except Thrown Unit

namespace EventRetryHandler

/-- `handle(queue, event, message, handler)`: what it publishes, for any
`MAX_ATTEMPTS`. -/
def handle (maxAttempts : ℤ) (queue : String) (message : QueuedMessage) :
    Outcome → Option Publish
  | .ok () => none
  | .error error =>
      if attemptOf message < maxAttempts then
        some
          { exchange := "", routingKey := retryQueue queue
            message :=
              { event := message.event, attempt := .number (attemptOf message + 1)
                lastError := none }
            persistent := true }
      else
        some
          { exchange := Exchanges.deadLetter, routingKey := queue
            message :=
              { event := message.event, attempt := .number (attemptOf message)
                lastError := some error.text }
            persistent := true }

/-- With the bound and the queues of the service it is `republish`. -/
theorem handle_error (queue : WorkQueue) (message : QueuedMessage) (error : Thrown) :
    handle PropFlow.maxAttempts queue.text message (.error error) =
      some (republish queue message error) := by
  unfold handle republish
  split_ifs <;> rfl

end EventRetryHandler

/-! ## The loop -/

/-- The messages in the queues, by name, and the invocations so far. -/
structure RetryState where
  /-- The messages of each queue. -/
  ready : String → List QueuedMessage
  /-- How often the handler has been called. -/
  invocations : ℕ

/-- What the broker does next. -/
inductive RetryAction where
  /-- The first message of the queue is delivered and handled. -/
  | deliver
  /-- The first message of a queue with a TTL expires. -/
  | expire (config : QueueConfig)
deriving DecidableEq

namespace RetryState

/-- A message is added to the queues it is routed to. -/
def enqueue (s : RetryState) (names : List String) (message : QueuedMessage) : RetryState :=
  { s with ready := fun name => if name ∈ names then s.ready name ++ [message] else s.ready name }

/-- The first message leaves a queue. -/
def dequeue (s : RetryState) (name : String) : RetryState :=
  { s with ready := Function.update s.ready name (s.ready name).tail }

/-- One action.  `outcomes i` is what the invocation after `i` others ends with;
nothing crashes, and no publish fails. -/
def step (maxAttempts : ℤ) (topology : List QueueConfig) (queue : String) (outcomes : ℕ → Outcome)
    (s : RetryState) : RetryAction → Option RetryState
  | .deliver =>
      (s.ready queue).head?.map fun message =>
        let taken := { s.dequeue queue with invocations := s.invocations + 1 }
        match EventRetryHandler.handle maxAttempts queue message (outcomes s.invocations) with
        | none => taken
        | some copy => taken.enqueue (routeIn topology copy.exchange copy.routingKey) copy.message
  | .expire config =>
      if config ∈ topology ∧ config.messageTtl ≠ none then
        (s.ready config.name).head?.map fun message =>
          match config.deadLetterExchange, config.deadLetterRoutingKey with
          | some exchange, some routingKey =>
              (s.dequeue config.name).enqueue (routeIn topology exchange routingKey) message
          | _, _ => s.dequeue config.name
      else none

end RetryState

/-- The loop of one consumer, beside others. -/
def retries (maxAttempts : ℤ) (subscription : Subscription) (others : List Subscription)
    (outcomes : ℕ → Outcome) : Machine RetryState RetryAction where
  step := RetryState.step maxAttempts (subscription.topology others) subscription.queue outcomes

/-! ## Routing -/

/-- The other consumer shares no queue name. -/
def Subscription.Apart (subscription other : Subscription) : Prop :=
  ∀ name ∈ other.names, name ∉ subscription.names

/-- The three queues of a subscription have different names: -/
theorem ne_retryQueue (queue : String) : queue ≠ retryQueue queue := by
  intro same
  have length := congrArg String.length same
  simp [retryQueue] at length

/-- the suffixes are not empty, -/
theorem ne_deadLetterQueue (queue : String) : queue ≠ deadLetterQueue queue := by
  intro same
  have length := congrArg String.length same
  simp [deadLetterQueue] at length

/-- and differ. -/
theorem retryQueue_ne_deadLetterQueue (queue : String) :
    retryQueue queue ≠ deadLetterQueue queue := by
  intro same
  have length := congrArg String.length same
  rw [retryQueue, deadLetterQueue, String.length_append, String.length_append] at length
  exact absurd (Nat.add_left_cancel length) (by decide)

/-- Bindings of one part of a topology do not depend on the rest. -/
theorem routeIn_append (front back : List QueueConfig) (exchange routingKey : String) :
    routeIn (front ++ back) exchange routingKey =
      routeIn front exchange routingKey ++ routeIn back exchange routingKey := by
  simp [routeIn]

section Routing

variable {subscription : Subscription} {others : List Subscription}

/-- A consumer's queues have its names, and only its dead-letter queue is bound to
the dead-letter exchange, under the name of its work queue. -/
theorem Subscription.mem_queues {config : QueueConfig} (member : config ∈ subscription.queues) :
    config.name ∈ subscription.names ∧
      (config.exchange = some Exchanges.deadLetter →
        config.routingKey = some subscription.queue) := by
  simp only [Subscription.queues, List.mem_cons, List.not_mem_nil, or_false] at member
  rcases member with rfl | rfl | rfl
  · exact ⟨by simp [Subscription.names], by simp [Exchanges.events, Exchanges.deadLetter]⟩
  · exact ⟨by simp [Subscription.names, resilienceQueues], by simp [resilienceQueues]⟩
  · exact ⟨by simp [Subscription.names, resilienceQueues], by simp [resilienceQueues]⟩

/-- Nothing for a queue of this consumer goes to another one. -/
theorem routeIn_others (apart : ∀ other ∈ others, subscription.Apart other) {exchange key : String}
    (ours : exchange = "" ∧ key ∈ subscription.names ∨
      exchange = Exchanges.deadLetter ∧ key = subscription.queue) :
    routeIn (others.flatMap Subscription.queues) exchange key = [] := by
  unfold routeIn
  rw [List.map_eq_nil_iff, List.filter_eq_nil_iff]
  intro config member routed
  obtain ⟨other, isOther, isQueue⟩ := List.mem_flatMap.mp member
  obtain ⟨name, bound⟩ := Subscription.mem_queues isQueue
  rcases ours with ⟨rfl, isName⟩ | ⟨rfl, rfl⟩
  · simp only [if_true, decide_eq_true_eq] at routed
    exact apart other isOther config.name name (routed ▸ isName)
  · rw [if_neg (by decide), decide_eq_true_eq] at routed
    obtain ⟨exchange, key⟩ := routed
    rw [bound exchange, Option.some_inj] at key
    refine apart other isOther other.queue List.mem_cons_self ?_
    rw [key]
    exact List.mem_cons_self

variable (apart : ∀ other ∈ others, subscription.Apart other)

include apart

/-- A copy for another attempt gets to the retry queue only, -/
theorem routeIn_retryQueue :
    routeIn (subscription.topology others) "" (retryQueue subscription.queue) =
      [retryQueue subscription.queue] := by
  rw [Subscription.topology, routeIn_append,
    routeIn_others apart (Or.inl ⟨rfl, by simp [Subscription.names]⟩)]
  have notWork := ne_retryQueue subscription.queue
  have notDead := (retryQueue_ne_deadLetterQueue subscription.queue).symm
  simp [routeIn, Subscription.queues, resilienceQueues, notWork, notDead]

/-- what expires there gets back only, -/
theorem routeIn_queue :
    routeIn (subscription.topology others) "" subscription.queue = [subscription.queue] := by
  rw [Subscription.topology, routeIn_append,
    routeIn_others apart (Or.inl ⟨rfl, by simp [Subscription.names]⟩)]
  have notRetry := (ne_retryQueue subscription.queue).symm
  have notDead := (ne_deadLetterQueue subscription.queue).symm
  simp [routeIn, Subscription.queues, resilienceQueues, notRetry, notDead]

/-- and the last copy gets to the dead-letter queue only. -/
theorem routeIn_deadLetter :
    routeIn (subscription.topology others) Exchanges.deadLetter subscription.queue =
      [deadLetterQueue subscription.queue] := by
  rw [Subscription.topology, routeIn_append, routeIn_others apart (Or.inr ⟨rfl, rfl⟩)]
  simp [routeIn, Subscription.queues, resilienceQueues, Exchanges.deadLetter, Exchanges.events]

/-- What can expire in one of its queues is what waits in the retry queue. -/
theorem eq_retryConfig_of_expires {config : QueueConfig}
    (member : config ∈ subscription.topology others) (ttl : config.messageTtl ≠ none)
    (isName : config.name ∈ subscription.names) :
    config = (resilienceQueues subscription.queue).1 := by
  rcases List.mem_append.mp member with own | other
  · simp only [Subscription.queues, List.mem_cons, List.not_mem_nil, or_false] at own
    rcases own with rfl | rfl | rfl
    · exact absurd rfl ttl
    · rfl
    · exact absurd rfl ttl
  · obtain ⟨other, isOther, isQueue⟩ := List.mem_flatMap.mp other
    exact absurd isName (apart other isOther _ (Subscription.mem_queues isQueue).1)

end Routing

/-! ## The counter -/

namespace RetryState

/-- One message, in one queue. -/
def only (name : String) (message : QueuedMessage) (invocations : ℕ) : RetryState where
  ready := fun n => if n = name then [message] else []
  invocations := invocations

/-- All queues are empty. -/
def empty (invocations : ℕ) : RetryState := ⟨fun _ => [], invocations⟩

/-- One message in one queue, -/
theorem enqueue_empty (name : String) (message : QueuedMessage) (invocations : ℕ) :
    (empty invocations).enqueue [name] message = only name message invocations := by
  simp [empty, enqueue, only]

/-- and none when it is taken. -/
theorem dequeue_only (name : String) (message : QueuedMessage) (invocations : ℕ) :
    (only name message invocations).dequeue name = empty invocations := by
  unfold dequeue only empty
  congr 1
  funext n
  by_cases same : n = name
  · subst same
    simp
  · simp [same]

/-- A message that can be taken is that one. -/
theorem head?_only {name name' : String} {message m : QueuedMessage} {invocations : ℕ}
    (taken : ((only name message invocations).ready name').head? = some m) :
    name' = name ∧ m = message := by
  unfold only at taken
  dsimp only at taken
  split_ifs at taken with same
  · exact ⟨same, (Option.some.inj taken).symm⟩
  · cases taken

end RetryState

/-- The first `n` invocations fail. -/
def AllFail (outcomes : ℕ → Outcome) (n : ℕ) : Prop := ∀ i < n, outcomes i ≠ .ok ()

/-- One more attempt has failed. -/
theorem AllFail.succ {outcomes : ℕ → Outcome} {n : ℕ} (before : AllFail outcomes n)
    (last : outcomes n ≠ .ok ()) : AllFail outcomes (n + 1) := by
  intro i less
  rcases Nat.lt_succ_iff_lt_or_eq.mp less with earlier | rfl
  · exact before i earlier
  · exact last

open EventRetryHandler in
/-- Where the message is, and that its header counts the invocations. -/
inductive RetryInvariant (maxAttempts : ℕ) (queue : String) (outcomes : ℕ → Outcome)
    (event : WorkOrderEvent) : RetryState → Prop where
  /-- in the work queue -/
  | waiting {failed : ℕ} {message} (attempt : attemptOf message = failed + 1)
      (same : message.event = event) (left : failed < maxAttempts)
      (fails : AllFail outcomes failed) :
      RetryInvariant maxAttempts queue outcomes event (.only queue message failed)
  /-- in the retry queue -/
  | parked {failed : ℕ} {message} (attempt : attemptOf message = failed + 1)
      (same : message.event = event) (left : failed < maxAttempts)
      (fails : AllFail outcomes failed) :
      RetryInvariant maxAttempts queue outcomes event (.only (retryQueue queue) message failed)
  /-- nowhere: the last invocation has succeeded -/
  | handled {failed : ℕ} (left : failed < maxAttempts) (fails : AllFail outcomes failed)
      (succeeds : outcomes failed = .ok ()) :
      RetryInvariant maxAttempts queue outcomes event (.empty (failed + 1))
  /-- in the dead-letter queue -/
  | buried {error} (fails : AllFail outcomes maxAttempts)
      (last : outcomes (maxAttempts - 1) = .error error) :
      RetryInvariant maxAttempts queue outcomes event
        (.only (deadLetterQueue queue) ⟨event, .number maxAttempts, some error.text⟩ maxAttempts)

/-- A bound on the steps that are left. -/
def RetryState.left (maxAttempts : ℕ) (queue : String) (s : RetryState) : ℕ :=
  2 * (maxAttempts - s.invocations) + (s.ready (retryQueue queue)).length

section Counter

variable {maxAttempts : ℕ} {subscription : Subscription} {others : List Subscription}
  {outcomes : ℕ → Outcome} {event : WorkOrderEvent} {s s' : RetryState} {a : RetryAction}

/-- A message without a counter is at its first attempt. -/
theorem RetryInvariant.start {message : QueuedMessage} (positive : 1 ≤ maxAttempts)
    (first : ∀ n, message.attempt ≠ .number n) :
    RetryInvariant maxAttempts subscription.queue outcomes message.event
      (.only subscription.queue message 0) := by
  refine .waiting ?_ rfl positive fun i less => absurd less (Nat.not_lt_zero i)
  unfold EventRetryHandler.attemptOf
  cases header : message.attempt with
  | absent => rfl
  | number n => exact absurd header (first n)
  | other text => rfl

/-- What a delivery does to a message that waits. -/
theorem step_deliver (apart : ∀ other ∈ others, subscription.Apart other) {failed : ℕ}
    {message : QueuedMessage} (attempt : EventRetryHandler.attemptOf message = failed + 1) :
    (retries maxAttempts subscription others outcomes).step
        (.only subscription.queue message failed) .deliver =
      some (match outcomes failed with
        | .ok () => .empty (failed + 1)
        | .error error =>
            if failed + 1 < maxAttempts then
              .only (retryQueue subscription.queue)
                ⟨message.event, .number (failed + 1 + 1), none⟩ (failed + 1)
            else
              .only (deadLetterQueue subscription.queue)
                ⟨message.event, .number (failed + 1), some error.text⟩ (failed + 1)) := by
  have taken : { (RetryState.only subscription.queue message failed).dequeue subscription.queue with
      invocations := failed + 1 } = RetryState.empty (failed + 1) := by
    rw [RetryState.dequeue_only]
    rfl
  have head : ((RetryState.only subscription.queue message failed).ready
      subscription.queue).head? = some message := by
    simp [RetryState.only]
  show RetryState.step maxAttempts (subscription.topology others) subscription.queue outcomes
    (.only subscription.queue message failed) .deliver = _
  simp only [RetryState.step, head, Option.map_some, Option.some_inj]
  change (match EventRetryHandler.handle _ _ _ (outcomes failed) with
    | none => _
    | some copy => _) = _
  cases outcomes failed with
  | ok => exact taken
  | error error =>
      rw [EventRetryHandler.handle, attempt]
      by_cases again : failed + 1 < maxAttempts
      · have less : (failed : ℤ) + 1 < maxAttempts := by exact_mod_cast again
        simp only [if_pos again, if_pos less]
        rw [routeIn_retryQueue apart]
        exact (congrArg (RetryState.enqueue · _ _) taken).trans (RetryState.enqueue_empty _ _ _)
      · have notLess : ¬ (failed : ℤ) + 1 < maxAttempts := by exact_mod_cast again
        simp only [if_neg again, if_neg notLess]
        rw [routeIn_deadLetter apart]
        exact (congrArg (RetryState.enqueue · _ _) taken).trans (RetryState.enqueue_empty _ _ _)

/-- What expires in the retry queue goes back to the work queue. -/
theorem step_expire (apart : ∀ other ∈ others, subscription.Apart other) (failed : ℕ)
    (message : QueuedMessage) :
    (retries maxAttempts subscription others outcomes).step
        (.only (retryQueue subscription.queue) message failed)
        (.expire (resilienceQueues subscription.queue).1) =
      some (.only subscription.queue message failed) := by
  have declared : (resilienceQueues subscription.queue).1 ∈ subscription.topology others ∧
      (resilienceQueues subscription.queue).1.messageTtl ≠ none := by
    simp [Subscription.topology, Subscription.queues, resilienceQueues]
  have head : ((RetryState.only (retryQueue subscription.queue) message failed).ready
      (resilienceQueues subscription.queue).1.name).head? = some message := by
    simp [RetryState.only, resilienceQueues]
  show RetryState.step maxAttempts (subscription.topology others) subscription.queue outcomes
    (.only (retryQueue subscription.queue) message failed)
    (.expire (resilienceQueues subscription.queue).1) = _
  simp only [RetryState.step, if_pos declared, head, Option.map_some, Option.some_inj]
  show ((RetryState.only (retryQueue subscription.queue) message failed).dequeue
    (retryQueue subscription.queue)).enqueue
      (routeIn (subscription.topology others) "" subscription.queue) message = _
  rw [routeIn_queue apart, RetryState.dequeue_only, RetryState.enqueue_empty]

/-- Only the message of a queue of the consumer can be delivered or expire, and
then it is in its work queue or in its retry queue. -/
theorem step_only (apart : ∀ other ∈ others, subscription.Apart other) {name : String}
    (isName : name ∈ subscription.names) {message : QueuedMessage} {invocations : ℕ}
    (moved : (retries maxAttempts subscription others outcomes).step
      (.only name message invocations) a = some s') :
    (name = subscription.queue ∧ a = .deliver) ∨
      (name = retryQueue subscription.queue ∧
        a = .expire (resilienceQueues subscription.queue).1) := by
  cases a with
  | deliver =>
      obtain ⟨m, taken, -⟩ := Option.map_eq_some_iff.mp moved
      exact Or.inl ⟨(RetryState.head?_only taken).1.symm, rfl⟩
  | expire config =>
      change RetryState.step maxAttempts (subscription.topology others) subscription.queue outcomes
        (.only name message invocations) (.expire config) = some s' at moved
      rw [RetryState.step] at moved
      split_ifs at moved with declared
      obtain ⟨m, taken, -⟩ := Option.map_eq_some_iff.mp moved
      have same := (RetryState.head?_only taken).1
      have isRetry := eq_retryConfig_of_expires apart declared.1 declared.2 (same ▸ isName)
      subst isRetry
      exact Or.inr ⟨same.symm, rfl⟩

/-- Nothing happens to empty queues. -/
theorem step_empty {invocations : ℕ} :
    (retries maxAttempts subscription others outcomes).step (.empty invocations) a = none := by
  cases a with
  | deliver => rfl
  | expire config =>
      show RetryState.step maxAttempts (subscription.topology others) subscription.queue outcomes
        (.empty invocations) (.expire config) = none
      rw [RetryState.step]
      split_ifs
      · rfl
      · rfl

/-- **Every step keeps it, and there is less to come.** -/
theorem RetryInvariant.step (apart : ∀ other ∈ others, subscription.Apart other)
    (invariant : RetryInvariant maxAttempts subscription.queue outcomes event s)
    (moved : (retries maxAttempts subscription others outcomes).step s a = some s') :
    RetryInvariant maxAttempts subscription.queue outcomes event s' ∧
      s'.left maxAttempts subscription.queue < s.left maxAttempts subscription.queue := by
  have notRetry := ne_retryQueue subscription.queue
  have notDead := ne_deadLetterQueue subscription.queue
  have apartQueues := retryQueue_ne_deadLetterQueue subscription.queue
  cases invariant with
  | @waiting failed message attempt same left fails =>
      rcases step_only apart (by simp [Subscription.names]) moved with ⟨-, rfl⟩ | ⟨isRetry, -⟩
      · rw [step_deliver apart attempt] at moved
        cases outcome : outcomes failed with
        | ok =>
            rw [outcome] at moved
            cases moved
            refine ⟨.handled left fails outcome, ?_⟩
            simp [RetryState.left, RetryState.only, RetryState.empty]
            omega
        | error error =>
            have fails' := fails.succ (by rw [outcome]; nofun)
            rw [outcome] at moved
            by_cases again : failed + 1 < maxAttempts
            · simp only [if_pos again, Option.some_inj] at moved
              subst moved
              refine ⟨.parked (by simp [EventRetryHandler.attemptOf]) same again fails', ?_⟩
              simp [RetryState.left, RetryState.only, notRetry.symm]
              omega
            · -- the last attempt
              obtain rfl : failed + 1 = maxAttempts := by omega
              simp only [if_neg again, Option.some_inj] at moved
              subst moved
              rw [same]
              refine ⟨.buried fails' outcome, ?_⟩
              simp [RetryState.left, RetryState.only, apartQueues]
      · exact absurd isRetry notRetry
  | @parked failed message attempt same left fails =>
      rcases step_only apart (by simp [Subscription.names]) moved with ⟨isWork, -⟩ | ⟨-, rfl⟩
      · exact absurd isWork.symm notRetry
      · rw [step_expire apart] at moved
        cases moved
        refine ⟨.waiting attempt same left fails, ?_⟩
        simp [RetryState.left, RetryState.only, notRetry.symm]
  | handled =>
      rw [step_empty] at moved
      cases moved
  | buried =>
      rcases step_only apart (by simp [Subscription.names]) moved with ⟨isWork, -⟩ | ⟨isRetry, -⟩
      · exact absurd isWork.symm notDead
      · exact absurd isRetry.symm apartQueues

/-- A message that no longer moves has been handled or buried. -/
theorem RetryInvariant.quiet (apart : ∀ other ∈ others, subscription.Apart other)
    (invariant : RetryInvariant maxAttempts subscription.queue outcomes event s)
    (quiet : (retries maxAttempts subscription others outcomes).Quiet s) :
    (∃ failed < maxAttempts, AllFail outcomes failed ∧ outcomes failed = .ok () ∧
        s = .empty (failed + 1)) ∨
      ∃ error, AllFail outcomes maxAttempts ∧ outcomes (maxAttempts - 1) = .error error ∧
        s = .only (deadLetterQueue subscription.queue)
          ⟨event, .number maxAttempts, some error.text⟩ maxAttempts := by
  cases invariant with
  | waiting attempt =>
      have stuck := quiet .deliver
      rw [step_deliver apart attempt] at stuck
      cases stuck
  | parked =>
      have stuck := quiet (.expire (resilienceQueues subscription.queue).1)
      rw [step_expire apart] at stuck
      cases stuck
  | handled left fails succeeds => exact Or.inl ⟨_, left, fails, succeeds, rfl⟩
  | buried fails last => exact Or.inr ⟨_, fails, last, rfl⟩

end Counter

/-- The `k`th invocation, counted from one, is the first that succeeds. -/
def FirstSuccess (outcomes : ℕ → Outcome) (k : ℕ) : Prop :=
  0 < k ∧ outcomes (k - 1) = .ok () ∧ AllFail outcomes (k - 1)

/-- The first success comes after the failures. -/
theorem FirstSuccess.eq {outcomes : ℕ → Outcome} {k failed : ℕ} (first : FirstSuccess outcomes k)
    (fails : AllFail outcomes failed) (succeeds : outcomes failed = .ok ()) : k = failed + 1 := by
  obtain ⟨positive, ok, before⟩ := first
  have notEarlier : ¬ k - 1 < failed := fun early => fails (k - 1) early ok
  have notLater : ¬ failed < k - 1 := fun late => before failed late succeeds
  omega

/-- **Retries are bounded, and dead-lettering is exact.** -/
structure BoundedRetries (maxAttempts : ℕ) (subscription : Subscription)
    (others : List Subscription) (outcomes : ℕ → Outcome) (message : QueuedMessage) : Prop where
  /-- Whatever has happened, the message gets to where it stays. -/
  ends : ∀ s, (retries maxAttempts subscription others outcomes).Reachable
    (.only subscription.queue message 0) s →
      ∃ t, (retries maxAttempts subscription others outcomes).Reachable s t ∧
        (retries maxAttempts subscription others outcomes).Quiet t
  /-- It takes no more than a delivery and an expiry for each attempt. -/
  bounded : ∀ actions s, (retries maxAttempts subscription others outcomes).run
    (.only subscription.queue message 0) actions = some s → actions.length ≤ 2 * maxAttempts
  /-- The handler is invoked up to its first success, or `maxAttempts` times. -/
  invocations : ∀ s, (retries maxAttempts subscription others outcomes).Reachable
    (.only subscription.queue message 0) s →
      (retries maxAttempts subscription others outcomes).Quiet s →
        (∀ k, FirstSuccess outcomes k → s.invocations = min k maxAttempts) ∧
          ((∀ k, ¬ FirstSuccess outcomes k) → s.invocations = maxAttempts)
  /-- If all of them fail, the event is in the dead-letter queue, once, with the last
  error; otherwise it is in no queue. -/
  deadLetter : ∀ s, (retries maxAttempts subscription others outcomes).Reachable
    (.only subscription.queue message 0) s →
      (retries maxAttempts subscription others outcomes).Quiet s →
        (AllFail outcomes maxAttempts → ∃ error, outcomes (maxAttempts - 1) = .error error ∧
          s.ready = fun name => if name = deadLetterQueue subscription.queue then
            [⟨message.event, .number maxAttempts, some error.text⟩] else []) ∧
        (¬ AllFail outcomes maxAttempts → s.ready = fun _ => [])
  /-- No other consumer ever gets anything of it. -/
  isolated : ∀ s, (retries maxAttempts subscription others outcomes).Reachable
    (.only subscription.queue message 0) s →
      ∀ other ∈ others, ∀ name ∈ other.names, s.ready name = []

/-- **Retries are bounded**, whatever the handler does. -/
theorem boundedRetries (maxAttempts : ℕ) (positive : 1 ≤ maxAttempts) (subscription : Subscription)
    (others : List Subscription) (apart : ∀ other ∈ others, subscription.Apart other)
    (outcomes : ℕ → Outcome) (message : QueuedMessage)
    (first : ∀ n, message.attempt ≠ .number n) :
    BoundedRetries maxAttempts subscription others outcomes message := by
  have start : RetryInvariant maxAttempts subscription.queue outcomes message.event
      (.only subscription.queue message 0) := .start positive first
  have reach : ∀ {s}, (retries maxAttempts subscription others outcomes).Reachable
      (.only subscription.queue message 0) s →
        RetryInvariant maxAttempts subscription.queue outcomes message.event s := fun reached =>
    Machine.Reachable.invariant _ (fun invariant moved => (invariant.step apart moved).1) start
      reached
  constructor
  case ends =>
    intro s reached
    exact Machine.exists_quiet _ (fun invariant moved => RetryInvariant.step apart invariant moved)
      (reach reached)
  case bounded =>
    -- every step makes what is left smaller, which was two for each attempt
    intro actions s ran
    have length := Machine.length_le_of_decreasing _
      (fun invariant moved => RetryInvariant.step apart invariant moved) start ran
    have left : RetryState.left maxAttempts subscription.queue
        (.only subscription.queue message 0) = 2 * maxAttempts := by
      simp [RetryState.left, RetryState.only, (ne_retryQueue subscription.queue).symm]
    omega
  case invocations =>
    intro s reached quiet
    -- nothing can happen any more, so the message was handled or is buried
    rcases (reach reached).quiet apart quiet with
      ⟨failed, left, fails, succeeds, rfl⟩ | ⟨error, fails, last, rfl⟩
    · refine ⟨fun k isFirst => ?_, fun never => ?_⟩
      · have same := isFirst.eq fails succeeds
        show failed + 1 = min k maxAttempts
        omega
      · exact absurd ⟨failed.succ_pos, succeeds, fails⟩ (never (failed + 1))
    · refine ⟨fun k isFirst => ?_, fun _ => rfl⟩
      have beyond : maxAttempts ≤ k - 1 :=
        Nat.not_lt.mp fun early => fails (k - 1) early isFirst.2.1
      show maxAttempts = min k maxAttempts
      omega
  case deadLetter =>
    intro s reached quiet
    rcases (reach reached).quiet apart quiet with
      ⟨failed, left, fails, succeeds, rfl⟩ | ⟨error, fails, last, rfl⟩
    · exact ⟨fun all => absurd succeeds (all failed left), fun _ => rfl⟩
    · exact ⟨fun _ => ⟨error, last, rfl⟩, fun not => absurd fails not⟩
  case isolated =>
    intro s reached other isOther name isName
    have notOurs := apart other isOther name isName
    simp only [Subscription.names, List.mem_cons, List.not_mem_nil, or_false, not_or] at notOurs
    cases reach reached with
    | waiting => exact if_neg notOurs.1
    | parked => exact if_neg notOurs.2.1
    | handled => rfl
    | buried => exact if_neg notOurs.2.2

/-! The two consumers of the service. -/

/-- A queue of the service is subscribed to its event type. -/
def WorkQueue.subscription (queue : WorkQueue) : Subscription :=
  ⟨queue.text, queue.eventType.text⟩

/-- The two do not share a queue. -/
theorem WorkQueue.apart {queue other : WorkQueue} (ne : other ≠ queue) :
    queue.subscription.Apart other.subscription := by
  unfold Subscription.Apart
  revert ne
  cases queue <;> cases other <;> decide

/-- Mail is down for two attempts. -/
def twoFailures : ℕ → Outcome
  | 0 | 1 => .error (.error "smtp down")
  | _ => .ok ()

/-- Two attempts fail, and the third succeeds. -/
theorem boundedRetries_twoFailures :
    BoundedRetries 3 WorkQueue.created.subscription [WorkQueue.completed.subscription] twoFailures
      tapMessage :=
  boundedRetries 3 (by decide) _ _
    (fun _ member => List.mem_singleton.mp member ▸ WorkQueue.apart (by decide)) twoFailures
    tapMessage nofun

end PropFlow
