import PropFlow.Audit.Stream
import PropFlow.Library.Keyset
import PropFlow.Validation

/-!
# The activity feed

`ActivityFeedService.list` and a client that reads the feed to its end: it starts
without a cursor and passes back each `nextCursor` until there is none, while
rows are inserted between its requests.

## The model

* `list` — one page: the query is validated, the rows are selected below the cursor, one
  more than fits is fetched, and `nextCursor` is the id of the last row that fits if there
  are more;
* `FeedTable` — an audit table as the database keeps it: ids are unique;
* `feed` — the machine of a client and a table.  The client may ask for pages of any size,
  a different one each time; any row with a new id may be inserted between.

## The argument

A page is a keyset page of the rows of the filter (`list_eq`), so the traversal
is `Library.Keyset.Collected` (`FeedInvariant`).  What is left to say here is that the
cursor survives its trip through the client as a text (`bigint_toString`), and that a page
which has a `nextCursor` is never empty.

## The results

* `exactTraversal` — over every run: the ids descend over all pages, the rows that were
  there at the start come once each, every request is answered, `nextCursor` is null
  exactly on the last page, and there are finitely many requests;
* `FeedRead` — if the rows inserted meanwhile have higher ids, as those of a sequence do,
  what is received is exactly what was there at the first request
  (`FeedRead.received_eq`).
-/

namespace PropFlow

open Library Library.Keyset Library.CivilTime

/-! ## The query -/

/-- The text matches `/^\d+$/`. -/
def IsDigits (text : String) : Prop := text ≠ "" ∧ ∀ c ∈ text.toList, c.isDigit = true

instance (text : String) : Decidable (IsDigits text) :=
  decidable_of_iff (text ≠ "" ∧ text.toList.all Char.isDigit = true)
    (and_congr_right fun _ => List.all_eq_true)

/-- `ListActivityQueryDto`, after validation. -/
structure ListActivityQueryDto where
  limit : PageLimit := ⟨20, by decide, by decide⟩
  cursor : Option String
  workOrderId : Option Uuid
  cursor_digits : ∀ text ∈ cursor, IsDigits text

/-- The number a text of digits stands for, as `bigint` reads it. -/
def bigint (text : String) : ℕ := Nat.ofDigitChars 10 text.toList 0

/-- A number is read back from its digits, -/
@[simp] theorem bigint_repr (n : ℕ) : bigint n.repr = n := by
  unfold bigint
  simp

/-- as the cursor of a page is. -/
theorem bigint_toString (n : ℕ) : bigint (toString n) = n := bigint_repr n

/-- It passes its validation as well. -/
theorem isDigits_toString (n : ℕ) : IsDigits (toString n) := by
  constructor
  · intro empty
    have length := congrArg (fun text => text.toList.length) empty
    simp [toString] at length
  · intro c member
    change c ∈ (Nat.repr n).toList at member
    rw [Nat.toList_repr] at member
    exact Nat.isDigit_of_mem_toDigits (by decide) (by decide) member

/-- The statement `list` runs. -/
structure FeedQuery where
  /-- `id < :cursor`, if there is one. -/
  below : Option ℕ
  /-- `workOrderId = :id`, if it is asked for. -/
  workOrderId : Option Uuid
  /-- One row more than the page has. -/
  take : ℕ
deriving DecidableEq

/-- The row is of the work order, if one was asked for. -/
def Matches (workOrderId : Option Uuid) (row : AuditEvent) : Prop :=
  ∀ id ∈ workOrderId, row.workOrderId = id

instance (workOrderId : Option Uuid) (row : AuditEvent) : Decidable (Matches workOrderId row) :=
  inferInstanceAs (Decidable (∀ id ∈ workOrderId, row.workOrderId = id))

/-- `getMany()`. -/
def FeedQuery.getMany (query : FeedQuery) (table : AuditTable) : List AuditEvent :=
  ((table.rows.filter fun row => Under AuditEvent.id query.below row ∧
      Matches query.workOrderId row).insertionSort fun a b => b.id ≤ a.id).take query.take

/-! ## The service -/

/-- An entry of the feed. -/
structure ActivityItem where
  id : String
  eventType : String
  workOrderId : Uuid
  propertyId : Uuid
  correlationId : Option String
  actorId : Option String
  occurredAt : String
  payload : WorkOrderEventData
deriving DecidableEq

/-- A page of the feed. -/
structure ActivityPage where
  data : List ActivityItem
  nextCursor : Option String
deriving DecidableEq

namespace ActivityFeedService

/-- What `list` maps a row to. -/
def item (row : AuditEvent) : ActivityItem where
  id := toString row.id
  eventType := row.eventType
  workOrderId := row.workOrderId
  propertyId := row.propertyId
  correlationId := row.correlationId
  actorId := row.actorId
  occurredAt := toISOString row.occurredAt
  payload := row.payload

/-- The query builder of `list`. -/
def select (query : ListActivityQueryDto) : FeedQuery where
  -- `if (query.cursor)`
  below := (query.cursor.filter (· ≠ "")).map bigint
  workOrderId := query.workOrderId
  take := query.limit.val + 1

/-- `list(query)`.  `none` is the TypeError of reading the last row of an empty page. -/
def list (table : AuditTable) (query : ListActivityQueryDto) : Option ActivityPage := do
  let rows := (select query).getMany table
  let hasMore := query.limit.val < rows.length
  let page := if hasMore then rows.take query.limit.val else rows
  let nextCursor ←
    if hasMore then do
      let last ← page.getLast?
      pure (some (toString last.id))
    else pure none
  pure { data := page.map item, nextCursor }

end ActivityFeedService

/-! ## The traversal -/

/-- `audit_events` with its primary key. -/
structure FeedTable extends AuditTable where
  /-- `id` is the primary key, and a `bigserial`. -/
  unique : (rows.map AuditEvent.id).Nodup

/-- Another row, under a fresh id. -/
def FeedTable.insert (table : FeedTable) (row : AuditEvent)
    (fresh : row.id ∉ table.rows.map AuditEvent.id) : FeedTable where
  rows := table.rows ++ [row]
  nextId := table.nextId
  unique := by
    rw [List.map_append, List.map_singleton]
    refine List.nodup_append.mpr ⟨table.unique, List.nodup_singleton _, ?_⟩
    rintro id member id' isNew rfl
    exact fresh (List.mem_singleton.mp isNew ▸ member)

/-- Where the client is. -/
inductive FeedClient where
  /-- It asks for the next page with this cursor. -/
  | at (cursor : Option String)
  /-- It has been told that there is no next page. -/
  | finished
deriving DecidableEq

/-- The table, what the client has received, and where it is. -/
structure FeedState where
  /-- the rows, which only become more -/
  table : FeedTable
  /-- the items of all pages so far, in their order -/
  received : List ActivityItem
  /-- what it will ask for next -/
  client : FeedClient

/-- Between two requests rows may be inserted. -/
inductive FeedAction where
  /-- An audit row is inserted. -/
  | insert (row : AuditEvent)
  /-- The client asks for the next page, with any limit. -/
  | request (limit : PageLimit)

namespace FeedState

/-- The client has not asked yet. -/
def start (table : FeedTable) : FeedState := ⟨table, [], .at none⟩

/-- The client gets a page. -/
def receive (s : FeedState) (page : ActivityPage) : FeedState where
  table := s.table
  received := s.received ++ page.data
  client :=
    match page.nextCursor with
    | none => .finished
    | some cursor => .at (some cursor)

/-- One action.  A cursor that fails validation gets the client no page. -/
def step (workOrderId : Option Uuid) (s : FeedState) : FeedAction → Option FeedState
  | .insert row =>
      if fresh : row.id ∉ s.table.rows.map AuditEvent.id then
        some { s with table := s.table.insert row fresh }
      else none
  | .request limit =>
      match s.client with
      | .finished => none
      | .at cursor =>
          if valid : ∀ text ∈ cursor, IsDigits text then
            (ActivityFeedService.list s.table.toAuditTable
              ⟨limit, cursor, workOrderId, valid⟩).map s.receive
          else none

end FeedState

/-- A client of the feed of a work order, or of all of them, beside the inserts. -/
def feed (workOrderId : Option Uuid) : Machine FeedState FeedAction where
  step := FeedState.step workOrderId

/-! ## One page -/

/-- The rows a traversal is about. -/
def FeedTable.matching (table : FeedTable) (workOrderId : Option Uuid) : List AuditEvent :=
  table.rows.filter fun row => Matches workOrderId row

/-- The rows that the filter lets through. -/
theorem FeedTable.mem_matching {table : FeedTable} {workOrderId : Option Uuid} {row : AuditEvent} :
    row ∈ table.matching workOrderId ↔ row ∈ table.rows ∧ Matches workOrderId row := by
  unfold FeedTable.matching
  rw [List.mem_filter, decide_eq_true_eq]

/-- Their ids are unique as well. -/
theorem FeedTable.unique_matching (table : FeedTable) (workOrderId : Option Uuid) :
    ((table.matching workOrderId).map AuditEvent.id).Nodup :=
  table.unique.sublist (List.filter_sublist.map AuditEvent.id)

/-- A cursor that was an id is that id again in the next query. -/
theorem select_below (limit : PageLimit) (bound : Option ℕ) (workOrderId : Option Uuid)
    (valid : ∀ text ∈ bound.map toString, IsDigits text) :
    (ActivityFeedService.select ⟨limit, bound.map toString, workOrderId, valid⟩).below = bound := by
  cases bound with
  | none => rfl
  | some c => simp [ActivityFeedService.select]

/-- The statement reads one row more than the page. -/
theorem getMany_eq (table : FeedTable) (limit : PageLimit) (bound : Option ℕ)
    (workOrderId : Option Uuid) (valid : ∀ text ∈ bound.map toString, IsDigits text) :
    (ActivityFeedService.select ⟨limit, bound.map toString, workOrderId, valid⟩).getMany
        table.toAuditTable =
      (under AuditEvent.id (table.matching workOrderId) bound).take (limit.val + 1) := by
  unfold FeedQuery.getMany
  rw [select_below]
  unfold under FeedTable.matching
  rw [List.filter_filter]
  simp only [Bool.decide_and]
  rfl

/-- **A page of the feed is a keyset page**, and is always answered. -/
theorem list_eq (table : FeedTable) (limit : PageLimit) (bound : Option ℕ)
    (workOrderId : Option Uuid) (valid : ∀ text ∈ bound.map toString, IsDigits text) :
    ∃ page next, ActivityFeedService.list table.toAuditTable
        ⟨limit, bound.map toString, workOrderId, valid⟩ =
        some ⟨page.map ActivityFeedService.item, next.map toString⟩ ∧
      IsPage AuditEvent.id (table.matching workOrderId) bound page next := by
  have isPage := isPage_take (table.unique_matching workOrderId) bound limit.pos
  have rows := getMany_eq table limit bound workOrderId valid
  refine ⟨_, _, ?_, isPage⟩
  unfold ActivityFeedService.list
  rw [rows]
  generalize under AuditEvent.id (table.matching workOrderId) bound = found
  have hasMore : limit.val < (found.take (limit.val + 1)).length ↔ limit.val < found.length := by
    rw [List.length_take]
    omega
  simp only [hasMore]
  split_ifs with more
  · have fits : (found.take (limit.val + 1)).take limit.val = found.take limit.val := by
      rw [List.take_take, Nat.min_eq_left (Nat.le_succ _)]
    have nonempty : found.take limit.val ≠ [] := by
      intro empty
      have length := congrArg List.length empty
      rw [List.length_take_of_le more.le] at length
      exact absurd limit.pos (by rw [length]; decide)
    rw [fits, List.getLast?_eq_some_getLast nonempty]
    rfl
  · have whole : found.take (limit.val + 1) = found.take limit.val := by
      rw [List.take_of_length_le (by omega), List.take_of_length_le (by omega)]
    rw [whole]
    rfl

/-! ## The whole traversal -/

/-- The client asks for the rest of what is described by a keyset bound. -/
def FeedClient.ofRest : Option (Option ℕ) → FeedClient
  | none => .finished
  | some bound => .at (bound.map toString)

/-- A bound on the ids that are left. -/
def FeedClient.left : FeedClient → WithTop ℕ
  | .finished => 0
  | .at none => ⊤
  | .at (some cursor) => ((bigint cursor + 1 : ℕ) : WithTop ℕ)

/-- What the client has got, of the rows of the start. -/
def FeedInvariant (workOrderId : Option Uuid) (start : FeedTable) (s : FeedState) : Prop :=
  (∀ row ∈ start.rows, row ∈ s.table.rows) ∧
    ∃ received rest, s.received = received.map ActivityFeedService.item ∧
      s.client = .ofRest rest ∧
        Collected AuditEvent.id (start.matching workOrderId) received rest

section Traversal

variable {workOrderId : Option Uuid} {start : FeedTable} {s s' : FeedState}

/-- It holds before the first request. -/
theorem FeedInvariant.initial (workOrderId : Option Uuid) (start : FeedTable) :
    FeedInvariant workOrderId start (.start start) :=
  ⟨fun _ member => member, [], some none, rfl, rfl, .initial _ _⟩

/-- **What a request does**: the page below the client's bound, of the table as it
is now. -/
theorem request_eq (workOrderId : Option Uuid) (limit : PageLimit) {bound : Option ℕ}
    (client : s.client = .ofRest (some bound)) :
    ∃ page next,
      (feed workOrderId).step s (.request limit) =
        some ⟨s.table, s.received ++ page.map ActivityFeedService.item,
          .ofRest (next.map some)⟩ ∧
      IsPage AuditEvent.id (s.table.matching workOrderId) bound page next := by
  have valid : ∀ text ∈ bound.map toString, IsDigits text := by
    intro text isCursor
    obtain ⟨c, -, rfl⟩ := Option.map_eq_some_iff.mp isCursor
    exact isDigits_toString c
  obtain ⟨page, next, answered, isPage⟩ := list_eq s.table limit bound workOrderId valid
  refine ⟨page, next, ?_, isPage⟩
  show FeedState.step workOrderId s (.request limit) = _
  rw [FeedState.step, client]
  simp only [FeedClient.ofRest]
  rw [dif_pos valid, answered]
  cases next <;> rfl

/-- **Every step keeps it**: a request collects a page, and an insert adds to what is left
or to what was missed. -/
theorem FeedInvariant.step {a : FeedAction} (invariant : FeedInvariant workOrderId start s)
    (moved : (feed workOrderId).step s a = some s') : FeedInvariant workOrderId start s' := by
  obtain ⟨kept, received, rest, receivedEq, client, collected⟩ := invariant
  cases a with
  | insert row =>
      change FeedState.step workOrderId s (.insert row) = some s' at moved
      rw [FeedState.step] at moved
      split_ifs at moved
      cases moved
      refine ⟨fun row' member => ?_, received, rest, receivedEq, client, collected⟩
      exact List.mem_append_left _ (kept row' member)
  | request limit =>
      cases rest with
      | none =>
          change FeedState.step workOrderId s (.request limit) = some s' at moved
          rw [FeedState.step, client] at moved
          cases moved
      | some bound =>
          obtain ⟨page, next, answered, isPage⟩ := request_eq workOrderId limit client
          rw [answered] at moved
          cases moved
          refine ⟨kept, received ++ page, next.map some, ?_, rfl, collected.page ?_ isPage⟩
          · rw [List.map_append, receivedEq]
          · intro row member
            rw [FeedTable.mem_matching] at member ⊢
            exact ⟨kept row member.1, member.2⟩

/-- So it holds throughout the traversal. -/
theorem FeedInvariant.of_reachable
    (reached : (feed workOrderId).Reachable (.start start) s) :
    FeedInvariant workOrderId start s :=
  Machine.Reachable.invariant (feed workOrderId)
    (fun invariant moved => FeedInvariant.step invariant moved) (.initial workOrderId start) reached

/-- The ids that the client gets descend, over all pages. -/
theorem FeedInvariant.descending (invariant : FeedInvariant workOrderId start s) :
    (s.received.map fun item => bigint item.id).Pairwise (· > ·) := by
  obtain ⟨-, received, rest, receivedEq, -, collected⟩ := invariant
  rw [receivedEq, List.map_map, List.pairwise_map]
  refine collected.descending.imp fun {row row'} less => ?_
  show bigint (toString row'.id) < bigint (toString row.id)
  rwa [bigint_toString, bigint_toString]

/-- A request moves the client down, an insert leaves it where it is. -/
theorem FeedInvariant.client_step {a : FeedAction} (invariant : FeedInvariant workOrderId start s)
    (moved : (feed workOrderId).step s a = some s') :
    (s'.client = s.client ∧ ∀ limit, a ≠ .request limit) ∨ s'.client.left < s.client.left := by
  obtain ⟨-, received, rest, -, client, -⟩ := invariant
  cases a with
  | insert row =>
      change FeedState.step workOrderId s (.insert row) = some s' at moved
      rw [FeedState.step] at moved
      split_ifs at moved
      cases moved
      exact Or.inl ⟨rfl, fun limit => nofun⟩
  | request limit =>
      right
      cases rest with
      | none =>
          change FeedState.step workOrderId s (.request limit) = some s' at moved
          rw [FeedState.step, client] at moved
          cases moved
      | some bound =>
          obtain ⟨page, next, answered, isPage⟩ := request_eq workOrderId limit client
          rw [answered] at moved
          cases moved
          rw [client]
          cases bound with
          | none => cases next <;> simp [FeedClient.ofRest, FeedClient.left]
          | some c =>
              cases next with
              | none => simp [FeedClient.ofRest, FeedClient.left]
              | some c' =>
                  have less := isPage.next_lt rfl rfl
                  simp only [FeedClient.ofRest, FeedClient.left, Option.map_some, bigint_toString]
                  exact WithTop.coe_lt_coe.mpr (Nat.succ_lt_succ less)

end Traversal

/-- **The traversal of the feed is exact**, for the rows of the table it starts with. -/
structure ExactTraversal (workOrderId : Option Uuid) (start : FeedTable) : Prop where
  /-- Over all pages the ids descend, so no row comes twice. -/
  descending : ∀ s, (feed workOrderId).Reachable (.start start) s →
    (s.received.map fun item => bigint item.id).Pairwise (· > ·)
  /-- Every row is received once by a client that has got to the end. -/
  complete : ∀ s, (feed workOrderId).Reachable (.start start) s → s.client = .finished →
    ∀ row ∈ start.rows, Matches workOrderId row →
      s.received.count (ActivityFeedService.item row) = 1
  /-- A request is always answered: no page fails, and no cursor is rejected. -/
  answered : ∀ s, (feed workOrderId).Reachable (.start start) s → s.client ≠ .finished →
    ∀ limit, ∃ s', (feed workOrderId).step s (.request limit) = some s'
  /-- `nextCursor` is null exactly when no matching row was below the page. -/
  nextCursor : ∀ s s' limit, (feed workOrderId).Reachable (.start start) s →
    (feed workOrderId).step s (.request limit) = some s' →
      ∃ cursor page, s.client = .at cursor ∧ s'.received = s.received ++ page ∧
        (s'.client = .finished ↔ ¬ ∃ row ∈ s.table.rows, Matches workOrderId row ∧
          (∀ c ∈ cursor, row.id < bigint c) ∧ ∀ item ∈ page, row.id < bigint item.id)
  /-- The client gets to the end, whatever is inserted meanwhile. -/
  finite : ∀ (states : ℕ → FeedState) (actions : ℕ → FeedAction), states 0 = .start start →
    (∀ n, (feed workOrderId).step (states n) (actions n) = some (states (n + 1))) →
      {n | ∃ limit, actions n = .request limit}.Finite

/-- **The traversal is exact.** -/
theorem exactTraversal (workOrderId : Option Uuid) (start : FeedTable) :
    ExactTraversal workOrderId start where
  descending := fun s reached => (FeedInvariant.of_reachable reached).descending
  complete := by
    intro s reached finished row isRow matching
    have invariant := FeedInvariant.of_reachable reached
    -- ids descend strictly, so nothing comes twice
    have once : s.received.Nodup := List.Nodup.of_map _ (invariant.descending.imp ne_of_gt)
    obtain ⟨-, received, rest, receivedEq, client, collected⟩ := invariant
    have isReceived : row ∈ received := by
      rcases collected.covers row (FeedTable.mem_matching.mpr ⟨isRow, matching⟩) with
        here | ⟨bound, isRest, -⟩
      · exact here
      · rw [Option.mem_def.mp isRest, finished] at client
        cases client
    rw [receivedEq] at once ⊢
    exact List.count_eq_one_of_mem once (List.mem_map_of_mem isReceived)
  answered := by
    intro s reached unfinished limit
    obtain ⟨-, received, rest, -, client, -⟩ := FeedInvariant.of_reachable reached
    cases rest with
    | none => exact absurd client unfinished
    | some bound =>
        obtain ⟨page, next, answered, -⟩ := request_eq workOrderId limit client
        exact ⟨_, answered⟩
  nextCursor := by
    intro s s' limit reached moved
    obtain ⟨-, received, rest, -, client, -⟩ := FeedInvariant.of_reachable reached
    cases rest with
    | none =>
        change FeedState.step workOrderId s (.request limit) = some s' at moved
        rw [FeedState.step, client] at moved
        cases moved
    | some bound =>
        obtain ⟨page, next, answered, isPage⟩ := request_eq workOrderId limit client
        rw [answered] at moved
        cases moved
        refine ⟨bound.map toString, page.map ActivityFeedService.item, client, rfl, ?_⟩
        have last : FeedClient.ofRest (next.map some) = .finished ↔ next = none := by
          cases next <;> simp [FeedClient.ofRest]
        rw [last, isPage.next_eq_none_iff]
        simp only [FeedTable.mem_matching, and_assoc, Under, ActivityFeedService.item,
          List.forall_mem_map, Option.forall_mem_map, bigint_toString]
  finite := by
    intro states actions first runs
    -- the pages left to ask for become fewer with each request, and inserts add none
    refine (feed workOrderId).finite_of_decreasing (μ := fun s => s.client.left)
      (I := FeedInvariant workOrderId start) (A := fun a => ∃ limit, a = .request limit)
      (fun invariant moved => invariant.step moved) ?_ ?_
      (first ▸ .initial workOrderId start) runs
    · intro s s' a invariant moved
      rcases invariant.client_step moved with ⟨same, -⟩ | less
      · rw [same]
      · exact less.le
    · rintro s s' a invariant ⟨limit, isRequest⟩ moved
      exact (invariant.client_step moved).resolve_left fun same => same.2 limit isRequest

/-! ## What is inserted meanwhile

The ids of `audit_events` come from a sequence.  A row that is inserted once the client has
its first page is above everything that the client has still to ask for.
-/

section

variable {workOrderId : Option Uuid} {start : FeedTable} {next : ℕ} {s s' : FeedState}
  {a : FeedAction}

/-- Only rows with an id from the sequence are inserted. -/
def FeedAction.From (next : ℕ) : FeedAction → Prop
  | .insert row => next ≤ row.id
  | .request _ => True

/-- The client has its first page of the table, and has got rows of that table only. -/
structure FeedRead (workOrderId : Option Uuid) (start : FeedTable) (next : ℕ) (s : FeedState) :
    Prop where
  /-- The rows of the first page's table are still there, and the others are newer. -/
  table : (∀ row ∈ start.rows, row ∈ s.table.rows) ∧
    ∀ row ∈ s.table.rows, row ∈ start.rows ∨ next ≤ row.id
  /-- What has been received is the newest of them, and the rest is below the bound. -/
  client : ∃ received rest, s.received = received.map ActivityFeedService.item ∧
    s.client = .ofRest rest ∧
      Collected AuditEvent.id (start.matching workOrderId) received rest ∧
        (∀ row ∈ received, row ∈ start.matching workOrderId) ∧
          ∀ bound ∈ rest, ∃ c ∈ bound, c < next

/-- The first page is one of the table as it is. -/
theorem FeedRead.first (below : ∀ row ∈ start.rows, row.id < next) {limit : PageLimit}
    (moved : (feed workOrderId).step (.start start) (.request limit) = some s) :
    FeedRead workOrderId start next s := by
  obtain ⟨page, rest, answered, isPage⟩ :=
    @request_eq (.start start) workOrderId limit none rfl
  rw [answered] at moved
  cases moved
  have collected := (Collected.initial AuditEvent.id (start.matching workOrderId)).page
    (fun _ member => member) isPage
  refine ⟨⟨fun _ member => member, fun _ member => Or.inl member⟩, page, rest.map some, rfl, rfl,
    collected, fun row member => (isPage.mem row member).1, ?_⟩
  rintro _ isRest
  obtain ⟨c, isNext, rfl⟩ := Option.map_eq_some_iff.mp isRest
  obtain ⟨row, onPage, rfl⟩ := isPage.last c isNext
  exact ⟨row.id, rfl, below row (FeedTable.mem_matching.mp (isPage.mem row onPage).1).1⟩

/-- Every step keeps it, if the rows that come are above those that were there. -/
theorem FeedRead.step (read : FeedRead workOrderId start next s) (isFrom : a.From next)
    (moved : (feed workOrderId).step s a = some s') : FeedRead workOrderId start next s' := by
  obtain ⟨⟨kept, others⟩, received, rest, receivedEq, client, collected, only, below⟩ := read
  cases a with
  | insert row =>
      change FeedState.step workOrderId s (.insert row) = some s' at moved
      rw [FeedState.step] at moved
      split_ifs at moved
      cases moved
      refine ⟨⟨fun row' member => List.mem_append_left _ (kept row' member), ?_⟩, received, rest,
        receivedEq, client, collected, only, below⟩
      intro row' member
      rcases List.mem_append.mp member with old | new
      · exact others row' old
      · rw [List.mem_singleton.mp new]
        exact Or.inr isFrom
  | request limit =>
      cases rest with
      | none =>
          change FeedState.step workOrderId s (.request limit) = some s' at moved
          rw [FeedState.step, client] at moved
          cases moved
      | some bound =>
          obtain ⟨c, isBound, less⟩ := below bound rfl
          obtain ⟨page, rest, answered, isPage⟩ := request_eq workOrderId limit client
          rw [answered] at moved
          cases moved
          -- what is below the bound was there at the start
          have onPage : ∀ row ∈ page, row ∈ start.matching workOrderId := by
            intro row member
            obtain ⟨isRow, isUnder⟩ := isPage.mem row member
            obtain ⟨isRow, isMatch⟩ := FeedTable.mem_matching.mp isRow
            refine FeedTable.mem_matching.mpr ⟨(others row isRow).resolve_right fun late => ?_,
              isMatch⟩
            exact absurd (isUnder c isBound) (Nat.not_lt.mpr (less.le.trans late))
          have all : ∀ row ∈ start.matching workOrderId, row ∈ s.table.matching workOrderId := by
            intro row member
            rw [FeedTable.mem_matching] at member ⊢
            exact ⟨kept row member.1, member.2⟩
          refine ⟨⟨kept, others⟩, received ++ page, rest.map some, ?_, rfl,
            collected.page all isPage, ?_, ?_⟩
          · rw [List.map_append, receivedEq]
          · exact fun row member => (List.mem_append.mp member).elim (only row) (onPage row)
          · rintro _ isRest
            obtain ⟨c', isNext, rfl⟩ := Option.map_eq_some_iff.mp isRest
            exact ⟨c', rfl, (isPage.next_lt isNext isBound).trans less⟩

/-- A feed that is being read is a feed. -/
theorem FeedRead.invariant (read : FeedRead workOrderId start next s) :
    FeedInvariant workOrderId start s := by
  obtain ⟨⟨kept, -⟩, received, rest, receivedEq, client, collected, -⟩ := read
  exact ⟨kept, received, rest, receivedEq, client, collected⟩

/-- The client can read to the end. -/
theorem FeedRead.exists_finished (read : FeedRead workOrderId start next s) (limit : PageLimit) :
    ∃ requests t, (∀ a ∈ requests, a = .request limit) ∧
      (feed workOrderId).run s requests = some t ∧ t.client = .finished := by
  induction left : s.client.left using WellFoundedLT.induction generalizing s with
  | ind _ ih =>
      subst left
      obtain ⟨received, rest, -, client, -⟩ := read.client
      cases rest with
      | none => exact ⟨[], s, fun _ absent => absurd absent List.not_mem_nil, rfl, client⟩
      | some bound =>
          obtain ⟨page, rest, answered, -⟩ := request_eq workOrderId limit client
          have lower := (read.invariant.client_step answered).resolve_left
            fun same => same.2 limit rfl
          obtain ⟨requests, t, all, ran, finished⟩ :=
            ih _ lower (read.step (a := .request limit) trivial answered) rfl
          refine ⟨.request limit :: requests, t, ?_, ?_, finished⟩
          · exact List.forall_mem_cons.mpr ⟨rfl, all⟩
          · exact (Machine.run_cons_eq_some _).mpr ⟨_, answered, ran⟩

/-- **A client that reads the feed to its end has the rows as they were when it began**, the
newest first. -/
theorem FeedRead.received_eq (read : FeedRead workOrderId start next s)
    (ascending : start.rows.Pairwise fun row row' => row.id < row'.id)
    (finished : s.client = .finished) :
    s.received = (start.matching workOrderId).reverse.map ActivityFeedService.item := by
  obtain ⟨-, received, rest, receivedEq, client, collected, only, -⟩ := read
  cases rest with
  | none => rw [receivedEq, collected.eq_reverse only (ascending.filter _)]
  | some bound =>
      rw [finished] at client
      cases client

/-- The first request makes it so, and the others keep it. -/
theorem FeedRead.of_run (below : ∀ row ∈ start.rows, row.id < next) {limit : PageLimit}
    {actions : List FeedAction} (isFrom : ∀ a ∈ actions, a.From next)
    (ran : (feed workOrderId).run (.start start) (.request limit :: actions) = some s) :
    FeedRead workOrderId start next s := by
  obtain ⟨first, asked, rest⟩ := (Machine.run_cons_eq_some _).mp ran
  exact Machine.invariant_of_run_of (feed workOrderId)
    (fun read isFrom moved => FeedRead.step read isFrom moved) (.first below asked) isFrom rest

end

end PropFlow
