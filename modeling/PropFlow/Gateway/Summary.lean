import PropFlow.Gateway.PassThrough
import PropFlow.ListQueries

/-!
# The property summary

`PropertySummaryService.getSummary`: two calls at once, of which the property's decides
whether there is a summary, and the other one whether it has work orders.

## The two calls

The calls settle in either order (`settle`), and the promise of the summary settles when
`Promise.all` does: with the first rejection, or with the last of the two.  A rejected list
is caught before, with a warning (`enrichment`).  `settled_getSummary` says after any order
of the two what has come of them, which does not depend on the order.

## What is listed

The work orders come from the list route of their service, which has pages.  The summary
asks for one, of fifty, through the query of that route (`validate_summaryRequest`).
`ListSettles` says what the call for them can come to, given the content of the table.

## The result

`Summarises` is what a summary is to be: the property and its work orders, all of them, or
none and a warning if they were unavailable, or the error of the property.
`summarises_iff` says when it is: unless there are more than fifty work orders, and the
property and a page of them have arrived.
-/

namespace PropFlow

open Library Library.OffsetPages

/-! ## The two calls -/

/-- The two calls of a summary. -/
inductive SummaryCall where
  /-- `properties.getById(propertyId)` -/
  | getById
  /-- `workOrders.list({ propertyId, limit: '50' })` -/
  | list
deriving DecidableEq, Repr

/-- What the calls settle with: `ε` and `P` are the errors and the properties of the first
one.  A response without content is `undefined`, here `none`. -/
structure SummaryResults (ε P : Type) where
  /-- Of the property: without it there is no summary. -/
  getById : Except ε P
  /-- Of its work orders: without them the summary is degraded. -/
  list : Except Thrown (Option (PaginatedResult WorkOrder))

/-- `PropertySummary`. -/
structure PropertySummary (P : Type) where
  property : P
  workOrders : Option (List WorkOrder)
  workOrdersAvailable : Bool
deriving DecidableEq

/-- The state of a call of `getSummary`: what `Promise.all` has so far, and what it has
settled with. -/
structure SummaryState (ε P : Type) where
  /-- The property, once it is there. -/
  property : Option P
  /-- The enrichment, once it is there: a page, or `null` in its place. -/
  workOrders : Option (Nullish (PaginatedResult WorkOrder))
  /-- What the call has resolved or rejected with. -/
  outcome : Option (Except ε (PropertySummary P))
  /-- What the logger has been told. -/
  warnings : List String

namespace PropertySummaryService

variable {ε P : Type}

/-- The object that `getSummary` returns. -/
def summary (property : P) (workOrders : Nullish (PaginatedResult WorkOrder)) :
    PropertySummary P where
  property := property
  -- `workOrders?.data ?? null`
  workOrders := (workOrders.map PaginatedResult.data).orNull
  workOrdersAvailable := workOrders ≠ .null

/-- `this.workOrders.list(…).catch(…)`: what it resolves to. -/
def enrichment : Except Thrown (Option (PaginatedResult WorkOrder)) →
    Nullish (PaginatedResult WorkOrder)
  | .error _ => .null
  | .ok none => .undefined
  | .ok (some page) => .value page

/-- The warning of the `catch`. -/
def warning (propertyId : String) (error : Thrown) : String :=
  "work orders unavailable for summary of " ++ propertyId ++ ": " ++ error.text

/-- Neither call has settled. -/
def start : SummaryState ε P := ⟨none, none, none, []⟩

/-- `Promise.all` resolves once both results are there, unless it has settled. -/
def resolve (property : Option P) (workOrders : Option (Nullish (PaginatedResult WorkOrder)))
    (outcome : Option (Except ε (PropertySummary P))) : Option (Except ε (PropertySummary P)) :=
  match property, workOrders with
  | some property, some workOrders => outcome.or (some (.ok (summary property workOrders)))
  | _, _ => outcome

/-- One of the calls settles. -/
def settle (propertyId : String) (results : SummaryResults ε P) (s : SummaryState ε P) :
    SummaryCall → SummaryState ε P
  | .getById =>
      match results.getById with
      | .error error => { s with outcome := s.outcome.or (some (.error error)) }
      | .ok property =>
          { s with
            property := some property
            outcome := resolve (some property) s.workOrders s.outcome }
  | .list =>
      { s with
        workOrders := some (enrichment results.list)
        outcome := resolve s.property (some (enrichment results.list)) s.outcome
        warnings := s.warnings ++
          match results.list with
          | .error error => [warning propertyId error]
          | .ok _ => [] }

/-- `getSummary(propertyId)`, once the calls have settled that are in `order`. -/
def getSummary (propertyId : String) (results : SummaryResults ε P) (order : List SummaryCall) :
    SummaryState ε P :=
  order.foldl (settle propertyId results) start

/-! ## Any order -/

/-- **What has become of the summary**: nothing without the property, its error if there
is one, and else it waits for the work orders. -/
def expected (results : SummaryResults ε P) (order : List SummaryCall) :
    Option (Except ε (PropertySummary P)) :=
  match results.getById with
  | .error error => if .getById ∈ order then some (.error error) else none
  | .ok property =>
      if .getById ∈ order ∧ .list ∈ order then
        some (.ok (summary property (enrichment results.list)))
      else none

/-- What the calls that have settled have left. -/
structure Settled (results : SummaryResults ε P) (order : List SummaryCall)
    (s : SummaryState ε P) : Prop where
  /-- It is there exactly when its call has resolved. -/
  property : s.property = if .getById ∈ order then results.getById.toOption else none
  /-- It is there when its call has settled, in whatever way. -/
  workOrders : s.workOrders = if .list ∈ order then some (enrichment results.list) else none
  /-- The outcome is there as soon as it is certain. -/
  outcome : s.outcome = expected results order

section Step

variable {results : SummaryResults ε P} {order : List SummaryCall} {s : SummaryState ε P}

/-- The property's call settles. -/
theorem Settled.getById (settled : Settled results order s) (propertyId : String) :
    Settled results (order ++ [.getById]) (settle propertyId results s .getById) := by
  obtain ⟨property, workOrders, outcome⟩ := settled
  unfold settle
  cases first : results.getById with
  | error error =>
      refine ⟨by simp [property, first, Except.toOption], by simpa using workOrders, ?_⟩
      by_cases got : .getById ∈ order
      · simp [outcome, expected, first, got]
      · simp [outcome, expected, first, got]
  | ok p =>
      refine ⟨by simp [first, Except.toOption], by simpa using workOrders, ?_⟩
      by_cases listed : .list ∈ order
      · by_cases got : .getById ∈ order
        · simp [resolve, outcome, workOrders, expected, first, listed, got]
        · simp [resolve, outcome, workOrders, expected, first, listed, got]
      · simp [resolve, outcome, workOrders, expected, first, listed]

/-- The work orders' call settles. -/
theorem Settled.list (settled : Settled results order s) (propertyId : String) :
    Settled results (order ++ [.list]) (settle propertyId results s .list) := by
  obtain ⟨property, workOrders, outcome⟩ := settled
  unfold settle
  refine ⟨by simpa using property, by simp, ?_⟩
  by_cases got : .getById ∈ order
  · cases first : results.getById with
    | error error => simp [resolve, outcome, property, expected, first, got, Except.toOption]
    | ok p =>
        by_cases listed : .list ∈ order
        · simp [resolve, outcome, property, expected, first, got, listed, Except.toOption]
        · simp [resolve, outcome, property, expected, first, got, listed, Except.toOption]
  · simp only [resolve, outcome, property, if_neg got]
    cases first : results.getById with
    | error error => simp [expected, first, got]
    | ok p => simp [expected, first, got]

/-- **Any calls, in any order.** -/
theorem settled_getSummary (propertyId : String) (results : SummaryResults ε P)
    (order : List SummaryCall) : Settled results order (getSummary propertyId results order) := by
  induction order using List.reverseRecOn with
  | nil =>
      refine ⟨rfl, rfl, ?_⟩
      cases first : results.getById <;> simp [getSummary, start, expected, first]
  | append_singleton order call ih =>
      have step : getSummary propertyId results (order ++ [call]) =
          settle propertyId results (getSummary propertyId results order) call := by
        unfold getSummary
        rw [List.foldl_append]
        rfl
      rw [step]
      cases call with
      | getById => exact ih.getById propertyId
      | list => exact ih.list propertyId

end Step

end PropertySummaryService

/-! ## What is listed -/

/-- `{ propertyId, limit: '50' }`. -/
def summaryQuery (propertyId : String) : ParsedQuery :=
  .ofPairs [("propertyId", propertyId), ("limit", "50")]

/-- The size of its page. -/
def summaryLimit : PageLimit := ⟨50, by decide, by decide⟩

/-- The query as the service has it. -/
def summaryDto (id : Uuid) : QueryWorkOrdersDto where
  status := none
  priority := none
  propertyId := some id
  limit := summaryLimit
  page_pos := Nat.one_pos

section Listed

variable (validator : ClassValidator) (others : String → Option Binary64.Value)
  (malformed : List Char → String)

/-- The query that the service parses of the path that the client gets. -/
def summaryRequest (propertyId : String) : ParsedQuery :=
  .parse malformed (queryOf (WorkOrdersClient.listPath (summaryQuery propertyId)))

/-- **What a call of the list can settle with**: any failure, or a page that the service
has made for the query it was sent. -/
inductive ListSettles (content : Content WorkOrder) (propertyId : String) :
    Except Thrown (Option (PaginatedResult WorkOrder)) → Prop where
  /-- The call fails. -/
  | rejected (error : Thrown) : ListSettles content propertyId (.error error)
  /-- The service accepts the query, and answers with a page. -/
  | answered {dto : QueryWorkOrdersDto} {answer : List WorkOrder × ℕ}
      (accepted : QueryWorkOrdersDto.validate validator others
        (summaryRequest malformed propertyId) = some dto)
      (read : Answers content (WorkOrdersService.findOptions dto) answer) :
      ListSettles content propertyId (.ok (some (WorkOrdersService.findAll dto answer)))

/-- The keys of its query. -/
theorem get_summaryQuery (propertyId key : String) :
    (summaryQuery propertyId).get key =
      if key = "propertyId" then some (.string propertyId)
      else if key = "limit" then some (.string "50") else none := by
  have entries : (summaryQuery propertyId).entries =
      [("propertyId", .string propertyId), ("limit", .string "50")] := rfl
  unfold ParsedQuery.get
  rw [entries, List.lookup_cons, List.lookup_cons, List.lookup_nil]
  by_cases isId : key = "propertyId"
  · simp [isId]
  · by_cases isLimit : key = "limit"
    · simp [isLimit]
    · rw [beq_false_of_ne isId, beq_false_of_ne isLimit, if_neg isId, if_neg isLimit]

/-- The service gets what was written. -/
theorem get_summaryRequest (propertyId key : String) :
    (summaryRequest malformed propertyId).get key = (summaryQuery propertyId).get key := by
  have room : (summaryQuery propertyId).entries.length ≤ ParsedQuery.maxKeys := by
    show 2 ≤ 1000
    decide
  have values : (summaryRequest malformed propertyId).valuesOf key =
      (((summaryQuery propertyId).get key).map fun value => [value.toText]).getD [] := by
    unfold summaryRequest WorkOrdersClient.listPath
    rw [queryOf_withSearch (by decide)]
    exact valuesOf_parse_urlSearchParams malformed room key
  rw [get_summaryQuery] at values ⊢
  split_ifs at values ⊢
  · exact ParsedQuery.valuesOf_eq_singleton_iff.mp values
  · exact ParsedQuery.valuesOf_eq_singleton_iff.mp values
  · exact ParsedQuery.valuesOf_eq_nil_iff.mp values

/-- The limit is valid. -/
theorem isPageLimit_fifty :
    isPageLimit others (some (.string "50")) = some summaryLimit := by
  have fifty : number others "50" = Binary64.ofNat 50 := if_pos (by decide)
  obtain ⟨value, finite, isFifty⟩ := Option.map_eq_some_iff.mp
    (Binary64.map_val_ofNat_of_lt (show 50 < 2 ^ 53 by decide))
  simp only [isPageLimit, isString, Option.bind_some, fifty, finite, isFifty]
  rfl

/-- **The query is accepted of any uuid**, and asks for the first page. -/
theorem validate_summaryRequest (propertyId : String) :
    QueryWorkOrdersDto.validate validator others (summaryRequest malformed propertyId) =
      (validator.isUUID propertyId).map summaryDto := by
  have value : ∀ key, (summaryRequest malformed propertyId).value key =
      ((summaryQuery propertyId).get key).map QueryValue.json := by
    intro key
    rw [ParsedQuery.value, get_summaryRequest]
  have whitelisted : (summaryRequest malformed propertyId).whitelisted
      ["status", "priority", "propertyId", "page", "limit"] = true := by
    refine List.all_eq_true.mpr fun entry member => decide_eq_true ?_
    have found := ParsedQuery.get_eq_some_iff.mpr member
    rw [get_summaryRequest, get_summaryQuery] at found
    split_ifs at found with isId isLimit
    · simp [isId]
    · simp [isLimit]
  simp only [QueryWorkOrdersDto.validate, whitelisted, value, get_summaryQuery]
  cases isUuid : validator.isUUID propertyId with
  | none => simp [isOptional, isString, QueryValue.json, isUuid]
  | some id =>
      simp [isOptional, isString, QueryValue.json, isUuid, isPageLimit_fifty, Nullish.orNull,
        summaryDto, firstPage]

end Listed

/-! ## What a summary is to be -/

/-- The work orders of a property. -/
def ordersOf (content : Content WorkOrder) (id : Uuid) : List WorkOrder :=
  content.rows.filter fun row => row.propertyId = id

variable {ε P : Type}

/-- **Complete, or openly degraded.** -/
structure Summarises (content : Content WorkOrder) (id : Uuid) (results : SummaryResults ε P)
    (outcome : Except ε (PropertySummary P)) : Prop where
  /-- The summary fails exactly when the property does, and with its error. -/
  rejects_iff : ∀ error, outcome = .error error ↔ results.getById = .error error
  /-- The flag is up exactly when the list was answered. -/
  available_iff : ∀ summary, outcome = .ok summary →
    (summary.workOrdersAvailable = true ↔ ∃ page, results.list = .ok page)
  /-- There are no work orders exactly when the flag is down. -/
  null_iff : ∀ summary, outcome = .ok summary →
    (summary.workOrders = none ↔ summary.workOrdersAvailable = false)
  /-- **An available list has every order of the property, once.** -/
  complete : ∀ summary, outcome = .ok summary → summary.workOrdersAvailable = true →
    ∀ orders ∈ summary.workOrders, ∀ row ∈ ordersOf content id, orders.count row = 1

section Summarised

variable {content : Content WorkOrder} {id : Uuid} {results : SummaryResults ε P}

/-- Without the property there is no summary. -/
theorem summarises_of_rejected {error : ε} (rejected : results.getById = .error error) :
    Summarises content id results (.error error) where
  rejects_iff := fun _ => by rw [rejected, Except.error.injEq, Except.error.injEq]
  available_iff := fun _ resolved => nomatch resolved
  null_iff := fun _ resolved => nomatch resolved
  complete := fun _ resolved => nomatch resolved

/-- Without the list, the summary says so. -/
theorem summarises_of_unavailable {property : P} {error : Thrown}
    (got : results.getById = .ok property) (rejected : results.list = .error error) :
    Summarises content id results (.ok (PropertySummaryService.summary property .null)) where
  rejects_iff := fun _ => by simp [got]
  available_iff := by
    rintro _ ⟨⟩
    simp [PropertySummaryService.summary, rejected]
  null_iff := by
    rintro _ ⟨⟩
    simp [PropertySummaryService.summary, Nullish.map, Nullish.orNull]
  complete := by
    rintro _ ⟨⟩ available
    simp [PropertySummaryService.summary] at available

/-- With the list, it is right if the list has all of them. -/
theorem summarises_of_available_iff {property : P} {page : PaginatedResult WorkOrder}
    (got : results.getById = .ok property) (listed : results.list = .ok (some page)) :
    Summarises content id results (.ok (PropertySummaryService.summary property (.value page))) ↔
      ∀ row ∈ ordersOf content id, page.data.count row = 1 := by
  constructor
  · intro summarises
    exact summarises.complete _ rfl rfl page.data rfl
  · intro whole
    constructor
    case rejects_iff => exact fun _ => by simp [got]
    case available_iff =>
      rintro _ ⟨⟩
      simp [PropertySummaryService.summary, listed]
    case null_iff =>
      rintro _ ⟨⟩
      simp [PropertySummaryService.summary, Nullish.map, Nullish.orNull]
    case complete =>
      rintro _ ⟨⟩ - orders ⟨⟩
      exact whole

/-- The query selects the work orders of the property. -/
theorem filter_findOptions (content : Content WorkOrder) (id : Uuid) :
    content.rows.filter (WorkOrdersService.findOptions (summaryDto id)).selects =
      ordersOf content id := by
  refine List.filter_congr fun row _ => decide_eq_decide.mpr ?_
  simp [QueryWorkOrdersDto.Matches, summaryDto]

/-- What the list has of the property. -/
theorem count_findAll_iff {answer : List WorkOrder × ℕ}
    (read : Answers content (WorkOrdersService.findOptions (summaryDto id)) answer) :
    (∀ row ∈ ordersOf content id,
        (WorkOrdersService.findAll (summaryDto id) answer).data.count row = 1) ↔
      (ordersOf content id).length ≤ 50 := by
  have window := read.1
  rw [filter_findOptions] at window
  exact window.count_eq_one_iff (content.distinct.filter _)

end Summarised

/-- **When the summary is complete or openly degraded**: when the property has at most
fifty work orders, or one of the calls fails.  Whichever settles first, there is a
summary once both have, or the error. -/
theorem summarises_iff (validator : ClassValidator) (others : String → Option Binary64.Value)
    (malformed : List Char → String) (content : Content WorkOrder) {propertyId : String} {id : Uuid}
    (isId : validator.isUUID propertyId = some id) (results : SummaryResults ε P)
    (settles : ListSettles validator others malformed content propertyId results.list)
    {order : List SummaryCall} (both : order.Perm [.getById, .list]) :
    ∃ outcome, (PropertySummaryService.getSummary propertyId results order).outcome =
        some outcome ∧
      (Summarises content id results outcome ↔
        (∃ error, results.getById = .error error) ∨ (∃ error, results.list = .error error) ∨
          (ordersOf content id).length ≤ 50) := by
  have first : .getById ∈ order := both.mem_iff.mpr (by decide)
  have second : .list ∈ order := both.mem_iff.mpr (by decide)
  rw [(PropertySummaryService.settled_getSummary propertyId results order).outcome,
    PropertySummaryService.expected]
  cases got : results.getById with
  | error error =>
      refine ⟨.error error, if_pos first, ?_⟩
      exact iff_of_true (summarises_of_rejected got) (Or.inl ⟨error, rfl⟩)
  | ok property =>
      refine ⟨_, if_pos ⟨first, second⟩, ?_⟩
      generalize isList : results.list = list at settles
      cases settles with
      | rejected error =>
          exact iff_of_true (summarises_of_unavailable got isList) (Or.inr (Or.inl ⟨error, rfl⟩))
      | answered accepted read =>
          -- the query that the summary sends is valid, and its limit is 50
          rw [validate_summaryRequest, isId] at accepted
          cases accepted
          rw [PropertySummaryService.enrichment, summarises_of_available_iff got isList,
            count_findAll_iff read]
          simp

/-! A property and nothing but its work orders. -/

/-- The `n`th work order of Mill House. -/
def millOrder (n : ℕ) : WorkOrder where
  id := .numbered n
  title := "Leaking tap"
  description := "The kitchen tap drips."
  propertyId := millHouse.id
  priority := .medium
  status := WorkOrderStatus.open
  assigneeId := none
  triageCategory := none
  triageUrgency := none
  triageReasoning := none
  triagedAt := none
  createdAt := .epoch

/-- They are different orders. -/
theorem millOrder_injective : Function.Injective millOrder :=
  fun _ _ same => Uuid.numbered_injective (congrArg WorkOrder.id same)

/-- The table when there are `n`. -/
def millOrders (n : ℕ) : Content WorkOrder where
  rows := (List.range n).map millOrder
  createdAt := fun _ => 0
  distinct := List.nodup_range.map millOrder_injective

/-- The page that the service makes of it. -/
def millPage (n : ℕ) : PaginatedResult WorkOrder :=
  WorkOrdersService.findAll (summaryDto millHouse.id) ((millOrders n).rows.take 50, n)

/-- Both calls succeed. -/
def millResults (n : ℕ) : SummaryResults Thrown Property := ⟨.ok millHouse, .ok (some (millPage n))⟩

/-- All of them are about the property, -/
theorem ordersOf_millOrders (n : ℕ) :
    ordersOf (millOrders n) millHouse.id = (millOrders n).rows := by
  refine List.filter_eq_self.mpr fun row member => decide_eq_true ?_
  obtain ⟨i, -, rfl⟩ := List.mem_map.mp member
  rfl

/-- and there are so many. -/
theorem length_ordersOf_millOrders (n : ℕ) : (ordersOf (millOrders n) millHouse.id).length = n := by
  rw [ordersOf_millOrders]
  exact (List.length_map _).trans List.length_range

/-- The database answers with the first fifty. -/
theorem answers_millOrders (n : ℕ) :
    Answers (millOrders n) (WorkOrdersService.findOptions (summaryDto millHouse.id))
      ((millOrders n).rows.take 50, n) := by
  rw [Answers, filter_findOptions, ordersOf_millOrders]
  refine ⟨⟨(millOrders n).rows, ⟨.refl _, ?_⟩, rfl⟩, ?_⟩
  · exact List.pairwise_of_forall fun _ _ => le_rfl
  · rw [← ordersOf_millOrders, length_ordersOf_millOrders]

/-- The id of the property passes its validation. -/
theorem isUUID_millHouse : plainValidator.isUUID millHouse.id.text = some millHouse.id := by
  decide

/-- So the call for them is answered. -/
theorem listSettles_millOrders (n : ℕ) :
    ListSettles plainValidator (fun _ => none) (fun _ => "") (millOrders n) millHouse.id.text
      (millResults n).list := by
  refine .answered ?_ (answers_millOrders n)
  rw [validate_summaryRequest, isUUID_millHouse]
  rfl

/-- Two work orders, which are listed before the property is there. -/
theorem summarises_twoOrders :
    ∃ outcome, (PropertySummaryService.getSummary millHouse.id.text (millResults 2)
        [.list, .getById]).outcome = some outcome ∧
      Summarises (millOrders 2) millHouse.id (millResults 2) outcome := by
  obtain ⟨outcome, settled, whole⟩ := summarises_iff plainValidator (fun _ => none) (fun _ => "")
    (millOrders 2) isUUID_millHouse (millResults 2) (listSettles_millOrders 2) (.swap _ _ _)
  refine ⟨outcome, settled, whole.mpr (Or.inr (Or.inr ?_))⟩
  rw [length_ordersOf_millOrders]
  decide

/-- **One of fifty-one work orders is missing**, and the summary says they are all
there. -/
theorem not_summarises_fiftyOneOrders :
    ListSettles plainValidator (fun _ => none) (fun _ => "") (millOrders 51) millHouse.id.text
        (millResults 51).list ∧
      ∃ outcome, (PropertySummaryService.getSummary millHouse.id.text (millResults 51)
          [.getById, .list]).outcome = some outcome ∧
        ¬ Summarises (millOrders 51) millHouse.id (millResults 51) outcome := by
  refine ⟨listSettles_millOrders 51, _, rfl, fun summarises => ?_⟩
  have whole := (summarises_of_available_iff rfl rfl).mp summarises
  have few := (count_findAll_iff (answers_millOrders 51)).mp whole
  rw [length_ordersOf_millOrders] at few
  exact absurd few (by decide)

end PropFlow
