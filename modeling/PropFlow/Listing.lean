import PropFlow.Library.OffsetPages
import PropFlow.Validation
import PropFlow.WorkOrders.WorkOrder

/-!
# Listing

`findAll` of work orders and of properties: the same offset listing twice, over
two tables, with the filters of each.

The listing is in descending order of `created_at`, which the rows of one
transaction share, and of nothing else.  `listsEveryRow_iff` is what that costs.

## A listing and its pages

* `QueryWorkOrdersDto`, `QueryPropertiesDto` — the queries after validation, and which rows
  pass their filters (`Matches`);
* `Content`, `Answers` — what is in a table, and what `findAndCount` may resolve with: any
  order that `created_at` allows, and for every page another one;
* `ListsEveryRow` — the pages of a listing have every matching row once, and each of them
  its right total.

## Main results

`findAll_listsEveryRow_iff`: over either table, with any filter and any page size, the
pages show every row exactly when no page boundary divides rows of one `created_at`.  The
condition is about the table alone, and `not_listsEveryRow_twoProperties` is the smallest
table that misses it.
-/

namespace PropFlow

open Library Library.OffsetPages

/-! ## The queries -/

/-- `Property`, less `updatedAt`. -/
structure Property where
  id : Uuid
  name : String
  addressLine1 : String
  city : String
  postcode : String
  managerEmail : String
  createdAt : CivilTime.Instant
deriving DecidableEq

/-- `QueryWorkOrdersDto`, after validation. -/
structure QueryWorkOrdersDto where
  status : Option WorkOrderStatus
  priority : Option WorkOrderPriority
  propertyId : Option Uuid
  page : ℕ := 1
  limit : PageLimit := ⟨20, by decide, by decide⟩
  page_pos : 1 ≤ page := by decide

/-- `QueryPropertiesDto`, after validation. -/
structure QueryPropertiesDto where
  city : Option String
  page : ℕ := 1
  limit : PageLimit := ⟨20, by decide, by decide⟩
  city_length : ∀ text ∈ city, 1 ≤ text.length ∧ text.length ≤ 100
  page_pos : 1 ≤ page := by decide

/-- The same filters on the `i`th page, counted from zero. -/
def QueryWorkOrdersDto.onPage (query : QueryWorkOrdersDto) (i : ℕ) : QueryWorkOrdersDto :=
  { query with page := i + 1, page_pos := Nat.le_add_left 1 i }

/-- The same filter on the `i`th page, counted from zero. -/
def QueryPropertiesDto.onPage (query : QueryPropertiesDto) (i : ℕ) : QueryPropertiesDto :=
  { query with page := i + 1, page_pos := Nat.le_add_left 1 i }

/-- The row passes every filter that is given. -/
def QueryWorkOrdersDto.Matches (query : QueryWorkOrdersDto) (row : WorkOrder) : Prop :=
  (∀ status ∈ query.status, row.status = status) ∧
    (∀ priority ∈ query.priority, row.priority = priority) ∧
      ∀ propertyId ∈ query.propertyId, row.propertyId = propertyId

instance QueryWorkOrdersDto.decidableMatches (query : QueryWorkOrdersDto) (row : WorkOrder) :
    Decidable (query.Matches row) :=
  inferInstanceAs (Decidable (_ ∧ _))

/-- The row passes the filter, if it is given. -/
def QueryPropertiesDto.Matches (query : QueryPropertiesDto) (row : Property) : Prop :=
  ∀ city ∈ query.city, row.city = city

instance QueryPropertiesDto.decidableMatches (query : QueryPropertiesDto) (row : Property) :
    Decidable (query.Matches row) :=
  inferInstanceAs (Decidable (∀ city ∈ query.city, row.city = city))

variable {Row : Type}

/-- The argument of `findAndCount`, less `order: { createdAt: 'DESC' }`. -/
structure FindOptions (Row : Type) where
  /-- `where` -/
  selects : Row → Bool
  skip : ℕ
  take : ℕ

/-- `meta` of a `PaginatedResult`. -/
structure PageMeta where
  page : ℕ
  limit : ℕ
  total : ℕ
deriving DecidableEq, Repr

/-- `PaginatedResult`: a page, and where in the listing it is. -/
structure PaginatedResult (Row : Type) where
  data : List Row
  «meta» : PageMeta
deriving DecidableEq

/-! ## The table -/

/-- What is in a table.  The database knows when a row was created to the
microsecond, of which the entity shows the millisecond. -/
structure Content (Row : Type) where
  /-- The rows, in no order that a query could rely on. -/
  rows : List Row
  /-- The microsecond in which a row was created. -/
  createdAt : Row → ℕ
  /-- The primary key. -/
  distinct : rows.Nodup

/-- What `findAndCount` may resolve with: a page of the selected rows in some order
by `createdAt`, and their number. -/
def Answers (content : Content Row) (options : FindOptions Row) (answer : List Row × ℕ) : Prop :=
  Window content.createdAt (content.rows.filter options.selects) options.skip options.take
      answer.1 ∧
    answer.2 = (content.rows.filter options.selects).length

/-! ## The services -/

/-- The options of either `findAll`. -/
def pageOptions (selects : Row → Bool) (page : ℕ) (limit : PageLimit) : FindOptions Row where
  selects := selects
  skip := (page - 1) * limit.val
  take := limit.val

/-- The result of either `findAll`, once `findAndCount` has resolved. -/
def pageResult (page : ℕ) (limit : PageLimit) (answer : List Row × ℕ) : PaginatedResult Row where
  data := answer.1
  «meta» := { page, limit := limit.val, total := answer.2 }

namespace WorkOrdersService

/-- What `findAll(query)` asks for. -/
def findOptions (query : QueryWorkOrdersDto) : FindOptions WorkOrder :=
  pageOptions (fun row => query.Matches row) query.page query.limit

/-- `findAll(query)`. -/
def findAll (query : QueryWorkOrdersDto) (answer : List WorkOrder × ℕ) :
    PaginatedResult WorkOrder :=
  pageResult query.page query.limit answer

end WorkOrdersService

namespace PropertiesService

/-- What `findAll(query)` asks for. -/
def findOptions (query : QueryPropertiesDto) : FindOptions Property :=
  -- `if (city)`
  pageOptions (fun row => ∀ city ∈ query.city.filter (· ≠ ""), row.city = city)
    query.page query.limit

/-- `findAll(query)`. -/
def findAll (query : QueryPropertiesDto) (answer : List Property × ℕ) :
    PaginatedResult Property :=
  pageResult query.page query.limit answer

end PropertiesService

/-! ## What a client gets -/

section Pages

variable [DecidableEq Row]

/-- The pages of a listing, counted from zero, have every matching row once, and
each of them its right total. -/
structure ListsEveryRow (matching : List Row) (limit : PageLimit)
    (pages : ℕ → PaginatedResult Row) : Prop where
  /-- Every row is on one page, once, and no other row is on any. -/
  covers : Covers matching limit.val fun i => (pages i).data
  /-- Every page tells how many rows there are. -/
  total : ∀ i, (pages i).meta.total = matching.length

/-- **When offset listing shows every row**, of either service and whatever the
filter. -/
theorem listsEveryRow_iff (content : Content Row) (selects : Row → Bool) (limit : PageLimit) :
    (∀ answers : ℕ → List Row × ℕ,
        (∀ i, Answers content (pageOptions selects (i + 1) limit) (answers i)) →
          ListsEveryRow (content.rows.filter selects) limit
            fun i => pageResult (i + 1) limit (answers i)) ↔
      ¬ DividesTie content.createdAt (content.rows.filter selects) limit.val := by
  rw [← covers_iff (content.distinct.filter selects) limit.pos]
  constructor
  · intro lists pages windows
    have answered := lists (fun i => (pages i, (content.rows.filter selects).length))
      fun i => ⟨windows i, rfl⟩
    exact answered.covers
  · intro covers answers answered
    exact ⟨covers _ fun i => (answered i).1, fun i => (answered i).2⟩

end Pages

/-- Validation has excluded the empty city, so `if (city)` is whether there is one. -/
theorem PropertiesService.findOptions_eq (query : QueryPropertiesDto) :
    PropertiesService.findOptions query =
      pageOptions (fun row => query.Matches row) query.page query.limit := by
  unfold PropertiesService.findOptions
  congr 1
  funext row
  apply decide_eq_decide.mpr
  constructor
  · intro given city isCity
    have nonempty : city ≠ "" := by
      rintro rfl
      exact absurd (query.city_length "" isCity).1 (by decide)
    exact given city (Option.filter_eq_some_iff.mpr ⟨isCity, decide_eq_true nonempty⟩)
  · intro given city isCity
    exact given city (Option.filter_eq_some_iff.mp isCity).1

/-- **Offset listing, over either table and with any filter**: its pages show every
matching row once, however each query orders rows of one `createdAt`, exactly when
no page boundary divides such rows. -/
theorem findAll_listsEveryRow_iff (workOrders : Content WorkOrder) (query : QueryWorkOrdersDto)
    (properties : Content Property) (query' : QueryPropertiesDto) :
    ((∀ answers : ℕ → List WorkOrder × ℕ,
        (∀ i, Answers workOrders (WorkOrdersService.findOptions (query.onPage i)) (answers i)) →
          ListsEveryRow (workOrders.rows.filter fun row => query.Matches row) query.limit
            fun i => WorkOrdersService.findAll (query.onPage i) (answers i)) ↔
      ¬ DividesTie workOrders.createdAt (workOrders.rows.filter fun row => query.Matches row)
        query.limit.val) ∧
    ((∀ answers : ℕ → List Property × ℕ,
        (∀ i, Answers properties (PropertiesService.findOptions (query'.onPage i)) (answers i)) →
          ListsEveryRow (properties.rows.filter fun row => query'.Matches row) query'.limit
            fun i => PropertiesService.findAll (query'.onPage i) (answers i)) ↔
      ¬ DividesTie properties.createdAt (properties.rows.filter fun row => query'.Matches row)
        query'.limit.val) := by
  refine ⟨listsEveryRow_iff workOrders (fun row => query.Matches row) query.limit, ?_⟩
  simp only [PropertiesService.findOptions_eq]
  exact listsEveryRow_iff properties (fun row => query'.Matches row) query'.limit

/-! Two properties that one transaction has created. -/

/-- The property that both pages show. -/
def millHouse : Property where
  id := ⟨"1b9d6bcd-bbfd-4b2d-9b5d-ab8dfbbd4bed"⟩
  name := "Mill House"
  addressLine1 := "1 Mill Lane"
  city := "London"
  postcode := "E1 1AA"
  managerEmail := "manager@propflow.example"
  createdAt := .epoch

/-- The property that no page shows. -/
def millCottage : Property :=
  { millHouse with id := ⟨"1b9d6bcd-bbfd-4b2d-9b5d-ab8dfbbd4bee"⟩, name := "Mill Cottage" }

/-- Both, with one `created_at`. -/
def twoProperties : Content Property where
  rows := [millHouse, millCottage]
  createdAt := fun _ => 0
  distinct := by decide

/-- All properties, one on a page. -/
def oneByOne : QueryPropertiesDto where
  city := none
  limit := ⟨1, by decide, by decide⟩
  city_length := fun _ absent => nomatch absent

/-- Each page is read from the side where `millHouse` is: it comes twice, and
`millCottage` never. -/
theorem not_listsEveryRow_twoProperties :
    ∃ answers : ℕ → List Property × ℕ,
      (∀ i, Answers twoProperties (PropertiesService.findOptions (oneByOne.onPage i))
        (answers i)) ∧
      ¬ ListsEveryRow (twoProperties.rows.filter fun row => oneByOne.Matches row) oneByOne.limit
        fun i => PropertiesService.findAll (oneByOne.onPage i) (answers i) := by
  have firstOrder : Arranges twoProperties.createdAt [millHouse, millCottage]
      [millHouse, millCottage] := ⟨.refl _, by simp [twoProperties]⟩
  have secondOrder : Arranges twoProperties.createdAt [millHouse, millCottage]
      [millCottage, millHouse] := ⟨.swap _ _ _, by simp [twoProperties]⟩
  refine ⟨fun i =>
    (((if i = 0 then [millHouse, millCottage] else [millCottage, millHouse]).drop i).take 1, 2),
    fun i => ⟨?_, rfl⟩, fun lists => ?_⟩
  · have skip : (PropertiesService.findOptions (oneByOne.onPage i)).skip = i := Nat.mul_one i
    rw [skip]
    by_cases first : i = 0
    · exact ⟨_, firstOrder, by simp only [if_pos first]; rfl⟩
    · exact ⟨_, secondOrder, by simp only [if_neg first]; rfl⟩
  · exact absurd (lists.covers.once millCottage (by decide)) (by decide)

end PropFlow
