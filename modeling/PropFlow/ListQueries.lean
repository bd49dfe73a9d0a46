import PropFlow.Library.Binary64
import PropFlow.Library.Decimal
import PropFlow.Audit.ActivityFeed
import PropFlow.Creation
import PropFlow.Listing
import PropFlow.QueryString

/-!
# List queries

The way of a query string to the numbers in the statement of a listing: it is validated
as a DTO, with defaults for what it leaves out, and the service computes an offset and a
limit from that, or passes a cursor on.

The numbers are binary64 and the cursor is a text, so neither is bounded by its type.
`Number` is spelled out for texts of digits; what it makes of other texts, the ones
with blanks, signs, points, exponents or prefixes, is left open.

## The way of a query

* `QueryWorkOrdersDto.validate`, `QueryPropertiesDto.validate`,
  `ListActivityQueryDto.validate` — the DTOs, decorator by decorator;
* `offset` — `(page - 1) * limit` as the code computes it: two roundings, of the page
  before and of the product;
* `pageNumbers`, `ActivityFeedService.numbers` — the numbers of a statement.

## Main results

* `inRange_iff` — when a validated query is within the range of a `bigint`, for any of the
  three listings.  No decorator bounds a page from above, and none the digits of a cursor;
* `inBigint_offset_iff` — the arithmetic of it: a page below `2 ^ 54` has a small offset
  whatever the limit, and from there on `page - 1` rounds to `page`;
* `map_val_offset_of_le` — as long as the product is at most `2 ^ 53`, the offset is the
  one that the page stands for;
* `not_inRange_far` — a page and a cursor that are accepted and that Postgres refuses.
-/

namespace PropFlow

open Library Library.Binary64

/-! ## Validation -/

/-- `query[name]`, as a decorator sees it. -/
def ParsedQuery.value (query : ParsedQuery) (name : String) : Option JsonValue :=
  (query.get name).map QueryValue.json

/-- `whitelist` and `forbidNonWhitelisted`. -/
def ParsedQuery.whitelisted (query : ParsedQuery) (names : List String) : Bool :=
  query.entries.all fun entry => isWhitelisted names entry.1

/-- `Number(text)`, if it is a natural number.  `others` is what it makes of texts that
have something else than digits in them. -/
def number (others : String → Option Value) (text : String) : Option Value :=
  if IsDigits text then ofNat (bigint text) else others text

/-- A page that `@Min(1)` lets through. -/
structure Page where
  /-- The number. -/
  val : ℕ
  /-- `@Min(1)`. -/
  pos : 1 ≤ val
  /-- It is what `Number` has made of a text, so it has been rounded already. -/
  representable : Representable val

/-- `@Type(() => Number) @IsInt() @Min(1)`. -/
def isPage (others : String → Option Value) (value : Option JsonValue) : Option Page :=
  ((isString value).bind (number others)).bind fun page =>
    if pos : 1 ≤ page.val then some ⟨page.val, pos, page.property⟩ else none

/-- `@Type(() => Number) @IsInt() @Min(1) @Max(100)`. -/
def isPageLimit (others : String → Option Value) (value : Option JsonValue) : Option PageLimit :=
  ((isString value).bind (number others)).bind fun limit =>
    if within : 1 ≤ limit.val ∧ limit.val ≤ 100 then some ⟨limit.val, within.1, within.2⟩
    else none

/-- `@IsString() @Length(1, 100)`. -/
def isCity (validator : ClassValidator) (value : Option JsonValue) :
    Option { city : String // 1 ≤ city.length ∧ city.length ≤ 100 } :=
  (isString value).bind fun city =>
    if accepted : validator.length 1 100 city = true ∧ 1 ≤ city.length then
      some ⟨city, accepted.2, validator.length_le accepted.1⟩
    else none

/-- `@Matches(/^\d+$/)`. -/
def isCursor (value : Option JsonValue) : Option { cursor : String // IsDigits cursor } :=
  (isString value).bind fun cursor =>
    if digits : IsDigits cursor then some ⟨cursor, digits⟩ else none

/-- `page = 1`. -/
def firstPage : Page := ⟨1, Nat.one_pos, 1, 0, by decide, rfl⟩

/-- `limit = 20`. -/
def defaultLimit : PageLimit := ⟨20, by decide, by decide⟩

/-- The members of the enumeration. -/
def WorkOrderStatus.members : List WorkOrderStatus :=
  [WorkOrderStatus.open, .assigned, .inProgress, .completed, .cancelled]

section Validate

variable (validator : ClassValidator) (others : String → Option Value)

/-- The query, as a `QueryWorkOrdersDto`. -/
def QueryWorkOrdersDto.validate (query : ParsedQuery) : Option QueryWorkOrdersDto := do
  guard (query.whitelisted ["status", "priority", "propertyId", "page", "limit"])
  let status ← isOptional (isEnum WorkOrderStatus.members WorkOrderStatus.text)
    (query.value "status")
  let priority ← isOptional (isEnum WorkOrderPriority.members WorkOrderPriority.text)
    (query.value "priority")
  let propertyId ← isOptional (fun value => (isString value).bind validator.isUUID)
    (query.value "propertyId")
  let given ← isOptional (isPage others) (query.value "page")
  let limit ← isOptional (isPageLimit others) (query.value "limit")
  let page := given.orNull.getD firstPage
  return {
    status := status.orNull
    priority := priority.orNull
    propertyId := propertyId.orNull
    page := page.val
    limit := limit.orNull.getD defaultLimit
    page_pos := page.pos }

/-- The query, as a `QueryPropertiesDto`. -/
def QueryPropertiesDto.validate (query : ParsedQuery) : Option QueryPropertiesDto := do
  guard (query.whitelisted ["city", "page", "limit"])
  let city ← isOptional (isCity validator) (query.value "city")
  let given ← isOptional (isPage others) (query.value "page")
  let limit ← isOptional (isPageLimit others) (query.value "limit")
  let page := given.orNull.getD firstPage
  return {
    city := city.orNull.map Subtype.val
    page := page.val
    limit := limit.orNull.getD defaultLimit
    city_length := by
      intro text given
      obtain ⟨city, -, rfl⟩ := Option.map_eq_some_iff.mp given
      exact city.property
    page_pos := page.pos }

/-- The query, as a `ListActivityQueryDto`. -/
def ListActivityQueryDto.validate (query : ParsedQuery) : Option ListActivityQueryDto := do
  guard (query.whitelisted ["limit", "cursor", "workOrderId"])
  let limit ← isOptional (isPageLimit others) (query.value "limit")
  let cursor ← isOptional isCursor (query.value "cursor")
  let workOrderId ← isOptional (fun value => (isString value).bind validator.isUUID)
    (query.value "workOrderId")
  return {
    limit := limit.orNull.getD defaultLimit
    cursor := cursor.orNull.map Subtype.val
    workOrderId := workOrderId.orNull
    cursor_digits := by
      intro text given
      obtain ⟨cursor, -, rfl⟩ := Option.map_eq_some_iff.mp given
      exact cursor.property }

end Validate

/-! ## The numbers of a statement -/

/-- `(page - 1) * limit`, in binary64.  `none` is infinity. -/
def offset (page limit : ℕ) : Option Value := do
  let before ← ofNat (page - 1)
  ofNat (before.val * limit)

/-- The numbers of either offset listing: OFFSET and LIMIT. -/
def pageNumbers (page : ℕ) (limit : PageLimit) : List (Option ℕ) :=
  [(offset page limit.val).map Subtype.val, some limit.val]

/-- OFFSET and LIMIT of `WorkOrdersService.findAll(query)`. -/
def WorkOrdersService.numbers (query : QueryWorkOrdersDto) : List (Option ℕ) :=
  pageNumbers query.page query.limit

/-- OFFSET and LIMIT of `PropertiesService.findAll(query)`. -/
def PropertiesService.numbers (query : QueryPropertiesDto) : List (Option ℕ) :=
  pageNumbers query.page query.limit

/-- LIMIT, and the bound on the ids if there is one. -/
def ActivityFeedService.numbers (query : ListActivityQueryDto) : List (Option ℕ) :=
  some (select query).take :: (select query).below.toList.map some

/-- The number is a `bigint`. -/
def InBigint (number : Option ℕ) : Prop := ∃ n, number = some n ∧ n < 2 ^ 63

/-- **A validated query is within the range of the database.** -/
def InRange {Dto : Type} (validate : ParsedQuery → Option Dto) (numbers : Dto → List (Option ℕ))
    (query : ParsedQuery) : Prop :=
  ∀ dto ∈ validate query, ∀ number ∈ numbers dto, InBigint number

/-! ## The offset -/

/-- Where the page before is finite, the rounding of the product is all that is left. -/
theorem offset_eq {page limit : ℕ} {before : Value} (finite : ofNat (page - 1) = some before) :
    offset page limit = ofNat (before.val * limit) := by
  simp only [offset, finite, Option.bind_eq_bind, Option.bind_some]

/-- As long as the product is small, it is what `skip` is to be. -/
theorem map_val_offset_of_le {Row : Type} (selects : Row → Bool) {page : ℕ} {limit : PageLimit}
    (pos : 1 ≤ page) (small : page * limit.val ≤ 2 ^ 53) :
    (offset page limit.val).map Subtype.val = some (pageOptions selects page limit).skip := by
  have smaller : page ≤ page * limit.val := Nat.le_mul_of_pos_right page limit.pos
  have less : (page - 1) * limit.val < 2 ^ 53 := by
    have next : (page - 1 + 1) * limit.val ≤ 2 ^ 53 := by rwa [Nat.sub_add_cancel pos]
    have positive := limit.pos
    rw [Nat.add_mul] at next
    omega
  obtain ⟨before, finite, exact⟩ := Option.map_eq_some_iff.mp
    (map_val_ofNat_of_lt (show page - 1 < 2 ^ 53 by omega))
  rw [offset_eq finite, exact]
  exact map_val_ofNat_of_lt less

/-- A finite number below `2 ^ 63` is a `bigint`; infinity is none. -/
theorem inBigint_map_val_iff {value : Option Value} :
    InBigint (value.map Subtype.val) ↔ ∃ v, value = some v ∧ v.val < 2 ^ 63 := by
  unfold InBigint
  constructor
  · rintro ⟨n, isValue, less⟩
    obtain ⟨v, isSome, rfl⟩ := Option.map_eq_some_iff.mp isValue
    exact ⟨v, isSome, less⟩
  · rintro ⟨v, rfl, less⟩
    exact ⟨v.val, rfl, less⟩

/-- What the product of a value and a limit rounds to. -/
theorem exists_offset_iff {page limit : ℕ} {before : Value}
    (finite : ofNat (page - 1) = some before) :
    (∃ v, offset page limit = some v ∧ v.val < 2 ^ 63) ↔ before.val * limit < 2 ^ 63 - 512 := by
  rw [offset_eq finite, exists_ofNat_lt_iff (by decide)]
  exact round_lt_two_pow_iff (by decide)

/-- **When the offset is a `bigint`.**  Below `2 ^ 54` it is small whatever the limit, and
from there on `page - 1` is `page`. -/
theorem inBigint_offset_iff {page : ℕ} (representable : Representable page) (limit : PageLimit) :
    InBigint ((offset page limit.val).map Subtype.val) ↔ page * limit.val < 2 ^ 63 - 512 := by
  have most : ∀ n, n ≤ 2 ^ 54 → n * limit.val < 2 ^ 63 - 512 := by
    intro n small
    have product := Nat.mul_le_mul small limit.le
    omega
  rw [inBigint_map_val_iff]
  rcases Nat.lt_or_ge page (2 ^ 54) with small | large
  · have less : round (page - 1) < 2 ^ 54 := (round_lt_two_pow_iff le_rfl).mpr (by omega)
    obtain ⟨before, finite⟩ := exists_ofNat (by decide) less
    rw [exists_offset_iff finite]
    refine iff_of_true (most before.val ?_) (most page small.le)
    rw [round_of_ofNat finite]
    exact less.le
  · have absorbed := round_pred representable large
    cases finite : ofNat (page - 1) with
    | some before => rw [exists_offset_iff finite, round_of_ofNat finite, absorbed]
    | none =>
        refine iff_of_false ?_ fun less => ?_
        · rintro ⟨v, isValue, -⟩
          simp only [offset, finite, Option.bind_eq_bind, Option.bind_none, reduceCtorEq] at isValue
        · have smaller : page ≤ page * limit.val := Nat.le_mul_of_pos_right page limit.pos
          obtain ⟨before, isValue⟩ :=
            exists_ofNat (k := 63) (by decide) (show round (page - 1) < 2 ^ 63 by omega)
          rw [finite] at isValue
          cases isValue

/-- **When the numbers of a page are in range.** -/
theorem pageNumbers_inBigint_iff {page : ℕ} (representable : Representable page)
    (limit : PageLimit) :
    (∀ number ∈ pageNumbers page limit, InBigint number) ↔ page * limit.val < 2 ^ 63 - 512 := by
  have limitInRange : InBigint (some limit.val) := by
    have bound := limit.le
    exact ⟨limit.val, rfl, by omega⟩
  unfold pageNumbers
  rw [List.forall_mem_cons, List.forall_mem_singleton, inBigint_offset_iff representable]
  exact and_iff_left limitInRange

/-! ## The cursor -/

/-- The largest `bigint`. -/
def maxBigint : List Char := "9223372036854775807".toList

/-- The text is at most that. -/
def FitsBigint (cursor : String) : Prop := Decimal.AtMost maxBigint cursor.toList

instance : DecidablePred FitsBigint :=
  fun cursor => inferInstanceAs (Decidable (Decimal.AtMost maxBigint cursor.toList))

/-- The comparison of the texts is the comparison of the numbers. -/
theorem fitsBigint_iff {cursor : String} (digits : IsDigits cursor) :
    FitsBigint cursor ↔ bigint cursor < 2 ^ 63 := by
  have bounded : ∀ c ∈ maxBigint, c.isDigit = true := List.all_eq_true.mp (by decide)
  have bound : Decimal.value maxBigint = 2 ^ 63 - 1 := by decide
  unfold FitsBigint
  rw [← Decimal.value_le_iff bounded (by decide) digits.2, bound]
  exact Nat.le_sub_one_iff_lt (by decide)

/-- **When the numbers of the feed are in range.** -/
theorem feedNumbers_inBigint_iff (query : ListActivityQueryDto) :
    (∀ number ∈ ActivityFeedService.numbers query, InBigint number) ↔
      ∀ cursor ∈ query.cursor, FitsBigint cursor := by
  have limitInRange : InBigint (some (ActivityFeedService.select query).take) := by
    have bound := query.limit.le
    exact ⟨query.limit.val + 1, rfl, by omega⟩
  have below : (ActivityFeedService.select query).below = query.cursor.map bigint := by
    unfold ActivityFeedService.select
    cases isCursor : query.cursor with
    | none => rfl
    | some cursor =>
        have digits := query.cursor_digits cursor isCursor
        simp [digits.1]
  unfold ActivityFeedService.numbers
  rw [List.forall_mem_cons, and_iff_right limitInRange, below]
  cases isCursor : query.cursor with
  | none => simp
  | some cursor =>
      have digits := query.cursor_digits cursor isCursor
      simp [fitsBigint_iff digits, InBigint]

/-! ## Validated queries -/

section Validated

variable {validator : ClassValidator} {others : String → Option Value} {query : ParsedQuery}

/-- A page is a binary64 number, given or not. -/
theorem QueryWorkOrdersDto.representable_page {dto : QueryWorkOrdersDto}
    (accepted : validate validator others query = some dto) : Representable dto.page := by
  simp only [validate, Option.bind_eq_bind, Option.bind_eq_some_iff, Option.pure_def,
    Option.some.injEq] at accepted
  obtain ⟨-, -, -, -, -, -, -, -, given, -, -, -, rfl⟩ := accepted
  exact (given.orNull.getD firstPage).representable

/-- A page is a binary64 number, given or not. -/
theorem QueryPropertiesDto.representable_page {dto : QueryPropertiesDto}
    (accepted : validate validator others query = some dto) : Representable dto.page := by
  simp only [validate, Option.bind_eq_bind, Option.bind_eq_some_iff, Option.pure_def,
    Option.some.injEq] at accepted
  obtain ⟨-, -, -, -, given, -, -, -, rfl⟩ := accepted
  exact (given.orNull.getD firstPage).representable

end Validated

/-- **When a validated query is within the range of the database**, of any of the three
listings: when its page times its limit stays below the middle between `2 ^ 63` and the
number before it, and its cursor is at most the largest `bigint`. -/
theorem inRange_iff (validator : ClassValidator) (others : String → Option Value)
    (malformed : List Char → String) (text : List Char) :
    (InRange (QueryWorkOrdersDto.validate validator others) WorkOrdersService.numbers
        (.parse malformed text) ↔
      ∀ dto ∈ QueryWorkOrdersDto.validate validator others (.parse malformed text),
        dto.page * dto.limit.val < 2 ^ 63 - 512) ∧
    (InRange (QueryPropertiesDto.validate validator others) PropertiesService.numbers
        (.parse malformed text) ↔
      ∀ dto ∈ QueryPropertiesDto.validate validator others (.parse malformed text),
        dto.page * dto.limit.val < 2 ^ 63 - 512) ∧
    (InRange (ListActivityQueryDto.validate validator others) ActivityFeedService.numbers
        (.parse malformed text) ↔
      ∀ dto ∈ ListActivityQueryDto.validate validator others (.parse malformed text),
        ∀ cursor ∈ dto.cursor, FitsBigint cursor) := by
  refine ⟨?_, ?_, ?_⟩
  · exact forall₂_congr fun dto accepted =>
      pageNumbers_inBigint_iff (QueryWorkOrdersDto.representable_page accepted) dto.limit
  · exact forall₂_congr fun dto accepted =>
      pageNumbers_inBigint_iff (QueryPropertiesDto.representable_page accepted) dto.limit
  · exact forall₂_congr fun dto _ => feedNumbers_inBigint_iff dto

/-! A page whose offset is `2 ^ 63`, and the cursor after the last one. -/

/-- A page whose offset is `2 ^ 63`. -/
def farPage : List Char := "page=92233720368547760&limit=100".toList

/-- A cursor that is one above the largest `bigint`. -/
def farCursor : List Char := "cursor=9223372036854775808".toList

/-- It has a page and a limit. -/
theorem parse_farPage (malformed : List Char → String) :
    ParsedQuery.parse malformed farPage =
      .ofPairs [("page", "92233720368547760"), ("limit", "100")] := by
  have typed : farPage =
      FormUrlEncoded.plainText [("page", "92233720368547760"), ("limit", "100")] := rfl
  unfold ParsedQuery.parse
  rw [typed, FormUrlEncoded.parse_plainText malformed (by decide) (by decide)]

/-- It has a cursor. -/
theorem parse_farCursor (malformed : List Char → String) :
    ParsedQuery.parse malformed farCursor = .ofPairs [("cursor", "9223372036854775808")] := by
  have typed : farCursor = FormUrlEncoded.plainText [("cursor", "9223372036854775808")] := rfl
  unfold ParsedQuery.parse
  rw [typed, FormUrlEncoded.parse_plainText malformed (by decide) (by decide)]

/-- **Queries that are accepted, of numbers that Postgres has no `bigint` for.** -/
theorem not_inRange_far :
    ¬ InRange (QueryWorkOrdersDto.validate plainValidator fun _ => none) WorkOrdersService.numbers
        (.parse (fun _ => "") farPage) ∧
      ¬ InRange (ListActivityQueryDto.validate plainValidator fun _ => none)
        ActivityFeedService.numbers (.parse (fun _ => "") farCursor) := by
  rw [parse_farPage, parse_farCursor]
  constructor
  · intro inRange
    have accepted : (QueryWorkOrdersDto.validate plainValidator (fun _ => none)
        (.ofPairs [("page", "92233720368547760"), ("limit", "100")])).map
          (fun dto => (dto.page, dto.limit.val)) = some (92233720368547760, 100) := by
      decide +kernel
    obtain ⟨dto, isDto, values⟩ := Option.map_eq_some_iff.mp accepted
    obtain ⟨page, limit⟩ := Prod.mk.inj values
    have small := (pageNumbers_inBigint_iff (QueryWorkOrdersDto.representable_page isDto)
      dto.limit).mp (inRange dto isDto)
    rw [page, limit] at small
    exact absurd small (by decide)
  · intro inRange
    have accepted : (ListActivityQueryDto.validate plainValidator (fun _ => none)
        (.ofPairs [("cursor", "9223372036854775808")])).map (·.cursor) =
          some (some "9223372036854775808") := by
      decide +kernel
    obtain ⟨dto, isDto, cursor⟩ := Option.map_eq_some_iff.mp accepted
    have small := (feedNumbers_inBigint_iff dto).mp (inRange dto isDto)
    rw [cursor] at small
    exact absurd (small _ rfl) (by decide)

end PropFlow
