import PropFlow.Columns
import PropFlow.Validation
import PropFlow.WorkOrders.WorkOrder

/-!
# Created rows

The way of a `POST` body to its INSERT: the body is validated as a DTO, and the
DTO, with defaults for what it leaves out, becomes a row.  The decorators of a DTO
and the constraints of its table were written apart, and say nearly the same.

They differ in two fields.  `@IsOptional()` lets a `null` priority through to a
NOT NULL column, and `@IsEmail()` bounds the parts of an address but not the
address, which has to fit a `varchar(254)`.

## The two sides

* `workOrdersSchema`, `propertiesSchema` — the tables, as the migrations leave them;
* `CreateWorkOrderDto.validate`, `CreatePropertyDto.validate` — the DTOs, decorator by
  decorator, over any `ClassValidator`;
* `WorkOrdersService.inserted`, `PropertiesService.inserted` — the rows of the INSERTs.

## Main results

* `validated_satisfies_iff` — when a body that was let through makes a row that the table
  takes: the two exceptions are all;
* `satisfies_sqlRow_iff` — of the constraints of `work_orders`, only the last check can be
  violated by an entity.  So the service's table may keep entities instead of SQL rows;
* `WorkOrdersTable.insert_isOk_iff` — and its INSERT fails exactly when Postgres' does.

`plainValidator` is a validator that accepts no more than is documented;
`not_satisfies_nullPriority` and `not_satisfies_longAddress` are bodies that it accepts and
the tables refuse.
-/

namespace PropFlow

open Library Library.CivilTime

/-! ## The tables -/

/-- `work_orders`, with the triage columns added later. -/
def workOrdersSchema : TableSchema where
  columns :=
    [ ⟨"id", .uuid, true, some .genRandomUuid⟩,
      ⟨"title", .varchar 200, true, none⟩,
      ⟨"description", .text, true, none⟩,
      ⟨"property_id", .uuid, true, none⟩,
      ⟨"priority", .varchar 10, true, some (.literal "medium")⟩,
      ⟨"status", .varchar 20, true, some (.literal "open")⟩,
      ⟨"assignee_id", .uuid, false, none⟩,
      ⟨"created_at", .timestamptz, true, some .now⟩,
      ⟨"updated_at", .timestamptz, true, some .now⟩,
      ⟨"triage_category", .varchar 30, false, none⟩,
      ⟨"triage_urgency", .varchar 10, false, none⟩,
      ⟨"triage_reasoning", .text, false, none⟩,
      ⟨"triaged_at", .timestamptz, false, none⟩ ]
  checks :=
    [ ⟨"chk_work_orders_priority",
        fun row => sqlIn (row "priority") ["low", "medium", "high", "urgent"]⟩,
      ⟨"chk_work_orders_status", fun row => sqlIn (row "status")
        ["open", "assigned", "in_progress", "completed", "cancelled"]⟩,
      ⟨"chk_work_orders_assignee_when_assigned", fun row =>
        sqlOr (sqlNe (row "status") "assigned") (some (row "assignee_id").isSome)⟩ ]

/-- `properties`. -/
def propertiesSchema : TableSchema where
  columns :=
    [ ⟨"id", .uuid, true, some .genRandomUuid⟩,
      ⟨"name", .varchar 120, true, none⟩,
      ⟨"address_line1", .varchar 200, true, none⟩,
      ⟨"city", .varchar 100, true, none⟩,
      ⟨"postcode", .varchar 20, true, none⟩,
      ⟨"manager_email", .varchar 254, true, none⟩,
      ⟨"created_at", .timestamptz, true, some .now⟩,
      ⟨"updated_at", .timestamptz, true, some .now⟩ ]
  checks := []

/-- The stored row of a work order. -/
def WorkOrder.sqlRow (row : WorkOrder) (updatedAt : Instant) : SqlRow
  | "id" => some row.id.text
  | "title" => some row.title
  | "description" => some row.description
  | "property_id" => some row.propertyId.text
  | "priority" => some row.priority.text
  | "status" => some row.status.text
  | "assignee_id" => row.assigneeId.map Uuid.text
  | "created_at" => some (toISOString row.createdAt)
  | "updated_at" => some (toISOString updatedAt)
  | "triage_category" => row.triageCategory.map TriageCategory.text
  | "triage_urgency" => row.triageUrgency.map TriageUrgency.text
  | "triage_reasoning" => row.triageReasoning
  | "triaged_at" => row.triagedAt.map toISOString
  | _ => none

/-! ## Validation and INSERT -/

/-- The members of the enumeration. -/
def WorkOrderPriority.members : List WorkOrderPriority := [.low, .medium, .high, .urgent]

/-- The body, as a `CreateWorkOrderDto`. -/
def CreateWorkOrderDto.validate (validator : ClassValidator) (body : RequestBody) :
    Option CreateWorkOrderDto := do
  guard (body.whitelisted ["title", "description", "propertyId", "priority"])
  let title ← (isString (body.get "title")).filter (validator.length 3 200)
  let description ← (isString (body.get "description")).filter isNotEmpty
  let propertyId ← (isString (body.get "propertyId")).bind validator.isUUID
  let priority ← isOptional (isEnum WorkOrderPriority.members WorkOrderPriority.text)
    (body.get "priority")
  return { title, description, propertyId, priority }

/-- `CreatePropertyDto`, after validation. -/
structure CreatePropertyDto where
  name : String
  addressLine1 : String
  city : String
  postcode : String
  managerEmail : String
deriving DecidableEq, Repr

/-- The body, as a `CreatePropertyDto`. -/
def CreatePropertyDto.validate (validator : ClassValidator) (body : RequestBody) :
    Option CreatePropertyDto := do
  guard (body.whitelisted ["name", "addressLine1", "city", "postcode", "managerEmail"])
  let name ← (isString (body.get "name")).filter (validator.length 2 120)
  let addressLine1 ← (isString (body.get "addressLine1")).filter (validator.length 3 200)
  let city ← (isString (body.get "city")).filter (validator.length 1 100)
  let postcode ← (isString (body.get "postcode")).filter (validator.length 2 20)
  let managerEmail ← (isString (body.get "managerEmail")).filter validator.isEmail
  return { name, addressLine1, city, postcode, managerEmail }

/-- The INSERT of `WorkOrdersService.create(dto)`. -/
def WorkOrdersService.inserted (generated : TableSchema.Generated) (dto : CreateWorkOrderDto) :
    SqlRow :=
  workOrdersSchema.insert generated fun
    | "title" => .value dto.title
    | "description" => .value dto.description
    | "property_id" => .value dto.propertyId.text
    | "priority" => dto.priority.map WorkOrderPriority.text
    | _ => .undefined

/-- The INSERT of `PropertiesService.create(dto)`. -/
def PropertiesService.inserted (generated : TableSchema.Generated) (dto : CreatePropertyDto) :
    SqlRow :=
  propertiesSchema.insert generated fun
    | "name" => .value dto.name
    | "address_line1" => .value dto.addressLine1
    | "city" => .value dto.city
    | "postcode" => .value dto.postcode
    | "manager_email" => .value dto.managerEmail
    | _ => .undefined

/-! ## The row of an entity -/

/-- Every priority fits a `varchar(10)`. -/
theorem WorkOrderPriority.length_text (priority : WorkOrderPriority) :
    priority.text.length ≤ 10 := by
  cases priority <;> decide

/-- Every status fits a `varchar(20)`. -/
theorem WorkOrderStatus.length_text (status : WorkOrderStatus) : status.text.length ≤ 20 := by
  cases status <;> decide

/-- Every category fits a `varchar(30)`. -/
theorem TriageCategory.length_text (category : TriageCategory) : category.text.length ≤ 30 := by
  cases category <;> decide

/-- Every urgency fits a `varchar(10)`. -/
theorem TriageUrgency.length_text (urgency : TriageUrgency) : urgency.text.length ≤ 10 := by
  cases urgency <;> decide

/-- A nullable column takes any text that is short enough. -/
theorem Column.takes_map {α : Type} {name : String} {n : ℕ} {default : Option ColumnDefault}
    {textOf : α → String} (short : ∀ a, (textOf a).length ≤ n) (value : Option α) :
    (Column.mk name (.varchar n) false default).Takes (value.map textOf) := by
  cases value with
  | none => rfl
  | some a => exact fitsVarchar_of_length_le (short a)

/-- The enumerations fit their columns. -/
theorem takes_sqlRow {row : WorkOrder} (updatedAt : Instant) (short : row.title.length ≤ 200) :
    ∀ column ∈ workOrdersSchema.columns, column.Takes (row.sqlRow updatedAt column.name) := by
  simp only [workOrdersSchema, List.forall_mem_cons]
  refine ⟨trivial, fitsVarchar_of_length_le short, trivial, trivial,
    fitsVarchar_of_length_le row.priority.length_text,
    fitsVarchar_of_length_le row.status.length_text, ?_, trivial, trivial,
    Column.takes_map TriageCategory.length_text _, Column.takes_map TriageUrgency.length_text _,
    ?_, ?_, by simp⟩
  · show Column.Takes _ (row.assigneeId.map Uuid.text)
    cases row.assigneeId <;> trivial
  · show Column.Takes _ row.triageReasoning
    cases row.triageReasoning <;> trivial
  · show Column.Takes _ (row.triagedAt.map toISOString)
    cases row.triagedAt <;> trivial

/-- An entity can violate one check only: an assigned order has an assignee. -/
theorem passes_sqlRow_iff {row : WorkOrder} {updatedAt : Instant} :
    (∀ check ∈ workOrdersSchema.checks, check.condition (row.sqlRow updatedAt) ≠ some false) ↔
      ¬ (row.status = .assigned ∧ row.assigneeId = none) := by
  have priority : sqlIn (some row.priority.text) ["low", "medium", "high", "urgent"] ≠
      some false := by
    cases row.priority <;> decide
  have status : sqlIn (some row.status.text)
      ["open", "assigned", "in_progress", "completed", "cancelled"] ≠ some false := by
    cases row.status <;> decide
  have assignee : sqlOr (sqlNe (some row.status.text) "assigned")
      (some (row.assigneeId.map Uuid.text).isSome) ≠ some false ↔
        ¬ (row.status = .assigned ∧ row.assigneeId = none) := by
    cases row.status <;> cases row.assigneeId <;> simp [sqlOr, sqlNe, WorkOrderStatus.text]
  simp only [workOrdersSchema, List.forall_mem_cons]
  exact ⟨fun passes => assignee.mp passes.2.2.1,
    fun unassigned => ⟨priority, status, assignee.mpr unassigned, nofun⟩⟩

/-- **`checkConstraints` is what a row can still violate.** -/
theorem satisfies_sqlRow_iff {row : WorkOrder} {updatedAt : Instant}
    (short : row.title.length ≤ 200) :
    workOrdersSchema.Satisfies (row.sqlRow updatedAt) ↔ checkConstraints row = .ok () := by
  have passes : workOrdersSchema.Satisfies (row.sqlRow updatedAt) ↔
      ¬ (row.status = .assigned ∧ row.assigneeId = none) :=
    ⟨fun satisfies => passes_sqlRow_iff.mp satisfies.passes,
      fun assigned => ⟨takes_sqlRow updatedAt short, passes_sqlRow_iff.mpr assigned⟩⟩
  rw [passes, checkConstraints, if_neg (Nat.not_lt.mpr short)]
  split_ifs with unassigned
  · exact iff_of_false (not_not.mpr unassigned) nofun
  · exact iff_of_true unassigned rfl

/-- A column has the default, if the property was absent, and else what was given. -/
theorem insertedValue_ok {α : Type} {column : String} {default a : α} {given : Nullish α}
    (ok : insertedValue column default given = .ok a) :
    given = .undefined ∧ a = default ∨ given = .value a := by
  cases given with
  | undefined =>
      cases ok
      exact Or.inl ⟨rfl, rfl⟩
  | null => cases ok
  | value b =>
      cases ok
      exact Or.inr rfl

/-- The INSERT writes the row the service has in mind. -/
theorem inserted_eq_sqlRow {dto : CreateWorkOrderDto} {generated : TableSchema.Generated}
    {row : WorkOrder} (made : insertedRow dto generated.id generated.now = .ok row) :
    WorkOrdersService.inserted generated dto = row.sqlRow generated.now := by
  obtain ⟨priority, written, rest⟩ := bind_eq_ok.mp made
  cases rest
  funext name
  unfold WorkOrder.sqlRow
  split
  case h_5 =>
    unfold WorkOrdersService.inserted TableSchema.insert
    rcases insertedValue_ok written with ⟨absent, rfl⟩ | given
    · simp only [absent, Nullish.map]
      rfl
    · simp only [given, Nullish.map]
  case h_14 =>
    -- no column has this name
    refine TableSchema.insert_eq_none ?_ ?_
    · simp [*]
    · simp only [workOrdersSchema, List.forall_mem_cons]
      grind
  all_goals rfl

/-! ## When the INSERT is refused -/

/-- What is known of a validated order: its title is short, and a `null` priority is a
`null` of the body. -/
theorem CreateWorkOrderDto.validate_eq_some {validator : ClassValidator} {body : RequestBody}
    {dto : CreateWorkOrderDto} (accepted : validate validator body = some dto) :
    dto.title.length ≤ 200 ∧ (dto.priority = .null ↔ body.get "priority" = some .null) := by
  simp only [validate, Option.bind_eq_bind, Option.bind_eq_some_iff, Option.pure_def,
    Option.some.injEq] at accepted
  obtain ⟨-, -, title, titled, -, -, -, -, priority, optional, rfl⟩ := accepted
  exact ⟨ClassValidator.length_le_of_accepted titled, isOptional_null_iff optional⟩

/-- Only a `null` priority has no row. -/
theorem exists_insertedRow {dto : CreateWorkOrderDto} (given : dto.priority ≠ .null) (id : Uuid)
    (now : Instant) : ∃ row, insertedRow dto id now = .ok row := by
  unfold insertedRow insertedValue
  cases priority : dto.priority with
  | undefined => exact ⟨_, rfl⟩
  | null => exact absurd priority given
  | value a => exact ⟨_, rfl⟩

/-- The title is stored as it was sent. -/
theorem insertedRow_title {dto : CreateWorkOrderDto} {id : Uuid} {now : Instant} {row : WorkOrder}
    (made : insertedRow dto id now = .ok row) : row.title = dto.title := by
  obtain ⟨priority, -, rest⟩ := bind_eq_ok.mp made
  cases rest
  rfl

/-- A new order breaks no rule but this. -/
theorem WorkOrdersService.satisfies_inserted_iff {dto : CreateWorkOrderDto}
    (generated : TableSchema.Generated) (short : dto.title.length ≤ 200) :
    workOrdersSchema.Satisfies (inserted generated dto) ↔ dto.priority ≠ .null := by
  constructor
  · intro satisfies isNull
    have taken := satisfies.takes ⟨"priority", .varchar 10, true, some (.literal "medium")⟩
      (by simp [workOrdersSchema])
    have written : inserted generated dto "priority" = none := by
      simp [inserted, TableSchema.insert, isNull, Nullish.map]
    rw [written] at taken
    cases taken
  · intro given
    obtain ⟨row, made⟩ := exists_insertedRow given generated.id generated.now
    rw [← insertedRow_title made] at short
    rw [inserted_eq_sqlRow made, satisfies_sqlRow_iff short]
    have isOpen := (insertedRow_ok made).2.1
    simp [checkConstraints, Nat.not_lt.mpr short, isOpen]

/-- The table of the service takes exactly the rows that `work_orders` takes. -/
theorem WorkOrdersTable.insert_isOk_iff {table : WorkOrdersTable} {dto : CreateWorkOrderDto}
    (generated : TableSchema.Generated) (short : dto.title.length ≤ 200) :
    (∃ saved, table.insert dto generated.id generated.now = .ok saved) ↔
      workOrdersSchema.Satisfies (WorkOrdersService.inserted generated dto) ∧
        table.find generated.id = none := by
  constructor
  · rintro ⟨⟨after, row⟩, ok⟩
    obtain ⟨fresh, -, -⟩ := insert_ok ok
    obtain ⟨inserted, made, rest⟩ := bind_eq_ok.mp ok
    obtain ⟨_, checked, -⟩ := bind_eq_ok.mp rest
    rw [← insertedRow_title made] at short
    rw [inserted_eq_sqlRow made]
    exact ⟨(satisfies_sqlRow_iff short).mpr checked, fresh⟩
  · rintro ⟨satisfies, fresh⟩
    have given := (WorkOrdersService.satisfies_inserted_iff generated short).mp satisfies
    obtain ⟨row, made⟩ := exists_insertedRow given generated.id generated.now
    rw [← insertedRow_title made] at short
    rw [inserted_eq_sqlRow made] at satisfies
    have checked := (satisfies_sqlRow_iff short).mp satisfies
    exact ⟨_, bind_eq_ok.mpr ⟨row, made, bind_eq_ok.mpr ⟨(), checked,
      guard_eq_ok.mpr ⟨by simp [fresh], rfl⟩⟩⟩⟩

/-- Everything but the length of the address has been validated. -/
theorem PropertiesService.satisfies_inserted_iff {validator : ClassValidator}
    {body : RequestBody} {dto : CreatePropertyDto} (generated : TableSchema.Generated)
    (accepted : CreatePropertyDto.validate validator body = some dto) :
    propertiesSchema.Satisfies (inserted generated dto) ↔ dto.managerEmail.length ≤ 254 := by
  simp only [CreatePropertyDto.validate, Option.bind_eq_bind, Option.bind_eq_some_iff,
    Option.pure_def, Option.some.injEq] at accepted
  obtain ⟨-, -, name, named, addressLine1, line, city, inCity, postcode, coded, managerEmail,
    mailed, rfl⟩ := accepted
  have address : FitsVarchar 254 managerEmail ↔ managerEmail.length ≤ 254 :=
    fitsVarchar_iff_length_le
      (ClassValidator.getLast?_of_isEmail (Option.filter_eq_some_iff.mp mailed).2)
  rw [← address]
  constructor
  · exact fun satisfies =>
      satisfies.takes ⟨"manager_email", .varchar 254, true, none⟩ (by simp [propertiesSchema])
  · refine fun fits => ⟨?_, fun _ member => nomatch member⟩
    simp only [propertiesSchema, List.forall_mem_cons]
    exact ⟨trivial, fitsVarchar_of_length_le (ClassValidator.length_le_of_accepted named),
      fitsVarchar_of_length_le (ClassValidator.length_le_of_accepted line),
      fitsVarchar_of_length_le (ClassValidator.length_le_of_accepted inCity),
      fitsVarchar_of_length_le (ClassValidator.length_le_of_accepted coded),
      fits, trivial, trivial, nofun⟩

/-- The address is the one of the body. -/
theorem CreatePropertyDto.managerEmail_sent {validator : ClassValidator} {body : RequestBody}
    {dto : CreatePropertyDto} (accepted : validate validator body = some dto) :
    body.get "managerEmail" = some (.string dto.managerEmail) := by
  simp only [validate, Option.bind_eq_bind, Option.bind_eq_some_iff, Option.pure_def,
    Option.some.injEq] at accepted
  obtain ⟨-, -, -, -, -, -, -, -, -, -, managerEmail, mailed, rfl⟩ := accepted
  exact isString_eq_some_iff.mp (Option.filter_eq_some_iff.mp mailed).1

/-- **When a validated creation meets the constraints of its table.**  Of a work order,
exactly when its priority is not `null`; of a property, exactly when the address of
its manager has at most 254 characters. -/
theorem validated_satisfies_iff (validator : ClassValidator)
    (generated : TableSchema.Generated) (body : RequestBody) :
    (∀ dto, CreateWorkOrderDto.validate validator body = some dto →
      (workOrdersSchema.Satisfies (WorkOrdersService.inserted generated dto) ↔
        body.get "priority" ≠ some .null)) ∧
    ∀ dto, CreatePropertyDto.validate validator body = some dto →
      (propertiesSchema.Satisfies (PropertiesService.inserted generated dto) ↔
        ∀ text, body.get "managerEmail" = some (.string text) → text.length ≤ 254) := by
  constructor
  · intro dto accepted
    obtain ⟨short, sent⟩ := CreateWorkOrderDto.validate_eq_some accepted
    rw [WorkOrdersService.satisfies_inserted_iff generated short, ne_eq, ne_eq, sent]
  · intro dto accepted
    rw [PropertiesService.satisfies_inserted_iff generated accepted,
      CreatePropertyDto.managerEmail_sent accepted]
    constructor
    · rintro fits text ⟨⟩
      exact fits
    · exact fun fits => fits _ rfl

/-! ## A validator, and bodies it accepts -/

/-- A digit of a uuid. -/
def isLowerHex (c : Char) : Bool := c ∈ "0123456789abcdef".toList

/-- A uuid in lower case, of version 1 to 8. -/
def plainUUID (text : String) : Bool :=
  text.toList.length = 36 && text.toList.zipIdx.all fun (c, i) =>
    if i ∈ [8, 13, 18, 23] then c = '-'
    else if i = 14 then c ∈ "12345678".toList
    else if i = 19 then c ∈ "89ab".toList
    else isLowerHex c

/-- An address of lower-case letters: a mailbox, and labels with dots between. -/
def PlainAddress (mailbox domain : List Char) : Prop :=
  (mailbox ≠ [] ∧ mailbox.all Char.isLower = true) ∧
    (domain ≠ [] ∧ domain.all (fun c => c.isLower || c == '.') = true) ∧
      (∀ label ∈ domain.splitOn '.', 2 ≤ label.length ∧ label.length ≤ 63) ∧
        2 ≤ (domain.splitOn '.').length

instance (mailbox domain : List Char) : Decidable (PlainAddress mailbox domain) :=
  inferInstanceAs (Decidable (_ ∧ _))

/-- The documented bounds, and no others. -/
def plainValidator : ClassValidator where
  length min max text := min ≤ text.length ∧ text.length ≤ max
  isUUID text := if plainUUID text then some ⟨text⟩ else none
  isEmail text :=
    let mailbox := text.toList.takeWhile (· ≠ '@')
    let domain := (text.toList.dropWhile (· ≠ '@')).tail
    PlainAddress mailbox domain ∧ text.toList = mailbox ++ '@' :: domain ∧
      String.utf8Len mailbox ≤ 64 ∧ String.utf8Len domain ≤ 254
  length_le := by
    intro min max text accepted
    exact (of_decide_eq_true accepted).2
  isEmail_parts := by
    intro text accepted
    obtain ⟨⟨-, ⟨nonempty, lower⟩, -⟩, parts, bytes⟩ := of_decide_eq_true accepted
    rw [← String.utf8ByteSize_ofList, ← String.utf8ByteSize_ofList] at bytes
    refine ⟨_, _, String.toList_injective ?_, bytes.1, bytes.2, ?_, fun last => ?_⟩
    · simpa using parts
    · simpa using nonempty
    · have blank := List.all_eq_true.mp lower ' ' (List.mem_of_getLast? (by simpa using last))
      exact absurd blank (by decide)

/-- A plain address is accepted if its two parts are short enough. -/
theorem isEmail_plainAddress {mailbox domain : List Char} (plain : PlainAddress mailbox domain)
    (mailboxBytes : String.utf8Len mailbox ≤ 64) (domainBytes : String.utf8Len domain ≤ 254) :
    plainValidator.isEmail (String.ofList (mailbox ++ '@' :: domain)) = true := by
  have apart : ∀ c ∈ mailbox, decide (c ≠ '@') = true := by
    rintro c member
    have lower := List.all_eq_true.mp plain.1.2 c member
    refine decide_eq_true ?_
    rintro rfl
    exact absurd lower (by decide)
  refine decide_eq_true ?_
  rw [String.toList_ofList, List.takeWhile_append_of_pos apart, List.dropWhile_append_of_pos apart]
  simpa using ⟨plain, mailboxBytes, domainBytes⟩

/-- What the database generates for the new rows. -/
def firstGenerated : TableSchema.Generated := ⟨⟨"00000000-0000-4000-8000-000000000001"⟩, .epoch⟩

/-- A work order for a leaking tap, with this priority. -/
def tapBody (priority : JsonValue) : RequestBody :=
  ⟨[("title", .string "Leaking tap"), ("description", .string "The kitchen tap drips."),
    ("propertyId", .string "1b9d6bcd-bbfd-4b2d-9b5d-ab8dfbbd4bed"), ("priority", priority)]⟩

/-- A property, whose manager has this address. -/
def millBody (managerEmail : String) : RequestBody :=
  ⟨[("name", .string "Mill House"), ("addressLine1", .string "1 Mill Lane"),
    ("city", .string "Leeds"), ("postcode", .string "LS1 4AP"),
    ("managerEmail", .string managerEmail)]⟩

/-- Of this body only the address is in question. -/
theorem validate_millBody {managerEmail : String}
    (mailed : plainValidator.isEmail managerEmail = true) :
    CreatePropertyDto.validate plainValidator (millBody managerEmail) =
      some ⟨"Mill House", "1 Mill Lane", "Leeds", "LS1 4AP", managerEmail⟩ := by
  show ((some managerEmail).filter plainValidator.isEmail).bind _ = _
  rw [Option.filter_some_pos mailed]
  rfl

/-- `manager@propflow.example`. -/
def shortAddress : String := String.ofList ("manager".toList ++ '@' :: "propflow.example".toList)

/-- The short address is accepted. -/
theorem isEmail_shortAddress : plainValidator.isEmail shortAddress = true :=
  isEmail_plainAddress (by decide) (by decide) (by decide)

/-- An urgent work order, and a property whose manager has a short address. -/
theorem validated_satisfies_urgentTap :
    (∃ dto, CreateWorkOrderDto.validate plainValidator (tapBody (.string "urgent")) = some dto ∧
      workOrdersSchema.Satisfies (WorkOrdersService.inserted firstGenerated dto)) ∧
    ∃ dto, CreatePropertyDto.validate plainValidator (millBody shortAddress) = some dto ∧
      propertiesSchema.Satisfies (PropertiesService.inserted firstGenerated dto) := by
  constructor
  · exact ⟨_, rfl, ((validated_satisfies_iff plainValidator firstGenerated
      (tapBody (.string "urgent"))).1 _ rfl).mpr (by decide)⟩
  · refine ⟨_, validate_millBody isEmail_shortAddress,
      ((validated_satisfies_iff plainValidator firstGenerated (millBody shortAddress)).2 _
        (validate_millBody isEmail_shortAddress)).mpr ?_⟩
    rintro text ⟨⟩
    decide

/-- A `null` priority is valid and violates NOT NULL. -/
theorem not_satisfies_nullPriority :
    ∃ dto, CreateWorkOrderDto.validate plainValidator (tapBody .null) = some dto ∧
      ¬ workOrdersSchema.Satisfies (WorkOrdersService.inserted firstGenerated dto) :=
  ⟨_, rfl, by decide⟩

/-! Two parts within their bounds can make an address of 255 characters. -/

/-- A domain of 190 characters, whose labels are as long as allowed. -/
def longDomain : List Char :=
  List.replicate 63 'a' ++ '.' :: (List.replicate 63 'b' ++ '.' :: List.replicate 62 'c')

/-- An address of 255 characters. -/
def longAddress : String := String.ofList (List.replicate 64 'm' ++ '@' :: longDomain)

/-- Three labels, joined by dots, are split again. -/
theorem splitOn_dot {first second third : List Char}
    (dotless : ∀ label ∈ [first, second, third], '.' ∉ label) :
    (first ++ '.' :: (second ++ '.' :: third)).splitOn '.' = [first, second, third] := by
  have joined : first ++ '.' :: (second ++ '.' :: third) =
      ['.'].intercalate [first, second, third] := by
    simp [List.intercalate]
  rw [joined]
  exact List.splitOn_intercalate '.' dotless (List.cons_ne_nil _ _)

/-- The long address is plain. -/
theorem plainAddress_long : PlainAddress (List.replicate 64 'm') longDomain := by
  have labels : longDomain.splitOn '.' =
      [List.replicate 63 'a', List.replicate 63 'b', List.replicate 62 'c'] :=
    splitOn_dot (by simp only [List.forall_mem_cons, List.mem_replicate]; decide)
  refine ⟨⟨List.cons_ne_nil _ _, ?_⟩, ⟨List.cons_ne_nil _ _, ?_⟩, ?_, ?_⟩
  · refine List.all_eq_true.mpr fun c member => ?_
    rw [(List.mem_replicate.mp member).2]
    decide
  · refine List.all_eq_true.mpr fun c member => ?_
    simp only [longDomain, List.mem_append, List.mem_cons, List.mem_replicate] at member
    rcases member with ⟨-, rfl⟩ | rfl | ⟨-, rfl⟩ | rfl | ⟨-, rfl⟩ <;> decide
  · simp only [labels, List.forall_mem_cons, List.length_replicate]
    decide
  · rw [labels]
    decide

/-- **An address of 255 characters is valid and does not fit its column.** -/
theorem not_satisfies_longAddress :
    ∃ dto, CreatePropertyDto.validate plainValidator (millBody longAddress) = some dto ∧
      ¬ propertiesSchema.Satisfies (PropertiesService.inserted firstGenerated dto) := by
  have mailed : plainValidator.isEmail longAddress = true :=
    isEmail_plainAddress plainAddress_long (by decide +kernel) (by decide +kernel)
  have long : longAddress.length = 255 := by
    unfold longAddress longDomain
    rw [String.length_ofList]
    simp only [List.length_append, List.length_cons, List.length_replicate]
  refine ⟨_, validate_millBody mailed, ?_⟩
  rw [PropertiesService.satisfies_inserted_iff firstGenerated (validate_millBody mailed), long]
  decide

end PropFlow
