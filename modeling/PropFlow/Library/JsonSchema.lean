import PropFlow.Library.Json

/-!
# JSON Schema

The keywords of JSON Schema that constrain strings and objects, and what it is for a JSON
value of any kind to be valid against a schema (`JsonSchema.valid`).

* A schema that has several keywords is `allOf` of them.
* A keyword constrains the values of its own kind, and lets the others pass: a number is
  valid against any `maxLength`.
* `format`, `description` and their like are annotations, which constrain nothing.  Of the
  values of `type`, `integer` is left out.

Three schemas are so common that they have names: a closed `vocabulary`, a `nullableString`
and an `object` with its properties.

Most of a schema says what a property is, so the rules are about the properties of a value
(`valid_properties`, `valid_required`), one after another.  `valid_object`,
`valid_vocabulary` and `valid_oneOf_null` put them together for the schemas with names, and
`exists_of_required` takes one property out of them.
-/

namespace Library

/-- The values of the keyword `type`. -/
inductive JsonType where
  | null
  | boolean
  | number
  | string
  | array
  | object
deriving DecidableEq, Repr

/-- The kind of a value. -/
def Json.type : Json → JsonType
  | .null => .null
  | .bool _ => .boolean
  | .num _ => .number
  | .str _ => .string
  | .arr _ => .array
  | .obj _ => .object

/-! The kinds of values, one by one. -/

@[simp] theorem Json.type_null : Json.null.type = .null := rfl

@[simp] theorem Json.type_bool (value : Bool) : (Json.bool value).type = .boolean := rfl

@[simp] theorem Json.type_num (number : JsonNumber) : (Json.num number).type = .number := rfl

@[simp] theorem Json.type_arr (elements : List Json) : (Json.arr elements).type = .array := rfl

@[simp] theorem Json.type_str (text : String) : (Json.str text).type = .string := rfl

@[simp] theorem Json.type_obj (fields : List (String × Json)) : (Json.obj fields).type = .object :=
  rfl

/-- A schema, as far as its keywords constrain anything. -/
inductive JsonSchema where
  | type (types : List JsonType)
  | enum (values : List String)
  | maxLength (bound : ℕ)
  | required (keys : List String)
  | properties (fields : List (String × JsonSchema))
  /-- `additionalProperties: false`, beside these properties. -/
  | only (keys : List String)
  | allOf (schemas : List JsonSchema)
  | oneOf (schemas : List JsonSchema)

namespace JsonSchema

/-- The keyword `const`. -/
def const (value : String) : JsonSchema := enum [value]

/-- `type: [string, 'null']`. -/
def nullableString : JsonSchema := .type [.string, .null]

/-- A closed vocabulary. -/
def vocabulary (values : List String) : JsonSchema := .allOf [.type [.string], .enum values]

/-- An object that has the required properties and perhaps others, each as it is specified. -/
def object (keys : List String) (fields : List (String × JsonSchema)) : JsonSchema :=
  .allOf [.type [.object], .required keys, .properties fields]

mutual

/-- A value is valid against a schema. -/
def valid : JsonSchema → Json → Bool
  | .type types, json => types.contains json.type
  | .enum values, json => json.asString?.any values.contains
  | .maxLength bound, json => json.asString?.all fun text => text.length ≤ bound
  | .required keys, json => json.type ≠ .object || keys.all fun key => (json.get? key).isSome
  | .properties fields, json => validFields fields json
  | .only keys, .obj fields => fields.all fun field => keys.contains field.1
  | .only _, _ => true
  | .allOf schemas, json => validAll schemas json
  | .oneOf schemas, json => countValid schemas json = 1

/-- Every property that is there is valid against its schema. -/
def validFields : List (String × JsonSchema) → Json → Bool
  | [], _ => true
  | (key, schema) :: rest, json => (json.get? key).all schema.valid && validFields rest json

/-- Valid against every one of the schemas. -/
def validAll : List JsonSchema → Json → Bool
  | [], _ => true
  | schema :: rest, json => schema.valid json && validAll rest json

/-- The number of schemas that a value is valid against. -/
def countValid : List JsonSchema → Json → ℕ
  | [], _ => 0
  | schema :: rest, json => (schema.valid json).toNat + countValid rest json

end

/-! ## The keywords -/

variable {json : Json}

/-- Only an object has properties. -/
theorem type_of_get? {key : String} {value : Json} (there : json.get? key = some value) :
    json.type = .object := by
  cases json with
  | obj => rfl
  | _ => cases there

/-- `type`. -/
@[simp] theorem valid_type {types : List JsonType} :
    valid (.type types) json = true ↔ json.type ∈ types := by
  rw [valid, List.contains_iff_mem]

/-- `enum`, which only a string is valid against. -/
@[simp] theorem valid_enum {values : List String} :
    valid (.enum values) json = true ↔ ∃ text, json = .str text ∧ text ∈ values := by
  cases json <;> simp [valid, Json.asString?]

/-- `const`. -/
@[simp] theorem valid_const {value : String} :
    valid (.const value) json = true ↔ json = .str value := by
  simp [const]

/-- `type: string`. -/
theorem valid_string : valid (.type [.string]) json = true ↔ ∃ text, json = .str text := by
  cases json <;> simp

/-- A nullable string is what is read as one. -/
theorem valid_nullableString :
    valid nullableString json = true ↔ ∃ text, json.asNullable? Json.asString? = some text := by
  cases json <;> simp [nullableString, Json.asNullable?, Json.asString?]

/-- `maxLength`, of a string. -/
@[simp] theorem valid_maxLength {bound : ℕ} {text : String} :
    valid (.maxLength bound) (.str text) = true ↔ text.length ≤ bound := by
  simp [valid, Json.asString?]

/-- `required`, of an object. -/
@[simp] theorem valid_required {keys : List String} :
    valid (.required keys) json = true ↔
      (json.type = .object → ∀ key ∈ keys, (json.get? key).isSome = true) := by
  by_cases object : json.type = .object <;> simp [valid, object]

/-- `properties`: those that are there, each against its schema. -/
@[simp] theorem valid_properties {fields : List (String × JsonSchema)} :
    valid (.properties fields) json = true ↔
      ∀ field ∈ fields, ∀ value ∈ json.get? field.1, field.2.valid value = true := by
  rw [valid]
  induction fields with
  | nil => simp [validFields]
  | cons field rest ih =>
      obtain ⟨key, schema⟩ := field
      rw [validFields, Bool.and_eq_true, ih, List.forall_mem_cons]
      cases json.get? key <;> simp

/-- `allOf`. -/
@[simp] theorem valid_allOf {schemas : List JsonSchema} :
    valid (.allOf schemas) json = true ↔ ∀ schema ∈ schemas, schema.valid json = true := by
  rw [valid]
  induction schemas with
  | nil => simp [validAll]
  | cons schema rest ih => rw [validAll, Bool.and_eq_true, ih, List.forall_mem_cons]

/-- A vocabulary that lists a whole type. -/
theorem valid_vocabulary {α : Type} (text : α → String) (entries : List α)
    (complete : ∀ a, a ∈ entries) :
    valid (vocabulary (entries.map text)) json = true ↔ ∃ a, json = .str (text a) := by
  simp only [vocabulary, valid_allOf, List.forall_mem_cons, List.not_mem_nil, IsEmpty.forall_iff,
    implies_true, and_true, valid_string, valid_enum, List.mem_map]
  constructor
  · rintro ⟨-, -, rfl, a, -, rfl⟩
    exact ⟨a, rfl⟩
  · rintro ⟨a, rfl⟩
    exact ⟨⟨_, rfl⟩, _, rfl, a, complete a, rfl⟩

/-- An object, property by property. -/
theorem valid_object {keys : List String} {fields : List (String × JsonSchema)} :
    valid (object keys fields) json = true ↔
      json.type = .object ∧ (∀ key ∈ keys, (json.get? key).isSome = true) ∧
        ∀ field ∈ fields, ∀ value ∈ json.get? field.1, field.2.valid value = true := by
  simp only [object, valid_allOf, List.forall_mem_cons, List.not_mem_nil, IsEmpty.forall_iff,
    implies_true, and_true, valid_type, valid_required, valid_properties]
  rw [List.mem_singleton]
  exact and_congr_right fun isObject => and_congr_left fun _ => forall_prop_of_true isObject

/-- `oneOf: [schema, type: 'null']`, of a schema that `null` is not valid against. -/
theorem valid_oneOf_null {schema : JsonSchema} (solid : schema.valid .null = false) :
    valid (.oneOf [schema, .type [.null]]) json = true ↔
      json = .null ∨ schema.valid json = true := by
  rw [valid, countValid, countValid, countValid]
  by_cases isNull : json = .null
  · subst isNull
    simp [solid]
  · have other : valid (.type [.null]) json = false := by
      rw [Bool.eq_false_iff, Ne, valid_type, List.mem_singleton]
      cases json with
      | null => exact absurd rfl isNull
      | _ => nofun
    rw [other]
    cases schema.valid json <;> simp [isNull]

/-- A property that is required. -/
theorem exists_of_required {key : String} {P : Json → Prop}
    (there : (json.get? key).isSome = true) (holds : ∀ value ∈ json.get? key, P value) :
    ∃ value, json.get? key = some value ∧ P value := by
  obtain ⟨value, here⟩ := Option.isSome_iff_exists.mp there
  exact ⟨value, here, holds value here⟩

end JsonSchema

end Library
