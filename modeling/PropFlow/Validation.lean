import PropFlow.Contracts
import Mathlib.Data.String.Basic

/-!
# Validation

What the global `ValidationPipe` lets through to the handlers of a service.

The decorators of a property are applied to the value the body has for it; a body
is accepted if all of them agree and it has no other properties.  Those decorators
that amount to a format or a length are `class-validator`'s and stay a parameter
(`ClassValidator`), of which its bounds are known.

"No other properties" has an exception that no decorator shows.  The pipe looks at an
instance of the DTO, and `plainToInstance` copies to it no property that any object has
anyhow (`inheritedNames`).  So a body with a `toString` is not refused: the property is
lost on the way.

* `JsonValue`, `RequestBody` — a body, as far as the decorators look into it;
* `RequestBody.resent` — the body that the gateway sends on.  It is the same one, unless a
  number in it is too large for a double (`resent_of_finite`);
* `isString`, `isEnum`, `isOptional` — the decorators.  `isOptional` skips the others for
  `null` too, and keeps the `null` (`isOptional_null_iff`);
* `ClassValidator` — `@Length`, `@IsUUID` and `@IsEmail`, with what is documented of them.
-/

namespace PropFlow

/-- A value in a JSON body.  No decorator here looks into a number, a boolean, an
array or an object. -/
inductive JsonValue where
  | null
  | string (text : String)
  /-- A number that is too large for a double, such as `1e400`. -/
  | infinity
  | other
deriving DecidableEq, Repr

/-- The value after `JSON.stringify`, which has no way to write an infinity. -/
def JsonValue.resent : JsonValue → JsonValue
  | .infinity => .null
  | value => value

/-- A JSON body: its properties, in order.  Those of an array are its indices. -/
structure RequestBody where
  properties : List (String × JsonValue)
deriving DecidableEq, Repr

/-- The value of a property.  Of two with one name, `JSON.parse` keeps the last. -/
def RequestBody.get (body : RequestBody) (name : String) : Option JsonValue :=
  body.properties.reverse.lookup name

/-- The body that arrives where this one is sent on. -/
def RequestBody.resent (body : RequestBody) : RequestBody :=
  ⟨body.properties.map fun property => (property.1, property.2.resent)⟩

/-- No property is a number that is too large for a double. -/
def RequestBody.Finite (body : RequestBody) : Prop :=
  ∀ property ∈ body.properties, property.2 ≠ .infinity

/-- Every value but an infinity can be written. -/
theorem JsonValue.resent_of_ne {value : JsonValue} (finite : value ≠ .infinity) :
    value.resent = value := by
  cases value with
  | infinity => exact absurd rfl finite
  | null => rfl
  | string text => rfl
  | other => rfl

/-- Such a body is sent on as it is. -/
theorem RequestBody.resent_of_finite {body : RequestBody} (finite : body.Finite) :
    body.resent = body := by
  have same : body.properties.map (fun property => (property.1, property.2.resent)) =
      body.properties.map id :=
    List.map_congr_left fun property member =>
      Prod.ext rfl (JsonValue.resent_of_ne (finite property member))
  rw [RequestBody.resent, same, List.map_id]

/-- The properties that `plainToInstance` passes over, as every object has them from
`Object.prototype`. -/
def inheritedNames : List String :=
  ["__proto__", "constructor", "hasOwnProperty", "isPrototypeOf", "propertyIsEnumerable",
    "toLocaleString", "toString", "valueOf", "__defineGetter__", "__defineSetter__",
    "__lookupGetter__", "__lookupSetter__"]

/-- `whitelist` and `forbidNonWhitelisted`, of one property of what was sent. -/
def isWhitelisted (names : List String) (name : String) : Bool :=
  name ∈ names ∨ name ∈ inheritedNames

/-- `whitelist` and `forbidNonWhitelisted`. -/
def RequestBody.whitelisted (body : RequestBody) (names : List String) : Bool :=
  body.properties.all fun property => isWhitelisted names property.1

/-! ## Decorators -/

/-- `@IsString()`. -/
def isString : Option JsonValue → Option String
  | some (.string text) => some text
  | _ => none

/-- What `@IsString()` lets through is the text itself. -/
theorem isString_eq_some_iff {value : Option JsonValue} {text : String} :
    isString value = some text ↔ value = some (.string text) := by
  unfold isString
  split <;> simp_all

/-- `@IsNotEmpty()`, of a text. -/
def isNotEmpty (text : String) : Bool := text ≠ ""

/-- `@IsEnum(…)`, of an enumeration with these members. -/
def isEnum {α : Type} (members : List α) (textOf : α → String) (value : Option JsonValue) :
    Option α :=
  (isString value).bind fun text => members.find? (textOf · = text)

/-- `@IsOptional()`: the other decorators are skipped for `undefined` and for `null`. -/
def isOptional {α : Type} (decorators : Option JsonValue → Option α) :
    Option JsonValue → Option (Nullish α)
  | none => some .undefined
  | some .null => some .null
  | some value => (decorators value).map .value

/-- A `null` is what was sent, or it is not there. -/
theorem isOptional_null_iff {α : Type} {decorators : Option JsonValue → Option α}
    {value : Option JsonValue} {given : Nullish α}
    (accepted : isOptional decorators value = some given) :
    given = .null ↔ value = some .null := by
  unfold isOptional at accepted
  split at accepted
  · cases accepted
    simp
  · cases accepted
    simp
  · rename_i sent notNull
    obtain ⟨a, -, rfl⟩ := Option.map_eq_some_iff.mp accepted
    simpa using notNull

/-- `class-validator`, as it is documented. -/
structure ClassValidator where
  /-- `@Length(min, max)`. -/
  length : ℕ → ℕ → String → Bool
  /-- `@IsUUID()`, with the uuid the text stands for. -/
  isUUID : String → Option Uuid
  /-- `@IsEmail()`. -/
  isEmail : String → Bool
  /-- `@Length` counts characters, not code units. -/
  length_le : ∀ {min max : ℕ} {text : String}, length min max text = true → text.length ≤ max
  /-- The parts of an address have at most 64 and 254 bytes, and its domain ends in
  no blank. -/
  isEmail_parts : ∀ {text : String}, isEmail text = true →
    ∃ mailbox domain : String, text = mailbox ++ "@" ++ domain ∧
      mailbox.utf8ByteSize ≤ 64 ∧ domain.utf8ByteSize ≤ 254 ∧
        domain ≠ "" ∧ domain.toList.getLast? ≠ some ' '

/-- A character takes a byte at least. -/
theorem length_le_utf8ByteSize (text : String) : text.length ≤ text.utf8ByteSize := by
  rw [← String.utf8Len_toList, ← String.length_toList]
  induction text.toList with
  | nil => exact Nat.le_refl 0
  | cons c rest ih =>
      rw [String.utf8Len_cons, List.length_cons]
      have := Char.utf8Size_pos c
      omega

namespace ClassValidator

variable {validator : ClassValidator} {text : String}

/-- A text that was let through is as short as its bound. -/
theorem length_le_of_accepted {min max : ℕ} {value : Option JsonValue}
    (accepted : (isString value).filter (validator.length min max) = some text) :
    text.length ≤ max :=
  validator.length_le (Option.filter_eq_some_iff.mp accepted).2

/-- `@IsEmail()` alone lets 319 characters through. -/
theorem length_le_of_isEmail (accepted : validator.isEmail text = true) : text.length ≤ 319 := by
  obtain ⟨mailbox, domain, rfl, mailboxBytes, domainBytes, -, -⟩ := validator.isEmail_parts accepted
  have mailboxLength := length_le_utf8ByteSize mailbox
  have domainLength := length_le_utf8ByteSize domain
  simp only [String.length_append]
  have sign : "@".length = 1 := rfl
  omega

/-- An address ends in no blank. -/
theorem getLast?_of_isEmail (accepted : validator.isEmail text = true) :
    text.toList.getLast? ≠ some ' ' := by
  obtain ⟨mailbox, domain, rfl, -, -, nonempty, last⟩ := validator.isEmail_parts accepted
  have someChar : domain.toList ≠ [] := fun none => nonempty (String.toList_eq_nil_iff.mp none)
  rwa [String.toList_append, List.getLast?_append_of_ne_nil _ someChar]

end ClassValidator

/-- A page size that `@Min(1)` and `@Max(100)` let through. -/
structure PageLimit where
  /-- The number. -/
  val : ℕ
  /-- `@Min(1)`. -/
  pos : 1 ≤ val
  /-- `@Max(100)`. -/
  le : val ≤ 100
deriving DecidableEq

end PropFlow
