import PropFlow.Contracts
import Mathlib.Data.List.Basic

/-!
# Columns

What Postgres asks of the values of a row: that they fit their columns, are there
where they have to be, and pass the checks of the table.  An INSERT leaves columns
out, and then their defaults are the values.

A stored value is kept as its text.

* `FitsVarchar` — the text fits a `varchar(n)`.  Blanks beyond the `n`th character are
  dropped without an error, so this is more than being short: `fitsVarchar_iff_length_le`
  says that it is the same for a text that does not end in a blank;
* `Column`, `Check`, `TableSchema` — what a `CREATE TABLE` says.  The condition of a check
  is a truth value of SQL, which `NULL` leaves open;
* `TableSchema.Satisfies` — a row that Postgres takes;
* `TableSchema.insert` — the row of an INSERT, with the defaults filled in.
-/

namespace PropFlow

open Library.CivilTime

/-- The text fits a `varchar(n)`: what is beyond the `n`th character is blank, and
then Postgres drops it. -/
def FitsVarchar (n : ℕ) (text : String) : Prop := ∀ c ∈ text.toList.drop n, c = ' '

instance (n : ℕ) (text : String) : Decidable (FitsVarchar n text) :=
  List.decidableBAll (· = ' ') (text.toList.drop n)

/-- What is short enough fits. -/
theorem fitsVarchar_of_length_le {n : ℕ} {text : String} (short : text.length ≤ n) :
    FitsVarchar n text := by
  unfold FitsVarchar
  rw [List.drop_of_length_le (by rwa [String.length_toList])]
  exact fun _ member => nomatch member

/-- Only blanks are dropped. -/
theorem fitsVarchar_iff_length_le {n : ℕ} {text : String}
    (last : text.toList.getLast? ≠ some ' ') : FitsVarchar n text ↔ text.length ≤ n := by
  refine ⟨fun fits => ?_, fitsVarchar_of_length_le⟩
  by_contra long
  have inside : n < text.toList.length := by
    rw [String.length_toList]
    omega
  have nonempty : text.toList.drop n ≠ [] := by
    rw [ne_eq, List.drop_eq_nil_iff]
    omega
  have blank := fits _ (List.getLast_mem nonempty)
  apply last
  rw [List.getLast?_eq_some_getLast (List.ne_nil_of_length_pos (by omega)),
    ← List.getLast_drop nonempty, blank]

/-! ## Tables -/

/-- The types that the migrations use. -/
inductive ColumnType where
  | uuid
  | text
  | varchar (length : ℕ)
  | timestamptz
deriving DecidableEq, Repr

/-- `DEFAULT …`. -/
inductive ColumnDefault where
  | genRandomUuid
  | now
  | literal (text : String)
deriving DecidableEq, Repr

/-- A column: its name, its type, `NOT NULL`, and `DEFAULT …`. -/
structure Column where
  name : String
  type : ColumnType
  notNull : Bool
  default : Option ColumnDefault
deriving DecidableEq, Repr

/-- The values of a row, by the names of their columns. -/
abbrev SqlRow := String → Option String

/-- `CONSTRAINT … CHECK (…)`.  A condition on a missing value is unknown. -/
structure Check where
  name : String
  condition : SqlRow → Option Bool

/-- A table: its columns, and its checks. -/
structure TableSchema where
  columns : List Column
  checks : List Check

/-- `value IN (…)`. -/
def sqlIn (value : Option String) (texts : List String) : Option Bool :=
  value.map fun text => text ∈ texts

/-- `value <> text`. -/
def sqlNe (value : Option String) (text : String) : Option Bool := value.map (· ≠ text)

/-- `a OR b`. -/
def sqlOr : Option Bool → Option Bool → Option Bool
  | some true, _ | _, some true => some true
  | some false, some false => some false
  | _, _ => none

/-- The length constraint of a column. -/
def ColumnType.Fits : ColumnType → String → Prop
  | .varchar n, value => FitsVarchar n value
  | .uuid, _ | .text, _ | .timestamptz, _ => True

instance (type : ColumnType) (value : String) : Decidable (type.Fits value) :=
  match type with
  | .varchar n => inferInstanceAs (Decidable (FitsVarchar n value))
  | .uuid | .text | .timestamptz => inferInstanceAs (Decidable True)

/-- The column takes the value. -/
def Column.Takes (column : Column) : Option String → Prop
  | none => column.notNull = false
  | some text => column.type.Fits text

instance (column : Column) (value : Option String) : Decidable (column.Takes value) :=
  match value with
  | none => inferInstanceAs (Decidable (column.notNull = false))
  | some text => inferInstanceAs (Decidable (column.type.Fits text))

namespace TableSchema

/-- The row satisfies every NOT NULL, length and CHECK constraint.  A check is
violated only if its condition is false. -/
structure Satisfies (schema : TableSchema) (row : SqlRow) : Prop where
  takes : ∀ column ∈ schema.columns, column.Takes (row column.name)
  passes : ∀ check ∈ schema.checks, check.condition row ≠ some false

instance (schema : TableSchema) (row : SqlRow) : Decidable (schema.Satisfies row) :=
  decidable_of_iff ((∀ column ∈ schema.columns, column.Takes (row column.name)) ∧
      ∀ check ∈ schema.checks, check.condition row ≠ some false)
    ⟨fun both => ⟨both.1, both.2⟩, fun satisfies => ⟨satisfies.takes, satisfies.passes⟩⟩

/-- What the database generates for a new row. -/
structure Generated where
  id : Uuid
  now : Instant

/-- The value of a default. -/
def Generated.text (generated : Generated) : ColumnDefault → String
  | .genRandomUuid => generated.id.text
  | .now => toISOString generated.now
  | .literal text => text

/-- `INSERT`, as the repository issues it: `DEFAULT` for a property that is absent,
`NULL` for one that is `null`. -/
def insert (schema : TableSchema) (generated : Generated) (values : String → Nullish String) :
    SqlRow := fun name =>
  match values name with
  | .undefined => ((schema.columns.find? (·.name = name)).bind (·.default)).map generated.text
  | .null => none
  | .value text => some text

/-- What is not a column of the table is not in its rows. -/
theorem insert_eq_none {schema : TableSchema} {generated : Generated}
    {values : String → Nullish String} {name : String} (absent : values name = .undefined)
    (unknown : ∀ column ∈ schema.columns, name ≠ column.name) :
    schema.insert generated values name = none := by
  have notFound : schema.columns.find? (·.name = name) = none := by
    rw [List.find?_eq_none]
    intro column member same
    exact unknown column member (of_decide_eq_true same).symm
  unfold insert
  simp only [absent, notFound, Option.bind_none, Option.map_none]

end TableSchema

end PropFlow
