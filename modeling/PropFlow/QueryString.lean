import PropFlow.Library.FirstOccurrences
import PropFlow.Library.FormUrlEncoded
import PropFlow.Validation

/-!
# Query strings

What a handler gets of the query of a request: Express reads it with Node's
`querystring`, as an object with a string for a key that occurs once and an array of
strings for one that is repeated.

* `QueryValue` — a string, or an array of two strings at least;
* `addKeyVal`, `ParsedQuery.parse` — the object, built pair by pair as `querystring` does;
  of the pieces between `&` it reads `maxKeys` and drops the rest without an error;
* `ParsedQuery.valuesOf` — the values of a key, in the order of the query.

`valuesOf_parse` says which mapping of keys to lists of values that object is: the one of
the pairs that are read.  `nodup_keys_iff` says when it is a mapping of keys to values, and
`length_entries_parse_le` bounds its keys.
-/

namespace PropFlow

open Library

/-- A value of a parsed query.  An array has two elements at least. -/
inductive QueryValue where
  | string (text : String)
  | array (first second : String) (others : List String)
deriving DecidableEq, Repr

namespace QueryValue

/-- The values, in the order of the query. -/
def values : QueryValue → List String
  | .string text => [text]
  | .array first second others => first :: second :: others

/-- The value once the key has occurred again. -/
def push (text : String) : QueryValue → QueryValue
  | .string first => .array first text []
  | .array first second others => .array first second (others ++ [text])

/-- What the decorators of a DTO see: an array is no string. -/
def json : QueryValue → JsonValue
  | .string text => .string text
  | .array .. => .other

/-- The new value comes last. -/
@[simp] theorem values_push (value : QueryValue) (text : String) :
    (value.push text).values = value.values ++ [text] := by
  cases value <;> rfl

/-- There is no empty array. -/
theorem values_ne_nil (value : QueryValue) : value.values ≠ [] := by
  cases value <;> exact List.cons_ne_nil _ _

/-- One value is a string and no array. -/
theorem values_eq_singleton_iff {value : QueryValue} {text : String} :
    value.values = [text] ↔ value = .string text := by
  cases value <;> simp [values]

end QueryValue

/-- The properties of a parsed query, in the order in which they were added. -/
abbrev QueryEntries := List (String × QueryValue)

/-- `addKeyVal(obj, key, value)` of `querystring`, of the properties of `obj`. -/
def addKeyVal (key value : String) : QueryEntries → QueryEntries
  | [] => [(key, .string value)]
  | entry :: rest =>
      if entry.1 = key then (key, entry.2.push value) :: rest
      else entry :: addKeyVal key value rest

/-- A key that is there keeps its place, and a new one comes last. -/
theorem map_fst_addKeyVal (key value : String) (entries : QueryEntries) :
    (addKeyVal key value entries).map Prod.fst = insertNew (entries.map Prod.fst) key := by
  induction entries with
  | nil => rfl
  | cons entry rest ih =>
      obtain ⟨name, old⟩ := entry
      unfold insertNew at ih ⊢
      rw [addKeyVal, List.map_cons]
      by_cases here : name = key
      · subst here
        simp
      · rw [if_neg here, List.map_cons, ih]
        simp only [List.mem_cons, Ne.symm here, false_or]
        split_ifs <;> rfl

/-- A key has one entry. -/
theorem filter_eq_of_nodup {entries : QueryEntries} (distinct : (entries.map Prod.fst).Nodup)
    (key : String) :
    (entries.filter fun entry => entry.1 = key) =
      ((entries.lookup key).map fun value => (key, value)).toList := by
  induction entries with
  | nil => rfl
  | cons entry rest ih =>
      obtain ⟨name, value⟩ := entry
      obtain ⟨fresh, distinctRest⟩ := List.nodup_cons.mp distinct
      by_cases here : name = key
      · subst here
        have others : (rest.filter fun entry => entry.1 = name) = [] := by
          rw [List.filter_eq_nil_iff]
          intro other member same
          exact fresh (List.mem_map.mpr ⟨other, member, of_decide_eq_true same⟩)
        rw [List.filter_cons_of_pos (by simp), others, List.lookup_cons_self]
        rfl
      · have other : (key == name) = false := beq_false_of_ne (Ne.symm here)
        rw [List.filter_cons_of_neg (by simpa using here), List.lookup_cons, other]
        exact ih distinctRest

/-- A parsed query. -/
structure ParsedQuery where
  entries : QueryEntries
  /-- An object has one property of a name. -/
  distinct : (entries.map Prod.fst).Nodup

namespace ParsedQuery

/-- The object without properties. -/
def empty : ParsedQuery := ⟨[], List.nodup_nil⟩

/-- The object with one pair more. -/
def add (query : ParsedQuery) (pair : String × String) : ParsedQuery where
  entries := addKeyVal pair.1 pair.2 query.entries
  distinct := by
    rw [map_fst_addKeyVal]
    exact nodup_insertNew query.distinct pair.1

/-- `query[key]`. -/
def get (query : ParsedQuery) (key : String) : Option QueryValue := query.entries.lookup key

/-- The values of a key, none if it is not there. -/
def valuesOf (query : ParsedQuery) (key : String) : List String :=
  ((query.get key).map QueryValue.values).getD []

/-- The object of some pairs. -/
def ofPairs (pairs : List (String × String)) : ParsedQuery := pairs.foldl add empty

/-- `maxKeys` of `querystring.parse`. -/
def maxKeys : ℕ := 1000

/-- `querystring.parse(text)`.  `malformed` is what `querystring.unescape` falls back to. -/
def parse (malformed : List Char → String) (text : List Char) : ParsedQuery :=
  ofPairs (FormUrlEncoded.parse malformed maxKeys text)

/-! ## The object as a mapping -/

/-- The last pair is added last. -/
theorem ofPairs_concat (pairs : List (String × String)) (pair : String × String) :
    ofPairs (pairs ++ [pair]) = (ofPairs pairs).add pair := by
  unfold ofPairs
  rw [List.foldl_append]
  rfl

/-- What the key of the pair has then. -/
theorem lookup_addKeyVal_self (key value : String) (entries : QueryEntries) :
    (addKeyVal key value entries).lookup key =
      some (((entries.lookup key).map (QueryValue.push value)).getD (.string value)) := by
  induction entries with
  | nil => exact List.lookup_cons_self
  | cons entry rest ih =>
      obtain ⟨name, old⟩ := entry
      rw [addKeyVal]
      by_cases here : name = key
      · subst here
        rw [if_pos rfl, List.lookup_cons_self, List.lookup_cons_self]
        rfl
      · have other : (key == name) = false := beq_false_of_ne (Ne.symm here)
        rw [if_neg here, List.lookup_cons, List.lookup_cons, other]
        exact ih

/-- Other keys keep what they have. -/
theorem lookup_addKeyVal_of_ne {key other : String} (differ : other ≠ key) (value : String)
    (entries : QueryEntries) :
    (addKeyVal key value entries).lookup other = entries.lookup other := by
  have notKey : (other == key) = false := beq_false_of_ne differ
  induction entries with
  | nil => rw [addKeyVal, List.lookup_cons, notKey]
  | cons entry rest ih =>
      obtain ⟨name, old⟩ := entry
      rw [addKeyVal]
      by_cases here : name = key
      · subst here
        rw [if_pos rfl, List.lookup_cons, List.lookup_cons, notKey]
      · rw [if_neg here, List.lookup_cons, List.lookup_cons, ih]

/-- One more pair. -/
theorem valuesOf_add (query : ParsedQuery) (pair : String × String) (key : String) :
    (query.add pair).valuesOf key =
      query.valuesOf key ++ if pair.1 = key then [pair.2] else [] := by
  by_cases here : pair.1 = key
  · subst here
    unfold valuesOf get add
    rw [if_pos rfl, lookup_addKeyVal_self]
    cases query.entries.lookup pair.1 with
    | none => rfl
    | some old => exact old.values_push pair.2
  · unfold valuesOf get add
    rw [if_neg here, lookup_addKeyVal_of_ne (Ne.symm here), List.append_nil]

/-- **The object of some pairs** has for each key the values of its pairs, in order. -/
theorem valuesOf_ofPairs (pairs : List (String × String)) (key : String) :
    (ofPairs pairs).valuesOf key = (pairs.filter fun pair => pair.1 = key).map Prod.snd := by
  induction pairs using List.reverseRecOn with
  | nil => rfl
  | append_singleton pairs pair ih =>
      rw [ofPairs_concat, valuesOf_add, ih, List.filter_append, List.map_append]
      by_cases here : pair.1 = key <;> simp [here]

/-- **The object of a query** has for each key the values of the pairs that are read. -/
theorem valuesOf_parse (malformed : List Char → String) (text : List Char) (key : String) :
    (parse malformed text).valuesOf key =
      ((FormUrlEncoded.parse malformed maxKeys text).filter fun pair => pair.1 = key).map
        Prod.snd :=
  valuesOf_ofPairs _ key

/-- Its keys are those of the pairs, each once. -/
theorem keys_ofPairs (pairs : List (String × String)) :
    (ofPairs pairs).entries.map Prod.fst = firsts (pairs.map Prod.fst) := by
  induction pairs using List.reverseRecOn with
  | nil => rfl
  | append_singleton pairs pair ih =>
      rw [ofPairs_concat, List.map_append, List.map_singleton, firsts_concat, ← ih]
      exact map_fst_addKeyVal pair.1 pair.2 _

/-- The object has at most `maxKeys` keys. -/
theorem length_entries_parse_le (malformed : List Char → String) (text : List Char) :
    (parse malformed text).entries.length ≤ maxKeys := by
  have keys : (parse malformed text).entries.length =
      (firsts ((FormUrlEncoded.parse malformed maxKeys text).map Prod.fst)).length := by
    rw [← List.length_map Prod.fst]
    exact congrArg List.length (keys_ofPairs _)
  rw [keys]
  refine (length_firsts_le _).trans ?_
  rw [List.length_map]
  exact FormUrlEncoded.length_parse_le malformed maxKeys text

/-- The keys of the pairs differ if no key has two values. -/
theorem nodup_keys_iff (malformed : List Char → String) (text : List Char) :
    ((FormUrlEncoded.parse malformed maxKeys text).map Prod.fst).Nodup ↔
      ∀ key, ((parse malformed text).valuesOf key).length ≤ 1 := by
  rw [List.nodup_iff_count_le_one]
  refine forall_congr' fun key => ?_
  rw [valuesOf_parse, List.length_map, List.count, List.countP_map, List.countP_eq_length_filter]
  rfl

/-! ## The entries -/

variable {query : ParsedQuery} {key text : String}

/-- The entry of a key is the one that is found. -/
theorem get_eq_some_iff {value : QueryValue} :
    query.get key = some value ↔ (key, value) ∈ query.entries := by
  unfold get
  rw [List.lookup_eq_some_iff]
  constructor
  · rintro ⟨before, after, split, -⟩
    rw [split]
    exact List.mem_append_right before List.mem_cons_self
  · intro member
    obtain ⟨before, after, split⟩ := List.append_of_mem member
    refine ⟨before, after, split, fun entry inside => bne_iff_ne.mpr fun same => ?_⟩
    have distinct := query.distinct
    rw [split, List.map_append, List.map_cons, List.nodup_append] at distinct
    exact distinct.2.2 entry.1 (List.mem_map_of_mem inside) key List.mem_cons_self same.symm

/-- The entries of a key. -/
theorem filter_entries (query : ParsedQuery) (key : String) :
    (query.entries.filter fun entry => entry.1 = key) =
      ((query.get key).map fun value => (key, value)).toList :=
  filter_eq_of_nodup query.distinct key

/-- A key has no values exactly when it is not there. -/
theorem valuesOf_eq_nil_iff : query.valuesOf key = [] ↔ query.get key = none := by
  unfold valuesOf
  cases query.get key with
  | none => exact iff_of_true rfl rfl
  | some value => exact iff_of_false value.values_ne_nil (Option.some_ne_none value)

/-- A string is what a key with one value has. -/
theorem valuesOf_eq_singleton_iff :
    query.valuesOf key = [text] ↔ query.get key = some (.string text) := by
  unfold valuesOf
  cases query.get key with
  | none => exact iff_of_false (List.cons_ne_nil text []).symm (Option.some_ne_none _).symm
  | some value =>
      rw [Option.map_some, Option.getD_some, QueryValue.values_eq_singleton_iff, Option.some.injEq]

end ParsedQuery

end PropFlow
