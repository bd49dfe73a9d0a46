import PropFlow.QueryString
import PropFlow.Gateway.Downstream

/-!
# Passing queries on

The list routes of the gateway hand the query that they have parsed to a client of the
service, which writes it as a query string again (`urlSearchParams`).  Its type says that
every value is a string; one that is an array becomes a string there, with commas.

## Three clients

The clients of work orders, properties and the activity differ in their path only
(`withSearch`), so what holds of them is said of any path without a question mark.

## What the service parses

What is written is read back entry by entry: the writing is the inverse of the reading
(`Library.FormUrlEncoded`), keys that look like array indices come first as they do in an
object, which does not matter for a lookup (`ParsedQuery.perm_ownEntries`), and there are
not more pairs than the parser reads.

`passesThrough_iff` says which queries the service parses as the gateway did: those in
which no key comes twice among the pieces that are read.
-/

namespace PropFlow

open Library

/-! ## URLSearchParams -/

/-- `String(value)`. -/
def QueryValue.toText : QueryValue → String
  | .string text => text
  -- `Array.prototype.join`
  | .array first second others => String.intercalate "," (first :: second :: others)

/-- The array index that a key is, if it is one. -/
def arrayIndex? (key : String) : Option ℕ :=
  let n := Nat.ofDigitChars 10 key.toList 0
  if toString n = key ∧ n < 2 ^ 32 - 1 then some n else none

/-- The entries of an object, in the order of its own keys: array indices come first. -/
def ParsedQuery.ownEntries (query : ParsedQuery) : QueryEntries :=
  ((query.entries.filter fun entry => (arrayIndex? entry.1).isSome).insertionSort
      fun a b => (arrayIndex? a.1).getD 0 ≤ (arrayIndex? b.1).getD 0) ++
    query.entries.filter fun entry => (arrayIndex? entry.1).isNone

/-- `new URLSearchParams(query).toString()`. -/
def urlSearchParams (query : ParsedQuery) : List Char :=
  FormUrlEncoded.serialise (query.ownEntries.map fun entry => (entry.1, entry.2.toText))

/-! ## The clients and the services -/

/-- `${route}${search ? `?${search}` : ''}`. -/
def withSearch (route : String) (search : List Char) : List Char :=
  route.toList ++ if search = [] then [] else '?' :: search

/-- The path that `WorkOrdersClient.list(query)` gets. -/
def WorkOrdersClient.listPath (query : ParsedQuery) : List Char :=
  withSearch "/work-orders" (urlSearchParams query)

/-- The path that `PropertiesClient.list(query)` gets. -/
def PropertiesClient.listPath (query : ParsedQuery) : List Char :=
  withSearch "/properties" (urlSearchParams query)

/-- The path that `ActivityClient.list(query)` gets. -/
def ActivityClient.listPath (query : ParsedQuery) : List Char :=
  withSearch "/activity" (urlSearchParams query)

/-- The query string of a url. -/
def queryOf (url : List Char) : List Char := (url.dropWhile (· ≠ '?')).drop 1

/-- **The service parses what the gateway has parsed**: the same values for every key. -/
def PassesThrough (malformed : List Char → String) (listPath : ParsedQuery → List Char)
    (text : List Char) : Prop :=
  ∀ key, (ParsedQuery.parse malformed
      (queryOf (listPath (ParsedQuery.parse malformed text)))).valuesOf key =
    (ParsedQuery.parse malformed text).valuesOf key

/-! ## What a service parses -/

/-- The order of the entries is all that differs. -/
theorem ParsedQuery.perm_ownEntries (query : ParsedQuery) :
    query.ownEntries.Perm query.entries := by
  refine ((List.perm_insertionSort _ _).append_right _).trans ?_
  simpa using List.filter_append_perm (fun entry => (arrayIndex? entry.1).isSome) query.entries

/-- The route ends at the `?`. -/
theorem queryOf_withSearch {route : String} (plain : '?' ∉ route.toList) (search : List Char) :
    queryOf (withSearch route search) = search := by
  have before : ∀ c ∈ route.toList, decide (c ≠ '?') = true := by
    intro c member
    exact decide_eq_true fun same => plain (same ▸ member)
  unfold queryOf withSearch
  rw [List.dropWhile_append_of_pos before]
  by_cases empty : search = []
  · rw [if_pos empty, empty]
    rfl
  · rw [if_neg empty, List.dropWhile_cons_of_neg (by decide)]
    rfl

section Parsed

variable (malformed : List Char → String) {route : String}

/-- **Each key has one value at the service**, the text of the one it has at the gateway. -/
theorem valuesOf_parse_urlSearchParams {query : ParsedQuery}
    (room : query.entries.length ≤ ParsedQuery.maxKeys) (key : String) :
    (ParsedQuery.parse malformed (urlSearchParams query)).valuesOf key =
      ((query.get key).map fun value => [value.toText]).getD [] := by
  have written : (query.ownEntries.map fun entry => (entry.1, entry.2.toText)).length ≤
      ParsedQuery.maxKeys := by
    rwa [List.length_map, query.perm_ownEntries.length_eq]
  have ofKey : (query.ownEntries.filter fun entry => entry.1 = key).Perm
      ((query.get key).map fun value => (key, value)).toList := by
    rw [← query.filter_entries]
    exact query.perm_ownEntries.filter _
  rw [ParsedQuery.valuesOf_parse, urlSearchParams, FormUrlEncoded.parse_serialise malformed written,
    List.filter_map, List.map_map]
  cases found : query.get key with
  | none =>
      rw [found] at ofKey
      exact congrArg (List.map _) ofKey.eq_nil
  | some value =>
      rw [found] at ofKey
      exact congrArg (List.map _) (List.perm_singleton.mp ofKey)

/-- What the service reads under a key: one text, whatever there was. -/
theorem valuesOf_service (plain : '?' ∉ route.toList) (text : List Char) (key : String) :
    (ParsedQuery.parse malformed (queryOf (withSearch route
        (urlSearchParams (ParsedQuery.parse malformed text))))).valuesOf key =
      (((ParsedQuery.parse malformed text).get key).map fun value => [value.toText]).getD [] := by
  rw [queryOf_withSearch plain]
  exact valuesOf_parse_urlSearchParams malformed
    (ParsedQuery.length_entries_parse_le malformed text) key

/-- One route. -/
theorem passesThrough_withSearch_iff (plain : '?' ∉ route.toList) (text : List Char) :
    PassesThrough malformed (fun query => withSearch route (urlSearchParams query)) text ↔
      ((FormUrlEncoded.parse malformed ParsedQuery.maxKeys text).map Prod.fst).Nodup := by
  rw [ParsedQuery.nodup_keys_iff]
  refine forall_congr' fun key => ?_
  rw [valuesOf_service malformed plain, ParsedQuery.valuesOf]
  cases (ParsedQuery.parse malformed text).get key with
  | none => exact iff_of_true rfl (Nat.zero_le 1)
  | some value =>
      cases value with
      | string value => exact iff_of_true rfl (Nat.le_refl 1)
      | array first second others =>
          refine iff_of_false (fun same => ?_) (by simp [QueryValue.values])
          exact absurd (congrArg List.length same) (by simp [QueryValue.values])

end Parsed

/-- **When the query passes through**, of any of the three clients: when no two of the
pairs in it have the same key. -/
theorem passesThrough_iff (malformed : List Char → String) (text : List Char) :
    (PassesThrough malformed WorkOrdersClient.listPath text ↔
      ((FormUrlEncoded.parse malformed ParsedQuery.maxKeys text).map Prod.fst).Nodup) ∧
    (PassesThrough malformed PropertiesClient.listPath text ↔
      ((FormUrlEncoded.parse malformed ParsedQuery.maxKeys text).map Prod.fst).Nodup) ∧
    (PassesThrough malformed ActivityClient.listPath text ↔
      ((FormUrlEncoded.parse malformed ParsedQuery.maxKeys text).map Prod.fst).Nodup) :=
  ⟨passesThrough_withSearch_iff malformed (by decide) text,
    passesThrough_withSearch_iff malformed (by decide) text,
    passesThrough_withSearch_iff malformed (by decide) text⟩

/-- A query with a repeated key. -/
def twoCities : List Char := "city=Leeds&city=York".toList

/-- Its entries. -/
theorem parse_twoCities (malformed : List Char → String) :
    FormUrlEncoded.parse malformed ParsedQuery.maxKeys twoCities =
      [("city", "Leeds"), ("city", "York")] := by
  have typed : twoCities = FormUrlEncoded.plainText [("city", "Leeds"), ("city", "York")] := rfl
  rw [typed, FormUrlEncoded.parse_plainText malformed (by decide) (by decide)]

/-- **Two cities become one**, by the name of `Leeds,York`: the service, which declines
two, finds no property there. -/
theorem not_passesThrough_twoCities :
    ¬ PassesThrough (fun _ => "") PropertiesClient.listPath twoCities := by
  intro passes
  have nodup := (passesThrough_withSearch_iff (fun _ => "") (by decide) twoCities).mp passes
  rw [parse_twoCities] at nodup
  exact absurd nodup (by decide)

end PropFlow
