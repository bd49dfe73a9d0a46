import PropFlow.Library.FormUrlEncoded

/-!
# Route patterns

Paths matched against patterns like `/orders/:id/items`, the way routers do that compile a
pattern to `^/orders/([^/]+)/items(?:/$)?$` with the flag `i`: literal segments up to the
case of ASCII letters, parameters that are not empty, and one slash more at the end if
need be.  What a parameter has matched is decoded as a URI component.

* `RoutePattern`, `matchPath` — a pattern, and what its parameters match in a path;
* `path` — the path that a template makes of a pattern and its arguments;
* `RouteEntry`, `dispatch` — a table of routes with their methods, which is searched in
  order; `HEAD` is handled as `GET`.

`matchPath_path`: a path made from a pattern gives back what was put in, if there is no
slash in it.  `dispatch_eq_some_iff` says when the order of a table does not matter: when
any two of its routes are `Apart`, by their methods or by a literal segment.
-/

namespace Library

/-- A segment of a pattern. -/
inductive Segment where
  | literal (text : List Char)
  | param
deriving DecidableEq, Repr

/-- A pattern, segment by segment. -/
abbrev RoutePattern := List Segment

namespace RoutePattern

/-! ## Matching -/

/-- Equal up to the case of ASCII letters. -/
def SameText (a b : List Char) : Prop := a.map Char.toLower = b.map Char.toLower

instance (a b : List Char) : Decidable (SameText a b) := inferInstanceAs (Decidable (_ = _))

/-- The segments of a path, less a last slash. -/
def segments : List Char → Option (List (List Char))
  | '/' :: rest =>
      let parts := rest.splitOn '/'
      some (if parts.getLast? = some [] then parts.dropLast else parts)
  | _ => none

/-- What the parameters match. -/
def matchSegments : RoutePattern → List (List Char) → Option (List (List Char))
  | [], [] => some []
  | .literal text :: pattern, segment :: rest =>
      if SameText text segment then matchSegments pattern rest else none
  | .param :: pattern, segment :: rest =>
      if segment = [] then none else (matchSegments pattern rest).map (segment :: ·)
  | _, _ => none

/-- What the parameters of a pattern match in a path. -/
def matchPath (pattern : RoutePattern) (path : List Char) : Option (List (List Char)) :=
  (segments path).bind (matchSegments pattern)

/-! ## The path of a pattern -/

/-- The pattern, with arguments for its parameters. -/
def fill : RoutePattern → List (List Char) → List (List Char)
  | [], _ => []
  | .literal text :: pattern, args => text :: fill pattern args
  | .param :: pattern, arg :: args => arg :: fill pattern args
  | .param :: _, [] => []

/-- The path that a pattern makes of some arguments. -/
def path (pattern : RoutePattern) (args : List (List Char)) : List Char :=
  '/' :: ['/'].intercalate (fill pattern args)

/-- How many parameters it has. -/
def arity (pattern : RoutePattern) : ℕ := pattern.count .param

/-- No segment is empty, or has a slash in it. -/
def IsPlain (texts : List (List Char)) : Prop := ∀ text ∈ texts, text ≠ [] ∧ '/' ∉ text

instance (texts : List (List Char)) : Decidable (IsPlain texts) :=
  inferInstanceAs (Decidable (∀ text ∈ texts, _))

/-- The literals of the pattern. -/
def literals (pattern : RoutePattern) : List (List Char) :=
  pattern.filterMap fun
    | .literal text => some text
    | .param => none

/-- A text is the same in any case. -/
theorem SameText.refl (text : List Char) : SameText text text := rfl

/-- Segments that were filled in are matched again. -/
theorem matchSegments_fill {pattern : RoutePattern} {args : List (List Char)}
    (count : args.length = arity pattern) (plain : IsPlain args) :
    matchSegments pattern (fill pattern args) = some args := by
  induction pattern generalizing args with
  | nil =>
      obtain rfl : args = [] := List.length_eq_zero_iff.mp count
      rfl
  | cons segment pattern ih =>
      cases segment with
      | literal text =>
          rw [fill, matchSegments, if_pos (SameText.refl text)]
          exact ih (by simpa [arity] using count) plain
      | param =>
          cases args with
          | nil => simp [arity] at count
          | cons arg args =>
              obtain ⟨here, others⟩ := List.forall_mem_cons.mp plain
              rw [fill, matchSegments, if_neg here.1, ih (by simpa [arity] using count) others]
              rfl

/-- There is no slash in them. -/
theorem isPlain_fill {pattern : RoutePattern} {args : List (List Char)}
    (literals : IsPlain (literals pattern)) (plain : IsPlain args) :
    IsPlain (fill pattern args) := by
  induction pattern generalizing args with
  | nil => exact fun _ member => nomatch member
  | cons segment pattern ih =>
      cases segment with
      | literal text =>
          obtain ⟨here, others⟩ := List.forall_mem_cons.mp literals
          exact List.forall_mem_cons.mpr ⟨here, ih others plain⟩
      | param =>
          cases args with
          | nil => exact fun _ member => nomatch member
          | cons arg args =>
              obtain ⟨here, others⟩ := List.forall_mem_cons.mp plain
              exact List.forall_mem_cons.mpr ⟨here, ih literals others⟩

/-- So a path that was put together is taken apart where it was, -/
theorem segments_intercalate {parts : List (List Char)} (some_ : parts ≠ [])
    (plain : IsPlain parts) : segments ('/' :: ['/'].intercalate parts) = some parts := by
  have split : (['/'].intercalate parts).splitOn '/' = parts :=
    List.splitOn_intercalate '/' (fun part member => (plain part member).2) some_
  have last : parts.getLast? ≠ some [] := fun isLast =>
    (plain [] (List.mem_of_getLast? isLast)).1 rfl
  rw [segments, split, if_neg last]

/-- **A path gives back what was put in.** -/
theorem matchPath_path {pattern : RoutePattern} {args : List (List Char)} (some_ : pattern ≠ [])
    (count : args.length = arity pattern) (literals : IsPlain (literals pattern))
    (plain : IsPlain args) : matchPath pattern (path pattern args) = some args := by
  have filled : fill pattern args ≠ [] := by
    cases pattern with
    | nil => exact absurd rfl some_
    | cons segment pattern =>
        cases segment with
        | literal text => exact List.cons_ne_nil _ _
        | param =>
            cases args with
            | nil => simp [arity] at count
            | cons arg args => exact List.cons_ne_nil _ _
  rw [matchPath, path, segments_intercalate filled (isPlain_fill literals plain),
    Option.bind_some, matchSegments_fill count plain]

/-! ## A first segment -/

/-- The path after its first segment, if that is the text. -/
def dropPrefix (text : List Char) : List Char → Option (List Char)
  | '/' :: rest =>
      if SameText text (rest.takeWhile (· ≠ '/')) then some (rest.dropWhile (· ≠ '/')) else none
  | _ => none

/-- segment by segment, -/
theorem segments_cons {first : List Char} (plain : '/' ∉ first) (rest : List Char) :
    segments ('/' :: (first ++ '/' :: rest)) = (segments ('/' :: rest)).map (first :: ·) := by
  have some_ := List.splitOn_ne_nil '/' rest
  have last : (first :: rest.splitOn '/').getLast? = (rest.splitOn '/').getLast? := by
    rw [List.getLast?_cons, List.getLast?_eq_some_getLast some_]
    rfl
  rw [segments, segments, List.splitOn_append_cons_self_of_not_mem plain, last,
    List.dropLast_cons_of_ne_nil some_]
  split_ifs <;> rfl

/-- up to the last one. -/
theorem segments_singleton {first : List Char} (plain : '/' ∉ first) :
    segments ('/' :: first) = some (if first = [] then [] else [first]) := by
  rw [segments, List.splitOn_eq_singleton plain, List.getLast?_singleton]
  simp only [Option.some.injEq]
  split_ifs <;> rfl

/-- The empty path matches the empty pattern only. -/
theorem matchSegments_nil_of_ne {pattern : RoutePattern} (some_ : pattern ≠ []) :
    matchSegments pattern [] = none := by
  cases pattern with
  | nil => exact absurd rfl some_
  | cons segment pattern => cases segment <;> rfl

/-- **A literal in front of a pattern** is the first segment of the path. -/
theorem matchPath_literal {pattern : RoutePattern} (some_ : pattern ≠ []) (text : List Char)
    (path : List Char) :
    matchPath (.literal text :: pattern) path =
      (dropPrefix text path).bind (matchPath pattern) := by
  by_cases slash : ∃ rest, path = '/' :: rest
  · obtain ⟨rest, rfl⟩ := slash
    have split : rest.takeWhile (· ≠ '/') ++ rest.dropWhile (· ≠ '/') = rest :=
      List.takeWhile_append_dropWhile
    have plain : '/' ∉ rest.takeWhile (· ≠ '/') := fun inside => by
      simpa using List.mem_takeWhile_imp inside
    rw [dropPrefix]
    generalize rest.takeWhile (· ≠ '/') = first at split plain ⊢
    cases others : rest.dropWhile (· ≠ '/') with
    | nil =>
        -- there is no second segment
        rw [others, List.append_nil] at split
        rw [← split, matchPath, segments_singleton plain, Option.bind_some]
        have lhs : matchSegments (.literal text :: pattern) (if first = [] then [] else [first]) =
            none := by
          split_ifs
          · rfl
          · rw [matchSegments, matchSegments_nil_of_ne some_, ite_self]
        rw [lhs]
        split_ifs <;> rfl
    | cons c others' =>
        obtain rfl : c = '/' := by
          have head := List.head?_dropWhile_not (fun c : Char => decide (c ≠ '/')) rest
          rw [others] at head
          simpa using head
        rw [others] at split
        rw [← split, matchPath, segments_cons plain]
        split_ifs with same
        · rw [Option.bind_some, matchPath]
          cases segments ('/' :: others') with
          | none => rfl
          | some parts => exact if_pos same
        · cases segments ('/' :: others') with
          | none => rfl
          | some parts => exact if_neg same
  · have noSegments : segments path = none := by
      unfold segments
      split
      · exact absurd ⟨_, rfl⟩ slash
      · rfl
    have noPrefix : dropPrefix text path = none := by
      unfold dropPrefix
      split
      · exact absurd ⟨_, rfl⟩ slash
      · rfl
    rw [matchPath, noSegments, noPrefix]
    rfl

/-! ## Patterns without a path in common -/

/-- Two literals that differ match no text both. -/
def Segment.Apart : Segment → Segment → Prop
  | .literal a, .literal b => ¬ SameText a b
  | _, _ => False

instance : DecidableRel Segment.Apart
  | .literal _, .literal _ => inferInstanceAs (Decidable (¬ _))
  | .literal _, .param => inferInstanceAs (Decidable False)
  | .param, _ => inferInstanceAs (Decidable False)

/-- They have different lengths, or different literals in one place. -/
def Apart : RoutePattern → RoutePattern → Prop
  | [], [] => False
  | a :: p, b :: q => Segment.Apart a b ∨ Apart p q
  | _, _ => True

instance decidableApart : DecidableRel Apart
  | [], [] => inferInstanceAs (Decidable False)
  | a :: p, b :: q =>
      have := decidableApart p q
      inferInstanceAs (Decidable (Segment.Apart a b ∨ Apart p q))
  | [], _ :: _ => inferInstanceAs (Decidable True)
  | _ :: _, [] => inferInstanceAs (Decidable True)

/-- What matches one of two patterns that are apart does not match the other, -/
theorem matchSegments_eq_none_of_apart {p q : RoutePattern} (apart : Apart p q)
    {parts : List (List Char)} (matched : (matchSegments p parts).isSome = true) :
    matchSegments q parts = none := by
  induction p generalizing q parts with
  | nil =>
      cases parts with
      | nil =>
          cases q with
          | nil => exact apart.elim
          | cons b q => exact matchSegments_nil_of_ne (List.cons_ne_nil b q)
      | cons part parts => cases matched
  | cons a p ih =>
      cases parts with
      | nil =>
          rw [matchSegments_nil_of_ne (List.cons_ne_nil a p)] at matched
          cases matched
      | cons part parts =>
          cases q with
          | nil => rfl
          | cons b q =>
              -- where the first segments agree, the rest is apart
              have rest : Apart p q → (matchSegments p parts).isSome = true →
                  matchSegments (b :: q) (part :: parts) = none := by
                intro others matched
                cases b with
                | literal text => rw [matchSegments, ih others matched, ite_self]
                | param => rw [matchSegments, ih others matched, Option.map_none, ite_self]
              cases a with
              | param =>
                  rw [matchSegments] at matched
                  split_ifs at matched with empty
                  · cases matched
                  · rw [Option.isSome_map] at matched
                    exact rest (apart.resolve_left (by cases b <;> exact id)) matched
              | literal text =>
                  rw [matchSegments] at matched
                  split_ifs at matched with same
                  · cases b with
                    | param => exact rest (apart.resolve_left id) matched
                    | literal text' =>
                        rcases apart with other | apart
                        · refine if_neg fun same' => other (same.trans same'.symm)
                        · exact rest apart matched
                  · cases matched

/-- as a list of segments and as a path. -/
theorem matchPath_eq_none_of_apart {p q : RoutePattern} (apart : Apart p q) {path : List Char}
    (matched : (matchPath p path).isSome = true) : matchPath q path = none := by
  unfold matchPath at matched ⊢
  cases parts : segments path with
  | none => rfl
  | some parts' =>
      rw [parts] at matched
      exact matchSegments_eq_none_of_apart apart matched

end RoutePattern

/-! ## URI components -/

namespace UriComponent

open Json (hexValue)

/-- The bytes of a component, if every percent sign is one of a code. -/
def bytes : List Char → Option (List UInt8)
  | [] => some []
  | c :: rest =>
      if c = '%' then
        match rest with
        | high :: low :: rest => do
            let high ← hexValue high
            let low ← hexValue low
            let others ← bytes rest
            return UInt8.ofNat (16 * high + low) :: others
        | _ => none
      else (bytes rest).map (String.utf8EncodeChar c ++ ·)

/-- `decodeURIComponent(component)`; `none` is a `URIError`. -/
def decode (component : List Char) : Option String :=
  (bytes component).bind fun read => String.fromUTF8? read.toByteArray

/-- Without a percent sign nothing is decoded. -/
theorem bytes_of_notMem {component : List Char} (plain : '%' ∉ component) :
    bytes component = some (component.flatMap String.utf8EncodeChar) := by
  induction component with
  | nil => rfl
  | cons c rest ih =>
      have here : c ≠ '%' := fun same => plain (same ▸ List.mem_cons_self)
      unfold bytes
      rw [if_neg here, ih fun inside => plain (List.mem_cons_of_mem c inside)]
      rfl

/-- A component without codes stands for itself. -/
theorem decode_of_notMem {text : String} (plain : '%' ∉ text.toList) :
    decode text.toList = some text := by
  have whole : (text.toList.flatMap String.utf8EncodeChar).toByteArray = text.toByteArray :=
    String.utf8Encode_toList
  rw [decode, bytes_of_notMem plain, Option.bind_some, whole,
    FormUrlEncoded.fromUTF8?_toByteArray]

end UriComponent

/-! ## Route tables -/

/-- An entry of a route table. -/
structure RouteEntry (α : Type*) where
  method : String
  pattern : RoutePattern
  handler : α

namespace RouteEntry

variable {α : Type*}

/-- `HEAD` is handled as `GET`. -/
def handledAs (method : String) : String := if method = "HEAD" then "GET" else method

/-- What the parameters of the entry match, if it is one for the request. -/
def receive (method : String) (path : List Char) (entry : RouteEntry α) :
    Option (List (List Char)) :=
  if entry.method = handledAs method then entry.pattern.matchPath path else none

/-- The handler of the first entry that matches, and its arguments; none if there is no such
entry, or an argument that cannot be decoded. -/
def dispatch (table : List (RouteEntry α)) (method : String) (path : List Char) :
    Option (α × List String) :=
  (table.findSome? fun entry => (entry.receive method path).map (entry.handler, ·)).bind
    fun found => (found.2.mapM UriComponent.decode).map (found.1, ·)

/-- No request is one for both. -/
def Apart (a b : RouteEntry α) : Prop := a.method ≠ b.method ∨ a.pattern.Apart b.pattern

instance : DecidableRel (Apart (α := α)) := fun _ _ => inferInstanceAs (Decidable (_ ∨ _))

/-- What one of two routes that are apart receives the other one does not. -/
theorem receive_eq_none_of_apart {a b : RouteEntry α} (apart : a.Apart b) {method : String}
    {path : List Char} (received : (a.receive method path).isSome = true) :
    b.receive method path = none := by
  unfold receive at received ⊢
  split_ifs at received with here
  · split_ifs with here'
    · exact RoutePattern.matchPath_eq_none_of_apart
        (apart.resolve_left fun other => other (here.trans here'.symm)) received
    · rfl
  · cases received

/-- If all are apart, the entry that matches is the one that is found. -/
theorem findSome?_receive {table : List (RouteEntry α)} (apart : table.Pairwise Apart)
    {entry : RouteEntry α} (member : entry ∈ table) {method : String} {path : List Char}
    {matched : List (List Char)} (received : entry.receive method path = some matched) :
    (table.findSome? fun entry => (entry.receive method path).map (entry.handler, ·)) =
      some (entry.handler, matched) := by
  induction table with
  | nil => cases member
  | cons first table ih =>
      obtain ⟨others, apart⟩ := List.pairwise_cons.mp apart
      rw [List.findSome?_cons]
      rcases List.mem_cons.mp member with rfl | later
      · rw [received]
        rfl
      · cases earlier : first.receive method path with
        | none => exact ih apart later
        | some matched' =>
            have none_ := receive_eq_none_of_apart (others entry later)
              (by rw [earlier]; rfl)
            rw [received] at none_
            cases none_

/-- **The order of the table does not matter** then. -/
theorem dispatch_eq_some_iff {table : List (RouteEntry α)} (apart : table.Pairwise Apart)
    {method : String} {path : List Char} {handler : α} {args : List String} :
    dispatch table method path = some (handler, args) ↔
      ∃ entry ∈ table, entry.handler = handler ∧ ∃ matched,
        entry.receive method path = some matched ∧
          matched.mapM UriComponent.decode = some args := by
  constructor
  · intro dispatched
    obtain ⟨⟨handler', matched⟩, found, decoded⟩ := Option.bind_eq_some_iff.mp dispatched
    obtain ⟨args', decoded, same⟩ := Option.map_eq_some_iff.mp decoded
    cases same
    obtain ⟨entry, member, here⟩ := List.exists_of_findSome?_eq_some found
    obtain ⟨matched', received, same⟩ := Option.map_eq_some_iff.mp here
    cases same
    exact ⟨entry, member, rfl, matched, received, decoded⟩
  · rintro ⟨entry, member, rfl, matched, received, decoded⟩
    exact Option.bind_eq_some_iff.mpr ⟨(entry.handler, matched),
      findSome?_receive apart member received, Option.map_eq_some_iff.mpr ⟨args, decoded, rfl⟩⟩

end RouteEntry

end Library
