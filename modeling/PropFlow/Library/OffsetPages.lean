import Mathlib.Data.List.Sort
import Mathlib.Data.List.Perm.Basic
import Mathlib.Tactic.Ring

/-!
# Offset pagination

Pages of a fixed table, each read by a query of its own that skips the rows of the
pages before it.  The rows are in descending order of a key that need not be
unique, and a query may order the rows of one key as it likes.

* `Arranges` — an order in which a query may see the rows;
* `Window` — a page may be this: so many rows of some such order, after so many others;
* `DividesTie` — a page boundary divides the rows of one key;
* `Covers` — the pages have every row once.

`covers_iff` says when the pages, however the queries arrange the rows, have every row
once: when no page boundary divides the rows of one key.  Where none does, every
arrangement has the same rows on a page (`Arranges.window_perm`).  Where one does, two
queries can agree that the other page has a certain row: the witness changes from one
arrangement to another at that page (`switched`).
-/

namespace Library.OffsetPages

open scoped List

universe u v

variable {α : Type u} {κ : Type v} [LinearOrder κ] (key : α → κ)

/-- An order in which a query may read the rows. -/
structure Arranges (rows l : List α) : Prop where
  /-- It reads every row, once. -/
  perm : l.Perm rows
  /-- It reads them by their keys; of one key, in any order. -/
  descending : l.Pairwise fun a b => key b ≤ key a

/-- What a query for one page may return. -/
def Window (rows : List α) (skip take : ℕ) (page : List α) : Prop :=
  ∃ l, Arranges key rows l ∧ page = (l.drop skip).take take

/-- The keys of the rows, in descending order. -/
def keys (rows : List α) : List κ := (rows.map key).insertionSort fun a b => b ≤ a

/-- A boundary between two pages has the same key on both sides. -/
def DividesTie (rows : List α) (limit : ℕ) : Prop :=
  ∃ page t, 0 < page ∧ (keys key rows)[page * limit - 1]? = some t ∧
    (keys key rows)[page * limit]? = some t

/-- The number of pages. -/
def pageCount (total limit : ℕ) : ℕ := (total + limit - 1) / limit

variable {key}

/-- In every order, the keys are in the same one. -/
theorem Arranges.map_key {rows l : List α} (arranges : Arranges key rows l) :
    l.map key = keys key rows := by
  have total : Std.Total fun a b : κ => b ≤ a := ⟨fun a b => le_total b a⟩
  have trans : IsTrans κ fun a b => b ≤ a := ⟨fun _ _ _ ab bc => bc.trans ab⟩
  have antisymm : Std.Antisymm fun a b : κ => b ≤ a := ⟨fun _ _ ab ba => le_antisymm ba ab⟩
  have sorted : (l.map key).Pairwise fun a b => b ≤ a := List.pairwise_map.mpr arranges.descending
  refine List.Perm.eq_of_pairwise' sorted ?_ ?_
  · exact List.pairwise_insertionSort _ _
  · exact (arranges.perm.map key).trans (List.perm_insertionSort _ _).symm

/-- There is an order in which they may be seen. -/
theorem arranges_insertionSort (rows : List α) :
    Arranges key rows (rows.insertionSort fun a b => key b ≤ key a) where
  perm := List.perm_insertionSort _ _
  descending := by
    have total : Std.Total fun a b : α => key b ≤ key a := ⟨fun a b => le_total (key b) (key a)⟩
    have trans : IsTrans α fun a b => key b ≤ key a := ⟨fun _ _ _ ab bc => bc.trans ab⟩
    exact List.pairwise_insertionSort _ _

/-! ## Where a boundary divides no tie -/

/-- The rows above such a boundary are those whose key is not below `t`. -/
theorem take_eq_filter {l : List α} (descending : l.Pairwise fun a b => key b ≤ key a) {b : ℕ}
    (positive : 0 < b) (inside : b < l.length) (strict : key l[b] < key l[b - 1]) :
    l.take b = l.filter fun row => key l[b - 1] ≤ key row := by
  have ordered := List.pairwise_iff_getElem.mp descending
  have above : ∀ row ∈ l.take b, key l[b - 1] ≤ key row := by
    intro row member
    obtain ⟨i, bound, rfl⟩ := List.mem_take_iff_getElem.mp member
    rcases Nat.lt_or_ge i (b - 1) with before | last
    · exact ordered i (b - 1) _ _ before
    · have same : i = b - 1 := by omega
      subst same
      exact le_rfl
  have below : ∀ row ∈ l.drop b, ¬ key l[b - 1] ≤ key row := by
    intro row member
    obtain ⟨i, bound, rfl⟩ := List.mem_drop_iff_getElem.mp member
    rw [not_le]
    refine lt_of_le_of_lt ?_ strict
    rcases Nat.eq_zero_or_pos i with rfl | later
    · exact le_rfl
    · exact ordered b (b + i) _ _ (by omega)
  have split := congrArg (List.filter fun row => key l[b - 1] ≤ key row) (List.take_append_drop b l)
  rw [List.filter_append, List.filter_eq_self.mpr (by simpa using above),
    List.filter_eq_nil_iff.mpr (by simpa using below), List.append_nil] at split
  exact split

/-- The rows above a boundary that divides no tie are the same in every order. -/
theorem Arranges.take_perm {rows l l' : List α} (arranges : Arranges key rows l)
    (arranges' : Arranges key rows l') {b : ℕ}
    (undivided : ∀ t, (keys key rows)[b - 1]? = some t → (keys key rows)[b]? ≠ some t) :
    (l.take b).Perm (l'.take b) := by
  have same : l.Perm l' := arranges.perm.trans arranges'.perm.symm
  rcases Nat.eq_zero_or_pos b with rfl | positive
  · simp
  rcases Nat.lt_or_ge b l.length with inside | outside
  · -- the keys on the two sides of the boundary are those of any order
    have inside' : b < l'.length := same.length_eq ▸ inside
    have sameKey : ∀ i (bound : i < l.length) (bound' : i < l'.length), key l[i] = key l'[i] := by
      intro i bound bound'
      have both : (l.map key)[i]? = (l'.map key)[i]? := by
        rw [arranges.map_key, arranges'.map_key]
      simpa [bound, bound'] using both
    have strict : key l[b] < key l[b - 1] := by
      refine lt_of_le_of_ne ?_ fun equal => ?_
      · exact List.pairwise_iff_getElem.mp arranges.descending (b - 1) b _ _ (by omega)
      · refine undivided (key l[b]) ?_ ?_
        · rw [← arranges.map_key]
          simp [equal, show b - 1 < l.length by omega]
        · rw [← arranges.map_key]
          simp [inside]
    have strict' : key l'[b] < key l'[b - 1] := by
      rw [← sameKey b inside inside', ← sameKey (b - 1) (by omega) (by omega)]
      exact strict
    rw [take_eq_filter arranges.descending positive inside strict,
      take_eq_filter arranges'.descending positive inside' strict',
      sameKey (b - 1) (by omega) (by omega)]
    exact same.filter _
  · rw [List.take_of_length_le outside, List.take_of_length_le (same.length_eq ▸ outside)]
    exact same

/-- So is the page between two such boundaries. -/
theorem Arranges.window_perm {rows l l' : List α} (arranges : Arranges key rows l)
    (arranges' : Arranges key rows l') {limit : ℕ} (whole : ¬ DividesTie key rows limit) (i : ℕ) :
    ((l.drop (i * limit)).take limit).Perm ((l'.drop (i * limit)).take limit) := by
  have boundary : ∀ page, (l.take (page * limit)).Perm (l'.take (page * limit)) := by
    intro page
    rcases Nat.eq_zero_or_pos page with rfl | positive
    · simp
    · exact arranges.take_perm arranges' fun t before after =>
        whole ⟨page, t, positive, before, after⟩
  have next := boundary (i + 1)
  rw [Nat.add_one_mul, List.take_add, List.take_add] at next
  exact (List.perm_append_left_iff _).mp (((boundary i).append_right _).symm.trans next)

/-- The pages of one order are its rows. -/
theorem flatMap_window (l : List α) (limit n : ℕ) :
    ((List.range n).flatMap fun i => (l.drop (i * limit)).take limit) = l.take (n * limit) := by
  induction n with
  | zero => simp
  | succ n ih => simp [List.range_succ, ih, Nat.add_one_mul, List.take_add]

/-- The pages have room for all rows. -/
theorem le_pageCount_mul {total limit : ℕ} (positive : 0 < limit) :
    total ≤ pageCount total limit * limit := by
  have step := Nat.lt_div_mul_add positive (a := total + limit - 1)
  unfold pageCount
  omega

/-- No page is empty. -/
theorem lt_pageCount_iff {total limit : ℕ} (positive : 0 < limit) {i : ℕ} :
    i < pageCount total limit ↔ i * limit < total := by
  unfold pageCount
  rw [Nat.lt_iff_add_one_le, Nat.le_div_iff_mul_le positive, Nat.add_one_mul]
  omega

/-! ## Where a boundary divides a tie -/

/-- The two rows at a boundary that divides a tie. -/
theorem exists_pair_of_divided {rows l : List α} (arranges : Arranges key rows l) {b : ℕ} {t : κ}
    (positive : 0 < b) (before : (keys key rows)[b - 1]? = some t)
    (after : (keys key rows)[b]? = some t) :
    ∃ pre x y post, l = pre ++ x :: y :: post ∧ pre.length + 1 = b ∧ key x = key y := by
  rw [← arranges.map_key, List.getElem?_map, Option.map_eq_some_iff] at before after
  obtain ⟨x, isX, keyX⟩ := before
  obtain ⟨y, isY, keyY⟩ := after
  obtain ⟨insideX, rfl⟩ := List.getElem?_eq_some_iff.mp isX
  obtain ⟨insideY, rfl⟩ := List.getElem?_eq_some_iff.mp isY
  refine ⟨l.take (b - 1), l[b - 1], l[b], l.drop (b + 1), ?_, ?_, keyX.trans keyY.symm⟩
  · have next : b - 1 + 1 = b := Nat.sub_add_cancel positive
    conv_lhs => rw [← List.take_append_drop (b - 1) l, List.drop_eq_getElem_cons insideX]
    simp only [next, List.drop_eq_getElem_cons insideY]
  · rw [List.length_take_of_le insideX.le]
    omega

/-- Exchanging two neighbours of one key gives another order. -/
theorem Arranges.exchange {rows pre post : List α} {x y : α}
    (arranges : Arranges key rows (pre ++ x :: y :: post)) (tie : key x = key y) :
    Arranges key rows (pre ++ y :: x :: post) where
  perm := ((List.Perm.swap x y post).append_left pre).trans arranges.perm
  descending := by
    have sameKeys : (pre ++ y :: x :: post).map key = (pre ++ x :: y :: post).map key := by
      simp [tie]
    have descending := arranges.descending
    rw [← List.pairwise_map (f := key) (R := fun a b => b ≤ a)] at descending ⊢
    rwa [sameKeys]

/-- Pages that are read in one order, and from a page on in another. -/
def switched (l l' : List α) (limit page i : ℕ) : List α :=
  ((if i < page then l else l').drop (i * limit)).take limit

/-- The rows of pages that change from one arrangement to another. -/
theorem flatMap_switched (l l' : List α) (limit page more : ℕ) :
    (List.range (page + more)).flatMap (switched l l' limit page) =
      l.take (page * limit) ++ (l'.drop (page * limit)).take (more * limit) := by
  induction more with
  | zero =>
      rw [← flatMap_window, Nat.zero_mul, List.take_zero, List.append_nil, Nat.add_zero]
      refine List.flatMap_congr fun i member => ?_
      rw [switched, if_pos (List.mem_range.mp member)]
  | succ more ih =>
      rw [← Nat.add_assoc, List.range_succ, List.flatMap_append, ih, List.flatMap_singleton,
        switched, if_neg (Nat.not_lt.mpr (Nat.le_add_right page more)), Nat.add_one_mul,
        List.take_add, List.drop_drop, ← Nat.add_mul, List.append_assoc]

/-! ## Covering the table -/

section Cover

variable [DecidableEq α]

/-- The pages have every row once, and then there are no more. -/
structure Covers (rows : List α) (limit : ℕ) (pages : ℕ → List α) : Prop where
  /-- Over all pages, every row comes once. -/
  once : ∀ row ∈ rows,
    ((List.range (pageCount rows.length limit)).flatMap pages).count row = 1
  /-- After the last page there is nothing. -/
  later : ∀ i, pageCount rows.length limit ≤ i → pages i = []

/-- Where no boundary divides a tie, the pages have every row once. -/
theorem covers_of_undivided {rows : List α} (distinct : rows.Nodup) {limit : ℕ}
    (positive : 0 < limit) (whole : ¬ DividesTie key rows limit) {pages : ℕ → List α}
    (windows : ∀ i, Window key rows (i * limit) limit (pages i)) : Covers rows limit pages where
  once := by
    intro row member
    have arranges : Arranges key rows _ := arranges_insertionSort rows
    generalize (rows.insertionSort fun a b => key b ≤ key a) = l at arranges
    -- each page is that of one arrangement, though the queries arrange the rows apart
    have asOne : ((List.range (pageCount rows.length limit)).flatMap pages).Perm rows := by
      calc ((List.range (pageCount rows.length limit)).flatMap pages)
        _ ~ (List.range (pageCount rows.length limit)).flatMap
              fun i => (l.drop (i * limit)).take limit := by
            refine List.Perm.flatMap_left _ fun i _ => ?_
            obtain ⟨l', arranges', page⟩ := windows i
            rw [page]
            exact arranges'.window_perm arranges whole i
        _ ~ l := by
            rw [flatMap_window, List.take_of_length_le]
            rw [arranges.perm.length_eq]
            exact le_pageCount_mul positive
        _ ~ rows := arranges.perm
    rw [asOne.count_eq]
    exact List.count_eq_one_of_mem distinct member
  later := by
    intro i beyond
    obtain ⟨l, arranges, page⟩ := windows i
    have past : l.length ≤ i * limit := by
      rw [arranges.perm.length_eq]
      exact Nat.not_lt.mp fun inside => absurd ((lt_pageCount_iff positive).mpr inside) (by omega)
    rw [page, List.drop_of_length_le past, List.take_nil]

/-- The pages up to the boundary are read in one order, the others with its two rows
exchanged: one of them is on both pages. -/
theorem not_covers_of_divided {rows : List α} {limit : ℕ} (positive : 0 < limit)
    (divided : DividesTie key rows limit) :
    ∃ pages, (∀ i, Window key rows (i * limit) limit (pages i)) ∧ ¬ Covers rows limit pages := by
  obtain ⟨page, t, notFirst, before, after⟩ := divided
  have arranges : Arranges key rows _ := arranges_insertionSort rows
  generalize (rows.insertionSort fun a b => key b ≤ key a) = l at arranges
  obtain ⟨pre, x, y, post, rfl, length, tie⟩ :=
    exists_pair_of_divided arranges (Nat.mul_pos notFirst positive) before after
  refine ⟨switched (pre ++ x :: y :: post) (pre ++ y :: x :: post) limit page,
    fun i => ?_, fun covers => ?_⟩
  · unfold switched
    split_ifs
    · exact ⟨_, arranges, rfl⟩
    · exact ⟨_, arranges.exchange tie, rfl⟩
  · have once := covers.once x (arranges.perm.subset (by simp))
    have inside : page < pageCount rows.length limit := by
      rw [lt_pageCount_iff positive, ← arranges.perm.length_eq, ← length]
      simp
    obtain ⟨more, count⟩ := Nat.exists_eq_add_of_lt inside
    rw [count, Nat.add_assoc, flatMap_switched, ← length] at once
    have first : (pre ++ x :: y :: post).take (pre.length + 1) = pre ++ [x] := by
      rw [List.append_cons, List.take_left' (by simp)]
    have second : (pre ++ y :: x :: post).drop (pre.length + 1) = x :: post := by
      rw [List.append_cons, List.drop_left' (by simp)]
    obtain ⟨rest, room⟩ := Nat.exists_eq_succ_of_ne_zero (Nat.mul_pos more.succ_pos positive).ne'
    rw [first, second, room, List.take_succ_cons] at once
    simp only [List.count_append, List.count_cons_self] at once
    omega

/-- **When offset pages cover a table**, in whatever order each of them is read: when
no page boundary divides rows of one key. -/
theorem covers_iff {rows : List α} (distinct : rows.Nodup) {limit : ℕ} (positive : 0 < limit) :
    (∀ pages, (∀ i, Window key rows (i * limit) limit (pages i)) → Covers rows limit pages) ↔
      ¬ DividesTie key rows limit := by
  constructor
  · intro covers divided
    obtain ⟨pages, windows, not⟩ := not_covers_of_divided positive divided
    exact not (covers pages windows)
  · intro whole pages windows
    exact covers_of_undivided distinct positive whole windows

/-- **The first page alone** has every row once if there is room for them. -/
theorem Window.count_eq_one_iff {rows page : List α} (distinct : rows.Nodup) {limit : ℕ}
    (window : Window key rows 0 limit page) :
    (∀ row ∈ rows, page.count row = 1) ↔ rows.length ≤ limit := by
  obtain ⟨l, arranges, rfl⟩ := window
  rw [List.drop_zero]
  constructor
  · intro once
    have subset : rows ⊆ l.take limit := fun row member =>
      List.count_pos_iff.mp (by rw [once row member]; exact Nat.one_pos)
    exact (List.subperm_of_subset distinct subset).length_le.trans (List.length_take_le _ _)
  · intro room row member
    rw [List.take_of_length_le (arranges.perm.length_eq.trans_le room), arranges.perm.count_eq]
    exact List.count_eq_one_of_mem distinct member

end Cover

end Library.OffsetPages
