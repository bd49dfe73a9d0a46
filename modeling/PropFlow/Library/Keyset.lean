import Mathlib.Data.List.Sort
import Mathlib.Order.Basic

/-!
# Keyset pagination

A page of a table that is read in descending order of a unique key: the rows
under a bound, as many as fit, and the bound of the next page, which is the key
of the last row.  One row more than fits is fetched, to know whether there is a
next page.

* `IsPage` — what such a page guarantees about the table it was read from: its rows are the
  highest under the bound, in descending order, and there is a next page exactly if rows
  are left;
* `Collected` — what a client that follows the bounds has got, about the rows that were
  there when it started: all of them above the bound, once each and in order.

The table may grow between two pages: a page is read from whatever table there is, and
`Collected.page` only asks that it has the rows of the start.
-/

namespace Library.Keyset

universe u v

variable {α : Type u} {κ : Type v} [LinearOrder κ] (key : α → κ)

/-- Nothing is asked of the first page. -/
def Under (bound : Option κ) (row : α) : Prop := ∀ c ∈ bound, key row < c

instance (bound : Option κ) (row : α) : Decidable (Under key bound row) :=
  inferInstanceAs (Decidable (∀ c ∈ bound, key row < c))

/-- Strictly descending keys. -/
abbrev Descending (l : List α) : Prop := l.Pairwise fun a b => key b < key a

/-- The rows under a bound, in descending order. -/
def under (rows : List α) (bound : Option κ) : List α :=
  (rows.filter fun row => Under key bound row).insertionSort fun a b => key b ≤ key a

variable {key}

/-- The rows under a bound. -/
theorem mem_under {rows : List α} {bound : Option κ} {row : α} :
    row ∈ under key rows bound ↔ row ∈ rows ∧ Under key bound row := by
  unfold under
  rw [List.mem_insertionSort, List.mem_filter, decide_eq_true_eq]

/-- Unique keys are in strict order. -/
theorem descending_under {rows : List α} (unique : (rows.map key).Nodup) (bound : Option κ) :
    Descending key (under key rows bound) := by
  have total : Std.Total fun a b : α => key b ≤ key a := ⟨fun a b => le_total (key b) (key a)⟩
  have trans : IsTrans α fun a b => key b ≤ key a := ⟨fun _ _ _ ab bc => bc.trans ab⟩
  have sorted := List.pairwise_insertionSort (fun a b => key b ≤ key a)
    (rows.filter fun row => Under key bound row)
  have distinct : ((under key rows bound).map key).Nodup := by
    have perm := (List.perm_insertionSort (fun a b => key b ≤ key a)
      (rows.filter fun row => Under key bound row)).map key
    exact perm.nodup_iff.mpr (unique.sublist (List.filter_sublist.map key))
  rw [List.Nodup, List.pairwise_map] at distinct
  refine (sorted.and distinct).imp ?_
  rintro a b ⟨le, ne⟩
  exact lt_of_le_of_ne le (Ne.symm ne)

/-! ## One page -/

variable (key) in
/-- The page is what a client may rely on: `next` is the bound of the rest. -/
structure IsPage (rows : List α) (bound : Option κ) (page : List α) (next : Option κ) : Prop where
  /-- It is in descending order. -/
  descending : Descending key page
  /-- It has rows under the bound, and no others. -/
  mem : ∀ row ∈ page, row ∈ rows ∧ Under key bound row
  /-- What is not on the page is below it. -/
  covers : ∀ row ∈ rows, Under key bound row → row ∈ page ∨ ∃ c ∈ next, key row < c
  /-- The next bound is at most the keys of the page. -/
  above : ∀ c ∈ next, ∀ row ∈ page, c ≤ key row
  /-- The bound is the key of a row of the page. -/
  last : ∀ c ∈ next, ∃ row ∈ page, key row = c
  /-- There is a next page only if there is something on it. -/
  more : ∀ c ∈ next, ∃ row ∈ rows, key row < c

/-- The rows as far as one that is followed by others. -/
theorem isPage_of_more {rows front rest : List α} (unique : (rows.map key).Nodup)
    {bound : Option κ} {last after : α}
    (found : under key rows bound = front ++ [last] ++ after :: rest) :
    IsPage key rows bound (front ++ [last]) (some (key last)) := by
  have descending := descending_under unique bound
  rw [found] at descending
  -- what comes after the page is below all of it
  obtain ⟨inPage, -, across⟩ := List.pairwise_append.mp descending
  have mem : ∀ row ∈ front ++ [last] ++ after :: rest, row ∈ rows ∧ Under key bound row := by
    intro row member
    rwa [← found, mem_under] at member
  have isLast : last ∈ front ++ [last] := List.mem_append_right _ (List.mem_singleton_self last)
  constructor
  case descending => exact inPage
  case mem => exact fun row member => mem row (List.mem_append_left _ member)
  case covers =>
    intro row isRow isUnder
    have here : row ∈ front ++ [last] ++ after :: rest := found ▸ mem_under.mpr ⟨isRow, isUnder⟩
    rcases List.mem_append.mp here with onPage | below
    · exact Or.inl onPage
    · exact Or.inr ⟨key last, rfl, across last isLast row below⟩
  case above =>
    rintro c same row member
    cases same
    rcases List.mem_append.mp member with before | same
    · exact ((List.pairwise_append.mp inPage).2.2 row before last (List.mem_singleton_self last)).le
    · rw [List.mem_singleton.mp same]
  case last =>
    rintro c same
    cases same
    exact ⟨last, isLast, rfl⟩
  case more =>
    rintro c same
    cases same
    refine ⟨after, (mem after ?_).1, across last isLast after List.mem_cons_self⟩
    exact List.mem_append_right _ List.mem_cons_self

/-- All rows under a bound. -/
theorem isPage_under {rows : List α} (unique : (rows.map key).Nodup) (bound : Option κ) :
    IsPage key rows bound (under key rows bound) none where
  descending := descending_under unique bound
  mem := fun _ member => mem_under.mp member
  covers := fun _ isRow isUnder => Or.inl (mem_under.mpr ⟨isRow, isUnder⟩)
  above := fun _ absent => nomatch absent
  last := fun _ absent => nomatch absent
  more := fun _ absent => nomatch absent

/-- **The first rows under a bound are a page.** -/
theorem isPage_take {rows : List α} (unique : (rows.map key).Nodup) (bound : Option κ) {limit : ℕ}
    (positive : 0 < limit) :
    IsPage key rows bound ((under key rows bound).take limit)
      (if limit < (under key rows bound).length then
        ((under key rows bound).take limit).getLast?.map key else none) := by
  by_cases more : limit < (under key rows bound).length
  · obtain ⟨k, rfl⟩ := Nat.exists_eq_add_one_of_ne_zero positive.ne'
    have page := List.take_succ_eq_append_getElem (Nat.lt_of_succ_lt more)
    have rest := List.drop_eq_getElem_cons more
    have found := (List.take_append_drop (k + 1) (under key rows bound)).symm
    rw [page, rest] at found
    rw [if_pos more, page, List.getLast?_concat, Option.map_some]
    exact isPage_of_more unique found
  · rw [if_neg more, List.take_of_length_le (Nat.not_lt.mp more)]
    exact isPage_under unique bound

/-- The bounds go down. -/
theorem IsPage.next_lt {rows page : List α} {bound next : Option κ}
    (isPage : IsPage key rows bound page next) {c c' : κ} (isNext : c' ∈ next)
    (isBound : c ∈ bound) : c' < c := by
  obtain ⟨row, onPage, rfl⟩ := isPage.last c' isNext
  exact (isPage.mem row onPage).2 c isBound

/-- There is no next page exactly when nothing is below this one. -/
theorem IsPage.next_eq_none_iff {rows page : List α} {bound next : Option κ}
    (isPage : IsPage key rows bound page next) :
    next = none ↔ ¬ ∃ row ∈ rows, Under key bound row ∧ ∀ above ∈ page, key row < key above := by
  constructor
  · rintro rfl ⟨row, isRow, isUnder, below⟩
    rcases isPage.covers row isRow isUnder with onPage | ⟨c, absent, -⟩
    · exact lt_irrefl _ (below row onPage)
    · cases absent
  · intro nothing
    rw [Option.eq_none_iff_forall_not_mem]
    intro c isNext
    obtain ⟨row, isRow, less⟩ := isPage.more c isNext
    refine nothing ⟨row, isRow, fun b isBound => ?_, fun above onPage => ?_⟩
    · exact less.trans (isPage.next_lt isNext isBound)
    · exact less.trans_le (isPage.above c isNext above onPage)

/-! ## Following the bounds -/

variable (key) in
/-- What a client has got: `rest` is the bound it will ask for next, or nothing if
it has been told that there is no next page. -/
structure Collected (start received : List α) (rest : Option (Option κ)) : Prop where
  /-- The pages follow one another in descending order. -/
  descending : Descending key received
  /-- What is still to come is below what has come. -/
  above : ∀ bound ∈ rest, ∀ row ∈ received, ∃ c ∈ bound, c ≤ key row
  /-- Every row of the start has come, or is still to come. -/
  covers : ∀ row ∈ start, row ∈ received ∨ ∃ bound ∈ rest, Under key bound row

variable (key) in
/-- A client that has not asked has nothing, and everything is left. -/
theorem Collected.initial (start : List α) :
    Collected key start [] (some none) where
  descending := List.Pairwise.nil
  above := fun _ _ _ member => absurd member List.not_mem_nil
  covers := fun _ _ => Or.inr ⟨none, rfl, fun _ absent => nomatch absent⟩

/-- **One more page**, of a table that still has the rows of the start. -/
theorem Collected.page {start received rows page : List α} {bound next : Option κ}
    (collected : Collected key start received (some bound))
    (kept : ∀ row ∈ start, row ∈ rows) (isPage : IsPage key rows bound page next) :
    Collected key start (received ++ page) (next.map some) where
  descending := by
    refine List.pairwise_append.mpr ⟨collected.descending, isPage.descending, ?_⟩
    intro row isReceived row' onPage
    obtain ⟨c, isBound, le⟩ := collected.above bound rfl row isReceived
    exact ((isPage.mem row' onPage).2 c isBound).trans_le le
  above := by
    intro bound' isRest row member
    obtain ⟨c', isNext, rfl⟩ := Option.map_eq_some_iff.mp isRest
    refine ⟨c', rfl, ?_⟩
    rcases List.mem_append.mp member with isReceived | onPage
    · obtain ⟨c, isBound, le⟩ := collected.above bound rfl row isReceived
      exact (isPage.next_lt isNext isBound).le.trans le
    · exact isPage.above c' isNext row onPage
  covers := by
    intro row isStart
    rcases collected.covers row isStart with isReceived | ⟨_, same, isUnder⟩
    · exact Or.inl (List.mem_append_left _ isReceived)
    · cases same
      rcases isPage.covers row (kept row isStart) isUnder with onPage | ⟨c, isNext, less⟩
      · exact Or.inl (List.mem_append_right _ onPage)
      · refine Or.inr ⟨some c, Option.map_eq_some_iff.mpr ⟨c, isNext, rfl⟩, ?_⟩
        intro b same
        rwa [← Option.some.inj same]

/-- **To the end.**  What has been got of rows that stand in ascending order, and of no
others, is all of them, from the last to the first. -/
theorem Collected.eq_reverse {start received : List α}
    (collected : Collected key start received none) (only : ∀ row ∈ received, row ∈ start)
    (ascending : start.Pairwise fun a b => key a < key b) : received = start.reverse := by
  have descending : Descending key start.reverse := List.pairwise_reverse.mpr ascending
  have once : ∀ {l : List α}, Descending key l → l.Nodup := fun sorted =>
    sorted.imp fun less same => less.ne (congrArg key same.symm)
  have perm : received.Perm start.reverse := by
    refine (List.perm_ext_iff_of_nodup (once collected.descending) (once descending)).mpr ?_
    intro row
    rw [List.mem_reverse]
    refine ⟨only row, fun isStart => ?_⟩
    rcases collected.covers row isStart with isReceived | ⟨_, absent, -⟩
    · exact isReceived
    · cases absent
  exact perm.eq_of_pairwise (fun _ _ _ _ less less' => absurd less less'.asymm)
    collected.descending descending

end Library.Keyset
