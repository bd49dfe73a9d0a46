import Mathlib.Data.List.Induction
import Mathlib.Data.List.Nodup
import Mathlib.Order.Basic

/-!
# First occurrences

`firsts l` keeps the first occurrence of each element of `l`, in order: what is
left of a sequence of inserts once the duplicates have been ignored.  It is
built from the left, one insert at a time (`insertNew`), so the rules are about appending
one element.

## Which of two elements comes first

`Precedes a b l` says that there is an `a` before every `b` in the list.  It survives
first occurrences (`Precedes.firsts`), filters and maps (`Precedes.of_filter`,
`Precedes.filterMap`), and it is what a prefix needs: a list without duplicates, whose
elements come from another one and precede each other as they do there, with nothing left
out before them, is a beginning of it (`isPrefix_of_precedes`).

## Lists that are alike

Two lists that are determined in the same way by a key are equal up to what the key does
not see (`map_eq_map_of_determined`).
-/

namespace Library

universe u

variable {α : Type u} [DecidableEq α]

/-- Insert at the end, unless it is there. -/
def insertNew (l : List α) (a : α) : List α := if a ∈ l then l else l ++ [a]

/-- An element is there afterwards if it was there or is the one inserted. -/
@[simp] theorem mem_insertNew {l : List α} {a b : α} : b ∈ insertNew l a ↔ b ∈ l ∨ b = a := by
  unfold insertNew
  split_ifs with old
  · refine ⟨Or.inl, fun either => either.elim id ?_⟩
    rintro rfl
    exact old
  · rw [List.mem_append, List.mem_singleton]

/-- None is there twice, -/
theorem nodup_insertNew {l : List α} (nodup : l.Nodup) (a : α) : (insertNew l a).Nodup := by
  unfold insertNew
  split_ifs with old
  · exact nodup
  · rw [← List.concat_eq_append]
    exact List.Nodup.concat old nodup

/-- and there is one more at most. -/
theorem length_insertNew_le (l : List α) (a : α) : (insertNew l a).length ≤ l.length + 1 := by
  unfold insertNew
  split_ifs
  · exact Nat.le_succ _
  · exact Nat.le_of_eq List.length_append

/-- The first occurrence of each element, in order. -/
def firsts (l : List α) : List α := l.foldl insertNew []

/-- The last element is inserted last. -/
theorem firsts_concat (l : List α) (a : α) : firsts (l ++ [a]) = insertNew (firsts l) a := by
  unfold firsts
  rw [List.foldl_append]
  rfl

/-- No element is lost, and none is new. -/
@[simp] theorem mem_firsts {l : List α} {a : α} : a ∈ firsts l ↔ a ∈ l := by
  induction l using List.reverseRecOn with
  | nil => rfl
  | append_singleton l b ih =>
      rw [firsts_concat, mem_insertNew, List.mem_append, List.mem_singleton, ih]

/-- An element that is there already is ignored, -/
theorem firsts_concat_of_mem {l : List α} {a : α} (old : a ∈ l) : firsts (l ++ [a]) = firsts l := by
  rw [firsts_concat, insertNew, if_pos (mem_firsts.mpr old)]

/-- and a new one goes to the end. -/
theorem firsts_concat_of_notMem {l : List α} {a : α} (new : a ∉ l) :
    firsts (l ++ [a]) = firsts l ++ [a] := by
  rw [firsts_concat, insertNew, if_neg (mt mem_firsts.mp new)]

/-- There are no more than before. -/
theorem length_firsts_le (l : List α) : (firsts l).length ≤ l.length := by
  induction l using List.reverseRecOn with
  | nil => exact Nat.le_refl 0
  | append_singleton l a ih =>
      rw [firsts_concat, List.length_append, List.length_singleton]
      exact Nat.le_trans (length_insertNew_le _ a) (Nat.succ_le_succ ih)

/-- They stand in the order in which they first occur. -/
theorem pairwise_firsts (l : List α) :
    (firsts l).Pairwise fun a b => l.idxOf a < l.idxOf b := by
  induction l using List.reverseRecOn with
  | nil => exact List.Pairwise.nil
  | append_singleton l c ih =>
      have kept : (firsts l).Pairwise fun a b => (l ++ [c]).idxOf a < (l ++ [c]).idxOf b := by
        refine List.Pairwise.imp_of_mem ?_ ih
        intro a b isOld isOld' order
        rwa [List.idxOf_append_of_mem (mem_firsts.mp isOld),
          List.idxOf_append_of_mem (mem_firsts.mp isOld')]
      by_cases old : c ∈ l
      · rw [firsts_concat_of_mem old]
        exact kept
      · rw [firsts_concat_of_notMem old, List.pairwise_append]
        refine ⟨kept, List.pairwise_singleton _ _, ?_⟩
        intro a isOld b isNew
        -- what is new occurs after the whole of `l`
        rw [List.mem_singleton.mp isNew, List.idxOf_append_of_mem (mem_firsts.mp isOld),
          List.idxOf_append_of_notMem old]
        have earlier := List.idxOf_lt_length_of_mem (mem_firsts.mp isOld)
        omega

/-! ## Which of two elements comes first -/

variable {β : Type u} {γ : Type u}

/-- Scanning the list, `a` is met before `b` is, or `b` is not met at all. -/
def Precedes (a b : β) : List β → Prop
  | [] => True
  | c :: l => c = a ∨ (c ≠ b ∧ Precedes a b l)

/-- Everything precedes what is not there. -/
theorem precedes_of_notMem {a b : β} {l : List β} (absent : b ∉ l) : Precedes a b l := by
  induction l with
  | nil => trivial
  | cons c l ih =>
      rw [List.mem_cons, not_or] at absent
      exact Or.inr ⟨Ne.symm absent.1, ih absent.2⟩

/-- Appending keeps the order, if what is new does not bring `b` before `a`. -/
theorem precedes_append {a b : β} {l l' : List β} :
    Precedes a b (l ++ l') ↔ Precedes a b l ∧ (a ∈ l ∨ Precedes a b l') := by
  induction l with
  | nil => simp [Precedes]
  | cons c l ih =>
      rw [List.cons_append, Precedes, Precedes, ih, List.mem_cons]
      by_cases first : c = a
      · simp [first]
      · simp [first, Ne.symm first, and_assoc]

/-- What precedes has the lower index. -/
theorem Precedes.idxOf_lt [DecidableEq β] {a b : β} {l : List β} (before : Precedes a b l)
    (member : b ∈ l) (other : a ≠ b) : l.idxOf a < l.idxOf b := by
  induction l with
  | nil => cases member
  | cons c l ih =>
      rcases before with rfl | ⟨notLast, before⟩
      · rw [List.idxOf_cons_self, List.idxOf_cons_ne l other]
        exact Nat.succ_pos _
      · by_cases first : c = a
        · rw [first, List.idxOf_cons_self, List.idxOf_cons_ne l other]
          exact Nat.succ_pos _
        · have later := ih before ((List.mem_cons.mp member).resolve_left (Ne.symm notLast))
          rw [List.idxOf_cons_ne l first, List.idxOf_cons_ne l notLast]
          exact Nat.succ_lt_succ later

/-- What is filtered out does not matter, if it does not contain `b`. -/
theorem Precedes.of_filter {f : γ → Option β} {P : γ → Bool} {a b : β} {l : List γ}
    (before : Precedes a b ((l.filter P).filterMap f))
    (shown : ∀ m ∈ l, f m = some b → P m = true) : Precedes a b (l.filterMap f) := by
  induction l with
  | nil => trivial
  | cons m l ih =>
      have shownRest : ∀ n ∈ l, f n = some b → P n = true :=
        fun n member => shown n (List.mem_cons_of_mem m member)
      cases value : f m with
      | none =>
          rw [List.filterMap_cons_none value]
          refine ih ?_ shownRest
          by_cases isShown : P m = true
          · rwa [List.filter_cons_of_pos isShown, List.filterMap_cons_none value] at before
          · rwa [List.filter_cons_of_neg isShown] at before
      | some c =>
          rw [List.filterMap_cons_some value]
          by_cases isShown : P m = true
          · rw [List.filter_cons_of_pos isShown, List.filterMap_cons_some value] at before
            exact before.imp_right (And.imp_right fun rest => ih rest shownRest)
          · rw [List.filter_cons_of_neg isShown] at before
            refine Or.inr ⟨?_, ih before shownRest⟩
            rintro rfl
            exact isShown (shown m List.mem_cons_self value)

/-- A partial renaming that takes only `b` to the new `b` keeps the order. -/
theorem Precedes.filterMap {f : β → Option γ} {a b : β} {x y : γ} {l : List β}
    (before : Precedes a b l) (first : f a = some x)
    (only : ∀ c ∈ l, f c = some y → c = b) : Precedes x y (l.filterMap f) := by
  induction l with
  | nil => trivial
  | cons c l ih =>
      have onlyRest : ∀ d ∈ l, f d = some y → d = b :=
        fun d member => only d (List.mem_cons_of_mem c member)
      rcases before with rfl | ⟨notLast, before⟩
      · rw [List.filterMap_cons_some first]
        exact Or.inl rfl
      · cases value : f c with
        | none =>
            rw [List.filterMap_cons_none value]
            exact ih before onlyRest
        | some z =>
            rw [List.filterMap_cons_some value]
            refine Or.inr ⟨?_, ih before onlyRest⟩
            rintro rfl
            exact notLast (only c List.mem_cons_self value)

/-- What is filtered out does not matter either, if it does not contain `a`. -/
theorem Precedes.map_filter {f : γ → β} {P : γ → Bool} {a b : β} {l : List γ}
    (before : Precedes a b (l.map f)) (shown : ∀ m ∈ l, f m = a → P m = true) :
    Precedes a b ((l.filter P).map f) := by
  induction l with
  | nil => trivial
  | cons m l ih =>
      have shownRest : ∀ n ∈ l, f n = a → P n = true :=
        fun n member => shown n (List.mem_cons_of_mem m member)
      by_cases isShown : P m = true
      · rw [List.filter_cons_of_pos isShown]
        exact before.imp_right (And.imp_right fun rest => ih rest shownRest)
      · rw [List.filter_cons_of_neg isShown]
        rcases before with first | ⟨-, rest⟩
        · exact absurd (shown m List.mem_cons_self first) isShown
        · exact ih rest shownRest

/-- First occurrences keep it. -/
theorem Precedes.firsts {a b : α} {l : List α} (before : Precedes a b l) :
    Precedes a b (firsts l) := by
  induction l using List.reverseRecOn with
  | nil => trivial
  | append_singleton l c ih =>
      obtain ⟨earlier, here⟩ := precedes_append.mp before
      by_cases old : c ∈ l
      · rw [firsts_concat_of_mem old]
        exact ih earlier
      · rw [firsts_concat_of_notMem old, precedes_append, mem_firsts]
        exact ⟨ih earlier, here⟩

/-- **No gap, and no disorder.**  A list in which nothing stands before what precedes it is
the beginning of the whole. -/
theorem isPrefix_of_precedes {whole l : List β} (distinct : whole.Nodup) (once : l.Nodup)
    (mem : ∀ a ∈ l, a ∈ whole) (ordered : whole.Pairwise fun a b => Precedes a b l) :
    l <+: whole := by
  induction whole generalizing l with
  | nil =>
      have empty : l = [] :=
        List.eq_nil_iff_forall_not_mem.mpr fun a member => List.not_mem_nil (mem a member)
      exact empty ▸ List.nil_prefix
  | cons a whole ih =>
      obtain ⟨first, rest⟩ := List.pairwise_cons.mp ordered
      obtain ⟨new, others⟩ := List.nodup_cons.mp distinct
      cases l with
      | nil => exact List.nil_prefix
      | cons c l =>
          obtain ⟨absent, once⟩ := List.nodup_cons.mp once
          -- whatever else stood first, `a` would precede it
          have same : c = a := by
            rcases List.mem_cons.mp (mem c List.mem_cons_self) with same | later
            · exact same
            · exact (first c later).resolve_right fun other => other.1 rfl
          subst same
          refine List.prefix_cons_inj c |>.mpr (ih others once ?_ ?_)
          · intro b member
            refine (List.mem_cons.mp (mem b (List.mem_cons_of_mem c member))).resolve_left ?_
            rintro rfl
            exact absent member
          · refine List.Pairwise.imp_of_mem ?_ rest
            intro b b' isLater _ before
            refine (before.resolve_left ?_).2
            rintro rfl
            exact new isLater

/-! ## Lists that are alike -/

/-- Two strictly increasing measures of the elements of a list order them alike. -/
theorem lt_iff_lt_of_pairwise {l : List β} {f g : β → ℕ}
    (increasing : l.Pairwise fun a b => f a < f b)
    (increasing' : l.Pairwise fun a b => g a < g b) {a b : β} (mem_a : a ∈ l) (mem_b : b ∈ l) :
    f a < f b ↔ g a < g b := by
  obtain ⟨i, hi, rfl⟩ := List.mem_iff_getElem.mp mem_a
  obtain ⟨j, hj, rfl⟩ := List.mem_iff_getElem.mp mem_b
  rw [List.pairwise_iff_getElem] at increasing increasing'
  rcases Nat.lt_trichotomy i j with before | same | after
  · exact iff_of_true (increasing i j hi hj before) (increasing' i j hi hj before)
  · subst same
    exact iff_of_false (Nat.lt_irrefl _) (Nat.lt_irrefl _)
  · exact iff_of_false (Nat.lt_asymm (increasing j i hj hi after))
      (Nat.lt_asymm (increasing' j i hj hi after))

/-- Lists that agree in a key agree in whatever the key determines. -/
theorem map_eq_map_of_determined {κ : Type u} {l l' : List β} (key : β → κ) {g : β → γ}
    (keys : l.map key = l'.map key)
    (determined : ∀ a ∈ l, ∀ b ∈ l', key a = key b → g a = g b) : l.map g = l'.map g := by
  induction l generalizing l' with
  | nil =>
      cases l' with
      | nil => rfl
      | cons b rest => cases keys
  | cons a rest ih =>
      cases l' with
      | nil => cases keys
      | cons b rest' =>
          obtain ⟨first, others⟩ := List.cons.inj keys
          rw [List.map_cons, List.map_cons,
            determined a List.mem_cons_self b List.mem_cons_self first,
            ih others fun x mem_x y mem_y =>
              determined x (List.mem_cons_of_mem a mem_x) y (List.mem_cons_of_mem b mem_y)]

end Library
