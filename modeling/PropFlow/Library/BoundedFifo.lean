import Mathlib.Data.List.Rotate
import PropFlow.Library.FirstOccurrences

/-!
# A bounded memory of the most recent elements

An insertion-ordered set with a limit: before an element is added, the oldest
one is evicted if the set is full (`remember`).  What the set remembers is easy to say when
every element is added once (`remember_mostRecent`): the most recent ones.

## Against the set that ignores what it has

`offer` is the set that does nothing about an element it has.  The two differ when a full
set is told an element again: `remember` evicts for it, and moves it to the end.
`perm_remember_offer_iff` says when one step of either leads to the same elements: when
the set is not full, is told its oldest element, or is told a new one while the oldest
elements of both are the same.

## In rounds

In the last case the set has turned by one against the other one.  So a full set may be
told what it has, the oldest first, and a new element only after a whole round
(`InRounds`).  `forall_perm_foldl_iff`: exactly then the two have the same elements after
every step.
-/

namespace Library

universe u

variable {α : Type u}

/-- The last `limit` elements of a list. -/
def mostRecent (limit : ℕ) (l : List α) : List α := l.drop (l.length - limit)

/-- What is forgotten was followed by `limit` others. -/
theorem length_le_of_notMem_mostRecent {limit : ℕ} {before after : List α} {a : α}
    (forgotten : a ∉ mostRecent limit (before ++ a :: after)) : limit ≤ after.length := by
  by_contra recent
  apply forgotten
  unfold mostRecent
  rw [List.length_append, List.length_cons, List.drop_append_of_le_length (by omega)]
  exact List.mem_append_right _ List.mem_cons_self

variable [DecidableEq α]

/-- Add to a set of at most `limit` elements, the oldest first.  A full set evicts
its oldest element even if the added one is in it already. -/
def remember (limit : ℕ) (seen : List α) (a : α) : List α :=
  insertNew (if limit ≤ seen.length then seen.tail else seen) a

/-- Nothing is remembered that it was not told. -/
theorem mem_of_mem_remember {limit : ℕ} {seen : List α} {a b : α}
    (member : b ∈ remember limit seen a) : b ∈ seen ∨ b = a := by
  unfold remember at member
  rw [mem_insertNew] at member
  refine member.imp_left fun kept => ?_
  split_ifs at kept
  · exact List.mem_of_mem_tail kept
  · exact kept

/-- **A set that is told every element once remembers the most recent ones.** -/
theorem remember_mostRecent {limit : ℕ} {l : List α} {a : α} (positive : 0 < limit)
    (fresh : a ∉ l) : remember limit (mostRecent limit l) a = mostRecent limit (l ++ [a]) := by
  have length : (mostRecent limit l).length = min limit l.length := by
    unfold mostRecent
    rw [List.length_drop]
    omega
  have kept : (if limit ≤ (mostRecent limit l).length then (mostRecent limit l).tail
      else mostRecent limit l) = l.drop (l.length + 1 - limit) := by
    rw [length]
    split_ifs with full
    · -- full: the oldest of the remembered makes room
      unfold mostRecent
      rw [List.tail_drop]
      congr 1
      omega
    · unfold mostRecent
      congr 1
      omega
  unfold remember
  rw [kept, insertNew, if_neg (fun member => fresh (List.mem_of_mem_drop member)), mostRecent,
    List.length_append, List.length_singleton, List.drop_append_of_le_length (by omega)]

/-! ## Against the set that ignores what it has -/

/-- Add to a set of at most `limit` elements, the oldest first, which ignores the
elements it has. -/
def offer (limit : ℕ) (l : List α) (a : α) : List α :=
  if a ∈ l then l else (if limit ≤ l.length then l.tail else l) ++ [a]

/-- It has no element twice, -/
theorem nodup_remember {limit : ℕ} {seen : List α} (nodup : seen.Nodup) (a : α) :
    (remember limit seen a).Nodup := by
  apply nodup_insertNew
  split_ifs
  · exact nodup.sublist (List.tail_sublist seen)
  · exact nodup

/-- and neither has the other set. -/
theorem nodup_offer {limit : ℕ} {l : List α} (nodup : l.Nodup) (a : α) :
    (offer limit l a).Nodup := by
  unfold offer
  split_ifs with old full
  · exact nodup
  · rw [← List.concat_eq_append]
    refine List.Nodup.concat (fun member => old (List.mem_of_mem_tail member)) ?_
    exact nodup.sublist (List.tail_sublist l)
  · rw [← List.concat_eq_append]
    exact List.Nodup.concat old nodup

/-- Nothing is in that set but what it was told. -/
theorem mem_of_mem_offer {limit : ℕ} {l : List α} {a b : α} (member : b ∈ offer limit l a) :
    b ∈ l ∨ b = a := by
  unfold offer at member
  split_ifs at member
  · exact Or.inl member
  · rw [List.mem_append, List.mem_singleton] at member
    exact member.imp_left List.mem_of_mem_tail
  · rwa [List.mem_append, List.mem_singleton] at member

/-- The limit is kept. -/
theorem length_remember_le {limit : ℕ} {seen : List α} (positive : 0 < limit)
    (bounded : seen.length ≤ limit) (a : α) : (remember limit seen a).length ≤ limit := by
  refine Nat.le_trans (length_insertNew_le _ a) ?_
  split_ifs with full
  · rw [List.length_tail]
    omega
  · omega

/-- The two differ only when a full set is told an element it has. -/
theorem remember_eq_offer {limit : ℕ} {seen : List α} {a : α}
    (fresh : limit ≤ seen.length → a ∉ seen) : remember limit seen a = offer limit seen a := by
  unfold remember offer insertNew
  by_cases full : limit ≤ seen.length
  · have notLater : a ∉ seen.tail := fun later => fresh full (List.mem_of_mem_tail later)
    rw [if_pos full, if_neg notLater, if_neg (fresh full)]
  · rw [if_neg full]

/-- A full set that is told an element it has forgets its oldest one, unless that is
the element. -/
theorem perm_remember_of_mem {limit : ℕ} {oldest : α} {rest : List α} {a : α}
    (nodup : (oldest :: rest).Nodup) (full : limit ≤ (oldest :: rest).length)
    (old : a ∈ oldest :: rest) :
    (remember limit (oldest :: rest) a).Perm (oldest :: rest) ↔ oldest = a := by
  have notLater : oldest ∉ rest := (List.nodup_cons.mp nodup).1
  unfold remember
  rw [if_pos full, List.tail_cons]
  constructor
  · intro same
    have member : oldest ∈ insertNew rest a := same.mem_iff.mpr List.mem_cons_self
    exact (mem_insertNew.mp member).resolve_left notLater
  · rintro rfl
    rw [insertNew, if_neg notLater]
    exact List.perm_append_singleton oldest rest

/-- A full set that is told a new element forgets its oldest one. -/
theorem perm_remember_of_notMem {limit : ℕ} {oldest oldest' : α} {rest rest' : List α} {a : α}
    (same : (oldest :: rest).Perm (oldest' :: rest')) (nodup : (oldest :: rest).Nodup)
    (full : limit ≤ (oldest :: rest).length) (new : a ∉ oldest :: rest) :
    (remember limit (oldest :: rest) a).Perm (offer limit (oldest' :: rest') a) ↔
      oldest = oldest' := by
  have new' : a ∉ oldest' :: rest' := fun member => new (same.mem_iff.mpr member)
  have notLater : a ∉ rest := fun member => new (List.mem_cons_of_mem oldest member)
  have full' : limit ≤ (oldest' :: rest').length := same.length_eq ▸ full
  unfold remember offer insertNew
  rw [if_pos full, if_neg new', if_pos full', List.tail_cons, List.tail_cons, if_neg notLater,
    List.perm_append_right_iff]
  constructor
  · intro sameRest
    -- what is left of the first set does not have its oldest element
    have member : oldest ∈ oldest' :: rest' := same.mem_iff.mp List.mem_cons_self
    refine (List.mem_cons.mp member).resolve_right fun later => ?_
    exact (List.nodup_cons.mp nodup).1 (sameRest.mem_iff.mpr later)
  · rintro rfl
    exact (List.perm_cons oldest).mp same

/-- **One step.**  The set stays the same as the one that ignores what it has exactly
when it is not full, or is told its oldest element, or is told a new one while the
oldest elements of both are the same. -/
theorem perm_remember_offer_iff {limit : ℕ} {seen l : List α} {a : α} (positive : 0 < limit)
    (same : seen.Perm l) (nodup : seen.Nodup) :
    (remember limit seen a).Perm (offer limit l a) ↔
      (limit ≤ seen.length → seen.head? = if a ∈ seen then some a else l.head?) := by
  by_cases full : limit ≤ seen.length
  · cases seen with
    | nil => exact absurd full (Nat.not_le.mpr positive)
    | cons oldest rest =>
        cases l with
        | nil => exact absurd same.length_eq (Nat.succ_ne_zero _)
        | cons oldest' rest' =>
            by_cases old : a ∈ oldest :: rest
            · have ignored : offer limit (oldest' :: rest') a = oldest' :: rest' :=
                if_pos (same.mem_iff.mp old)
              rw [ignored, if_pos old, ← List.Perm.congr_right same,
                perm_remember_of_mem nodup full old, List.head?_cons, Option.some_inj]
              exact ⟨fun here _ => here, fun here => here full⟩
            · rw [perm_remember_of_notMem same nodup full old, if_neg old, List.head?_cons,
                List.head?_cons, Option.some_inj]
              exact ⟨fun here _ => here, fun here => here full⟩
  · refine iff_of_true ?_ fun isFull => absurd isFull full
    rw [remember_eq_offer fun isFull => absurd isFull full]
    have notFull' : ¬ limit ≤ l.length := same.length_eq ▸ full
    unfold offer
    rw [if_neg full, if_neg notFull']
    by_cases old : a ∈ seen
    · rw [if_pos old, if_pos (same.mem_iff.mp old)]
      exact same
    · rw [if_neg old, if_neg fun member => old (same.mem_iff.mpr member)]
      exact same.append_right [a]

/-! ## Rounds

A full set that is told its oldest element makes it the newest: it has turned by one
against the set that ignores it. -/

/-- What the set may be told when it has turned as far as the place `turn`.  If it is
full, that is the element of this place, or a new one at the end of a round. -/
def InTurn (limit : ℕ) (l : List α) (turn : ℕ) (a : α) : Prop :=
  limit ≤ l.length → if a ∈ l then l[turn]? = some a else turn = 0

instance (limit : ℕ) (l : List α) (turn : ℕ) (a : α) : Decidable (InTurn limit l turn a) :=
  inferInstanceAs (Decidable (_ → _))

/-- How far it has turned then. -/
def nextTurn (limit : ℕ) (l : List α) (turn : ℕ) (a : α) : ℕ :=
  if limit ≤ l.length ∧ a ∈ l then (turn + 1) % l.length else 0

/-- **In rounds**: a full set is told the elements it has from the oldest to the newest,
all of them before it is told a new one. -/
def InRounds (limit : ℕ) : List α → ℕ → List α → Prop
  | _, _, [] => True
  | l, turn, a :: as =>
      InTurn limit l turn a ∧ InRounds limit (offer limit l a) (nextTurn limit l turn a) as

instance decidableInRounds (limit : ℕ) :
    (l : List α) → (turn : ℕ) → (as : List α) → Decidable (InRounds limit l turn as)
  | _, _, [] => isTrue trivial
  | l, turn, a :: as =>
      have := decidableInRounds limit (offer limit l a) (nextTurn limit l turn a) as
      inferInstanceAs (Decidable (_ ∧ _))

/-- A set turns only when it is full. -/
structure Turned (limit : ℕ) (l : List α) (turn : ℕ) : Prop where
  /-- A full set has turned by less than its length. -/
  lt : limit ≤ l.length → turn < l.length
  /-- Before that it has not turned. -/
  eq_zero : l.length < limit → turn = 0

section Turns

variable {limit : ℕ} {l : List α} {turn : ℕ} {a : α}

/-- A set turns by one, or starts over. -/
theorem turned_next (turn : ℕ) (positive : 0 < limit) :
    Turned limit (offer limit l a) (nextTurn limit l turn a) := by
  unfold nextTurn
  split_ifs with known
  · rw [offer, if_pos known.2]
    refine ⟨fun full => ?_, fun room => absurd known.1 room.not_ge⟩
    exact Nat.mod_lt _ (positive.trans_le full)
  · exact ⟨positive.trans_le, fun _ => rfl⟩

/-- The turned set stays the other one, turned. -/
theorem remember_rotate (turned : Turned limit l turn) (nodup : l.Nodup)
    (inTurn : InTurn limit l turn a) :
    remember limit (l.rotate turn) a = (offer limit l a).rotate (nextTurn limit l turn a) := by
  by_cases known : limit ≤ l.length ∧ a ∈ l
  · have here := inTurn known.1
    rw [if_pos known.2, ← List.head?_rotate (turned.lt known.1), List.head?_eq_some_iff] at here
    obtain ⟨rest, isSeen⟩ := here
    have notLater : a ∉ rest := by
      have seenNodup := List.nodup_rotate (n := turn) |>.mpr nodup
      rw [isSeen] at seenNodup
      exact (List.nodup_cons.mp seenNodup).1
    have full : limit ≤ (a :: rest).length := by
      rw [← isSeen, List.length_rotate]
      exact known.1
    calc remember limit (l.rotate turn) a
      _ = rest ++ [a] := by
          rw [isSeen, remember, if_pos full, List.tail_cons, insertNew, if_neg notLater]
      _ = (l.rotate turn).rotate 1 := by rw [isSeen, List.rotate_cons_succ, List.rotate_zero]
      _ = l.rotate ((turn + 1) % l.length) := by rw [List.rotate_rotate, List.rotate_mod]
      _ = (offer limit l a).rotate (nextTurn limit l turn a) := by
          rw [offer, if_pos known.2, nextTurn, if_pos known]
  · have first : turn = 0 := by
      rcases Nat.lt_or_ge l.length limit with room | full
      · exact turned.eq_zero room
      · have new := inTurn full
        rwa [if_neg fun old => known ⟨full, old⟩] at new
    rw [first, nextTurn, if_neg known, List.rotate_zero, List.rotate_zero]
    exact remember_eq_offer fun full old => known ⟨full, old⟩

/-- **One step of a turned set.** -/
theorem perm_remember_rotate_iff (turned : Turned limit l turn) (positive : 0 < limit)
    (nodup : l.Nodup) :
    (remember limit (l.rotate turn) a).Perm (offer limit l a) ↔ InTurn limit l turn a := by
  rw [perm_remember_offer_iff positive (l.rotate_perm turn) (List.nodup_rotate.mpr nodup),
    List.length_rotate]
  refine forall_congr' fun full => ?_
  have here := turned.lt full
  simp only [List.head?_rotate here, List.mem_rotate]
  split_ifs with old
  · exact Iff.rfl
  · rw [List.head?_eq_getElem?]
    exact List.getElem?_inj here nodup

/-- **All steps.**  The set has the elements of the one that ignores what it has, after
every step, exactly when it is told them in rounds. -/
theorem forall_perm_foldl_iff (turned : Turned limit l turn) (positive : 0 < limit)
    (nodup : l.Nodup) {as : List α} :
    (∀ front, front <+: as →
        (front.foldl (remember limit) (l.rotate turn)).Perm (front.foldl (offer limit) l)) ↔
      InRounds limit l turn as := by
  induction as generalizing l turn with
  | nil =>
      refine iff_of_true (fun front isPrefix => ?_) trivial
      rw [List.prefix_nil.mp isPrefix]
      exact l.rotate_perm turn
  | cons a as ih =>
      have next := ih (turned_next turn positive) (nodup_offer nodup a)
      constructor
      · intro same
        have inTurn := (perm_remember_rotate_iff turned positive nodup).mp
          (same [a] (List.cons_prefix_cons.mpr ⟨rfl, List.nil_prefix⟩))
        refine ⟨inTurn, next.mp fun front isPrefix => ?_⟩
        rw [← remember_rotate turned nodup inTurn]
        exact same (a :: front) (List.cons_prefix_cons.mpr ⟨rfl, isPrefix⟩)
      · rintro ⟨inTurn, rest⟩ front isPrefix
        rcases List.prefix_cons_iff.mp isPrefix with rfl | ⟨front, rfl, isFront⟩
        · exact l.rotate_perm turn
        · rw [List.foldl_cons, List.foldl_cons, remember_rotate turned nodup inTurn]
          exact next.mpr rest front isFront

/-- New elements are in rounds, and never turn the set. -/
theorem inRounds_of_nodup {as : List α} (nodup : as.Nodup) (new : ∀ a ∈ as, a ∉ l) :
    InRounds limit l 0 as := by
  induction as generalizing l with
  | nil => trivial
  | cons a as ih =>
      obtain ⟨notLater, nodup⟩ := List.nodup_cons.mp nodup
      have isNew : a ∉ l := new a List.mem_cons_self
      refine ⟨fun _ => by rw [if_neg isNew], ?_⟩
      rw [nextTurn, if_neg fun known => isNew known.2]
      refine ih nodup fun b later member => ?_
      rcases mem_of_mem_offer member with old | rfl
      · exact new b (List.mem_cons_of_mem a later) old
      · exact notLater later

end Turns

end Library
