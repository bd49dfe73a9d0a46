import Mathlib.Logic.Function.Basic

/-!
# Partial maps

A finite-support table (rows by key, handlers by number, locks by row) is a
function into `Option`, changed at one key at a time with `Function.update`.
These are its lookup rules: what a table holds after one change, as a case
split on whether the key is the one that changed.
-/

namespace Library

universe u v

variable {α : Type u} {β : Type v} [DecidableEq α] {f : α → Option β} {a b : α} {x y : β}

/-- What is there after an entry was made or replaced, -/
theorem update_some_eq_some :
    Function.update f a (some y) b = some x ↔ (b = a ∧ y = x) ∨ (b ≠ a ∧ f b = some x) := by
  by_cases same : b = a
  · subst same
    simp
  · simp [same]

/-- and after one was removed. -/
theorem update_none_eq_some :
    Function.update f a none b = some x ↔ b ≠ a ∧ f b = some x := by
  by_cases same : b = a
  · subst same
    simp
  · simp [same]

end Library
