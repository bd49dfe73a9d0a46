import Mathlib.Data.List.Basic

/-!
# Fields between separators

What `List.splitOn` gives: fields, none of which has the separator in it.  That a list of
such fields is what its text is split into is `List.splitOn_intercalate`.
-/

namespace Library

universe u

variable {α : Type u} [DecidableEq α]

/-- A field has no separator in it. -/
theorem notMem_of_mem_splitOn {separator : α} {text field : List α}
    (member : field ∈ text.splitOn separator) : separator ∉ field := by
  induction text generalizing field with
  | nil =>
      rw [List.splitOn_nil, List.mem_singleton] at member
      rw [member]
      exact List.not_mem_nil
  | cons a text ih =>
      obtain ⟨first, others, split⟩ :=
        List.exists_cons_of_ne_nil (List.splitOn_ne_nil separator text)
      rw [split] at ih
      rw [List.splitOn_cons_eq_if_modifyHead, split, List.modifyHead_cons] at member
      split_ifs at member with here
      · rcases List.mem_cons.mp member with rfl | member
        · exact List.not_mem_nil
        · exact ih member
      · rcases List.mem_cons.mp member with rfl | member
        · intro inside
          rcases List.mem_cons.mp inside with rfl | inside
          · exact here (beq_self_eq_true _)
          · exact ih List.mem_cons_self inside
        · exact ih (List.mem_cons_of_mem first member)

end Library
