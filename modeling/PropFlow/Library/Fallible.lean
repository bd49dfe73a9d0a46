/-!
# Inverting fallible computations

How a computation in `Except ε` can have succeeded, or failed.  `bind_eq_ok` and
`bind_eq_error` peel one statement off a `do` block; a proof about a function that
validates, writes and returns applies them once per statement and never unfolds
the callee.
-/

namespace Library

universe u v w

variable {ε : Type u} {α β : Type v}

/-- A successful sequence is two successes. -/
theorem bind_eq_ok {x : Except ε α} {f : α → Except ε β} {b : β} :
    (x >>= f) = .ok b ↔ ∃ a, x = .ok a ∧ f a = .ok b := by
  cases x with
  | error e =>
      constructor
      · intro failed
        cases failed
      · rintro ⟨_, failed, -⟩
        cases failed
  | ok a =>
      constructor
      · exact fun rest => ⟨a, rfl, rest⟩
      · rintro ⟨_, same, rest⟩
        cases same
        exact rest

/-- A sequence fails in its first step that fails. -/
theorem bind_eq_error {x : Except ε α} {f : α → Except ε β} {e : ε} :
    (x >>= f) = .error e ↔ x = .error e ∨ ∃ a, x = .ok a ∧ f a = .error e := by
  cases x with
  | error e' =>
      constructor
      · intro failed
        cases failed
        exact Or.inl rfl
      · rintro (failed | ⟨_, succeeded, -⟩)
        · cases failed
          rfl
        · cases succeeded
  | ok a =>
      constructor
      · exact fun failed => Or.inr ⟨a, rfl, failed⟩
      · rintro (failed | ⟨_, same, failed⟩)
        · cases failed
        · cases same
          exact failed

/-- A guard that passed did not throw. -/
theorem guard_eq_ok {c : Prop} [Decidable c] {e : ε} {k : Except ε β} {b : β} :
    (if c then .error e else k) = .ok b ↔ ¬ c ∧ k = .ok b := by
  by_cases h : c
  · simp [h]
  · simp [h]

/-- Translating the error does not change success. -/
theorem mapError_eq_ok {ε' : Type w} {x : Except ε α} {f : ε → ε'} {a : α} :
    x.mapError f = .ok a ↔ x = .ok a := by
  cases x with
  | error e =>
      constructor
      · intro failed
        cases failed
      · intro failed
        cases failed
  | ok b =>
      show Except.ok b = Except.ok a ↔ _
      rw [Except.ok.injEq, Except.ok.injEq]

/-- An error that was mapped was an error. -/
theorem mapError_eq_error {ε' : Type w} {x : Except ε α} {f : ε → ε'} {e' : ε'} :
    x.mapError f = .error e' ↔ ∃ e, x = .error e ∧ f e = e' := by
  cases x with
  | error e =>
      show Except.error (f e) = Except.error e' ↔ _
      simp
  | ok a =>
      constructor
      · intro failed
        cases failed
      · rintro ⟨_, failed, -⟩
        cases failed

/-- What has succeeded is there. -/
theorem toOption_eq_some {x : Except ε α} {a : α} : x.toOption = some a ↔ x = .ok a := by
  cases x with
  | error e => simp [Except.toOption]
  | ok b => simp [Except.toOption]

/-- After a success the computation goes on, -/
@[simp] theorem ok_bind (a : α) (f : α → Except ε β) : ((.ok a : Except ε α) >>= f) = f a := rfl

/-- and after an error it does not. -/
@[simp] theorem error_bind (e : ε) (f : α → Except ε β) :
    ((.error e : Except ε α) >>= f) = .error e := rfl

/-- The first hit of a search that did not throw. -/
theorem findM?_eq_ok_some {γ : Type} {p : γ → Except ε Bool} {l : List γ} {c : γ}
    (found : l.findM? p = .ok (some c)) : c ∈ l ∧ p c = .ok true := by
  induction l with
  | nil => cases found
  | cons head l ih =>
      rw [List.findM?, bind_eq_ok] at found
      obtain ⟨hit, looked, found⟩ := found
      cases hit with
      | true =>
          cases found
          exact ⟨List.mem_cons_self, looked⟩
      | false => exact (ih found).imp_left (List.mem_cons_of_mem head)

/-- A search that cannot throw. -/
theorem findM?_eq_ok {γ : Type} {p : γ → Except ε Bool} {q : γ → Bool} {l : List γ}
    (look : ∀ c ∈ l, p c = .ok (q c)) : l.findM? p = .ok (l.find? q) := by
  induction l with
  | nil => rfl
  | cons head l ih =>
      rw [List.findM?, look head List.mem_cons_self, ok_bind, List.find?_cons]
      cases q head with
      | true => rfl
      | false => exact ih fun c member => look c (List.mem_cons_of_mem head member)

end Library
