import Mathlib.Data.Char
import Mathlib.Data.List.Lex
import Mathlib.Tactic.Ring

/-!
# Decimal texts

Comparing the numbers that two texts of digits stand for, on the texts: leading zeros do
not count (`significant`), a longer text is a larger number, and texts of one length are in
their lexicographic order.

`AtMost` is this comparison and `value` the number of a text; `value_le_iff` says that they
agree.  The comparison takes no number apart and makes none, so it can be decided where the
texts are long.
-/

namespace Library.Decimal

/-- A text of digits. -/
abbrev Digits := List Char

/-- The number. -/
def value (digits : Digits) : ℕ := Nat.ofDigitChars 10 digits 0

/-- The text without its leading zeros. -/
def significant (digits : Digits) : Digits := digits.dropWhile (· = '0')

/-- The text is at most `bound`, by its length and then in lexicographic order. -/
def AtMost (bound digits : Digits) : Prop :=
  (significant digits).length < bound.length ∨
    (significant digits).length = bound.length ∧ significant digits ≤ bound

instance (bound digits : Digits) : Decidable (AtMost bound digits) :=
  inferInstanceAs (Decidable (_ ∨ _))

/-- The first digit counts the most. -/
theorem value_cons (c : Char) (digits : Digits) :
    value (c :: digits) = 10 ^ digits.length * (c.toNat - 48) + value digits := by
  unfold value
  rw [Nat.ofDigitChars_cons, Nat.ofDigitChars_eq_ofDigitChars_zero]
  simp

/-- The code of a digit. -/
theorem toNat_of_isDigit {c : Char} (isDigit : c.isDigit = true) : 48 ≤ c.toNat ∧ c.toNat ≤ 57 :=
  Char.isDigit_iff_toNat.mp isDigit

/-- A text of so many digits stands for less than the next power of ten. -/
theorem value_lt_pow {digits : Digits} (valid : ∀ c ∈ digits, c.isDigit = true) :
    value digits < 10 ^ digits.length := by
  induction digits with
  | nil => exact Nat.one_pos
  | cons c digits ih =>
      have later := ih fun c member => valid c (List.mem_cons_of_mem _ member)
      have first := toNat_of_isDigit (valid c List.mem_cons_self)
      have most : 10 ^ digits.length * (c.toNat - 48) ≤ 10 ^ digits.length * 9 :=
        Nat.mul_le_mul_left _ (by omega)
      rw [value_cons, List.length_cons, pow_succ]
      omega

/-- Leading zeros do not count. -/
@[simp] theorem value_significant (digits : Digits) :
    value (significant digits) = value digits := by
  unfold significant
  induction digits with
  | nil => rfl
  | cons c digits ih =>
      by_cases zero : c = '0'
      · rw [List.dropWhile_cons_of_pos (by simpa using zero), ih, value_cons, zero]
        simp
      · rw [List.dropWhile_cons_of_neg (by simpa using zero)]

/-- What is left are digits. -/
theorem isDigit_of_mem_significant {digits : Digits} (valid : ∀ c ∈ digits, c.isDigit = true) :
    ∀ c ∈ significant digits, c.isDigit = true :=
  fun c member => valid c ((List.dropWhile_sublist _).subset member)

/-- The first digit that counts is not a zero. -/
theorem pow_le_value_significant {digits : Digits} (valid : ∀ c ∈ digits, c.isDigit = true) :
    10 ^ (significant digits).length ≤ 10 * value (significant digits) ∨
      significant digits = [] := by
  have valid' := isDigit_of_mem_significant valid
  cases text : significant digits with
  | nil => exact Or.inr rfl
  | cons c rest =>
      have notZero : c ≠ '0' := by
        have head := List.head?_dropWhile_not (· = '0') digits
        unfold significant at text
        rw [text] at head
        simpa using head
      rw [text] at valid'
      have isDigit := toNat_of_isDigit (valid' c List.mem_cons_self)
      have positive : 48 < c.toNat := by
        refine lt_of_le_of_ne isDigit.1 fun same => notZero ?_
        exact Char.toNat_inj.mp same.symm
      have least : 10 ^ rest.length * 1 ≤ 10 ^ rest.length * (c.toNat - 48) :=
        Nat.mul_le_mul_left _ (by omega)
      refine Or.inl ?_
      rw [value_cons, List.length_cons, pow_succ]
      omega

/-- Texts of one length. -/
theorem value_lt_value_iff {digits digits' : Digits} (valid : ∀ c ∈ digits, c.isDigit = true)
    (valid' : ∀ c ∈ digits', c.isDigit = true) (length : digits.length = digits'.length) :
    value digits < value digits' ↔ digits < digits' := by
  induction digits generalizing digits' with
  | nil =>
      cases digits' with
      | nil => exact iff_of_false (lt_irrefl _) (lt_irrefl _)
      | cons c rest => cases length
  | cons c digits ih =>
      cases digits' with
      | nil => cases length
      | cons c' digits' =>
          have rest : ∀ c ∈ digits, c.isDigit = true :=
            fun c member => valid c (List.mem_cons_of_mem _ member)
          have rest' : ∀ c ∈ digits', c.isDigit = true :=
            fun c member => valid' c (List.mem_cons_of_mem _ member)
          have length' : digits.length = digits'.length := Nat.succ.inj length
          have first := toNat_of_isDigit (valid c List.mem_cons_self)
          have first' := toNat_of_isDigit (valid' c' List.mem_cons_self)
          -- the first digit decides, as the others are worth less than one of it
          have less := value_lt_pow rest
          have less' := value_lt_pow rest'
          have order : c < c' ↔ c.toNat < c'.toNat := UInt32.lt_iff_toNat_lt
          rw [length'] at less
          rw [value_cons, value_cons, List.cons_lt_cons_iff, ← ih rest rest' length', length',
            order]
          rcases Nat.lt_trichotomy c.toNat c'.toNat with before | same | after
          · have next : 10 ^ digits'.length * (c.toNat - 48 + 1) ≤
                10 ^ digits'.length * (c'.toNat - 48) := Nat.mul_le_mul_left _ (by omega)
            rw [Nat.mul_add, Nat.mul_one] at next
            exact iff_of_true (by omega) (Or.inl before)
          · rw [same, Char.toNat_inj.mp same]
            simp
          · have next : 10 ^ digits'.length * (c'.toNat - 48 + 1) ≤
                10 ^ digits'.length * (c.toNat - 48) := Nat.mul_le_mul_left _ (by omega)
            rw [Nat.mul_add, Nat.mul_one] at next
            refine iff_of_false (by omega) ?_
            rintro (before | ⟨same, -⟩)
            · omega
            · exact absurd (congrArg Char.toNat same) (by omega)

/-- Texts of one length are in the order of their numbers. -/
theorem value_le_value_iff {digits digits' : Digits} (valid : ∀ c ∈ digits, c.isDigit = true)
    (valid' : ∀ c ∈ digits', c.isDigit = true) (length : digits.length = digits'.length) :
    value digits ≤ value digits' ↔ digits ≤ digits' := by
  rw [← not_lt, ← not_lt, value_lt_value_iff valid' valid length.symm]

/-- **Comparing on the texts.** -/
theorem value_le_iff {bound digits : Digits} (bounded : ∀ c ∈ bound, c.isDigit = true)
    (leading : significant bound = bound) (valid : ∀ c ∈ digits, c.isDigit = true) :
    value digits ≤ value bound ↔ AtMost bound digits := by
  have valid' := isDigit_of_mem_significant valid
  have less := value_lt_pow valid'
  have less' := value_lt_pow bounded
  have large := pow_le_value_significant valid
  have large' := pow_le_value_significant bounded
  rw [leading] at large'
  rw [← value_significant digits]
  unfold AtMost
  generalize significant digits = text at valid' less large ⊢
  rcases Nat.lt_trichotomy text.length bound.length with shorter | same | longer
  · have step : 10 ^ (text.length + 1) ≤ 10 ^ bound.length :=
      Nat.pow_le_pow_right (by decide) shorter
    rw [pow_succ] at step
    refine iff_of_true ?_ (Or.inl shorter)
    rcases large' with large' | empty
    · omega
    · rw [empty] at shorter
      exact absurd shorter (Nat.not_lt_zero _)
  · rw [value_le_value_iff valid' bounded same]
    exact ⟨fun le => Or.inr ⟨same, le⟩, fun atMost => (atMost.resolve_left (by omega)).2⟩
  · have step : 10 ^ (bound.length + 1) ≤ 10 ^ text.length :=
      Nat.pow_le_pow_right (by decide) longer
    rw [pow_succ] at step
    refine iff_of_false ?_ (by omega)
    rcases large with large | empty
    · omega
    · rw [empty] at longer
      exact absurd longer (Nat.not_lt_zero _)

end Library.Decimal
