import Mathlib.Data.Nat.Log
import Mathlib.Tactic.Ring

/-!
# Natural numbers in binary64

Rounding of natural numbers to the nearest one with a significand of 53 bits, of two the
even one, as IEEE 754 has it.

* `round` — the rounded number; it knows no largest one;
* `Representable` — the numbers that are their own rounding;
* `ofNat` — the same with `none` for infinity, and `Value` for the finite results.

Below `2 ^ 53` nothing is rounded (`round_of_lt`).  `round_lt_two_pow_iff` says which
numbers stay below a power of two, and `round_pred` that large numbers absorb a one.
-/

namespace Library.Binary64

/-- The exponent of the last bit that is kept. -/
def exponent (n : ℕ) : ℕ := n.log2 - 52

/-- The multiple of `2 ^ e` nearest to `n`, divided by `2 ^ e`; of two, the even one. -/
def nearest (n e : ℕ) : ℕ :=
  if 2 * (n % 2 ^ e) < 2 ^ e ∨ 2 * (n % 2 ^ e) = 2 ^ e ∧ n / 2 ^ e % 2 = 0 then n / 2 ^ e
  else n / 2 ^ e + 1

/-- The nearest number that is representable, of two the even one. -/
def round (n : ℕ) : ℕ := nearest n (exponent n) * 2 ^ exponent n

/-- The number has so few bits. -/
def Representable (n : ℕ) : Prop := ∃ significand e, significand < 2 ^ 53 ∧ n = significand * 2 ^ e

/-- A finite value that is a natural number. -/
abbrev Value := { n : ℕ // Representable n }

/-- There are no values from `2 ^ maxExponent` on. -/
def maxExponent : ℕ := 1024

/-! ## The binade of a number -/

section Binade

variable {n : ℕ}

/-- Small numbers have all their bits. -/
theorem exponent_eq_zero (small : n < 2 ^ 53) : exponent n = 0 := by
  unfold exponent
  have bound : n.log2 < 53 := by
    by_cases zero : n = 0
    · rw [zero]
      decide
    · exact (Nat.log2_lt zero).mpr small
  omega

/-- A number is a significand of 53 bits and a remainder. -/
theorem two_pow_le_div (large : 2 ^ 52 ≤ n) :
    2 ^ 52 ≤ n / 2 ^ exponent n ∧ n / 2 ^ exponent n < 2 ^ 53 := by
  have nonzero : n ≠ 0 := by
    have := Nat.two_pow_pos 52
    omega
  have leading : 52 ≤ n.log2 := (Nat.le_log2 nonzero).mpr large
  have low : 2 ^ 52 * 2 ^ exponent n = 2 ^ n.log2 := by
    rw [← pow_add, exponent, Nat.add_sub_cancel' leading]
  have high : 2 ^ 53 * 2 ^ exponent n = 2 ^ (n.log2 + 1) := by
    rw [← pow_add]
    congr 1
    unfold exponent
    omega
  rw [Nat.le_div_iff_mul_le (Nat.two_pow_pos _), Nat.div_lt_iff_lt_mul (Nat.two_pow_pos _), low,
    high]
  exact ⟨Nat.log2_self_le nonzero, Nat.lt_log2_self⟩

/-- The exponent is that of the significand. -/
theorem exponent_eq {significand e rest : ℕ} (low : 2 ^ 52 ≤ significand)
    (high : significand < 2 ^ 53) (less : rest < 2 ^ e) :
    exponent (significand * 2 ^ e + rest) = e := by
  have positive := Nat.two_pow_pos e
  have leading : (significand * 2 ^ e + rest).log2 = 52 + e := by
    have nonzero : significand * 2 ^ e + rest ≠ 0 := by
      have := Nat.mul_le_mul low positive
      have := Nat.two_pow_pos 52
      omega
    apply (Nat.log2_eq_iff nonzero).mpr
    constructor
    · rw [pow_add]
      exact (Nat.mul_le_mul_right _ low).trans (Nat.le_add_right _ _)
    · have next : (significand + 1) * 2 ^ e ≤ 2 ^ 53 * 2 ^ e := Nat.mul_le_mul_right _ high
      rw [show 52 + e + 1 = 53 + e by omega, pow_add]
      rw [Nat.add_mul, Nat.one_mul] at next
      omega
  unfold exponent
  rw [leading]
  omega

end Binade

/-! ## Rounding -/

section Rounding

variable {n : ℕ}

/-- So they are not rounded. -/
theorem round_of_lt (small : n < 2 ^ 53) : round n = n := by
  unfold round nearest
  rw [exponent_eq_zero small]
  simp [Nat.mod_one]

/-- **Rounding a significand and a remainder.** -/
theorem round_mul_add {significand e rest : ℕ} (low : 2 ^ 52 ≤ significand)
    (high : significand < 2 ^ 53) (less : rest < 2 ^ e) :
    round (significand * 2 ^ e + rest) =
      (if 2 * rest < 2 ^ e ∨ 2 * rest = 2 ^ e ∧ significand % 2 = 0 then significand
        else significand + 1) * 2 ^ e := by
  have quotient : (significand * 2 ^ e + rest) / 2 ^ e = significand := by
    rw [Nat.mul_comm, Nat.mul_add_div (Nat.two_pow_pos e), Nat.div_eq_of_lt less, Nat.add_zero]
  have remainder : (significand * 2 ^ e + rest) % 2 ^ e = rest := by
    rw [Nat.mul_add_mod', Nat.mod_eq_of_lt less]
  unfold round nearest
  rw [exponent_eq low high less, quotient, remainder]

/-- Every large number is such a sum. -/
theorem exists_mul_add (large : 2 ^ 52 ≤ n) :
    ∃ significand e rest, 2 ^ 52 ≤ significand ∧ significand < 2 ^ 53 ∧ rest < 2 ^ e ∧
      n = significand * 2 ^ e + rest := by
  obtain ⟨low, high⟩ := two_pow_le_div large
  refine ⟨n / 2 ^ exponent n, exponent n, n % 2 ^ exponent n, low, high, ?_, ?_⟩
  · exact Nat.mod_lt _ (Nat.two_pow_pos _)
  · rw [Nat.mul_comm, Nat.div_add_mod]

/-- **What stays below a power of two**: the numbers below the middle between it and the
value before it.  The middle itself goes up, where the even significand is. -/
theorem round_lt_two_pow_iff {k : ℕ} (bits : 54 ≤ k) :
    round n < 2 ^ k ↔ n < 2 ^ k - 2 ^ (k - 54) := by
  obtain ⟨i, rfl⟩ := Nat.exists_eq_add_of_le bits
  have power : 2 ^ (54 + i) = 2 ^ 54 * 2 ^ i := pow_add 2 54 i
  have positive := Nat.two_pow_pos i
  rw [Nat.add_sub_cancel_left, power]
  rcases Nat.lt_or_ge n (2 ^ 52) with small | large
  · rw [round_of_lt (by omega)]
    omega
  obtain ⟨significand, e, rest, low, high, less, rfl⟩ := exists_mul_add large
  have lower : 2 ^ 52 * 2 ^ e ≤ significand * 2 ^ e := Nat.mul_le_mul_right _ low
  have upper : (significand + 1) * 2 ^ e ≤ 2 ^ 53 * 2 ^ e := Nat.mul_le_mul_right _ high
  rw [Nat.add_mul, Nat.one_mul] at upper
  rw [round_mul_add low high less]
  rcases Nat.lt_trichotomy e (i + 1) with below | rfl | above
  · have smaller : 2 ^ e ≤ 2 ^ i := Nat.pow_le_pow_right (by decide) (by omega)
    split_ifs
    · omega
    · rw [Nat.add_mul, Nat.one_mul]
      omega
  · -- the binade below the power
    have double : 2 ^ (i + 1) = 2 ^ i * 2 := pow_succ 2 i
    rw [double] at lower upper less ⊢
    rcases Nat.lt_or_ge significand (2 ^ 53 - 1) with inside | last
    · have next : (significand + 2) * (2 ^ i * 2) ≤ 2 ^ 53 * (2 ^ i * 2) :=
        Nat.mul_le_mul_right _ (by omega)
      rw [Nat.add_mul] at next
      split_ifs
      · omega
      · rw [Nat.add_mul, Nat.one_mul]
        omega
    · -- the last significand is odd
      obtain rfl : significand = 2 ^ 53 - 1 := by omega
      by_cases down : rest < 2 ^ i
      · rw [if_pos (Or.inl (by omega))]
        omega
      · rw [if_neg (by omega)]
        omega
  · have larger : 2 ^ (i + 2) ≤ 2 ^ e := Nat.pow_le_pow_right (by decide) above
    rw [pow_add] at larger
    split_ifs
    · omega
    · rw [Nat.add_mul, Nat.one_mul]
      omega

/-- What has been rounded is representable. -/
theorem representable_round (n : ℕ) : Representable (round n) := by
  rcases Nat.lt_or_ge n (2 ^ 52) with small | large
  · rw [round_of_lt (by omega)]
    exact ⟨n, 0, by omega, (Nat.mul_one n).symm⟩
  · obtain ⟨significand, e, rest, low, high, less, rfl⟩ := exists_mul_add large
    rw [round_mul_add low high less]
    split_ifs
    · exact ⟨significand, e, high, rfl⟩
    · rcases Nat.lt_or_ge (significand + 1) (2 ^ 53) with inside | carry
      · exact ⟨significand + 1, e, inside, rfl⟩
      · obtain rfl : significand = 2 ^ 53 - 1 := by omega
        refine ⟨1, 53 + e, by omega, ?_⟩
        rw [pow_add, Nat.one_mul, Nat.sub_add_cancel Nat.one_le_two_pow]

/-- A representable number that is large has no remainder. -/
theorem Representable.exists_mul (representable : Representable n) (large : 2 ^ 52 ≤ n) :
    ∃ significand e, 2 ^ 52 ≤ significand ∧ significand < 2 ^ 53 ∧ n = significand * 2 ^ e := by
  obtain ⟨given, e, short, rfl⟩ := representable
  obtain ⟨significand, e', rest, low, high, less, same⟩ := exists_mul_add large
  have lower : 2 ^ 52 * 2 ^ e' ≤ significand * 2 ^ e' := Nat.mul_le_mul_right _ low
  have upper : (given + 1) * 2 ^ e ≤ 2 ^ 53 * 2 ^ e := Nat.mul_le_mul_right _ short
  rw [Nat.add_mul, Nat.one_mul] at upper
  have positive := Nat.two_pow_pos e
  -- its own exponent is no larger than that of its significand
  have smaller : e' ≤ e := by
    by_contra larger
    have next : 2 ^ (e + 1) ≤ 2 ^ e' := Nat.pow_le_pow_right (by decide) (by omega)
    rw [pow_succ] at next
    omega
  have divides : 2 ^ e' ∣ given * 2 ^ e := (Nat.pow_dvd_pow 2 smaller).mul_left given
  refine ⟨significand, e', low, high, ?_⟩
  have none : rest = 0 := by
    rw [same, Nat.dvd_add_right (Nat.dvd_mul_left _ _)] at divides
    exact Nat.eq_zero_of_dvd_of_lt divides less
  rw [same, none, Nat.add_zero]

/-- **One is lost.**  The number before a large one rounds to it. -/
theorem round_pred (representable : Representable n) (large : 2 ^ 54 ≤ n) : round (n - 1) = n := by
  obtain ⟨significand, e, low, high, rfl⟩ := representable.exists_mul (by omega)
  have wide : 2 ≤ e := by
    by_contra narrow
    have small : 2 ^ e ≤ 2 ^ 1 := Nat.pow_le_pow_right (by decide) (by omega)
    have := Nat.mul_le_mul_left significand small
    omega
  obtain ⟨i, rfl⟩ := Nat.exists_eq_add_of_le' wide
  have double : 2 ^ (i + 2) = 2 * 2 ^ (i + 1) := pow_succ' 2 (i + 1)
  have double' : 2 ^ (i + 1) = 2 * 2 ^ i := pow_succ' 2 i
  have positive := Nat.two_pow_pos i
  rcases Nat.lt_or_ge (2 ^ 52) significand with inside | first
  · obtain ⟨before, rfl⟩ := Nat.exists_eq_add_of_lt inside
    have split : (2 ^ 52 + before + 1) * 2 ^ (i + 2) - 1 =
        (2 ^ 52 + before) * 2 ^ (i + 2) + (2 ^ (i + 2) - 1) := by
      rw [Nat.add_mul (2 ^ 52 + before), Nat.one_mul]
      omega
    rw [split, round_mul_add (by omega) (by omega) (by omega), if_neg (by omega)]
  · -- the binade below, whose last significand is odd
    obtain rfl : significand = 2 ^ 52 := by omega
    have split : 2 ^ 52 * 2 ^ (i + 2) - 1 =
        (2 ^ 53 - 1) * 2 ^ (i + 1) + (2 ^ (i + 1) - 1) := by omega
    rw [split, round_mul_add (by omega) (by omega) (by omega), if_neg (by omega)]
    omega

end Rounding

/-! ## Values -/

/-- The value of a natural number, `none` if it is infinite. -/
def ofNat (n : ℕ) : Option Value :=
  if round n < 2 ^ maxExponent then some ⟨round n, representable_round n⟩ else none

/-- A small number is a value, and itself. -/
theorem map_val_ofNat_of_lt {n : ℕ} (small : n < 2 ^ 53) : (ofNat n).map Subtype.val = some n := by
  have huge : 2 ^ 53 ≤ 2 ^ maxExponent := Nat.pow_le_pow_right (by decide) (by decide)
  have less : round n < 2 ^ maxExponent := by
    rw [round_of_lt small]
    exact Nat.lt_of_lt_of_le small huge
  unfold ofNat
  rw [if_pos less, Option.map_some]
  exact congrArg some (round_of_lt small)

/-- A finite value is the rounded number. -/
theorem round_of_ofNat {n : ℕ} {value : Value} (finite : ofNat n = some value) :
    value.val = round n := by
  unfold ofNat at finite
  split_ifs at finite
  rw [← Option.some.inj finite]

/-- What rounds to little enough is finite. -/
theorem exists_ofNat {n k : ℕ} (bits : k ≤ maxExponent) (less : round n < 2 ^ k) :
    ∃ value, ofNat n = some value := by
  have huge : 2 ^ k ≤ 2 ^ maxExponent := Nat.pow_le_pow_right (by decide) bits
  exact ⟨_, if_pos (Nat.lt_of_lt_of_le less huge)⟩

/-- A value below `2 ^ k`. -/
theorem exists_ofNat_lt_iff {n k : ℕ} (bits : k ≤ maxExponent) :
    (∃ value, ofNat n = some value ∧ value.val < 2 ^ k) ↔ round n < 2 ^ k := by
  constructor
  · rintro ⟨value, finite, less⟩
    rwa [← round_of_ofNat finite]
  · intro less
    obtain ⟨value, finite⟩ := exists_ofNat bits less
    exact ⟨value, finite, (round_of_ofNat finite).trans_lt less⟩

end Library.Binary64
