import Mathlib.Data.List.Basic

/-!
# UTF-16

Strings as sequences of 16-bit code units, any sequence of them: a surrogate may stand
alone.

* `decode` reads such a sequence as text, the way the encoders of the Encoding Standard
  do, with U+FFFD for a lone surrogate;
* `encode` writes text, with a pair of surrogates for a character beyond the first plane.

`decode_encode` is one round trip: what was written is read back.  The other one,
`encode_decode`, holds where no unit is replaced.
-/

namespace Library

namespace Utf16

/-- A string as a program holds it. -/
abbrev Units := List UInt16

/-- The first half of a pair. -/
def High (unit : UInt16) : Prop := 0xD800 ≤ unit.toNat ∧ unit.toNat < 0xDC00

/-- The second half of a pair. -/
def Low (unit : UInt16) : Prop := 0xDC00 ≤ unit.toNat ∧ unit.toNat < 0xE000

instance : DecidablePred High := fun _ => inferInstanceAs (Decidable (_ ∧ _))

instance : DecidablePred Low := fun _ => inferInstanceAs (Decidable (_ ∧ _))

/-- U+FFFD. -/
def replacement : Char := '\uFFFD'

/-- A unit on its own. -/
def single (unit : UInt16) : Char :=
  if High unit ∨ Low unit then replacement else Char.ofNat unit.toNat

/-- The two halves of a pair. -/
def pair (high low : UInt16) : Char :=
  Char.ofNat (0x10000 + (high.toNat - 0xD800) * 0x400 + (low.toNat - 0xDC00))

/-- The text of a string. -/
def decode : Units → List Char
  | [] => []
  | [unit] => [single unit]
  | unit :: next :: rest =>
      if High unit ∧ Low next then pair unit next :: decode rest
      else single unit :: decode (next :: rest)

/-- The units of a character. -/
def units (c : Char) : Units :=
  if c.toNat < 0x10000 then [UInt16.ofNat c.toNat]
  else [UInt16.ofNat (0xD800 + (c.toNat - 0x10000) / 0x400),
    UInt16.ofNat (0xDC00 + (c.toNat - 0x10000) % 0x400)]

/-- A text as a string. -/
def encode (text : List Char) : Units := text.flatMap units

/-- A valid code is that of its character. -/
theorem toNat_ofNat {n : ℕ} (valid : n.isValidChar) : (Char.ofNat n).toNat = n := by
  rw [Char.ofNat, dif_pos valid]
  rfl

/-- A character is no surrogate. -/
theorem toNat_lt (c : Char) : c.toNat < 0xD800 ∨ 0xDFFF < c.toNat ∧ c.toNat < 0x110000 := c.valid

/-- A unit that is no leading surrogate is read by itself. -/
theorem decode_cons_of_not_high {unit : UInt16} (notHigh : ¬ High unit) (rest : Units) :
    decode (unit :: rest) = single unit :: decode rest := by
  cases rest with
  | nil => rfl
  | cons next rest => exact if_neg fun both => notHigh both.1

/-- One character. -/
theorem decode_units_append (c : Char) (rest : Units) :
    decode (units c ++ rest) = c :: decode rest := by
  have valid := toNat_lt c
  unfold units
  split_ifs with small
  · have unit : (UInt16.ofNat c.toNat).toNat = c.toNat := UInt16.toNat_ofNat_of_lt' small
    have notHigh : ¬ High (UInt16.ofNat c.toNat) := by
      unfold High
      omega
    have notLow : ¬ Low (UInt16.ofNat c.toNat) := by
      unfold Low
      omega
    rw [List.singleton_append, decode_cons_of_not_high notHigh, single,
      if_neg (not_or.mpr ⟨notHigh, notLow⟩), unit, Char.ofNat_toNat]
  · have first : (UInt16.ofNat (0xD800 + (c.toNat - 0x10000) / 0x400)).toNat =
        0xD800 + (c.toNat - 0x10000) / 0x400 :=
      UInt16.toNat_ofNat_of_lt' (show _ < 0x10000 by omega)
    have second : (UInt16.ofNat (0xDC00 + (c.toNat - 0x10000) % 0x400)).toNat =
        0xDC00 + (c.toNat - 0x10000) % 0x400 :=
      UInt16.toNat_ofNat_of_lt' (show _ < 0x10000 by omega)
    have both : High (UInt16.ofNat (0xD800 + (c.toNat - 0x10000) / 0x400)) ∧
        Low (UInt16.ofNat (0xDC00 + (c.toNat - 0x10000) % 0x400)) := by
      unfold High Low
      omega
    have whole : 0x10000 + (c.toNat - 0x10000) / 0x400 * 0x400 + (c.toNat - 0x10000) % 0x400 =
        c.toNat := by omega
    rw [List.cons_append, List.singleton_append, decode, if_pos both, pair, first, second,
      Nat.add_sub_cancel_left, Nat.add_sub_cancel_left, whole, Char.ofNat_toNat]

/-- What was written is read back, whatever follows. -/
theorem decode_encode_append (text : List Char) (rest : Units) :
    decode (encode text ++ rest) = text ++ decode rest := by
  unfold encode
  induction text with
  | nil => rfl
  | cons c text ih =>
      rw [List.flatMap_cons, List.append_assoc, decode_units_append, ih]
      rfl

/-- **What was written is read back.** -/
@[simp] theorem decode_encode (text : List Char) : decode (encode text) = text := by
  have whole := decode_encode_append text []
  rwa [List.append_nil, decode, List.append_nil] at whole

/-- A unit that is not replaced is written again, -/
theorem units_single {unit : UInt16} (read : single unit ≠ replacement) :
    units (single unit) = [unit] := by
  unfold single at read ⊢
  split_ifs at read ⊢ with surrogate
  · exact absurd rfl read
  · have bound := unit.toNat_lt
    have valid : unit.toNat.isValidChar := by
      unfold High Low at surrogate
      unfold Nat.isValidChar
      omega
    unfold units
    rw [toNat_ofNat valid, if_pos bound, UInt16.ofNat_toNat]

/-- and so is a pair. -/
theorem units_pair {high low : UInt16} (isHigh : High high) (isLow : Low low) :
    units (pair high low) = [high, low] := by
  obtain ⟨fromHigh, toHigh⟩ := isHigh
  obtain ⟨fromLow, toLow⟩ := isLow
  have valid :
      (0x10000 + (high.toNat - 0xD800) * 0x400 + (low.toNat - 0xDC00)).isValidChar := by
    unfold Nat.isValidChar
    omega
  have first : 0xD800 + (0x10000 + (high.toNat - 0xD800) * 0x400 + (low.toNat - 0xDC00) -
      0x10000) / 0x400 = high.toNat := by omega
  have second : 0xDC00 + (0x10000 + (high.toNat - 0xD800) * 0x400 + (low.toNat - 0xDC00) -
      0x10000) % 0x400 = low.toNat := by omega
  unfold units pair
  rw [toNat_ofNat valid, if_neg (by omega), first, second, UInt16.ofNat_toNat,
    UInt16.ofNat_toNat]

/-- A string that is read without a replacement is the text it is read as. -/
theorem encode_decode (string : Units) (whole : replacement ∉ decode string) :
    encode (decode string) = string := by
  induction string using decode.induct with
  | case1 => rfl
  | case2 unit =>
      rw [decode, List.mem_singleton] at whole
      exact (List.flatMap_singleton units (single unit)).trans (units_single (Ne.symm whole))
  | case3 unit next rest both ih =>
      rw [decode, if_pos both] at whole ⊢
      rw [encode, List.flatMap_cons, units_pair both.1 both.2]
      exact congrArg (fun tail => unit :: next :: tail) (ih (List.not_mem_of_not_mem_cons whole))
  | case4 unit next rest apart ih =>
      rw [decode, if_neg apart] at whole ⊢
      rw [encode, List.flatMap_cons, units_single (Ne.symm (List.ne_of_not_mem_cons whole))]
      exact congrArg (unit :: ·) (ih (List.not_mem_of_not_mem_cons whole))

/-- A second half that no first half stands before. -/
def lone : UInt16 := 0xDC00

/-- Text with U+FFFD in it is how other strings are read, too. -/
theorem exists_decode_of_mem {text : List Char} (replaced : replacement ∈ text) :
    ∃ string, decode string = text ∧ string ≠ encode text := by
  obtain ⟨before, after, rfl⟩ := List.append_of_mem replaced
  refine ⟨encode before ++ lone :: encode after, ?_, ?_⟩
  · rw [decode_encode_append, decode_cons_of_not_high (by decide), decode_encode]
    rfl
  · intro same
    rw [encode, encode, encode, List.flatMap_append, List.flatMap_cons,
      List.append_cancel_left_eq] at same
    exact absurd (List.head_eq_of_cons_eq same) (by decide)

end Utf16

end Library
