import PropFlow.Library.Json
import PropFlow.Library.Separated
import Mathlib.Data.List.TakeWhile
import Mathlib.Tactic.IntervalCases

/-!
# `application/x-www-form-urlencoded`

Names and values in one text: `name=value` pairs between ampersands, blanks as `+`, and
every byte of the UTF-8 form that is not a letter, a digit or one of `*-._` as two
hexadecimal digits after a percent sign.

* `serialise` — the text of some pairs;
* `parse` — the pairs of any text.  It takes so many pairs at most, skips empty ones and
  cuts each at its first `=`.  What it makes of a percent sign with no byte after it, or of
  bytes that are not UTF-8, is left to the parameter `malformed`.

`parse_serialise` is the round trip, from that of one byte (`bytes_code`), of one component
(`bytes_flatMap_encodeByte`) and of the separators, which are always escaped in a component
(`ampersand_notMem_writePair`).  `parse_plainText` reads pairs that need no escapes.
-/

namespace Library.FormUrlEncoded

open Json (hexValue)

/-! ## Components -/

/-- A digit of a percent code. -/
def hexDigit (n : ℕ) : Char := if n < 10 then Char.ofNat (48 + n) else Char.ofNat (55 + n)

/-- The byte stands for itself. -/
def Plain (byte : UInt8) : Prop :=
  byte.toNat < 128 ∧
    ((Char.ofNat byte.toNat).isAlphanum = true ∨ Char.ofNat byte.toNat ∈ ['*', '-', '.', '_'])

instance : DecidablePred Plain := fun _ => inferInstanceAs (Decidable (_ ∧ _))

/-- One byte of a component. -/
def encodeByte (byte : UInt8) : List Char :=
  if byte = 0x20 then ['+']
  else if Plain byte then [Char.ofNat byte.toNat]
  else ['%', hexDigit (byte.toNat / 16), hexDigit (byte.toNat % 16)]

/-- A component as it is written. -/
def encode (text : String) : List Char := text.toByteArray.data.toList.flatMap encodeByte

/-- The bytes that a written component stands for, if every percent sign is one of a code. -/
def bytes : List Char → Option (List UInt8)
  | [] => some []
  | c :: rest =>
      if c = '%' then
        match rest with
        | high :: low :: rest => do
            let high ← hexValue high
            let low ← hexValue low
            let others ← bytes rest
            return UInt8.ofNat (16 * high + low) :: others
        | _ => none
      else (bytes rest).map ((if c = '+' then [0x20] else String.utf8EncodeChar c) ++ ·)

/-- A component as it is read. -/
def decode (malformed : List Char → String) (component : List Char) : String :=
  ((bytes component).bind fun read => String.fromUTF8? read.toByteArray).getD (malformed component)

/-! ## Pairs -/

/-- A pair, cut at its first `=`. -/
def readPair (malformed : List Char → String) (pair : List Char) : String × String :=
  (decode malformed (pair.takeWhile (· ≠ '=')),
    decode malformed ((pair.dropWhile (· ≠ '=')).drop 1))

/-- The pairs of a text. -/
def parse (malformed : List Char → String) (maxPairs : ℕ) (text : List Char) :
    List (String × String) :=
  (((text.splitOn '&').take maxPairs).filter (· ≠ [])).map (readPair malformed)

/-- A name and its value. -/
def writePair (pair : String × String) : List Char := encode pair.1 ++ '=' :: encode pair.2

/-- The text of some pairs. -/
def serialise (pairs : List (String × String)) : List Char :=
  ['&'].intercalate (pairs.map writePair)

/-! ## The round trip -/

section Bytes

variable {byte : UInt8} {component : List Char} {malformed : List Char → String}

/-- A digit to base sixteen is read back. -/
theorem hexValue_hexDigit {n : ℕ} (digit : n < 16) : hexValue (hexDigit n) = some n := by
  interval_cases n <;> decide

/-- A byte that is written as it is means nothing else. -/
theorem plain_char (plain : Plain byte) :
    Char.ofNat byte.toNat ≠ '%' ∧ Char.ofNat byte.toNat ≠ '+' ∧ Char.ofNat byte.toNat ≠ '=' ∧
      Char.ofNat byte.toNat ≠ '&' := by
  obtain ⟨-, alphanum | sign⟩ := plain
  · refine ⟨?_, ?_, ?_, ?_⟩ <;>
    · intro same
      rw [same] at alphanum
      exact absurd alphanum (by decide)
  · simp only [List.mem_cons, List.not_mem_nil, or_false] at sign
    rcases sign with sign | sign | sign | sign <;> simp [sign]

/-- A character of ASCII is one byte. -/
theorem utf8EncodeChar_of_lt {n : ℕ} (ascii : n < 128) :
    String.utf8EncodeChar (Char.ofNat n) = [UInt8.ofNat n] := by
  have valid : n.isValidChar := Or.inl (by omega)
  have value : (Char.ofNat n).val.toNat = n := by
    rw [Char.ofNat, dif_pos valid]
    rfl
  unfold String.utf8EncodeChar
  rw [value]
  exact if_pos (by omega)

/-- A character that means itself is read as its bytes, -/
theorem bytes_cons_of_ne {c : Char} (notCode : c ≠ '%') (notBlank : c ≠ '+') (rest : List Char) :
    bytes (c :: rest) = (bytes rest).map (String.utf8EncodeChar c ++ ·) := by
  rw [bytes.eq_def]
  simp only [if_neg notCode, if_neg notBlank]

/-- a plus as a blank, -/
theorem bytes_blank (rest : List Char) : bytes ('+' :: rest) = (bytes rest).map (0x20 :: ·) := by
  rw [bytes.eq_def]
  rfl

/-- and an escape as its byte. -/
theorem bytes_code {high low : Char} {n m : ℕ} (isHigh : hexValue high = some n)
    (isLow : hexValue low = some m) (rest : List Char) :
    bytes ('%' :: high :: low :: rest) =
      (bytes rest).map (UInt8.ofNat (16 * n + m) :: ·) := by
  rw [bytes.eq_def]
  simp only [if_pos, isHigh, isLow]
  cases bytes rest <;> rfl

/-- One byte. -/
theorem bytes_encodeByte_append (byte : UInt8) (rest : List Char) :
    bytes (encodeByte byte ++ rest) = (bytes rest).map (byte :: ·) := by
  have bound := byte.toNat_lt
  unfold encodeByte
  split_ifs with blank plain
  · rw [blank, List.singleton_append, bytes_blank]
  · obtain ⟨notCode, notBlank, -⟩ := plain_char plain
    rw [List.singleton_append, bytes_cons_of_ne notCode notBlank, utf8EncodeChar_of_lt plain.1,
      UInt8.ofNat_toNat]
    rfl
  · have isHigh : hexValue (hexDigit (byte.toNat / 16)) = some (byte.toNat / 16) :=
      hexValue_hexDigit (by omega)
    have isLow : hexValue (hexDigit (byte.toNat % 16)) = some (byte.toNat % 16) :=
      hexValue_hexDigit (by omega)
    have whole : 16 * (byte.toNat / 16) + byte.toNat % 16 = byte.toNat := Nat.div_add_mod _ _
    rw [List.cons_append, List.cons_append, List.cons_append, List.nil_append,
      bytes_code isHigh isLow, whole, UInt8.ofNat_toNat]

/-- So bytes that have been written are read back. -/
theorem bytes_flatMap_encodeByte (written : List UInt8) :
    bytes (written.flatMap encodeByte) = some written := by
  induction written with
  | nil => rfl
  | cons byte written ih =>
      rw [List.flatMap_cons, bytes_encodeByte_append, ih]
      rfl

/-- A text is read back from its bytes. -/
theorem fromUTF8?_toByteArray (text : String) : String.fromUTF8? text.toByteArray = some text := by
  unfold String.fromUTF8?
  rw [dif_pos text.isValidUTF8]
  rfl

/-- **One component.** -/
@[simp] theorem decode_encode (malformed : List Char → String) (text : String) :
    decode malformed (encode text) = text := by
  unfold decode encode
  have whole : text.toByteArray.data.toList.toByteArray = text.toByteArray :=
    ByteArray.ext (by rw [List.data_toByteArray, Array.toArray_toList])
  rw [bytes_flatMap_encodeByte, Option.bind_some, whole, fromUTF8?_toByteArray, Option.getD_some]

/-- Bytes of a text without percent signs and blanks. -/
theorem bytes_eq_utf8 {chars : List Char} (plain : ∀ c ∈ chars, c ≠ '%' ∧ c ≠ '+') :
    bytes chars = some (chars.flatMap String.utf8EncodeChar) := by
  induction chars with
  | nil => rfl
  | cons c chars ih =>
      obtain ⟨notCode, notBlank⟩ := plain c List.mem_cons_self
      rw [bytes_cons_of_ne notCode notBlank,
        ih fun c member => plain c (List.mem_cons_of_mem _ member)]
      rfl

/-- A digit is no separator. -/
theorem hexDigit_ne {n : ℕ} (digit : n < 16) : hexDigit n ≠ '&' ∧ hexDigit n ≠ '=' := by
  interval_cases n <;> decide

/-- What is written has neither of the signs between components in it. -/
theorem signs_notMem_encode (text : String) : '&' ∉ encode text ∧ '=' ∉ encode text := by
  have oneByte : ∀ byte, ∀ c ∈ encodeByte byte, c ≠ '&' ∧ c ≠ '=' := by
    intro byte c member
    have bound := byte.toNat_lt
    unfold encodeByte at member
    split_ifs at member with blank plain
    · rw [List.mem_singleton.mp member]
      decide
    · obtain ⟨-, -, notEq, notAmp⟩ := plain_char plain
      rw [List.mem_singleton.mp member]
      exact ⟨notAmp, notEq⟩
    · simp only [List.mem_cons, List.not_mem_nil, or_false] at member
      rcases member with rfl | rfl | rfl
      · decide
      · exact hexDigit_ne (by omega)
      · exact hexDigit_ne (by omega)
  constructor
  · intro member
    obtain ⟨byte, -, inside⟩ := List.mem_flatMap.mp member
    exact (oneByte byte _ inside).1 rfl
  · intro member
    obtain ⟨byte, -, inside⟩ := List.mem_flatMap.mp member
    exact (oneByte byte _ inside).2 rfl

end Bytes

/-! ## Plain texts -/

/-- None of the signs is in the text. -/
def IsPlain (text : String) : Prop := (text.toList.all fun c => c ∉ ['%', '+', '&', '=']) = true

instance : DecidablePred IsPlain := fun _ => inferInstanceAs (Decidable (_ = true))

/-- A plain text has no character that means something else. -/
theorem IsPlain.ne {text : String} (plain : IsPlain text) {c : Char} (member : c ∈ text.toList) :
    c ≠ '%' ∧ c ≠ '+' ∧ c ≠ '&' ∧ c ≠ '=' := by
  have all := List.all_eq_true.mp plain c member
  simpa using all

/-- A plain text is read as it is. -/
theorem decode_of_plain (malformed : List Char → String) {text : String} (plain : IsPlain text) :
    decode malformed text.toList = text := by
  have whole : (text.toList.flatMap String.utf8EncodeChar).toByteArray = text.toByteArray :=
    String.utf8Encode_toList
  have read := bytes_eq_utf8 fun c (member : c ∈ text.toList) =>
    ⟨(plain.ne member).1, (plain.ne member).2.1⟩
  unfold decode
  rw [read, Option.bind_some, whole, fromUTF8?_toByteArray, Option.getD_some]

/-- Pairs as one would type them. -/
def plainText (pairs : List (String × String)) : List Char :=
  ['&'].intercalate (pairs.map fun pair => pair.1.toList ++ '=' :: pair.2.toList)

section Pairs

variable (malformed : List Char → String)

/-- A pair whose name has no `=` in it. -/
theorem readPair_append {name : List Char} (plain : '=' ∉ name) (value : List Char) :
    readPair malformed (name ++ '=' :: value) =
      (decode malformed name, decode malformed value) := by
  have before : ∀ c ∈ name, decide (c ≠ '=') = true := by
    intro c member
    exact decide_eq_true fun same => plain (same ▸ member)
  unfold readPair
  rw [List.takeWhile_append_of_pos before, List.dropWhile_append_of_pos before,
    List.takeWhile_cons_of_neg (by decide), List.dropWhile_cons_of_neg (by decide),
    List.append_nil]
  rfl

/-- **One pair.** -/
theorem readPair_writePair (pair : String × String) :
    readPair malformed (writePair pair) = pair := by
  unfold writePair
  rw [readPair_append malformed (signs_notMem_encode pair.1).2, decode_encode, decode_encode]

/-- No pair has the separator of pairs in it. -/
theorem ampersand_notMem_writePair (pair : String × String) : '&' ∉ writePair pair := by
  unfold writePair
  rw [List.mem_append, List.mem_cons]
  rintro (inName | sign | inValue)
  · exact (signs_notMem_encode pair.1).1 inName
  · exact absurd sign (by decide)
  · exact (signs_notMem_encode pair.2).1 inValue

/-- No pair is empty. -/
theorem writePair_ne_nil (pair : String × String) : writePair pair ≠ [] :=
  List.append_ne_nil_of_right_ne_nil _ (List.cons_ne_nil _ _)

/-- There is no pair in the empty text. -/
@[simp] theorem parse_nil (maxPairs : ℕ) : parse malformed maxPairs [] = [] := by
  unfold parse
  cases maxPairs with
  | zero => rfl
  | succ n => rw [List.splitOn_nil, List.take_succ_cons, List.take_nil]; rfl

/-- Pairs that stand between ampersands, none of them empty. -/
theorem parse_intercalate {maxPairs : ℕ} {written : List (List Char)}
    (room : written.length ≤ maxPairs) (apart : ∀ pair ∈ written, '&' ∉ pair)
    (nonempty : ∀ pair ∈ written, pair ≠ []) :
    parse malformed maxPairs (['&'].intercalate written) = written.map (readPair malformed) := by
  by_cases empty : written = []
  · rw [empty]
    exact parse_nil malformed maxPairs
  · unfold parse
    rw [List.splitOn_intercalate '&' apart empty, List.take_of_length_le room,
      List.filter_eq_self.mpr fun pair member => decide_eq_true (nonempty pair member)]

/-- **The round trip.** -/
theorem parse_serialise {maxPairs : ℕ} {pairs : List (String × String)}
    (room : pairs.length ≤ maxPairs) : parse malformed maxPairs (serialise pairs) = pairs := by
  unfold serialise
  rw [parse_intercalate malformed (by rwa [List.length_map]), List.map_map]
  · exact (List.map_congr_left fun pair _ => readPair_writePair malformed pair).trans
      (List.map_id pairs)
  · intro pair member
    obtain ⟨source, -, rfl⟩ := List.mem_map.mp member
    exact ampersand_notMem_writePair source
  · intro pair member
    obtain ⟨source, -, rfl⟩ := List.mem_map.mp member
    exact writePair_ne_nil source

/-- Plain pairs are read as they are written. -/
theorem parse_plainText {maxPairs : ℕ} {pairs : List (String × String)}
    (room : pairs.length ≤ maxPairs)
    (plain : ∀ pair ∈ pairs, IsPlain pair.1 ∧ IsPlain pair.2) :
    parse malformed maxPairs (plainText pairs) = pairs := by
  unfold plainText
  rw [parse_intercalate malformed (by rwa [List.length_map]), List.map_map]
  · refine (List.map_congr_left fun pair member => ?_).trans (List.map_id pairs)
    obtain ⟨plainName, plainValue⟩ := plain pair member
    rw [Function.comp_apply, readPair_append malformed fun sign => (plainName.ne sign).2.2.2 rfl,
      decode_of_plain malformed plainName, decode_of_plain malformed plainValue]
    rfl
  · intro written member sign
    obtain ⟨pair, isPair, rfl⟩ := List.mem_map.mp member
    obtain ⟨plainName, plainValue⟩ := plain pair isPair
    rw [List.mem_append, List.mem_cons] at sign
    rcases sign with inName | isSign | inValue
    · exact (plainName.ne inName).2.2.1 rfl
    · exact absurd isSign (by decide)
    · exact (plainValue.ne inValue).2.2.1 rfl
  · intro written member
    obtain ⟨pair, -, rfl⟩ := List.mem_map.mp member
    exact List.append_ne_nil_of_right_ne_nil _ (List.cons_ne_nil _ _)

/-- No more than `maxPairs` pairs are read. -/
theorem length_parse_le (maxPairs : ℕ) (text : List Char) :
    (parse malformed maxPairs text).length ≤ maxPairs := by
  unfold parse
  rw [List.length_map]
  exact (List.length_filter_le _ _).trans (List.length_take_le _ _)

end Pairs

end Library.FormUrlEncoded
