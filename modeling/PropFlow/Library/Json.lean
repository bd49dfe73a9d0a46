import Mathlib.Data.List.Basic
import Mathlib.Order.Basic

/-!
# JSON text

The values of JSON, the text that `JSON.stringify` writes for one, and what
`JSON.parse` reads.

## Values

A `Json` is what a text says, before a program makes values of its own of it: the
fields of an object keep their order, and a number is kept as it is written
(`JsonNumber`, a literal that keeps to the grammar).  Access is that of the program:
`Json.get?` of a key that is there twice gives the last.

## Text

* `Json.stringify` writes no white space, the short escapes where there is one, and
  `\u00xx` for the other control characters;
* `Json.parse` reads one value, with white space wherever the grammar allows it.  A
  character beyond the first plane may be escaped as a pair of surrogates.  Its
  functions take fuel, of which the length of the text is enough.

A text is a list of characters here.  A lone surrogate, which `JSON.parse` would keep,
is no character, and is declined.

## The round trip

`Json.parse_stringify` says that what `stringify` writes, `parse` reads back.  It is
assembled from the same statement for one character, one literal and one value, each
with text following.  A number is read as far as its characters go, so what follows a
value must not go on with them (`Delimited`); the separators and brackets that
`stringify` writes do not.
-/

namespace Library

/-! ## Numbers -/

/-- At least one digit, and nothing else. -/
def isDigits (text : List Char) : Bool := !text.isEmpty && text.all Char.isDigit

/-- The text without a sign, where it starts with one of these. -/
def unsigned (signs : List Char) : List Char → List Char
  | c :: rest => if signs.contains c then rest else c :: rest
  | [] => []

/-- An integer without a sign, which has no leading zero. -/
def isWhole : List Char → Bool
  | ['0'] => true
  | text => isDigits text && text.head? ≠ some '0'

/-- The end of a number: an exponent, or nothing. -/
def isExponent : List Char → Bool
  | [] => true
  | e :: power => (e = 'e' || e = 'E') && isDigits (unsigned ['+', '-'] power)

/-- What follows the integer of a number: a fraction or none, and then the exponent. -/
def isFraction : List Char → Bool
  | '.' :: rest =>
      isDigits (rest.takeWhile Char.isDigit) && isExponent (rest.dropWhile Char.isDigit)
  | rest => isExponent rest

/-- The grammar of a number without its sign. -/
def isMagnitude (text : List Char) : Bool :=
  isWhole (text.takeWhile Char.isDigit) && isFraction (text.dropWhile Char.isDigit)

/-- The grammar of a number. -/
def isNumber (text : List Char) : Bool := isMagnitude (unsigned ['-'] text)

/-- A character that can stand in a number. -/
def isNumberChar (c : Char) : Bool := c.isDigit || ['-', '+', '.', 'e', 'E'].contains c

/-- A number, as it is written. -/
@[ext] structure JsonNumber where
  text : String
  wellFormed : isNumber text.toList = true

/-- A JSON value.  The fields of an object keep their order. -/
inductive Json where
  | null
  | bool (value : Bool)
  | num (number : JsonNumber)
  | str (text : String)
  | arr (elements : List Json)
  | obj (fields : List (String × Json))

namespace Json

/-! ## Access -/

/-- The property of an object under a key.  Of two with one key, `JSON.parse` keeps the
last. -/
def get? (key : String) : Json → Option Json
  | .obj fields => (fields.reverse.find? fun field => field.1 = key).map Prod.snd
  | _ => none

/-- The text of a string. -/
def asString? : Json → Option String
  | .str text => some text
  | _ => none

/-- A property that may be `null`. -/
def asNullable? {α : Type} (decode : Json → Option α) : Json → Option (Option α)
  | .null => some none
  | value => (decode value).map some

/-- What a value that may be `null` is written as. -/
def ofOption {α : Type} (encode : α → Json) : Option α → Json
  | none => .null
  | some a => encode a

/-- Only a string has a text. -/
theorem asString?_eq_some {json : Json} {text : String} :
    json.asString? = some text ↔ json = .str text := by
  cases json <;> simp [asString?]

/-- A text that may be `null`, and what it was written from. -/
theorem asNullable?_eq_some {json : Json} {text : Option String} :
    json.asNullable? asString? = some text ↔ json = ofOption str text := by
  cases json <;> cases text <;> simp [asNullable?, asString?, ofOption]

/-! ## Writing -/

/-- A digit of a number to base sixteen. -/
def hexDigit (n : ℕ) : Char :=
  if n < 10 then Char.ofNat (48 + n) else Char.ofNat (87 + n)

/-- One character of a string literal. -/
def escape (c : Char) : List Char :=
  if c = '"' then ['\\', '"']
  else if c = '\\' then ['\\', '\\']
  else if c.toNat < 32 then
    match c.toNat with
    | 8 => ['\\', 'b']
    | 9 => ['\\', 't']
    | 10 => ['\\', 'n']
    | 12 => ['\\', 'f']
    | 13 => ['\\', 'r']
    | n => ['\\', 'u', '0', '0', hexDigit (n / 16), hexDigit (n % 16)]
  else [c]

/-- A string literal, up to its closing quote. -/
def renderString (text : String) : List Char :=
  '"' :: (text.toList.flatMap escape ++ ['"'])

mutual

/-- The text of a value. -/
def render : Json → List Char
  | .null => ['n', 'u', 'l', 'l']
  | .bool true => ['t', 'r', 'u', 'e']
  | .bool false => ['f', 'a', 'l', 's', 'e']
  | .num number => number.text.toList
  | .str text => renderString text
  | .arr elements => '[' :: renderElements [] elements
  | .obj fields => '{' :: renderFields [] fields

/-- The rest of an array: the elements still to write, each after a separator. -/
def renderElements (separator : List Char) : List Json → List Char
  | [] => [']']
  | value :: rest => separator ++ value.render ++ renderElements [','] rest

/-- The rest of an object: the fields still to write, each after a separator. -/
def renderFields (separator : List Char) : List (String × Json) → List Char
  | [] => ['}']
  | (key, value) :: rest =>
      separator ++ renderString key ++ ':' :: value.render ++ renderFields [','] rest

end

/-- `JSON.stringify`. -/
def stringify (value : Json) : String := String.ofList value.render

/-! ## Reading -/

/-- JSON's white space. -/
def isSpace (c : Char) : Bool := c = ' ' ∨ c = '\t' ∨ c = '\n' ∨ c = '\r'

/-- The text after the white space that it starts with. -/
def skipSpace (text : List Char) : List Char := text.dropWhile isSpace

/-- The value of a digit to base sixteen. -/
def hexValue (c : Char) : Option ℕ :=
  if '0' ≤ c ∧ c ≤ '9' then some (c.toNat - 48)
  else if 'a' ≤ c ∧ c ≤ 'f' then some (c.toNat - 87)
  else if 'A' ≤ c ∧ c ≤ 'F' then some (c.toNat - 55)
  else none

/-- The character a one-letter escape stands for. -/
def unescape : Char → Option Char
  | '"' => some '"'
  | '\\' => some '\\'
  | '/' => some '/'
  | 'b' => some (Char.ofNat 8)
  | 't' => some (Char.ofNat 9)
  | 'n' => some (Char.ofNat 10)
  | 'f' => some (Char.ofNat 12)
  | 'r' => some (Char.ofNat 13)
  | _ => none

/-- The code of a long escape. -/
def readCode : List Char → Option (ℕ × List Char)
  | a :: b :: c :: d :: rest => do
      let a ← hexValue a
      let b ← hexValue b
      let c ← hexValue c
      let d ← hexValue d
      some (((a * 16 + b) * 16 + c) * 16 + d, rest)
  | _ => none

/-- The character of a long escape, after its `\u`.  A leading surrogate takes the next
escape with it. -/
def readEscape (text : List Char) : Option (Char × List Char) := do
  let (code, rest) ← readCode text
  if code < 0xD800 ∨ 0xDFFF < code then some (Char.ofNat code, rest)
  else if code < 0xDC00 then
    match rest with
    | '\\' :: 'u' :: rest => do
        let (low, rest) ← readCode rest
        if 0xDC00 ≤ low ∧ low ≤ 0xDFFF then
          some (Char.ofNat (0x10000 + (code - 0xD800) * 0x400 + (low - 0xDC00)), rest)
        else none
    | _ => none
  else none

/-- One character of a string literal. -/
def readChar : List Char → Option (Char × List Char)
  | '\\' :: 'u' :: rest => readEscape rest
  | '\\' :: e :: rest => (unescape e).map (·, rest)
  | ['\\'] => none
  | c :: rest => if c.toNat < 32 then none else some (c, rest)
  | [] => none

/-- A string literal after its opening quote. -/
def readString : ℕ → List Char → Option (List Char × List Char)
  | 0, _ => none
  | _ + 1, '"' :: rest => some ([], rest)
  | fuel + 1, text => do
      let (c, rest) ← readChar text
      let (cs, rest) ← readString fuel rest
      some (c :: cs, rest)

/-- Take one character, after white space. -/
def expect (c : Char) (text : List Char) : Option (List Char) :=
  match skipSpace text with
  | [] => none
  | d :: rest => if c = d then some rest else none

/-- A number, as far as its characters go. -/
def readNumber (text : List Char) : Option (JsonNumber × List Char) :=
  let literal := String.ofList (text.takeWhile isNumberChar)
  if wellFormed : isNumber literal.toList = true then
    some (⟨literal, wellFormed⟩, text.dropWhile isNumberChar)
  else none

/-- A value that is neither a string nor has parts. -/
def readLiteral : List Char → Option (Json × List Char)
  | 'n' :: 'u' :: 'l' :: 'l' :: rest => some (.null, rest)
  | 't' :: 'r' :: 'u' :: 'e' :: rest => some (.bool true, rest)
  | 'f' :: 'a' :: 'l' :: 's' :: 'e' :: rest => some (.bool false, rest)
  | text => (readNumber text).map fun (number, rest) => (.num number, rest)

mutual

/-- One value, after white space. -/
def readValue : ℕ → List Char → Option (Json × List Char)
  | 0, _ => none
  | fuel + 1, text =>
      match skipSpace text with
      | '"' :: rest => do
          let (cs, rest) ← readString rest.length rest
          some (.str (String.ofList cs), rest)
      | '[' :: rest => do
          let (elements, rest) ← readElements fuel true rest
          some (.arr elements, rest)
      | '{' :: rest => do
          let (fields, rest) ← readFields fuel true rest
          some (.obj fields, rest)
      | text => readLiteral text

/-- The rest of an array: nothing has been read of it, or some elements have. -/
def readElements : ℕ → Bool → List Char → Option (List Json × List Char)
  | 0, _, _ => none
  | fuel + 1, first, text =>
      match expect ']' text with
      | some rest => some ([], rest)
      | none => do
          let text ← if first then some text else expect ',' text
          let (value, text) ← readValue fuel text
          let (values, text) ← readElements fuel false text
          some (value :: values, text)

/-- The rest of an object: nothing has been read of it, or some fields have. -/
def readFields : ℕ → Bool → List Char → Option (List (String × Json) × List Char)
  | 0, _, _ => none
  | fuel + 1, first, text =>
      match expect '}' text with
      | some rest => some ([], rest)
      | none => do
          let text ← if first then some text else expect ',' text
          let text ← expect '"' text
          let (key, text) ← readString text.length text
          let text ← expect ':' text
          let (value, text) ← readValue fuel text
          let (fields, text) ← readFields fuel false text
          some ((String.ofList key, value) :: fields, text)

end

/-- `JSON.parse`: one value, and nothing but white space after it. -/
def parse (text : String) : Option Json :=
  match readValue (text.length + 1) text.toList with
  | some (value, rest) => if skipSpace rest = [] then some value else none
  | none => none

/-! ## The round trip -/

theorem hexValue_hexDigit : ∀ n < 16, hexValue (hexDigit n) = some n := by decide

theorem readChar_of_ne {c : Char} (ordinary : c ≠ '\\') (rest : List Char) :
    readChar (c :: rest) = if c.toNat < 32 then none else some (c, rest) := by
  rw [readChar.eq_def]
  split
  all_goals simp_all

/-- The long escape of a control character. -/
theorem readChar_control {n : ℕ} (control : n < 32) (rest : List Char) :
    readChar ('\\' :: 'u' :: '0' :: '0' :: hexDigit (n / 16) :: hexDigit (n % 16) :: rest) =
      some (Char.ofNat n, rest) := by
  have zero : hexValue '0' = some 0 := rfl
  have high := hexValue_hexDigit (n / 16) (by omega)
  have low := hexValue_hexDigit (n % 16) (by omega)
  have recover : ((0 * 16 + 0) * 16 + n / 16) * 16 + n % 16 = n := by omega
  simp only [readChar, readEscape, readCode, zero, high, low, Option.bind_eq_bind,
    Option.bind_some, recover]
  rw [if_pos (Or.inl (by omega))]

/-- A character beyond the first plane, escaped as a pair. -/
example : readChar "\\ud83d\\uDE00.".toList = some (Char.ofNat 0x1F600, ['.']) := by decide

/-- One character. -/
theorem readChar_escape (c : Char) (rest : List Char) :
    readChar (escape c ++ rest) = some (c, rest) := by
  have code_eq : ∀ {n : ℕ}, c.toNat = n → Char.ofNat n = c := by
    rintro n rfl
    exact Char.ofNat_toNat c
  unfold escape
  split_ifs with isQuote isBackslash isControl
  · subst isQuote
    rfl
  · subst isBackslash
    rfl
  · -- the five short escapes, then the long one
    split
    next code => rw [← code_eq code]; rfl
    next code => rw [← code_eq code]; rfl
    next code => rw [← code_eq code]; rfl
    next code => rw [← code_eq code]; rfl
    next code => rw [← code_eq code]; rfl
    next => exact (readChar_control isControl rest).trans (by rw [code_eq rfl])
  · exact (readChar_of_ne isBackslash rest).trans (if_neg isControl)

/-- No escape starts like the end of the literal. -/
theorem escape_eq_cons (c : Char) : ∃ d more, escape c = d :: more ∧ d ≠ '"' := by
  unfold escape
  split_ifs with isQuote
  · exact ⟨_, _, rfl, by decide⟩
  · exact ⟨_, _, rfl, by decide⟩
  · split <;> exact ⟨_, _, rfl, by decide⟩
  · exact ⟨_, _, rfl, isQuote⟩

/-- Escaping does not shorten, so the length of a literal is fuel enough to read it. -/
theorem length_le_escaped (cs : List Char) : cs.length ≤ (cs.flatMap escape).length := by
  induction cs with
  | nil => exact Nat.le_refl 0
  | cons c cs ih =>
      obtain ⟨d, more, escaped, -⟩ := escape_eq_cons c
      rw [List.flatMap_cons, escaped, List.cons_append, List.length_cons, List.length_cons,
        List.length_append]
      omega

/-- One string literal, after its opening quote. -/
theorem readString_escaped (cs rest : List Char) {fuel : ℕ} (enough : cs.length < fuel) :
    readString fuel (cs.flatMap escape ++ '"' :: rest) = some (cs, rest) := by
  induction cs generalizing fuel with
  | nil =>
      cases fuel with
      | zero => cases enough
      | succ fuel => rfl
  | cons c cs ih =>
      cases fuel with
      | zero => cases enough
      | succ fuel =>
          obtain ⟨d, more, escaped, notEnd⟩ := escape_eq_cons c
          have read := readChar_escape c (cs.flatMap escape ++ '"' :: rest)
          rw [List.flatMap_cons, List.append_assoc]
          -- the escape does not start with a quote, so the literal does not end here
          rw [escaped, List.cons_append] at read ⊢
          rw [readString.eq_3 _ _ (by simpa using notEnd), read]
          simp [ih (Nat.lt_of_succ_lt_succ enough)]

/-- One string literal, as the readers of values call it. -/
theorem readString_renderString (text : String) (rest : List Char) :
    readString (text.toList.flatMap escape ++ '"' :: rest).length
      (text.toList.flatMap escape ++ '"' :: rest) = some (text.toList, rest) := by
  apply readString_escaped
  have := length_le_escaped text.toList
  rw [List.length_append, List.length_cons]
  omega

/-! ### Numbers -/

/-- A run of digits has such characters only. -/
theorem isNumberChar_of_isDigits {text : List Char} (digits : isDigits text = true) :
    ∀ c ∈ text, isNumberChar c = true := by
  intro c member
  have all := (Bool.and_eq_true_iff.mp digits).2
  rw [isNumberChar, List.all_eq_true.mp all c member, Bool.true_or]

/-- A character of a text is its sign or behind it. -/
theorem mem_unsigned {signs text : List Char} {c : Char} (member : c ∈ text) :
    c ∈ signs ∨ c ∈ unsigned signs text := by
  cases text with
  | nil => cases member
  | cons d rest =>
      rw [unsigned]
      split_ifs with sign
      · rcases List.mem_cons.mp member with rfl | later
        · exact Or.inl (List.contains_iff_mem.mp sign)
        · exact Or.inr later
      · exact Or.inr member

/-- So a sign may be left out of account. -/
theorem isNumberChar_of_unsigned {signs text : List Char}
    (known : signs.all isNumberChar = true)
    (rest : ∀ c ∈ unsigned signs text, isNumberChar c = true) :
    ∀ c ∈ text, isNumberChar c = true :=
  fun c member => (mem_unsigned member).elim (List.all_eq_true.mp known c) (rest c)

/-- An exponent has such characters only, -/
theorem isNumberChar_of_isExponent {text : List Char} (exponent : isExponent text = true) :
    ∀ c ∈ text, isNumberChar c = true := by
  cases text with
  | nil => exact fun _ member => nomatch member
  | cons e power =>
      obtain ⟨isE, digits⟩ := Bool.and_eq_true_iff.mp exponent
      refine List.forall_mem_cons.mpr ⟨?_, ?_⟩
      · rcases Bool.or_eq_true_iff.mp isE with lower | upper
        · rw [of_decide_eq_true lower]
          rfl
        · rw [of_decide_eq_true upper]
          rfl
      · exact isNumberChar_of_unsigned rfl (isNumberChar_of_isDigits digits)

/-- A text whose leading digits and whose other characters are a number's. -/
theorem isNumberChar_of_split {text : List Char}
    (digits : ∀ c ∈ text.takeWhile Char.isDigit, isNumberChar c = true)
    (others : ∀ c ∈ text.dropWhile Char.isDigit, isNumberChar c = true) :
    ∀ c ∈ text, isNumberChar c = true := by
  intro c member
  rw [← List.takeWhile_append_dropWhile (p := Char.isDigit) (l := text)] at member
  exact (List.mem_append.mp member).elim (digits c) (others c)

/-- and so has a fraction. -/
theorem isNumberChar_of_isFraction {text : List Char} (fraction : isFraction text = true) :
    ∀ c ∈ text, isNumberChar c = true := by
  unfold isFraction at fraction
  split at fraction
  next rest =>
    obtain ⟨digits, exponent⟩ := Bool.and_eq_true_iff.mp fraction
    exact List.forall_mem_cons.mpr ⟨rfl, isNumberChar_of_split
      (isNumberChar_of_isDigits digits) (isNumberChar_of_isExponent exponent)⟩
  next => exact isNumberChar_of_isExponent fraction

/-- An integer is a run of digits. -/
theorem isDigits_of_isWhole {text : List Char} (whole : isWhole text = true) :
    isDigits text = true := by
  unfold isWhole at whole
  split at whole
  · rfl
  · exact (Bool.and_eq_true_iff.mp whole).1

/-- A number has the characters of a number only. -/
theorem isNumberChar_of_isNumber {text : List Char} (number : isNumber text = true) :
    ∀ c ∈ text, isNumberChar c = true := by
  obtain ⟨whole, fraction⟩ := Bool.and_eq_true_iff.mp number
  exact isNumberChar_of_unsigned rfl (isNumberChar_of_split
    (isNumberChar_of_isDigits (isDigits_of_isWhole whole)) (isNumberChar_of_isFraction fraction))

/-- A number is not empty. -/
theorem exists_cons_of_isNumber {text : List Char} (number : isNumber text = true) :
    ∃ c more, text = c :: more ∧ isNumberChar c = true := by
  cases text with
  | nil => cases number
  | cons c more => exact ⟨c, more, rfl, isNumberChar_of_isNumber number c List.mem_cons_self⟩

/-- What is no character of a number differs from those that are. -/
theorem ne_of_isNumberChar {c d : Char} (isChar : isNumberChar c = true)
    (other : isNumberChar d = false) : c ≠ d := by
  rintro rfl
  rw [isChar] at other
  cases other

/-- White space is no character of a number. -/
theorem isSpace_of_isNumberChar {c : Char} (isChar : isNumberChar c = true) :
    isSpace c = false := by
  simp only [isSpace, decide_eq_false_iff_not, not_or]
  exact ⟨ne_of_isNumberChar isChar rfl, ne_of_isNumberChar isChar rfl,
    ne_of_isNumberChar isChar rfl, ne_of_isNumberChar isChar rfl⟩

/-- A text that does not go on with a number. -/
def Delimited (rest : List Char) : Prop := ∀ c ∈ rest.head?, isNumberChar c = false

/-- The end of a text is an end of a number, -/
theorem delimited_nil : Delimited [] := fun _ absent => nomatch absent

/-- and so is any other character. -/
theorem delimited_cons {c : Char} (other : isNumberChar c = false) (rest : List Char) :
    Delimited (c :: rest) := by
  rintro _ ⟨⟩
  exact other

/-- One number. -/
theorem readNumber_text (number : JsonNumber) {rest : List Char} (ends : Delimited rest) :
    readNumber (number.text.toList ++ rest) = some (number, rest) := by
  have all := isNumberChar_of_isNumber number.wellFormed
  have stops : rest.takeWhile isNumberChar = [] ∧ rest.dropWhile isNumberChar = rest := by
    cases rest with
    | nil => exact ⟨rfl, rfl⟩
    | cons c rest => simp [ends c rfl]
  have taken : (number.text.toList ++ rest).takeWhile isNumberChar = number.text.toList := by
    rw [List.takeWhile_append_of_pos all, stops.1, List.append_nil]
  have left : (number.text.toList ++ rest).dropWhile isNumberChar = rest := by
    rw [List.dropWhile_append_of_pos all, stops.2]
  unfold readNumber
  simp only [taken, left, String.ofList_toList, number.wellFormed, dif_pos]

/-- No other literal starts like a number. -/
theorem readLiteral_number (number : JsonNumber) {rest : List Char} (ends : Delimited rest) :
    readLiteral (number.text.toList ++ rest) = some (.num number, rest) := by
  obtain ⟨c, more, text_eq, isChar⟩ := exists_cons_of_isNumber number.wellFormed
  have read := readNumber_text number ends
  rw [text_eq, List.cons_append] at read ⊢
  unfold readLiteral
  split
  -- no number starts with an `n`, a `t` or an `f`
  next same => rw [(List.cons.inj same).1] at isChar; cases isChar
  next same => rw [(List.cons.inj same).1] at isChar; cases isChar
  next same => rw [(List.cons.inj same).1] at isChar; cases isChar
  next => rw [read]; rfl

/-! ### Values -/

mutual

/-- The fuel a value needs. -/
def size : Json → ℕ
  | .null => 1
  | .bool _ => 1
  | .num _ => 1
  | .str _ => 1
  | .arr elements => 1 + sizeElements elements
  | .obj fields => 1 + sizeFields fields

/-- The fuel that the rest of an array needs. -/
def sizeElements : List Json → ℕ
  | [] => 1
  | value :: rest => 1 + max value.size (sizeElements rest)

/-- The fuel that the rest of an object needs. -/
def sizeFields : List (String × Json) → ℕ
  | [] => 1
  | (_, value) :: rest => 1 + max value.size (sizeFields rest)

end

/-- A value needs some. -/
theorem size_ne_zero (value : Json) : value.size ≠ 0 := by
  cases value <;> simp [size]

/-- So does the end of an array, -/
theorem sizeElements_ne_zero (elements : List Json) : sizeElements elements ≠ 0 := by
  cases elements <;> simp [sizeElements]

/-- and that of an object. -/
theorem sizeFields_ne_zero (fields : List (String × Json)) : sizeFields fields ≠ 0 := by
  cases fields <;> simp [sizeFields]

mutual

/-- The length of its text is fuel enough for a value. -/
theorem size_le_length : ∀ value : Json, value.size ≤ value.render.length
  | .null => by decide
  | .bool true => by decide
  | .bool false => by decide
  | .num number => by
      obtain ⟨c, more, text_eq, -⟩ := exists_cons_of_isNumber number.wellFormed
      rw [size, render, text_eq, List.length_cons]
      omega
  | .str text => by
      rw [size, render, renderString, List.length_cons]
      omega
  | .arr elements => by
      have := sizeElements_le_length [] elements
      rw [size, render, List.length_cons]
      omega
  | .obj fields => by
      have := sizeFields_le_length [] fields
      rw [size, render, List.length_cons]
      omega

/-- The same for the elements of an array, -/
theorem sizeElements_le_length : ∀ (separator : List Char) (elements : List Json),
    sizeElements elements ≤ (renderElements separator elements).length
  | _, [] => Nat.le_refl 1
  | separator, value :: rest => by
      have one := size_le_length value
      have others := sizeElements_le_length [','] rest
      have solid := size_ne_zero value
      have ends := sizeElements_ne_zero rest
      simp only [sizeElements, renderElements, List.length_append]
      omega

/-- and for the fields of an object. -/
theorem sizeFields_le_length : ∀ (separator : List Char) (fields : List (String × Json)),
    sizeFields fields ≤ (renderFields separator fields).length
  | _, [] => Nat.le_refl 1
  | separator, (key, value) :: rest => by
      have one := size_le_length value
      have others := sizeFields_le_length [','] rest
      simp only [sizeFields, renderFields, List.length_append, List.length_cons]
      omega

end

/-- What is not white space is not skipped. -/
theorem skipSpace_cons {c : Char} (solid : isSpace c = false) (rest : List Char) :
    skipSpace (c :: rest) = c :: rest :=
  List.dropWhile_cons_of_neg (by simp [solid])

/-- A character that is there is taken, -/
theorem expect_self {c : Char} (solid : isSpace c = false) (rest : List Char) :
    expect c (c :: rest) = some rest := by
  unfold expect
  rw [skipSpace_cons solid]
  exact if_pos rfl

/-- and another one is not. -/
theorem expect_of_ne {c d : Char} (other : c ≠ d) (solid : isSpace d = false)
    (rest : List Char) : expect c (d :: rest) = none := by
  unfold expect
  rw [skipSpace_cons solid]
  exact if_neg other

/-- What starts like none of the others is a literal. -/
theorem readValue_of_solid {c : Char} (solid : isSpace c = false) (notString : c ≠ '"')
    (notArray : c ≠ '[') (notObject : c ≠ '{') (fuel : ℕ) (rest : List Char) :
    readValue (fuel + 1) (c :: rest) = readLiteral (c :: rest) := by
  rw [readValue, skipSpace_cons solid]
  split
  next same => exact absurd (List.cons.inj same).1 notString
  next same => exact absurd (List.cons.inj same).1 notArray
  next same => exact absurd (List.cons.inj same).1 notObject
  next => rfl

/-- One number, among the values. -/
theorem readValue_number (number : JsonNumber) (fuel : ℕ) {rest : List Char}
    (ends : Delimited rest) :
    readValue (fuel + 1) (number.text.toList ++ rest) = some (.num number, rest) := by
  obtain ⟨c, more, text_eq, isChar⟩ := exists_cons_of_isNumber number.wellFormed
  have dispatched := readValue_of_solid (isSpace_of_isNumberChar isChar)
    (ne_of_isNumberChar isChar rfl) (ne_of_isNumberChar isChar rfl)
    (ne_of_isNumberChar isChar rfl) fuel (more ++ rest)
  rw [← List.cons_append, ← text_eq] at dispatched
  rw [dispatched, readLiteral_number number ends]

/-- A value in an array is followed by a comma or by the end of the array, -/
theorem delimited_renderElements (elements : List Json) (rest : List Char) :
    Delimited (renderElements [','] elements ++ rest) := by
  cases elements with
  | nil => exact delimited_cons rfl _
  | cons value others => exact delimited_cons rfl _

/-- and one in an object by a comma or by the end of the object. -/
theorem delimited_renderFields (fields : List (String × Json)) (rest : List Char) :
    Delimited (renderFields [','] fields ++ rest) := by
  cases fields with
  | nil => exact delimited_cons rfl _
  | cons field others => exact delimited_cons rfl _

/-- No value starts with white space, or like the end of an array. -/
theorem render_eq_cons (value : Json) :
    ∃ c more, value.render = c :: more ∧ isSpace c = false ∧ ']' ≠ c := by
  cases value with
  | null => exact ⟨_, _, rfl, rfl, by decide⟩
  | bool value => cases value <;> exact ⟨_, _, rfl, rfl, by decide⟩
  | num number =>
      obtain ⟨c, more, text_eq, isChar⟩ := exists_cons_of_isNumber number.wellFormed
      exact ⟨c, more, text_eq, isSpace_of_isNumberChar isChar, (ne_of_isNumberChar isChar rfl).symm⟩
  | str text => exact ⟨_, _, rfl, rfl, by decide⟩
  | arr elements => exact ⟨_, _, rfl, rfl, by decide⟩
  | obj fields => exact ⟨_, _, rfl, rfl, by decide⟩

/-- So that an array does not end where an element is. -/
theorem expect_render (value : Json) (rest : List Char) :
    expect ']' (value.render ++ rest) = none := by
  obtain ⟨c, more, text_eq, solid, other⟩ := render_eq_cons value
  rw [text_eq, List.cons_append]
  exact expect_of_ne other solid _

mutual

/-- One value, whatever follows it. -/
theorem readValue_render : ∀ (value : Json) (fuel : ℕ) (rest : List Char), value.size ≤ fuel →
    Delimited rest → readValue fuel (value.render ++ rest) = some (value, rest)
  | value, 0, _, enough, _ => absurd (Nat.le_zero.mp enough) (size_ne_zero value)
  | .null, _ + 1, _, _, _ => rfl
  | .bool true, _ + 1, _, _, _ => rfl
  | .bool false, _ + 1, _, _, _ => rfl
  | .num number, fuel + 1, _, _, ends => readValue_number number fuel ends
  | .str text, fuel + 1, rest, _, _ => by
      have read := readString_renderString text rest
      have quote := skipSpace_cons (c := '"') rfl (text.toList.flatMap escape ++ '"' :: rest)
      simp only [render, renderString, List.cons_append, List.append_assoc, List.nil_append,
        readValue, quote, read, Option.bind_eq_bind, Option.bind_some, String.ofList_toList]
  | .arr elements, fuel + 1, rest, enough, _ => by
      rw [size] at enough
      have read := readElements_render elements true fuel rest (by omega)
      have bracket := skipSpace_cons (c := '[') rfl (renderElements [] elements ++ rest)
      rw [if_pos rfl] at read
      simp only [render, List.cons_append, readValue, bracket, read, Option.bind_eq_bind,
        Option.bind_some]
  | .obj fields, fuel + 1, rest, enough, _ => by
      rw [size] at enough
      have read := readFields_render fields true fuel rest (by omega)
      have brace := skipSpace_cons (c := '{') rfl (renderFields [] fields ++ rest)
      rw [if_pos rfl] at read
      simp only [render, List.cons_append, readValue, brace, read, Option.bind_eq_bind,
        Option.bind_some]

/-- The elements of an array, up to and including its closing bracket. -/
theorem readElements_render : ∀ (elements : List Json) (first : Bool) (fuel : ℕ)
    (rest : List Char), sizeElements elements ≤ fuel →
      readElements fuel first (renderElements (if first then [] else [',']) elements ++ rest) =
        some (elements, rest)
  | elements, _, 0, _, enough => absurd (Nat.le_zero.mp enough) (sizeElements_ne_zero elements)
  | [], _, _ + 1, rest, _ => by
      have bracket := expect_self (c := ']') rfl rest
      simp only [renderElements, List.cons_append, List.nil_append, readElements, bracket]
  | value :: elements, first, fuel + 1, rest, enough => by
      unfold sizeElements at enough
      have readOne := readValue_render value fuel (renderElements [','] elements ++ rest) (by omega)
        (delimited_renderElements elements rest)
      have readRest := readElements_render elements false fuel rest (by omega)
      rw [if_neg Bool.false_ne_true] at readRest
      cases first with
      | true =>
          simp only [if_true, renderElements, List.nil_append, List.append_assoc, readElements,
            expect_render, readOne, readRest, Option.bind_eq_bind, Option.bind_some]
      | false =>
          simp only [Bool.false_eq_true, if_false, renderElements, List.cons_append,
            List.append_assoc, List.nil_append, readElements,
            expect_of_ne (c := ']') (d := ',') (by decide) rfl, expect_self (c := ',') rfl,
            readOne, readRest, Option.bind_eq_bind, Option.bind_some]

/-- The fields of an object, up to and including its closing brace. -/
theorem readFields_render : ∀ (fields : List (String × Json)) (first : Bool) (fuel : ℕ)
    (rest : List Char), sizeFields fields ≤ fuel →
      readFields fuel first (renderFields (if first then [] else [',']) fields ++ rest) =
        some (fields, rest)
  | fields, _, 0, _, enough => absurd (Nat.le_zero.mp enough) (sizeFields_ne_zero fields)
  | [], _, _ + 1, rest, _ => by
      have brace := expect_self (c := '}') rfl rest
      simp only [renderFields, List.cons_append, List.nil_append, readFields, brace]
  | (key, value) :: fields, first, fuel + 1, rest, enough => by
      unfold sizeFields at enough
      have readKey := readString_renderString key
        (':' :: (value.render ++ (renderFields [','] fields ++ rest)))
      have readOne := readValue_render value fuel (renderFields [','] fields ++ rest) (by omega)
        (delimited_renderFields fields rest)
      -- the fuel is for the fields, so one less is enough for the rest
      have readRest := readFields_render fields false fuel rest (by omega)
      rw [if_neg Bool.false_ne_true] at readRest
      have colon := expect_self (c := ':') rfl (value.render ++ (renderFields [','] fields ++ rest))
      cases first with
      | true =>
          simp only [if_true, renderFields, renderString, List.cons_append, List.append_assoc,
            List.nil_append, readFields, expect_of_ne (c := '}') (d := '"') (by decide) rfl,
            expect_self (c := '"') rfl, readKey, colon, readOne, readRest, Option.bind_eq_bind,
            Option.bind_some, String.ofList_toList]
      | false =>
          simp only [Bool.false_eq_true, if_false, renderFields, renderString, List.cons_append,
            List.append_assoc, List.nil_append, readFields,
            expect_of_ne (c := '}') (d := ',') (by decide) rfl, expect_self (c := ',') rfl,
            expect_self (c := '"') rfl, readKey, colon, readOne, readRest, Option.bind_eq_bind,
            Option.bind_some, String.ofList_toList]

end

/-- **The round trip**: what `stringify` writes, `parse` reads back. -/
theorem parse_stringify (value : Json) : parse value.stringify = some value := by
  have enough : value.size ≤ value.stringify.length + 1 := by
    unfold stringify
    rw [String.length_ofList]
    have := size_le_length value
    omega
  have read := readValue_render value (value.stringify.length + 1) [] enough delimited_nil
  rw [List.append_nil] at read
  unfold parse
  rw [show value.stringify.toList = value.render from String.toList_ofList, read]
  rfl

end Json

end Library
