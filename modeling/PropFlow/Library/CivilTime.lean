import Mathlib.Tactic.IntervalCases
import Mathlib.Tactic.NormNum
import Mathlib.Tactic.Ring

/-!
# Instants and their ISO 8601 text

An **instant** is a number of milliseconds since 1970-01-01T00:00:00.000Z, in
the range a service's clock shows: from the epoch to the end of the year 9999,
where the text `YYYY-MM-DDTHH:mm:ss.sssZ` has one fixed width.

`toISOString` writes that text and `ofISOString?` reads it back; `ofISOString?`
declines every text that is not of this shape.  The main result is the round
trip `ofISOString?_toISOString`: the text determines the instant, to the
millisecond.

The calendar is the proleptic Gregorian one, counted from 1 March of the year
0, so that the leap day is the last day of its year and a date is found by
successive division: eras of 400 years, centuries, groups of four years,
years.  `daysOfCivil_civilOfDays` is the only fact about it that is needed.
-/

namespace Library

namespace CivilTime

/-- A calendar date. -/
structure Civil where
  year : ℕ
  month : ℕ
  day : ℕ
deriving DecidableEq, Repr

/-- Days from 1 March of the year 0 to the epoch. -/
def epochDay : ℕ := 719468

/-- Where a day falls inside its 400-year era: the year of the era and the day
of that (March-based) year.  The two `min`s give the last day of a century or
of a four-year group, which exists in leap years only, to the year before. -/
def yearOfEra (doe : ℕ) : ℕ × ℕ :=
  let century := min (doe / 36524) 3
  let doc := doe - century * 36524
  let quad := doc / 1461
  let doq := doc % 1461
  let yoq := min (doq / 365) 3
  (100 * century + 4 * quad + yoq, doq - yoq * 365)

/-- The month of a day of the year, counted from March. -/
def monthIndex (doy : ℕ) : ℕ := (5 * doy + 2) / 153

/-- The calendar date of day `doy` in year `yoe` of era `era`.  Months count from
March, so January and February belong to the next calendar year. -/
def civilOfParts (era yoe doy : ℕ) : Civil where
  year := 400 * era + yoe + if monthIndex doy < 10 then 0 else 1
  month := if monthIndex doy < 10 then monthIndex doy + 3 else monthIndex doy - 9
  day := doy - (153 * monthIndex doy + 2) / 5 + 1

/-- The era, year and day of a calendar date. -/
def partsOfCivil (c : Civil) : ℕ × ℕ × ℕ :=
  let y := if c.month ≤ 2 then c.year - 1 else c.year
  let mp := if c.month ≤ 2 then c.month + 9 else c.month - 3
  (y / 400, y % 400, (153 * mp + 2) / 5 + c.day - 1)

/-- The day of the era at which day `doy` of year `yoe` falls. -/
def dayOfEra (yoe doy : ℕ) : ℕ := 365 * yoe + yoe / 4 - yoe / 100 + doy

/-- The calendar date of a day, counted from 1 March of the year 0. -/
def civilOfDays (z : ℕ) : Civil :=
  civilOfParts (z / 146097) (yearOfEra (z % 146097)).1 (yearOfEra (z % 146097)).2

/-- The day of a calendar date, counted from 1 March of the year 0. -/
def daysOfCivil (c : Civil) : ℕ :=
  (partsOfCivil c).1 * 146097 + dayOfEra (partsOfCivil c).2.1 (partsOfCivil c).2.2

/-- The year and the day of the year recover the day of the era. -/
theorem dayOfEra_yearOfEra {doe : ℕ} (bound : doe < 146097) :
    (yearOfEra doe).1 < 400 ∧ (yearOfEra doe).2 ≤ 365 ∧
      dayOfEra (yearOfEra doe).1 (yearOfEra doe).2 = doe := by
  simp only [yearOfEra, dayOfEra]
  -- each division is named, with its bounds, so that `omega` sees one of them at a time
  generalize century_eq : min (doe / 36524) 3 = century
  generalize doc_eq : doe - century * 36524 = doc
  have century_le : century ≤ 3 := by omega
  have doc_le : doc ≤ 36524 ∧ doc + century * 36524 = doe := by omega
  generalize quad_eq : doc / 1461 = quad
  generalize doq_eq : doc % 1461 = doq
  have quad_le : quad ≤ 24 ∧ 1461 * quad + doq = doc ∧ doq ≤ 1460 := by omega
  generalize yoq_eq : min (doq / 365) 3 = yoq
  have yoq_le : yoq ≤ 3 ∧ yoq * 365 ≤ doq ∧ doq - yoq * 365 ≤ 365 := by omega
  have quarter : (100 * century + 4 * quad + yoq) / 4 = 25 * century + quad := by omega
  have hundredth : (100 * century + 4 * quad + yoq) / 100 = century := by omega
  rw [quarter, hundredth]
  omega

/-- The month that a day of the year is in. -/
theorem monthIndex_spec {doy : ℕ} (doy_le : doy ≤ 365) :
    monthIndex doy ≤ 11 ∧ (153 * monthIndex doy + 2) / 5 ≤ doy ∧
      doy ≤ (153 * monthIndex doy + 2) / 5 + 30 := by
  unfold monthIndex
  omega

/-- The month-and-day arithmetic inverts inside one year. -/
theorem partsOfCivil_civilOfParts (era : ℕ) {yoe doy : ℕ} (year_lt : yoe < 400)
    (doy_le : doy ≤ 365) :
    partsOfCivil (civilOfParts era yoe doy) = (era, yoe, doy) := by
  obtain ⟨index_le, start_le, -⟩ := monthIndex_spec doy_le
  simp only [partsOfCivil, civilOfParts]
  -- from March to December the calendar year is the March-based one
  by_cases early : monthIndex doy < 10
  · have month : ¬ monthIndex doy + 3 ≤ 2 := by omega
    simp only [early, if_true, month, if_false, Prod.mk.injEq, Nat.add_sub_cancel]
    omega
  · have month : monthIndex doy - 9 ≤ 2 := by omega
    have index : monthIndex doy - 9 + 9 = monthIndex doy := by omega
    simp only [early, if_false, month, if_true, Prod.mk.injEq, Nat.add_sub_cancel, index]
    omega

/-- The calendar inverts: reading the date of a day back gives the day. -/
theorem daysOfCivil_civilOfDays (z : ℕ) : daysOfCivil (civilOfDays z) = z := by
  obtain ⟨year_lt, doy_le, recover⟩ :=
    dayOfEra_yearOfEra (Nat.mod_lt z (Nat.succ_pos 146096))
  unfold daysOfCivil civilOfDays
  rw [partsOfCivil_civilOfParts _ year_lt doy_le]
  dsimp only
  rw [recover, Nat.mul_comm]
  exact Nat.div_add_mod z 146097

/-! ## Fixed-width decimal fields -/

/-- The character of a decimal digit. -/
def digitChar (d : ℕ) : Char := Char.ofNat (48 + d)

/-- The value of a decimal digit; no other character has one. -/
def digitValue? (c : Char) : Option ℕ :=
  if 48 ≤ c.toNat ∧ c.toNat ≤ 57 then some (c.toNat - 48) else none

/-- A digit is read back. -/
theorem digitValue?_digitChar {d : ℕ} (bound : d < 10) :
    digitValue? (digitChar d) = some d := by
  interval_cases d <;> rfl

/-- A number in `width` decimal digits, the most significant first. -/
def field : ℕ → ℕ → List Char
  | 0, _ => []
  | width + 1, n => field width (n / 10) ++ [digitChar (n % 10)]

/-- A field has its width. -/
@[simp] theorem length_field (width n : ℕ) : (field width n).length = width := by
  induction width generalizing n with
  | zero => rfl
  | succ width ih => simp [field, ih]

/-- Read decimal digits, the most significant first, after the value `acc`. -/
def readField? : ℕ → List Char → Option ℕ
  | acc, [] => some acc
  | acc, c :: rest => (digitValue? c).bind fun d => readField? (10 * acc + d) rest

/-- A field is read from left to right. -/
theorem readField?_append (acc : ℕ) (front back : List Char) :
    readField? acc (front ++ back) =
      (readField? acc front).bind fun n => readField? n back := by
  induction front generalizing acc with
  | nil => rfl
  | cons c rest ih =>
      rw [List.cons_append, readField?, readField?, Option.bind_assoc]
      exact congrArg _ (funext fun d => ih (10 * acc + d))

/-- A field reads back as the number written, whatever was read before it. -/
theorem readField?_field (width : ℕ) :
    ∀ {n acc : ℕ}, n < 10 ^ width →
      readField? acc (field width n) = some (10 ^ width * acc + n) := by
  induction width with
  | zero =>
      intro n acc bound
      have : n = 0 := by simpa using bound
      simp [field, readField?, this]
  | succ width ih =>
      intro n acc bound
      have quotient : n / 10 < 10 ^ width := by
        rw [pow_succ] at bound
        omega
      unfold field
      rw [readField?_append, ih quotient, Option.bind_some, readField?,
        digitValue?_digitChar (Nat.mod_lt n (by norm_num)), Option.bind_some, readField?]
      congr 1
      rw [pow_succ]
      ring_nf
      omega

/-! ## The text of an instant -/

/-- The first millisecond of the year 10000. -/
def endOfTime : ℕ := 253402300800000

/-- Milliseconds since the epoch, before the year 10000. -/
structure Instant where
  ms : ℕ
  inRange : ms < endOfTime

instance : DecidableEq Instant := fun a b =>
  decidable_of_iff (a.ms = b.ms) ⟨fun h => by cases a; cases b; cases h; rfl, congrArg _⟩

/-- 1970-01-01T00:00:00.000Z. -/
def Instant.epoch : Instant := ⟨0, by decide⟩

/-- An instant is its milliseconds. -/
@[ext] theorem Instant.ext {a b : Instant} (same : a.ms = b.ms) : a = b := by
  cases a; cases b; cases same; rfl

/-- The calendar date of an instant. -/
def Instant.date (t : Instant) : Civil := civilOfDays (t.ms / 86400000 + epochDay)

/-- The milliseconds of an instant inside its day. -/
def Instant.timeOfDay (t : Instant) : ℕ := t.ms % 86400000

/-- The time of a day is less than a day. -/
theorem Instant.timeOfDay_lt (t : Instant) : t.timeOfDay < 86400000 :=
  Nat.mod_lt _ (Nat.succ_pos _)

/-- The characters of `YYYY-MM-DD`. -/
def dateChars (c : Civil) : List Char :=
  field 4 c.year ++ '-' :: (field 2 c.month ++ '-' :: field 2 c.day)

/-- The characters of `HH:mm:ss.sss`. -/
def timeChars (time : ℕ) : List Char :=
  field 2 (time / 3600000) ++ ':' :: (field 2 (time / 60000 % 60) ++ ':' ::
    (field 2 (time / 1000 % 60) ++ '.' :: field 3 (time % 1000)))

/-- The characters of `YYYY-MM-DDTHH:mm:ss.sssZ`. -/
def isoChars (t : Instant) : List Char :=
  dateChars t.date ++ 'T' :: (timeChars t.timeOfDay ++ ['Z'])

/-- The ISO 8601 text of an instant. -/
def toISOString (t : Instant) : String := String.ofList (isoChars t)

/-- Take a field of `width` digits off the front. -/
def takeField? (width : ℕ) (text : List Char) : Option (ℕ × List Char) :=
  if width ≤ text.length then
    (readField? 0 (text.take width)).map fun n => (n, text.drop width)
  else none

/-- Take a fixed character off the front. -/
def takeChar? (c : Char) : List Char → Option (List Char)
  | [] => none
  | d :: rest => if d = c then some rest else none

/-- The instant of a date and a time of day, when it is in range. -/
def instantOf? (c : Civil) (time : ℕ) : Option Instant :=
  if epochDay ≤ daysOfCivil c then
    let ms := (daysOfCivil c - epochDay) * 86400000 + time
    if inRange : ms < endOfTime then some ⟨ms, inRange⟩ else none
  else none

/-- Take `YYYY-MM-DD` off the front. -/
def takeDate? (text : List Char) : Option (Civil × List Char) := do
  let year ← takeField? 4 text
  let text ← takeChar? '-' year.2
  let month ← takeField? 2 text
  let text ← takeChar? '-' month.2
  let day ← takeField? 2 text
  if 1 ≤ month.1 ∧ month.1 ≤ 12 ∧ 1 ≤ day.1 ∧ day.1 ≤ 31 then
    some (⟨year.1, month.1, day.1⟩, day.2)
  else none

/-- Take `HH:mm:ss.sss` off the front, as milliseconds of the day. -/
def takeTime? (text : List Char) : Option (ℕ × List Char) := do
  let hour ← takeField? 2 text
  let text ← takeChar? ':' hour.2
  let minute ← takeField? 2 text
  let text ← takeChar? ':' minute.2
  let second ← takeField? 2 text
  let text ← takeChar? '.' second.2
  let milli ← takeField? 3 text
  if hour.1 ≤ 23 ∧ minute.1 ≤ 59 ∧ second.1 ≤ 59 then
    some (hour.1 * 3600000 + minute.1 * 60000 + second.1 * 1000 + milli.1, milli.2)
  else none

/-- Read the characters of `YYYY-MM-DDTHH:mm:ss.sssZ`, and nothing else. -/
def ofISOChars? (text : List Char) : Option Instant := do
  let date ← takeDate? text
  let text ← takeChar? 'T' date.2
  let time ← takeTime? text
  if time.2 = ['Z'] then instantOf? date.1 time.1 else none

/-- The instant a text denotes, if it is the text of one. -/
def ofISOString? (text : String) : Option Instant := ofISOChars? text.toList

/-- A number is read back from its field, -/
theorem takeField?_field {width n : ℕ} (bound : n < 10 ^ width) (rest : List Char) :
    takeField? width (field width n ++ rest) = some (n, rest) := by
  unfold takeField?
  rw [if_pos (by simp), List.take_left' (length_field width n),
    List.drop_left' (length_field width n), readField?_field width bound]
  simp

/-- a separator from its place, -/
@[simp] theorem takeChar?_cons (c : Char) (rest : List Char) :
    takeChar? c (c :: rest) = some rest := by
  simp [takeChar?]

/-- The date of an instant fits the fields of the text. -/
theorem Instant.date_bounds (t : Instant) :
    t.date.year < 10 ^ 4 ∧ 1 ≤ t.date.month ∧ t.date.month ≤ 12 ∧
      1 ≤ t.date.day ∧ t.date.day ≤ 31 := by
  have days_lt : t.ms / 86400000 + epochDay < 3652365 := by
    have := t.inRange
    simp only [endOfTime, epochDay] at *
    omega
  unfold Instant.date civilOfDays
  generalize t.ms / 86400000 + epochDay = z at days_lt
  obtain ⟨year_lt, doy_le, recover⟩ :=
    dayOfEra_yearOfEra (Nat.mod_lt z (Nat.succ_pos 146096))
  generalize (yearOfEra (z % 146097)).1 = yoe at *
  generalize (yearOfEra (z % 146097)).2 = doy at *
  obtain ⟨index_le, start_le, end_le⟩ := monthIndex_spec doy_le
  have split := Nat.div_add_mod z 146097
  simp only [dayOfEra] at recover
  simp only [civilOfParts]
  refine ⟨?_, ?_, ?_, by omega, by omega⟩
  · -- the last March-based year ends in December 9999
    unfold monthIndex
    split <;> omega
  · split <;> omega
  · split <;> omega

/-- An instant is its date and its time of day. -/
theorem instantOf?_date (t : Instant) : instantOf? t.date t.timeOfDay = some t := by
  unfold instantOf? Instant.date
  rw [daysOfCivil_civilOfDays, if_pos (Nat.le_add_left _ _), Nat.add_sub_cancel,
    Instant.timeOfDay]
  have whole : t.ms / 86400000 * 86400000 + t.ms % 86400000 = t.ms := by omega
  simp only [whole, t.inRange, dif_pos]

/-- a date from its ten characters, -/
theorem takeDate?_dateChars {c : Civil} (year_lt : c.year < 10 ^ 4) (month_pos : 1 ≤ c.month)
    (month_le : c.month ≤ 12) (day_pos : 1 ≤ c.day) (day_le : c.day ≤ 31)
    (rest : List Char) : takeDate? (dateChars c ++ rest) = some (c, rest) := by
  have month_lt : c.month < 10 ^ 2 := by omega
  have day_lt : c.day < 10 ^ 2 := by omega
  unfold dateChars takeDate?
  simp only [List.append_assoc, List.cons_append, takeField?_field year_lt,
    takeField?_field month_lt, takeField?_field day_lt, takeChar?_cons,
    Option.bind_eq_bind, Option.bind_some]
  rw [if_pos ⟨month_pos, month_le, day_pos, day_le⟩]

/-- and a time from its twelve. -/
theorem takeTime?_timeChars {time : ℕ} (bound : time < 86400000) (rest : List Char) :
    takeTime? (timeChars time ++ rest) = some (time, rest) := by
  have hour_le : time / 3600000 ≤ 23 := by omega
  have minute_le : time / 60000 % 60 ≤ 59 := by omega
  have second_le : time / 1000 % 60 ≤ 59 := by omega
  have milli_lt : time % 1000 < 10 ^ 3 := Nat.mod_lt _ (by norm_num)
  have whole : time / 3600000 * 3600000 + time / 60000 % 60 * 60000 +
      time / 1000 % 60 * 1000 + time % 1000 = time := by omega
  unfold timeChars takeTime?
  simp only [List.append_assoc, List.cons_append,
    takeField?_field (show time / 3600000 < 10 ^ 2 by omega),
    takeField?_field (show time / 60000 % 60 < 10 ^ 2 by omega),
    takeField?_field (show time / 1000 % 60 < 10 ^ 2 by omega),
    takeField?_field milli_lt, takeChar?_cons, Option.bind_eq_bind, Option.bind_some]
  rw [if_pos ⟨hour_le, minute_le, second_le⟩, whole]

/-- **The ISO text determines the instant**, to the millisecond. -/
theorem ofISOString?_toISOString (t : Instant) :
    ofISOString? (toISOString t) = some t := by
  obtain ⟨year_lt, month_pos, month_le, day_pos, day_le⟩ := t.date_bounds
  unfold ofISOString? toISOString
  rw [String.toList_ofList, isoChars, ofISOChars?,
    takeDate?_dateChars year_lt month_pos month_le day_pos day_le]
  -- rewriting keeps the arithmetic of `instantOf?` folded, which `simp` would open
  rw [Option.bind_eq_bind, Option.bind_some]
  dsimp only
  rw [takeChar?_cons, Option.bind_eq_bind, Option.bind_some, takeTime?_timeChars t.timeOfDay_lt,
    Option.bind_eq_bind, Option.bind_some]
  dsimp only
  rw [if_pos rfl]
  exact instantOf?_date t

example : toISOString ⟨1784714400000, by decide⟩ = "2026-07-22T10:00:00.000Z" := by decide

end CivilTime

end Library
