import EventCanvas.Instant
import Mathlib.Order.Monotone.Basic
import Mathlib.Tactic.IntervalCases

/-!
# Times that are read back

The civil date of a clock reading is a day that the calendar has, and the stored text of a time
in universal time is read as that time again.

The years of an era begin in March.  Which of them a day falls in is computed without a table of
leap years: the formula does not decrease from one day to the next (`yearOfEra_mono`), and it is
right for the first and the last day of each of the 400 years (`years_of_era`), so it is right for
the days between them.

* `Instant.of_ofMicros?_eq_some`: what is computed from a number of microseconds is a civil time.
* `Instant.ofText?_stamp`: a civil time in universal time is read back from its stored text.
-/

namespace EventCanvas.Instant

/-! ## Years of an era -/

/-- The year of a day, both counted from the beginning of an era. -/
def yearOfEra (day : Nat) : Nat := (day - day / 1460 + day / 36524 - day / 146096) / 365

/-- The first day of a year, both counted from the beginning of an era. -/
def firstDay (year : Nat) : Nat := 365 * year + year / 4 - year / 100

/-- The last day of a year of an era.  It is a leap day if the year of the calendar that has begun
by then is a leap year. -/
def lastDay (year : Nat) : Nat := firstDay year + if isLeap (year + 1) then 365 else 364

theorem yearOfEra_mono : Monotone yearOfEra := by
  refine monotone_nat_of_le_succ fun day => Nat.div_le_div_right ?_
  have years : (day + 1) / 1460 ≤ day / 1460 + 1 ∧ day / 1460 ≤ day := by omega
  have centuries : (day + 1) / 36524 = day / 36524 ∨ (day + 1) / 36524 = day / 36524 + 1 := by
    omega
  -- An era is four centuries: what a new era takes off, its first century has added.
  rw [show 146096 = 36524 * 4 from rfl, ← Nat.div_div_eq_div_mul, ← Nat.div_div_eq_div_mul]
  generalize (day + 1) / 36524 = nextCentury at *
  generalize day / 36524 = century at *
  generalize (day + 1) / 1460 = nextYears at *
  generalize day / 1460 = years at *
  omega

theorem years_of_era : ∀ year < 400,
    yearOfEra (firstDay year) = year ∧ yearOfEra (lastDay year) = year ∧
      (if year = 399 then lastDay year = 146096 else firstDay (year + 1) = lastDay year + 1) := by
  decide +kernel

/-- The year of a day is the one between whose first and last day it stands. -/
theorem yearOfEra_spec {day : Nat} (inside : day ≤ 146096) :
    firstDay (yearOfEra day) ≤ day ∧ day ≤ lastDay (yearOfEra day) := by
  have bound : yearOfEra day < 400 := Nat.lt_of_le_of_lt (yearOfEra_mono inside) (by decide)
  constructor
  · by_contra early
    cases year : yearOfEra day with
    | zero => simp [year, firstDay] at early
    | succ past =>
      rw [year] at early bound
      obtain ⟨-, last, next⟩ := years_of_era past (by omega)
      rw [if_neg (by omega)] at next
      have le := yearOfEra_mono (show day ≤ lastDay past by omega)
      omega
  · by_contra late
    obtain ⟨-, -, next⟩ := years_of_era _ bound
    split at next
    · omega
    · next inner =>
      have first := (years_of_era (yearOfEra day + 1) (by omega)).1
      have le := yearOfEra_mono (show firstDay (yearOfEra day + 1) ≤ day by omega)
      omega

/-! ## Days of the calendar -/

/-- The calendar repeats itself after an era. -/
theorem daysIn_of_mod_eq {m n : Nat} (same : m % 400 = n % 400) : daysIn m = daysIn n := by
  have four : m % 4 = n % 4 := by omega
  have hundred : m % 100 = n % 100 := by omega
  have leap : isLeap m = isLeap n := by rw [isLeap, isLeap, same, four, hundred]
  funext month
  unfold daysIn
  rw [leap]

/-- Where years begin in March, no day of a month is beyond the days that the month has in the
calendar.  Only the length of the last month depends on the year. -/
theorem day_le_daysIn {year day shifted : Nat} (late : day ≤ if isLeap year then 365 else 364)
    (from_first : 153 * shifted ≤ 5 * day + 2) (to_last : 5 * day + 2 < 153 * (shifted + 1))
    (other : Nat) :
    day - (153 * shifted + 2) / 5 + 1 ≤
      if shifted < 10 then daysIn other (shifted + 3) else daysIn year (shifted - 9) := by
  have bound : day ≤ 365 := le_trans late (by split <;> decide)
  have months : shifted < 11 ∨ shifted = 11 := by omega
  rcases months with inner | rfl
  · interval_cases shifted <;> simp only [daysIn, Nat.reduceLT, if_true, if_false] <;> omega
  · show _ ≤ if isLeap year then 29 else 28
    cases leap : isLeap year <;>
      simp only [leap, if_true, Bool.false_eq_true, if_false] at late ⊢ <;> omega

/-- The months of an era are those of the calendar: the last two belong to its next year. -/
theorem day_le_daysIn_of_era {year day : Nat} (era : Int)
    (late : day ≤ if isLeap (year + 1) then 365 else 364) :
    let shifted := (5 * day + 2) / 153
    let month := if shifted < 10 then shifted + 3 else shifted - 9
    let calendarYear : Int := year + era * 400 + (if month ≤ 2 then 1 else 0)
    0 ≤ calendarYear → day - (153 * shifted + 2) / 5 + 1 ≤ daysIn calendarYear.toNat month := by
  intro shifted month calendarYear dated
  have from_first : 153 * shifted ≤ 5 * day + 2 := by omega
  have to_last : 5 * day + 2 < 153 * (shifted + 1) := by omega
  have kept := day_le_daysIn late from_first to_last
  by_cases early : shifted < 10
  · have inside := kept calendarYear.toNat
    rw [if_pos early] at inside
    rwa [show month = shifted + 3 from if_pos early]
  · have bound : day ≤ 365 := le_trans late (by split <;> decide)
    have winter : month = shifted - 9 := if_neg early
    have next : calendarYear = year + era * 400 + 1 := by
      rw [show calendarYear = year + era * 400 + (if month ≤ 2 then 1 else 0) from rfl,
        if_pos (by omega)]
    have same : calendarYear.toNat % 400 = (year + 1) % 400 := by omega
    have inside := kept 0
    rw [if_neg early] at inside
    rwa [winter, daysIn_of_mod_eq same]

/-- The date of a day from the year 0 on is a day that the calendar has. -/
theorem day_of_civilOfDay {days : Int} (dated : 0 ≤ (civilOfDay days).1) :
    1 ≤ (civilOfDay days).2.2 ∧
      (civilOfDay days).2.2 ≤ daysIn (civilOfDay days).1.toNat (civilOfDay days).2.1 := by
  refine ⟨Nat.le_add_left 1 _, ?_⟩
  have inside : (days + 719468 - (days + 719468).fdiv 146097 * 146097).toNat ≤ 146096 := by
    rw [Int.fdiv_eq_ediv_of_nonneg _ (by decide)]
    omega
  obtain ⟨first, last⟩ := yearOfEra_spec inside
  refine day_le_daysIn_of_era ((days + 719468).fdiv 146097) ?_ dated
  unfold lastDay at last
  exact Nat.sub_le_iff_le_add'.2 last

/-- A time that the calendar and the clock have, in a year of at most four digits. -/
structure IsCivil (t : Instant) : Prop where
  year : t.year ≤ 9999
  day : 1 ≤ t.day ∧ t.day ≤ daysIn t.year t.month
  hour : t.hour ≤ 23
  minute : t.minute ≤ 59
  second : t.second ≤ 59
  micro : t.micro < 10 ^ 6

variable {t : Instant}

theorem IsCivil.month_and_day (civil : t.IsCivil) : t.month ≤ 12 ∧ t.day ≤ 31 := by
  obtain ⟨first, last⟩ := civil.day
  unfold daysIn at last
  split at last <;> first | omega | (split at last <;> omega)

theorem of_ofMicros?_eq_some {zone : Zone} {micros : Int}
    (found : ofMicros? zone micros = some t) : t.IsCivil ∧ t.zone = zone := by
  unfold ofMicros? at found
  dsimp only at found
  split at found
  · next dated =>
    simp only [Bool.and_eq_true, decide_eq_true_eq] at dated
    rw [Int.fdiv_eq_ediv_of_nonneg micros (by decide)] at *
    cases found
    exact ⟨{
      year := by dsimp only; omega
      day := day_of_civilOfDay dated.1
      hour := by dsimp only; omega
      minute := by dsimp only; omega
      second := by dsimp only; omega
      micro := by dsimp only; omega }, rfl⟩
  · cases found

/-- A clock reading that is told in a year from 1 to 9999 is a civil time in universal time. -/
theorem isCivil_ofMillis {ms : Int} (dated : (ofMillis ms).year ≠ 0) :
    (ofMillis ms).IsCivil ∧ (ofMillis ms).zone = .universal := by
  unfold ofMillis at dated ⊢
  cases told : ofMicros? .universal (ms * 1000) with
  | none =>
    rw [told] at dated
    exact absurd rfl dated
  | some t => exact of_ofMicros?_eq_some told

/-! ## Digits -/

variable {width n : Nat}

theorem digitsValue_eq (cs : List Char) : digitsValue cs = Nat.ofDigitChars 10 cs 0 := rfl

theorem toList_padded : (padded width n).toList =
    List.replicate (width - (Nat.toDigits 10 n).length) '0' ++ Nat.toDigits 10 n :=
  String.toList_ofList

theorem isDigit_of_mem_padded {c : Char} (member : c ∈ (padded width n).toList) :
    c.isDigit = true := by
  rw [toList_padded, List.mem_append] at member
  rcases member with filled | digit
  · rw [List.eq_of_mem_replicate filled]
    rfl
  · exact Nat.isDigit_of_mem_toDigits (by decide) (by decide) digit

theorem length_padded (positive : 0 < width) (fits : n < 10 ^ width) :
    (padded width n).toList.length = width := by
  have digits := (Nat.length_toDigits_le_iff (by decide) positive).2 fits
  rw [toList_padded, List.length_append, List.length_replicate]
  omega

theorem digitsValue_padded : digitsValue (padded width n).toList = n := by
  rw [digitsValue_eq, toList_padded, Nat.ofDigitChars_append, Nat.ofDigitChars_replicate_zero,
    Nat.mul_zero, Nat.ofDigitChars_ten_toDigits]

theorem takeDigits?_padded (positive : 0 < width) (fits : n < 10 ^ width) (rest : List Char) :
    takeDigits? width ((padded width n).toList ++ rest) = some (n, rest) := by
  have length := length_padded positive fits
  have digits : (padded width n).toList.all Char.isDigit = true :=
    List.all_eq_true.2 fun _ => isDigit_of_mem_padded
  unfold takeDigits?
  rw [List.take_left' length, List.drop_left' length]
  simp [length, digits, digitsValue_padded]

theorem fractionMicros_padded (fits : n < 10 ^ 6) : fractionMicros (padded 6 n).toList = n := by
  have length := length_padded (by decide) fits
  unfold fractionMicros
  rw [length, Nat.sub_self, List.replicate_zero, List.append_nil,
    List.take_of_length_le (Nat.le_of_eq length), digitsValue_padded]

/-! ## Stored text -/

theorem date?_dateText (civil : t.IsCivil) (rest : List Char) :
    date? (t.dateText.toList ++ rest) = some ((t.year, t.month, t.day), rest) := by
  obtain ⟨month, day⟩ := civil.month_and_day
  have year := civil.year
  have text : t.dateText.toList ++ rest = (padded 4 t.year).toList ++ '-' ::
      ((padded 2 t.month).toList ++ '-' :: ((padded 2 t.day).toList ++ rest)) := by
    simp [dateText]
  rw [text, date?, takeDigits?_padded (by decide) (by omega)]
  simp only [Option.bind_eq_bind, Option.bind_some, expect?, if_true]
  rw [takeDigits?_padded (by decide) (by omega)]
  simp only [Option.bind_some, if_true]
  rw [takeDigits?_padded (by decide) (by omega)]
  simp [civil.day]

/-- The seconds and their fraction are read back up to the letter for universal time. -/
theorem seconds?_universal {second micro : Nat} (seconds : second ≤ 59) (fits : micro < 10 ^ 6) :
    seconds? (':' :: ((padded 2 second).toList ++
      ((if micro = 0 then "" else "." ++ padded 6 micro).toList ++ ['Z']))) =
      some ((second, micro), ['Z']) := by
  rw [seconds?, takeDigits?_padded (by decide) (by omega)]
  by_cases whole : micro = 0
  · simp [whole]
  · have digits : ∀ c ∈ (padded 6 micro).toList, c.isDigit = true := fun _ => isDigit_of_mem_padded
    have text : ("." ++ padded 6 micro).toList ++ ['Z'] =
        '.' :: ((padded 6 micro).toList ++ ['Z']) := by
      rw [String.toList_append]
      rfl
    have written : (padded 6 micro).toList.isEmpty = false := by
      rw [List.isEmpty_eq_false_iff, ← List.length_pos_iff, length_padded (by decide) fits]
      decide
    have taken : ((padded 6 micro).toList ++ ['Z']).takeWhile Char.isDigit =
        (padded 6 micro).toList := by
      rw [List.takeWhile_append_of_pos digits]
      exact List.append_nil _
    have left : ((padded 6 micro).toList ++ ['Z']).dropWhile Char.isDigit = ['Z'] := by
      rw [List.dropWhile_append_of_pos digits]
      rfl
    rw [if_neg whole, text]
    simp only [Option.bind_eq_bind, Option.bind_some, written, taken, left,
      fractionMicros_padded fits, Bool.false_eq_true, if_false]

/-- A time in universal time is read back from its stored text. -/
theorem ofText?_stamp (civil : t.IsCivil) (universal : t.zone.minutes? = some 0) :
    ofText? t.stamp = some { t with zone := .offset 0 } := by
  have hour := civil.hour
  have minute := civil.minute
  have text : t.stamp.toList = t.dateText.toList ++ 'T' :: ((padded 2 t.hour).toList ++ ':' ::
      ((padded 2 t.minute).toList ++ ':' :: ((padded 2 t.second).toList ++
        ((if t.micro = 0 then "" else "." ++ padded 6 t.micro).toList ++ ['Z'])))) := by
    simp [stamp, localText, clockText, universal]
  rw [ofText?, text, ofCivil?, date?_dateText civil]
  simp only [Option.bind_eq_bind, Option.bind_some]
  rw [takeDigits?_padded (by decide) (by omega)]
  simp only [Option.bind_some, expect?, if_true]
  rw [takeDigits?_padded (by decide) (by omega)]
  simp only [Option.bind_some, seconds?_universal civil.second civil.micro]
  simp [zone?, hour, minute, civil.second]

end EventCanvas.Instant
