import AlertRelay.Time.Instant
import Mathlib.Tactic.IntervalCases

/-!
# The calendar

The date of a day number is a date of the calendar (`ofParts?_ofDayNumber`), and its day number is
the one it was made from (`dayNumber_ofDayNumber`).

Years are counted from March, so that the leap day is the last of its year. `marchStart` gives the
day a year begins; the year of a day is the one that begins on or before it while the next one does
not (`marchYear_bounds`).
-/

namespace AlertRelay

namespace Date

/-- The days from the March of year zero to the March of a year. -/
def marchStart (year : Int) : Int := 365 * year + year / 4 - year / 100 + year / 400

/-- The year, counted from March, that a day of an era lies in. -/
def yearOfEra (dayOfEra : Int) : Int :=
  (dayOfEra - dayOfEra / 1460 + dayOfEra / 36524 - dayOfEra / 146096) / 365

/-- The year, counted from March, that a day since the March of year zero lies in. -/
def marchYear (shifted : Int) : Int := yearOfEra (shifted % 146097) + shifted / 146097 * 400

variable {d e n y z shifted : Int}

/-- Later years begin later. -/
theorem marchStart_mono (le : y ≤ z) : marchStart y ≤ marchStart z := by
  unfold marchStart
  have leap : y / 4 ≤ z / 4 := Int.ediv_le_ediv (by decide) le
  have common : z / 100 - y / 100 ≤ z - y := by omega
  have fourth : y / 400 ≤ z / 400 := Int.ediv_le_ediv (by decide) le
  omega

/-- The same day of the era begins the year in every era. -/
theorem marchStart_add (year era : Int) :
    marchStart (year + era * 400) = marchStart year + era * 146097 := by
  unfold marchStart
  omega

/-- Later days of an era are in later years. -/
theorem yearOfEra_mono (le : d ≤ e) : yearOfEra d ≤ yearOfEra e := by
  unfold yearOfEra
  apply Int.ediv_le_ediv (by decide)
  have leap : e / 1460 - d / 1460 ≤ e - d := by omega
  have common : d / 36524 ≤ e / 36524 := Int.ediv_le_ediv (by decide) le
  have last : e / 146096 - d / 146096 ≤ e / 36524 - d / 36524 := by omega
  omega

/-- The first day of a year is in that year. -/
theorem yearOfEra_marchStart : ∀ y < 400, yearOfEra (marchStart (y : Nat)) = y := by
  decide +kernel

/-- The last day of a year is in that year. -/
theorem yearOfEra_marchStart_pred :
    ∀ y < 400, yearOfEra (marchStart ((y + 1 : Nat) : Int) - 1) = y := by
  decide +kernel

/-- An era has 400 years. -/
theorem yearOfEra_range (positive : 0 ≤ e) (inside : e ≤ 146096) :
    0 ≤ yearOfEra e ∧ yearOfEra e ≤ 399 := by
  unfold yearOfEra
  omega

/-- A day of an era lies between the beginning of its year and that of the next one. -/
theorem yearOfEra_bounds (positive : 0 ≤ e) (inside : e ≤ 146096) :
    marchStart (yearOfEra e) ≤ e ∧ e < marchStart (yearOfEra e + 1) := by
  obtain ⟨first, last⟩ := yearOfEra_range positive inside
  obtain ⟨y, known⟩ := Int.eq_ofNat_of_zero_le first
  rw [known] at last ⊢
  constructor
  · cases y with
    | zero => exact positive
    | succ y =>
        by_contra before
        have earlier := yearOfEra_mono (Int.le_sub_one_of_lt (Int.not_le.mp before))
        rw [known, yearOfEra_marchStart_pred y (by omega)] at earlier
        omega
  · by_contra after
    have begun := Int.not_lt.mp after
    by_cases final : y = 399
    · subst final
      change 146097 ≤ e at begun
      omega
    · have later := yearOfEra_mono begun
      have next := yearOfEra_marchStart (y + 1) (by omega)
      rw [Int.natCast_succ] at next
      rw [known, next] at later
      omega

/-- A day lies between the beginning of its year and that of the next one. -/
theorem marchYear_bounds (shifted : Int) :
    marchStart (marchYear shifted) ≤ shifted ∧ shifted < marchStart (marchYear shifted + 1) := by
  have bounds := yearOfEra_bounds (e := shifted % 146097) (by omega) (by omega)
  unfold marchYear
  rw [Int.add_right_comm, marchStart_add, marchStart_add]
  omega

/-- The month, counted from March, that a day of a year lies in. -/
def marchMonth (dayOfYear : Int) : Int := (5 * dayOfYear + 2) / 153

/-- The month of the calendar that a day of a year lies in. -/
def civilMonth (dayOfYear : Int) : Int :=
  if marchMonth dayOfYear < 10 then marchMonth dayOfYear + 3 else marchMonth dayOfYear - 9

/-- The day of the month of a day of a year. -/
def dayOfMonth (dayOfYear : Int) : Int := dayOfYear - (153 * marchMonth dayOfYear + 2) / 5 + 1

/-- The day of the year, counted from March, of a day since the March of year zero. -/
def dayOfYear (shifted : Int) : Int := shifted - marchStart (marchYear shifted)

/-- A year has 366 days at most. -/
theorem dayOfYear_range (shifted : Int) : 0 ≤ dayOfYear shifted ∧ dayOfYear shifted ≤ 365 := by
  have bounds := marchYear_bounds shifted
  unfold dayOfYear
  generalize marchYear shifted = year at bounds
  unfold marchStart at bounds ⊢
  omega

theorem dayOfYear_eq (shifted : Int) :
    shifted % 146097 - (365 * yearOfEra (shifted % 146097) + yearOfEra (shifted % 146097) / 4 -
      yearOfEra (shifted % 146097) / 100) = dayOfYear shifted := by
  have range := yearOfEra_range (e := shifted % 146097) (by omega) (by omega)
  unfold dayOfYear marchYear
  rw [marchStart_add]
  unfold marchStart
  omega

/-- The date of a day, by its year counted from March. -/
theorem ofDayNumber_eq (days : Int) : ofDayNumber days = {
    year := marchYear (days + 719468) +
      if civilMonth (dayOfYear (days + 719468)) ≤ 2 then 1 else 0
    month := (civilMonth (dayOfYear (days + 719468))).toNat
    day := (dayOfMonth (dayOfYear (days + 719468))).toNat } := by
  rw [← dayOfYear_eq]
  rfl

/-- The day number of a date, by its year counted from March. -/
theorem dayNumber_eq (date : Date) : date.dayNumber =
    marchStart (if date.month ≤ 2 then date.year - 1 else date.year) +
      ((153 * (if 2 < date.month then (date.month : Int) - 3 else date.month + 9) + 2) / 5 +
        date.day - 1) - 719468 := by
  unfold dayNumber marchStart
  dsimp only
  generalize (if date.month ≤ 2 then date.year - 1 else date.year) = year
  omega

/-- A month that was found is one of twelve. -/
theorem civilMonth_range (positive : 0 ≤ d) (inside : d ≤ 365) :
    1 ≤ civilMonth d ∧ civilMonth d ≤ 12 := by
  unfold civilMonth marchMonth
  omega

/-- January begins 306 days after the first of March. -/
theorem civilMonth_le_two (late : 306 ≤ d) (inside : d ≤ 365) : civilMonth d ≤ 2 := by
  unfold civilMonth marchMonth
  omega

/-- The first 306 days from March on are not in January or February. -/
theorem two_lt_civilMonth (positive : 0 ≤ d) (early : d ≤ 305) : ¬ civilMonth d ≤ 2 := by
  unfold civilMonth marchMonth
  omega

theorem dayOfMonth_pos (d : Int) : 1 ≤ dayOfMonth d := by
  unfold dayOfMonth marchMonth
  omega

/-- The day number of the date of a day number. -/
theorem dayNumber_ofDayNumber (days : Int) : (ofDayNumber days).dayNumber = days := by
  obtain ⟨first, last⟩ := dayOfYear_range (days + 719468)
  have whole : dayOfYear (days + 719468) = days + 719468 - marchStart (marchYear (days + 719468)) :=
    rfl
  rw [ofDayNumber_eq, dayNumber_eq]
  dsimp only
  generalize marchYear (days + 719468) = year at whole
  generalize dayOfYear (days + 719468) = d at first last whole
  obtain ⟨january, december⟩ := civilMonth_range first last
  have day := dayOfMonth_pos d
  have sameYear : (if (civilMonth d).toNat ≤ 2 then year + (if civilMonth d ≤ 2 then 1 else 0) - 1
      else year + if civilMonth d ≤ 2 then 1 else 0) = year := by
    split <;> split <;> omega
  have sameMonth : (if 2 < (civilMonth d).toNat then ((civilMonth d).toNat : Int) - 3
      else (civilMonth d).toNat + 9) = marchMonth d := by
    rw [Int.toNat_of_nonneg (by omega)]
    unfold civilMonth marchMonth at january ⊢
    split <;> omega
  rw [sameYear, sameMonth, Int.toNat_of_nonneg (by omega)]
  unfold dayOfMonth
  omega

/-- A year of 366 days, counted from March, ends with the 29th of February of a leap year. -/
theorem isLeap_of_long (long : marchStart y + 365 < marchStart (y + 1)) :
    isLeap (y + 1) = true := by
  unfold marchStart at long
  unfold isLeap
  simp only [Bool.and_eq_true, Bool.or_eq_true, beq_iff_eq, bne_iff_ne]
  omega

/-- A day that was found is one of its month. -/
theorem dayOfMonth_le (positive : 0 ≤ d) (inside : d ≤ 365)
    (leap : d = 365 → isLeap (y + 1) = true) :
    (dayOfMonth d).toNat ≤
      monthLength (y + if civilMonth d ≤ 2 then 1 else 0) (civilMonth d).toNat := by
  unfold dayOfMonth civilMonth
  have first : 0 ≤ marchMonth d := by
    unfold marchMonth
    omega
  have last : marchMonth d ≤ 11 := by
    unfold marchMonth
    omega
  have within : 153 * marchMonth d ≤ 5 * d + 2 ∧ 5 * d + 2 < 153 * (marchMonth d + 1) := by
    unfold marchMonth
    omega
  generalize marchMonth d = month at first last within
  by_cases february : month = 11
  · subst february
    by_cases long : d = 365
    · subst long
      change _ ≤ if isLeap (y + 1) then 29 else 28
      rw [leap rfl]
      decide
    · have short : 28 ≤ monthLength (y + 1) 2 := by
        change 28 ≤ if isLeap (y + 1) then 29 else 28
        split <;> decide
      change _ ≤ monthLength (y + 1) 2
      omega
  · interval_cases month
    all_goals first | contradiction | (change _ ≤ 30; omega) | (change _ ≤ 31; omega)

theorem first_day : (Date.mk minYear 1 1).dayNumber = marchStart (-262144) + 306 - 719468 := by
  decide +kernel

theorem last_day : (Date.mk maxYear 12 31).dayNumber = marchStart 262142 + 305 - 719468 := by
  decide +kernel

/-- The date of a day that the calendar reaches is a date of the calendar. -/
theorem ofParts?_ofDayNumber {days : Int} (first : (Date.mk minYear 1 1).dayNumber ≤ days)
    (last : days ≤ (Date.mk maxYear 12 31).dayNumber) :
    ofParts? (ofDayNumber days).year (ofDayNumber days).month (ofDayNumber days).day =
      some (ofDayNumber days) := by
  rw [first_day] at first
  rw [last_day] at last
  have range := dayOfYear_range (days + 719468)
  have bounds := marchYear_bounds (days + 719468)
  have whole : dayOfYear (days + 719468) = days + 719468 - marchStart (marchYear (days + 719468)) :=
    rfl
  rw [ofDayNumber_eq]
  dsimp only
  generalize marchYear (days + 719468) = year at bounds whole
  generalize dayOfYear (days + 719468) = d at range whole
  have month := civilMonth_range range.1 range.2
  have day := dayOfMonth_pos d
  have length := dayOfMonth_le (y := year) range.1 range.2 fun long =>
    isLeap_of_long (by omega)
  have notBefore : -262144 ≤ year := by
    by_contra before
    have earlier := marchStart_mono (y := year + 1) (z := -262144) (by omega)
    omega
  have notAfter : year ≤ 262142 := by
    by_contra after
    have later := marchStart_mono (y := 262143) (z := year) (by omega)
    have next : marchStart 262143 = marchStart 262142 + 365 := by decide +kernel
    omega
  -- At either end only a part of the year counted from March is reached.
  have firstYear : minYear ≤ year + if civilMonth d ≤ 2 then 1 else 0 := by
    unfold minYear
    by_cases edge : year = -262144
    · subst edge
      rw [if_pos (civilMonth_le_two (by omega) range.2)]
      decide
    · split <;> omega
  have lastYear : year + (if civilMonth d ≤ 2 then 1 else 0) ≤ maxYear := by
    unfold maxYear
    by_cases edge : year = 262142
    · subst edge
      rw [if_neg (two_lt_civilMonth range.1 (by omega))]
      decide
    · split <;> omega
  exact if_pos ⟨firstYear, lastYear, by omega, by omega, by omega, length⟩

/-- A month has 31 days at most. -/
theorem monthLength_le (year : Int) (month : Nat) : monthLength year month ≤ 31 := by
  unfold monthLength
  split
  · split <;> decide
  · split <;> decide

/-- The month and the day of a date have two digits. -/
theorem lt_hundred_of_ofParts? {year : Int} {month day : Nat} {date : Date}
    (known : ofParts? year month day = some date) : month < 100 ∧ day < 100 := by
  unfold ofParts? at known
  split at known
  · next inside =>
      have most := monthLength_le year month
      omega
  · cases known

end Date

end AlertRelay
