import TaskAutomation.Time.Calendar
import Mathlib.Tactic.IntervalCases

/-!
This file proves that the days of the calendar and the numbers of days since 1970 stand for each
other, one to one. In between there is the place of a day: the eras, centuries, spells of four years
and years that have gone by before it, and the days of its own year, where all years begin in March.
The days of a year of the calendar lie between its first day and that of the next year.
-/

namespace TaskAutomation.Date

/-- Where a day lies among eras of 400 years: how many eras, then centuries of the era, spells of
four years of the century and years of the spell have gone by before it, and then how many days of
its own year. -/
structure Place where
  era : Int
  century : Int
  spell : Int
  year : Int
  day : Int

namespace Place

/-- No period has more parts than there are. A year has a leap day if it is the last of its spell,
but of the last spells of centuries only the last one of the era has such a year. -/
structure Fits (place : Place) : Prop where
  century : 0 ≤ place.century ∧ place.century ≤ 3
  spell : 0 ≤ place.spell ∧ place.spell ≤ 24
  year : 0 ≤ place.year ∧ place.year ≤ 3
  day_nonneg : 0 ≤ place.day
  day_le : place.day ≤ 364 ∨
    place.day = 365 ∧ place.year = 3 ∧ (place.spell ≤ 23 ∨ place.century = 3)

/-- The years of the era before the place. -/
def yearOfEra (place : Place) : Int := 100 * place.century + 4 * place.spell + place.year

/-- The days of the era before the place. -/
def dayOfEra (place : Place) : Int :=
  36524 * place.century + 1461 * place.spell + 365 * place.year + place.day

/-- The months before the place in a year that begins in March. -/
def month (place : Place) : Int := (5 * place.day + 2) / 153

/-- The number of days from 1970-01-01 to the place. -/
def days (place : Place) : Int := place.era * daysPerEra + place.dayOfEra - epochOffset

/-- The date at the place. January and February belong to the next year of the calendar. -/
def date (place : Place) : Date :=
  let month := if place.month < 10 then place.month + 3 else place.month - 9
  let year := place.yearOfEra + place.era * 400
  ⟨if month ≤ 2 then year + 1 else year, month.toNat,
    (place.day - (153 * place.month + 2) / 5 + 1).toNat⟩

variable {place : Place}

/-! ### Periods -/

theorem exists_of_days (days : Int) : ∃ place : Place, place.Fits ∧ place.days = days := by
  have least := Int.emod_nonneg (days + epochOffset) (show daysPerEra ≠ 0 by decide)
  have most := Int.emod_lt_of_pos (days + epochOffset) (show 0 < daysPerEra by decide)
  have split := Int.ediv_mul_add_emod (days + epochOffset) daysPerEra
  generalize (days + epochOffset) / daysPerEra = era at split
  generalize (days + epochOffset) % daysPerEra = day at least most split
  simp only [daysPerEra, epochOffset] at most split
  -- The last day of an era is a leap day beyond four centuries of the usual length, and the last day
  -- of a spell is one beyond four years.
  obtain ⟨century, dayOfCentury, first⟩ : ∃ century dayOfCentury : Int,
      day = 36524 * century + dayOfCentury ∧ 0 ≤ century ∧ century ≤ 3 ∧ 0 ≤ dayOfCentury ∧
        (dayOfCentury < 36524 ∨ dayOfCentury = 36524 ∧ century = 3) :=
    ⟨min (day / 36524) 3, day - 36524 * min (day / 36524) 3, by omega⟩
  obtain ⟨spell, dayOfSpell, second⟩ : ∃ spell dayOfSpell : Int,
      dayOfCentury = 1461 * spell + dayOfSpell ∧ 0 ≤ dayOfSpell ∧ dayOfSpell < 1461 :=
    ⟨dayOfCentury / 1461, dayOfCentury % 1461, by omega⟩
  obtain ⟨year, dayOfYear, third⟩ : ∃ year dayOfYear : Int,
      dayOfSpell = 365 * year + dayOfYear ∧ 0 ≤ year ∧ year ≤ 3 ∧ 0 ≤ dayOfYear ∧
        (dayOfYear < 365 ∨ dayOfYear = 365 ∧ year = 3) :=
    ⟨min (dayOfSpell / 365) 3, dayOfSpell - 365 * min (dayOfSpell / 365) 3, by omega⟩
  refine ⟨⟨era, century, spell, year, dayOfYear⟩, ?_, ?_⟩
  · constructor <;> dsimp only <;> omega
  · simp only [Place.days, dayOfEra, daysPerEra, epochOffset]
    omega

theorem dayOfEra_bounds (fits : place.Fits) :
    0 ≤ place.dayOfEra ∧ place.dayOfEra < daysPerEra := by
  obtain ⟨century, spell, year, day_nonneg, day_le⟩ := fits
  simp only [dayOfEra, daysPerEra]
  omega

theorem yearOfEra_bounds (fits : place.Fits) : 0 ≤ place.yearOfEra ∧ place.yearOfEra < 400 := by
  obtain ⟨century, spell, year, -, -⟩ := fits
  simp only [yearOfEra]
  omega

/-- The days before a year of the era, counted as years of 365 days and their leap days. -/
theorem daysBeforeYear (fits : place.Fits) :
    365 * place.yearOfEra + place.yearOfEra / 4 - place.yearOfEra / 100 =
      place.dayOfEra - place.day := by
  obtain ⟨century, spell, year, -, -⟩ := fits
  have fourths : place.yearOfEra / 4 = 25 * place.century + place.spell := by
    unfold yearOfEra
    omega
  have hundredths : place.yearOfEra / 100 = place.century := by
    unfold yearOfEra
    omega
  rw [fourths, hundredths]
  unfold yearOfEra dayOfEra
  omega

/-- The year of a day in its era is found by taking the leap days off. -/
theorem yearOfEra_eq (fits : place.Fits) :
    (place.dayOfEra - place.dayOfEra / 1460 + place.dayOfEra / 36524 -
      place.dayOfEra / 146096) / 365 = place.yearOfEra := by
  have bounds := dayOfEra_bounds fits
  obtain ⟨century, spell, year, day_nonneg, day_le⟩ := fits
  have parts : place.dayOfEra =
    36524 * place.century + 1461 * place.spell + 365 * place.year + place.day := rfl
  unfold yearOfEra
  generalize place.dayOfEra = dayOfEra at *
  by_cases last : dayOfEra = 146096
  · obtain ⟨fourth, final, leap⟩ :
        place.century = 3 ∧ place.spell = 24 ∧ place.year = 3 := by omega
    rw [last, fourth, final, leap]
    rfl
  · have centuries : dayOfEra / 36524 = place.century := by
      rw [Int.ediv_eq_iff_of_pos (by decide)]
      omega
    have eras : dayOfEra / 146096 = 0 := by
      rw [Int.ediv_eq_iff_of_pos (by decide)]
      simp only [daysPerEra] at bounds
      omega
    -- Four years of 365 days take in the next leap day too late, at the end of the spell only.
    have spells : dayOfEra / 1460 = 25 * place.century + place.spell ∨
        dayOfEra / 1460 = 25 * place.century + place.spell + 1 ∧ place.year = 3 ∧
          268 < place.day := by
      rw [Int.ediv_eq_iff_of_pos (by decide), Int.ediv_eq_iff_of_pos (by decide)]
      omega
    rw [centuries, eras, Int.ediv_eq_iff_of_pos (by decide)]
    omega

theorem ofDays_days (fits : place.Fits) : ofDays place.days = place.date := by
  have bounds := dayOfEra_bounds fits
  have shifted : place.days + epochOffset = place.dayOfEra + place.era * daysPerEra := by
    unfold days
    omega
  have era : (place.days + epochOffset) / daysPerEra = place.era := by
    rw [shifted, Int.add_mul_ediv_right _ _ (by decide), Int.ediv_eq_zero_of_lt bounds.1 bounds.2,
      Int.zero_add]
  have dayOfEra : (place.days + epochOffset) % daysPerEra = place.dayOfEra := by
    rw [shifted, Int.add_mul_emod_self_right, Int.emod_eq_of_lt bounds.1 bounds.2]
  simp only [ofDays, era, dayOfEra, yearOfEra_eq fits, daysBeforeYear fits, Int.sub_sub_self]
  rfl

/-! ### Months -/

theorem month_bounds (fits : place.Fits) : 0 ≤ place.month ∧ place.month ≤ 11 := by
  obtain ⟨-, -, -, day_nonneg, day_le⟩ := fits
  unfold month
  omega

theorem month_date (fits : place.Fits) :
    (place.date.month : Int) = if place.month < 10 then place.month + 3 else place.month - 9 := by
  have bounds := month_bounds fits
  simp only [date]
  split <;> omega

theorem year_date (fits : place.Fits) :
    place.date.year = place.yearOfEra + place.era * 400 + if place.month < 10 then 0 else 1 := by
  have bounds := month_bounds fits
  simp only [date]
  split_ifs <;> omega

/-- The days of the month begin with the first one. -/
theorem day_date (place : Place) :
    (place.date.day : Int) = place.day - (153 * place.month + 2) / 5 + 1 := by
  simp only [date, month]
  omega

theorem toDays_date (fits : place.Fits) : place.date.toDays = place.days := by
  have bounds := month_bounds fits
  have years := yearOfEra_bounds fits
  have month := month_date fits
  have year := year_date fits
  have marchYear : (if place.date.month ≤ 2 then place.date.year - 1 else place.date.year) =
      place.yearOfEra + place.era * 400 := by
    rw [year]
    split_ifs at month ⊢ <;> omega
  have marchMonth : (((place.date.month + 9) % 12 : Nat) : Int) = place.month := by
    split_ifs at month <;> omega
  have era : (place.yearOfEra + place.era * 400) / 400 = place.era := by omega
  have yearOfEra : (place.yearOfEra + place.era * 400) % 400 = place.yearOfEra := by omega
  have before := daysBeforeYear fits
  simp only [toDays, marchYear, marchMonth, era, yearOfEra, day_date, days]
  omega

/-- The places of an era at which there is a leap day are in its leap years. -/
theorem isLeapYear_iff (fits : place.Fits) :
    isLeapYear (place.yearOfEra + place.era * 400 + 1) = true ↔
      place.year = 3 ∧ (place.spell ≤ 23 ∨ place.century = 3) := by
  obtain ⟨century, spell, year, -, -⟩ := fits
  simp only [isLeapYear, Bool.and_eq_true, Bool.or_eq_true, decide_eq_true_eq]
  unfold yearOfEra
  omega

/-- The months of a year that begins in March have 31 and 30 days in turn, and the turn begins again
in August and in January. -/
theorem daysInMonth_date (fits : place.Fits) :
    daysInMonth place.date.year place.date.month =
      if place.month = 11 then
        if place.year = 3 ∧ (place.spell ≤ 23 ∨ place.century = 3) then 29 else 28
      else if place.month = 1 ∨ place.month = 3 ∨ place.month = 6 ∨ place.month = 8 then 30
      else 31 := by
  have bounds := month_bounds fits
  have month := month_date fits
  have year := year_date fits
  unfold daysInMonth
  by_cases february : place.month = 11
  · rw [if_neg (by omega)] at month year
    rw [if_pos (by omega), if_pos february, year]
    exact if_congr (isLeapYear_iff fits) rfl rfl
  · rw [if_neg (by split_ifs at month <;> omega), if_neg february]
    refine if_congr ?_ rfl rfl
    split_ifs at month <;> omega

theorem isValid_date (fits : place.Fits) : place.date.isValid = true := by
  have bounds := month_bounds fits
  have length := daysInMonth_date fits
  have month := month_date fits
  have day := day_date place
  have start : place.month = (5 * place.day + 2) / 153 := rfl
  obtain ⟨-, -, -, day_nonneg, day_le⟩ := fits
  simp only [isValid, Bool.and_eq_true, decide_eq_true_eq, length]
  generalize place.month = m at *
  generalize place.date = date at *
  split_ifs at month ⊢ <;> omega

end Place

/-! ### The place of a date -/

/-- The months before the date in a year that begins in March. -/
def marchMonth (date : Date) : Int := ((date.month + 9) % 12 : Nat)

/-- The year of the date, if it begins in March. -/
def marchYear (date : Date) : Int := if date.month ≤ 2 then date.year - 1 else date.year

/-- The days before the date in a year that begins in March. -/
def marchDay (date : Date) : Int := (153 * date.marchMonth + 2) / 5 + date.day - 1

/-- The place of a date. -/
def place (date : Date) : Place :=
  ⟨date.marchYear / 400, date.marchYear % 400 / 100, date.marchYear % 100 / 4, date.marchYear % 4,
    date.marchDay⟩

variable {date other : Date}

theorem isValid_iff :
    date.isValid = true ↔ (1 ≤ date.month ∧ date.month ≤ 12) ∧ 1 ≤ date.day ∧
      date.day ≤ daysInMonth date.year date.month := by
  simp only [isValid, Bool.and_eq_true, decide_eq_true_eq]
  exact ⟨fun ⟨⟨months, first⟩, last⟩ => ⟨months, first, last⟩,
    fun ⟨months, first, last⟩ => ⟨⟨months, first⟩, last⟩⟩

/-- A day lies in the month that it is counted from. -/
theorem month_place (valid : date.isValid = true) : date.place.month = date.marchMonth := by
  obtain ⟨⟨january, december⟩, first, last⟩ := isValid_iff.mp valid
  unfold daysInMonth at last
  have start : date.marchMonth = ((date.month + 9) % 12 : Nat) := rfl
  show (5 * ((153 * date.marchMonth + 2) / 5 + date.day - 1) + 2) / 153 = _
  generalize date.marchMonth = month at *
  generalize date.month = calendarMonth at *
  generalize date.day = day at *
  split_ifs at last <;> interval_cases calendarMonth <;> omega

/-- Only the last day of February can be the last one of a leap year. -/
theorem marchDay_le (valid : date.isValid = true) :
    date.marchDay ≤ 364 ∨ date.marchDay = 365 ∧ date.marchYear % 4 = 3 ∧
      (date.marchYear % 100 / 4 ≤ 23 ∨ date.marchYear % 400 / 100 = 3) := by
  obtain ⟨⟨january, december⟩, first, last⟩ := isValid_iff.mp valid
  unfold daysInMonth at last
  unfold marchDay marchYear marchMonth
  by_cases february : date.month = 2
  · rw [if_pos february] at last
    rw [february, if_pos (Nat.le_refl 2)]
    split at last
    · next leap =>
      simp only [isLeapYear, Bool.and_eq_true, Bool.or_eq_true, decide_eq_true_eq] at leap
      omega
    · omega
  · rw [if_neg february] at last
    split at last <;> omega

theorem fits_place (valid : date.isValid = true) : date.place.Fits := by
  have last := marchDay_le valid
  obtain ⟨-, first, -⟩ := isValid_iff.mp valid
  refine ⟨?_, ?_, ?_, ?_, last⟩ <;> dsimp only [place]
  · omega
  · omega
  · omega
  · unfold marchDay marchMonth
    omega

theorem date_place (valid : date.isValid = true) : date.place.date = date := by
  have month := month_place valid
  obtain ⟨⟨january, december⟩, first, -⟩ := isValid_iff.mp valid
  have years : date.place.yearOfEra + date.place.era * 400 = date.marchYear := by
    dsimp only [Place.yearOfEra, place]
    omega
  have months : (if date.marchMonth < 10 then date.marchMonth + 3 else date.marchMonth - 9) =
      (date.month : Int) := by
    unfold marchMonth
    split <;> omega
  simp only [Place.date, month, years, months]
  obtain ⟨calendarYear, calendarMonth, day⟩ := date
  simp only [marchYear, place, marchDay, Date.mk.injEq] at *
  refine ⟨?_, ?_, ?_⟩
  · split_ifs <;> omega
  · omega
  · omega

/-! ### Days and dates -/

/-- The date of a day has the number of the day. -/
theorem toDays_ofDays (days : Int) : (ofDays days).toDays = days := by
  obtain ⟨place, fits, rfl⟩ := Place.exists_of_days days
  rw [Place.ofDays_days fits, Place.toDays_date fits]

/-- Every day has a date of the calendar. -/
theorem isValid_ofDays (days : Int) : (ofDays days).isValid = true := by
  obtain ⟨place, fits, rfl⟩ := Place.exists_of_days days
  rw [Place.ofDays_days fits]
  exact Place.isValid_date fits

/-- A date of the calendar is found again by its number. -/
theorem ofDays_toDays (valid : date.isValid = true) : ofDays date.toDays = date := by
  have fits := fits_place valid
  rw [← date_place valid, Place.toDays_date fits, Place.ofDays_days fits]

theorem toDays_inj (valid : date.isValid = true) (sound : other.isValid = true)
    (same : date.toDays = other.toDays) : date = other := by
  rw [← ofDays_toDays valid, same, ofDays_toDays sound]

/-! ### Years of the calendar -/

/-- The days from 1970-01-01 to the first day of a year. -/
def firstDay (year : Int) : Int :=
  365 * (year - 1) + (year - 1) / 4 - (year - 1) / 100 + (year - 1) / 400 - 719162

theorem firstDay_mono {year later : Int} (le : year ≤ later) : firstDay year ≤ firstDay later := by
  unfold firstDay
  omega

theorem toDays_eq (date : Date) : date.toDays =
    365 * date.marchYear + date.marchYear / 4 - date.marchYear / 100 + date.marchYear / 400 +
      date.marchDay - epochOffset := by
  show date.marchYear / 400 * daysPerEra + (date.marchYear % 400 * 365 +
    date.marchYear % 400 / 4 - date.marchYear % 400 / 100 + date.marchDay) - epochOffset = _
  unfold daysPerEra
  omega

/-- A day lies between the first day of its year and that of the next one. -/
theorem toDays_within_year (valid : date.isValid = true) :
    firstDay date.year ≤ date.toDays ∧ date.toDays < firstDay (date.year + 1) := by
  have last := marchDay_le valid
  obtain ⟨⟨january, december⟩, first, length⟩ := isValid_iff.mp valid
  rw [toDays_eq]
  unfold firstDay epochOffset
  by_cases spring : date.month ≤ 2
  · have year : date.marchYear = date.year - 1 := if_pos spring
    have start : 306 ≤ date.marchDay := by
      unfold marchDay marchMonth
      omega
    rw [year] at last ⊢
    omega
  · have year : date.marchYear = date.year := if_neg spring
    have days : 0 ≤ date.marchDay ∧ date.marchDay ≤ 305 := by
      unfold daysInMonth at length
      unfold marchDay marchMonth
      split_ifs at length <;> omega
    rw [year]
    omega

/-- The days of a span of years have dates in these years. -/
theorem year_ofDays_within {days former latter : Int} (least : firstDay former ≤ days)
    (most : days < firstDay (latter + 1)) :
    former ≤ (ofDays days).year ∧ (ofDays days).year ≤ latter := by
  have within := toDays_within_year (isValid_ofDays days)
  rw [toDays_ofDays] at within
  constructor
  · by_contra before
    have earlier := firstDay_mono (show (ofDays days).year + 1 ≤ former by omega)
    omega
  · by_contra after
    have later := firstDay_mono (show latter + 1 ≤ (ofDays days).year by omega)
    omega

end TaskAutomation.Date
