/-!
The calendar: dates as day numbers, day 0 being 1 January 1970. Years begin in March inside the
conversions, so that the leap day is the last one. Main statements: a day number is the number of
its date, and a date that exists is the date of its number.
-/

namespace Gatehouse

/-- A date of the calendar. -/
structure Date where
  year : Int
  month : Int
  day : Int
deriving DecidableEq, Repr

namespace Date

def isLeapYear (y : Int) : Bool := y % 4 = 0 ∧ (y % 100 ≠ 0 ∨ y % 400 = 0)

/-- How many days a month has. -/
def daysInMonth (y m : Int) : Int :=
  if m = 2 then (if isLeapYear y then 29 else 28)
  else if m = 4 ∨ m = 6 ∨ m = 9 ∨ m = 11 then 30
  else 31

theorem daysInMonth_le (y m : Int) : daysInMonth y m ≤ 31 := by
  unfold daysInMonth
  split
  · split <;> omega
  · split <;> omega

/-- The first and the last year of the calendar. -/
def minYear : Int := -262143

def maxYear : Int := 262142

/-- Whether the date exists. -/
def isValid (d : Date) : Bool :=
  minYear ≤ d.year ∧ d.year ≤ maxYear ∧ 1 ≤ d.month ∧ d.month ≤ 12 ∧ 1 ≤ d.day
    ∧ d.day ≤ daysInMonth d.year d.month

/-- The number of a date. -/
def toDays (d : Date) : Int :=
  let y := if d.month ≤ 2 then d.year - 1 else d.year
  let inEra := y % 400
  let monthFromMarch := (d.month + 9) % 12
  let inYear := (153 * monthFromMarch + 2) / 5 + d.day - 1
  y / 400 * 146097 + (inEra * 365 + inEra / 4 - inEra / 100 + inYear) - 719468

/-- The date of a day number: 400 years have 146097 days, a century 36524 or one more, four years
1461 or one less, a year 365 or one more. -/
def ofDays (n : Int) : Date :=
  let z := n + 719468
  let inEra := z % 146097
  let century := min 3 (inEra / 36524)
  let inCentury := inEra - century * 36524
  let quad := inCentury / 1461
  let inQuad := inCentury - quad * 1461
  let rest := min 3 (inQuad / 365)
  let inYear := inQuad - rest * 365
  let monthFromMarch := (5 * inYear + 2) / 153
  let day := inYear - (153 * monthFromMarch + 2) / 5 + 1
  let month := if monthFromMarch < 10 then monthFromMarch + 3 else monthFromMarch - 9
  let year := z / 146097 * 400 + century * 100 + quad * 4 + rest + if month ≤ 2 then 1 else 0
  ⟨year, month, day⟩

/-! A day number counted out: eras, centuries, groups of four years, years, and days since March. -/

/-- The parts of a day number. The day 365 is only there in the last year of a group of four, and in
the last group of a century only when the century is the last one of its era. -/
structure Parts (n era century quad rest inYear : Int) : Prop where
  sum : n + 719468 = era * 146097 + century * 36524 + quad * 1461 + rest * 365 + inYear
  century_range : 0 ≤ century ∧ century ≤ 3
  quad_range : 0 ≤ quad ∧ quad ≤ 24
  rest_range : 0 ≤ rest ∧ rest ≤ 3
  inYear_range : 0 ≤ inYear ∧ inYear ≤ 365
  leap : inYear = 365 → rest = 3 ∧ (quad = 24 → century = 3)

/-- The date of the parts. -/
def ofParts (era century quad rest inYear : Int) : Date :=
  let monthFromMarch := (5 * inYear + 2) / 153
  let day := inYear - (153 * monthFromMarch + 2) / 5 + 1
  let month := if monthFromMarch < 10 then monthFromMarch + 3 else monthFromMarch - 9
  ⟨era * 400 + century * 100 + quad * 4 + rest + if month ≤ 2 then 1 else 0, month, day⟩

theorem exists_parts (n : Int) : ∃ era century quad rest inYear,
    Parts n era century quad rest inYear ∧ ofDays n = ofParts era century quad rest inYear := by
  let inEra := (n + 719468) % 146097
  let century := min 3 (inEra / 36524)
  let inCentury := inEra - century * 36524
  let quad := inCentury / 1461
  let inQuad := inCentury - quad * 1461
  let rest := min 3 (inQuad / 365)
  have hEra : 0 ≤ inEra ∧ inEra < 146097 := by omega
  have hCentury : 0 ≤ century ∧ century ≤ 3 := by omega
  have hInCentury : 0 ≤ inCentury ∧ (inCentury < 36524 ∨ century = 3 ∧ inCentury = 36524) := by omega
  have hQuad : 0 ≤ quad ∧ quad ≤ 24 := by omega
  have hInQuad : 0 ≤ inQuad ∧ inQuad ≤ 1460 := by omega
  have hRest : 0 ≤ rest ∧ rest ≤ 3 := by omega
  refine ⟨(n + 719468) / 146097, century, quad, rest, inQuad - rest * 365, ?_, rfl⟩
  constructor
  · omega
  · exact hCentury
  · exact hQuad
  · exact hRest
  · omega
  · intro hDay
    have hLast : rest = 3 ∧ inQuad = 1460 := by omega
    refine ⟨hLast.1, fun hq => ?_⟩
    omega

theorem toDays_ofParts {n era century quad rest inYear : Int} (h : Parts n era century quad rest inYear) :
    (ofParts era century quad rest inYear).toDays = n := by
  obtain ⟨hSum, hCentury, hQuad, hRest, hDay, -⟩ := h
  have hMonth : 0 ≤ (5 * inYear + 2) / 153 ∧ (5 * inYear + 2) / 153 ≤ 11 := by omega
  simp only [toDays, ofParts]
  by_cases hm : (5 * inYear + 2) / 153 < 10
  · simp only [hm, ↓reduceIte]
    rw [if_neg (by omega), if_neg (by omega)]
    omega
  · simp only [hm, ↓reduceIte]
    rw [if_pos (by omega), if_pos (by omega)]
    omega

/-- A day number is the number of its date. -/
theorem toDays_ofDays (n : Int) : (ofDays n).toDays = n := by
  obtain ⟨era, century, quad, rest, inYear, hParts, hDate⟩ := exists_parts n
  rw [hDate]
  exact toDays_ofParts hParts

theorem month_ofDays (n : Int) : 1 ≤ (ofDays n).month ∧ (ofDays n).month ≤ 12 := by
  obtain ⟨era, century, quad, rest, inYear, hParts, hDate⟩ := exists_parts n
  have hDay := hParts.inYear_range
  rw [hDate]
  simp only [ofParts]
  split <;> omega

/-- The day that ends a group of four years stands in a leap year. -/
theorem isLeapYear_of_last {n era century quad rest inYear : Int}
    (h : Parts n era century quad rest inYear) (hLast : inYear = 365) :
    isLeapYear (era * 400 + century * 100 + quad * 4 + rest + 1) = true := by
  obtain ⟨hRest, hQuad⟩ := h.leap hLast
  have hQuadRange := h.quad_range
  have hCentury := h.century_range
  simp only [isLeapYear, decide_eq_true_eq]
  constructor
  · omega
  · by_cases hq : quad = 24
    · right
      have := hQuad hq
      omega
    · left
      omega

theorem day_ofDays (n : Int) :
    1 ≤ (ofDays n).day ∧ (ofDays n).day ≤ daysInMonth (ofDays n).year (ofDays n).month := by
  obtain ⟨era, century, quad, rest, inYear, hParts, hDate⟩ := exists_parts n
  have hDay := hParts.inYear_range
  have hMonth : 0 ≤ (5 * inYear + 2) / 153 ∧ (5 * inYear + 2) / 153 ≤ 11 := by omega
  rw [hDate]
  simp only [ofParts]
  constructor
  · omega
  · by_cases hFebruary : (5 * inYear + 2) / 153 = 11
    · have hLeap := isLeapYear_of_last hParts
      simp only [hFebruary, daysInMonth, Int.reduceLT, Int.reduceSub, Int.reduceLE, ↓reduceIte]
      by_cases hLast : inYear = 365
      · rw [if_pos (hLeap hLast)]
        omega
      · split <;> omega
    · simp only [daysInMonth]
      split
      · rw [if_neg (by omega)]
        split <;> omega
      · rw [if_neg (by omega)]
        split <;> omega

/-- How many days before March of a year March of the year 0 was. -/
def daysBefore (y : Int) : Int := 365 * y + y / 4 - y / 100 + y / 400

/-- The years since the start of the calendar, with their leap days, and the days since March. -/
theorem Parts.sum_years {n era century quad rest inYear : Int} (h : Parts n era century quad rest inYear) {y : Int}
    (hy : y = era * 400 + century * 100 + quad * 4 + rest) :
    n + 719468 = daysBefore y + inYear := by
  obtain ⟨hSum, hCentury, hQuad, hRest, -, -⟩ := h
  have hFours : y / 4 = era * 100 + century * 25 + quad := by omega
  have hHundreds : y / 100 = era * 4 + century := by omega
  have hEras : y / 400 = era := by omega
  unfold daysBefore
  omega

/-- The calendar has the dates between its first and its last one. -/
theorem isValid_ofDays {n : Int} (hLo : toDays ⟨minYear, 1, 1⟩ ≤ n) (hHi : n ≤ toDays ⟨maxYear, 12, 31⟩) :
    (ofDays n).isValid = true := by
  have hMonth := month_ofDays n
  have hDay := day_ofDays n
  have hYear : minYear ≤ (ofDays n).year ∧ (ofDays n).year ≤ maxYear := by
    have hFirst : toDays ⟨minYear, 1, 1⟩ = -96465292 := by decide
    have hLast : toDays ⟨maxYear, 12, 31⟩ = 95026236 := by decide
    rw [hFirst] at hLo
    rw [hLast] at hHi
    obtain ⟨era, century, quad, rest, inYear, hParts, hDate⟩ := exists_parts n
    have hRange := hParts.inYear_range
    rw [hDate]
    simp only [ofParts, minYear, maxYear]
    generalize hy : era * 400 + century * 100 + quad * 4 + rest = y
    have hSum := hParts.sum_years hy.symm
    unfold daysBefore at hSum
    have hFrom : -262144 ≤ y := by omega
    have hTo : y ≤ 262142 := by omega
    by_cases hm : (5 * inYear + 2) / 153 < 10
    · simp only [hm, ↓reduceIte]
      rw [if_neg (by omega)]
      omega
    · simp only [hm, ↓reduceIte]
      rw [if_pos (by omega)]
      omega
  simp only [isValid, decide_eq_true_eq]
  exact ⟨hYear.1, hYear.2, hMonth.1, hMonth.2, hDay.1, hDay.2⟩

/-! Dates and their numbers. -/

/-- A day of a year that begins in March: the last one of 366 is there only if the next year is a leap year. -/
structure IsDayOf (y inYear : Int) : Prop where
  range : 0 ≤ inYear ∧ inYear ≤ 365
  leap : inYear = 365 → isLeapYear (y + 1) = true

theorem daysBefore_succ (y : Int) : daysBefore (y + 1) = daysBefore y + if isLeapYear (y + 1) then 366 else 365 := by
  simp only [daysBefore, isLeapYear, decide_eq_true_eq]
  split <;> omega

theorem daysBefore_mono {y y' : Int} (h : y ≤ y') : daysBefore y ≤ daysBefore y' := by
  unfold daysBefore
  omega

theorem IsDayOf.lt {y inYear : Int} (h : IsDayOf y inYear) : daysBefore y + inYear < daysBefore (y + 1) := by
  obtain ⟨hRange, hLeap⟩ := h
  rw [daysBefore_succ]
  split
  · omega
  · next hCommon =>
    have hLast : inYear ≠ 365 := fun h => hCommon (hLeap h)
    omega

theorem IsDayOf.le {y y' k k' : Int} (h : IsDayOf y k) (h' : IsDayOf y' k')
    (hSum : daysBefore y + k = daysBefore y' + k') : y' ≤ y := by
  have hLt := h.lt
  have hFrom := h'.range
  by_cases hy : y + 1 ≤ y'
  · have hMono := daysBefore_mono hy
    omega
  · omega

/-- Years follow each other without gaps, and do not overlap. -/
theorem IsDayOf.unique {y y' k k' : Int} (h : IsDayOf y k) (h' : IsDayOf y' k')
    (hSum : daysBefore y + k = daysBefore y' + k') : y = y' ∧ k = k' := by
  have hy : y = y' := Int.le_antisymm (h'.le h hSum.symm) (h.le h' hSum)
  subst hy
  exact ⟨rfl, by omega⟩

theorem Parts.isDayOf {n era century quad rest inYear : Int} (h : Parts n era century quad rest inYear) :
    IsDayOf (era * 400 + century * 100 + quad * 4 + rest) inYear :=
  ⟨h.inYear_range, isLeapYear_of_last h⟩

/-- A date as a day of a year that begins in March. -/
theorem isDayOf_of_isValid {d : Date} (h : d.isValid = true) :
    IsDayOf (if d.month ≤ 2 then d.year - 1 else d.year) ((153 * ((d.month + 9) % 12) + 2) / 5 + d.day - 1) := by
  simp only [isValid, decide_eq_true_eq] at h
  obtain ⟨-, -, hm, hm', hd, hd'⟩ := h
  unfold daysInMonth at hd'
  by_cases hJan : d.month ≤ 2
  · rw [if_pos hJan]
    constructor
    · split at hd'
      · split at hd' <;> omega
      · split at hd' <;> omega
    · intro hLast
      split at hd'
      · split at hd'
        · next hLeap => rwa [Int.sub_add_cancel]
        · omega
      · split at hd' <;> omega
  · rw [if_neg hJan, if_neg (by omega)] at *
    constructor
    · split at hd' <;> omega
    · intro hLast
      split at hd' <;> omega

theorem toDays_eq (d : Date) : d.toDays + 719468 =
    daysBefore (if d.month ≤ 2 then d.year - 1 else d.year) + ((153 * ((d.month + 9) % 12) + 2) / 5 + d.day - 1) := by
  simp only [toDays, daysBefore]
  generalize (if d.month ≤ 2 then d.year - 1 else d.year) = y
  omega

/-- How far the dates of a year and of the years before it go. -/
theorem le_daysBefore_of_year_ofDays_le {n y : Int} (h : (ofDays n).year ≤ y) : n + 719468 ≤ daysBefore y + 367 := by
  have hSum := toDays_eq (ofDays n)
  have hMonth := month_ofDays n
  have hDay := Int.le_trans (day_ofDays n).2 (daysInMonth_le ..)
  rw [toDays_ofDays] at hSum
  have hMono : daysBefore (if (ofDays n).month ≤ 2 then (ofDays n).year - 1 else (ofDays n).year) ≤ daysBefore y := by
    refine daysBefore_mono ?_
    split <;> omega
  omega

/-- The day of the year tells the month. -/
theorem month_of_day {y m d : Int} (hm : 1 ≤ m ∧ m ≤ 12) (hd : 1 ≤ d ∧ d ≤ daysInMonth y m) :
    (5 * ((153 * ((m + 9) % 12) + 2) / 5 + d - 1) + 2) / 153 = (m + 9) % 12 := by
  have hMonths : m = 1 ∨ m = 2 ∨ m = 3 ∨ m = 4 ∨ m = 5 ∨ m = 6 ∨ m = 7 ∨ m = 8 ∨ m = 9 ∨ m = 10 ∨ m = 11 ∨ m = 12 := by
    omega
  have hEnd : (m = 2 → d ≤ 29) ∧ (m = 4 ∨ m = 6 ∨ m = 9 ∨ m = 11 → d ≤ 30) ∧ d ≤ 31 := by
    have hLe := hd.2
    unfold daysInMonth at hLe
    split at hLe
    · split at hLe <;> omega
    · split at hLe <;> omega
  rcases hMonths with rfl | rfl | rfl | rfl | rfl | rfl | rfl | rfl | rfl | rfl | rfl | rfl <;> omega

/-- A date that exists is the date of its number. -/
theorem ofDays_toDays {d : Date} (h : d.isValid = true) : ofDays d.toDays = d := by
  obtain ⟨era, century, quad, rest, inYear, hParts, hDate⟩ := exists_parts d.toDays
  have hSum := hParts.sum_years rfl
  obtain ⟨hYear, hDay⟩ := hParts.isDayOf.unique (isDayOf_of_isValid h) (hSum.symm.trans (toDays_eq d))
  simp only [isValid, decide_eq_true_eq] at h
  obtain ⟨-, -, hm, hm', hd, hd'⟩ := h
  have hMonth := month_of_day ⟨hm, hm'⟩ ⟨hd, hd'⟩
  obtain ⟨year, month, day⟩ := d
  simp only at hDay hYear hMonth hm hm'
  rw [hDate, ofParts, hYear, hDay]
  simp only [hMonth, mk.injEq]
  by_cases hJan : month ≤ 2
  · have hm : (month + 9) % 12 = month + 9 := by omega
    have hLate : ¬ month + 9 < 10 := by omega
    simp only [hJan, hm, hLate, ↓reduceIte]
    rw [if_pos (by omega)]
    omega
  · have hm : (month + 9) % 12 = month - 3 := by omega
    have hEarly : month - 3 < 10 := by omega
    simp only [hJan, hm, hEarly, ↓reduceIte]
    rw [if_neg (by omega)]
    omega

end Date

end Gatehouse
