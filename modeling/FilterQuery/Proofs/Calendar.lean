import FilterQuery.Calendar

/-!
# The calendar, forth and back

A day number is cut into a cycle of 400 years, a year of the cycle and a day of the year; years start in
March. The year of the cycle comes from one quotient with three corrections. It is proved right by
writing the day of the cycle as centuries, groups of four years and a rest, on which the corrections
can be computed; only the last day of the cycle, which the 400th year adds, is outside that form.

## Main results

* `Date.dayNumber_ofDayNumber` — the date of a day number has that number.
* `Date.isValid_ofDayNumber` — the calendar has that date.
-/

namespace FilterQuery

namespace Date

/-! ## Years of a cycle -/

/-- The days of a cycle before the given year. -/
def yearStart (year : Nat) : Nat :=
  365 * year + year / 4 - year / 100

/-- The year of a day of a cycle. -/
def yearOfCycle (day : Nat) : Nat :=
  (day - day / 1460 + day / 36524 - day / 146096) / 365

/-- A day of a cycle as centuries, groups of four years and a rest. The last group of a century is a day
shorter than the others. -/
theorem exists_groups {day : Nat} (hday : day < 146096) :
    ∃ centuries groups rest, day = 36524 * centuries + 1461 * groups + rest ∧ centuries ≤ 3 ∧
      groups ≤ 24 ∧ rest ≤ 1460 ∧ (groups = 24 → rest ≤ 1459) :=
  ⟨day / 36524, day % 36524 / 1461, day % 36524 % 1461, by omega, by omega, by omega, by omega,
    by omega⟩

section Groups

variable {centuries groups rest : Nat}

theorem yearStart_groups {years : Nat} (hgroups : groups ≤ 24) (hyears : years ≤ 3) :
    yearStart (100 * centuries + 4 * groups + years) =
      36524 * centuries + 1461 * groups + 365 * years := by
  unfold yearStart
  omega

/-- The corrections of the quotient leave the years of the groups, and of the rest at most three. -/
theorem yearOfCycle_groups (hcenturies : centuries ≤ 3) (hgroups : groups ≤ 24)
    (hrest : rest ≤ 1460) (hlast : groups = 24 → rest ≤ 1459) :
    yearOfCycle (36524 * centuries + 1461 * groups + rest) =
      100 * centuries + 4 * groups + min (rest / 365) 3 := by
  have hcentury : (36524 * centuries + 1461 * groups + rest) / 36524 = centuries := by omega
  have hcycle : (36524 * centuries + 1461 * groups + rest) / 146096 = 0 := by omega
  unfold yearOfCycle
  rw [hcentury, hcycle]
  -- A group is a day longer than the divisor; the days left over may make up one more.
  by_cases hcarry : 24 * centuries + groups + rest < 1460
  · have hgroup : (36524 * centuries + 1461 * groups + rest) / 1460 = 25 * centuries + groups := by
      omega
    rw [hgroup]
    omega
  · have hgroup : (36524 * centuries + 1461 * groups + rest) / 1460 =
        25 * centuries + groups + 1 := by
      omega
    rw [hgroup]
    omega

end Groups

/-- The year of a day starts no later than the day, and a year at most before it. -/
theorem yearOfCycle_bounds {day : Nat} (hday : day < 146097) :
    yearOfCycle day < 400 ∧ yearStart (yearOfCycle day) ≤ day ∧
      day ≤ yearStart (yearOfCycle day) + 365 := by
  by_cases hlast : day = 146096
  · subst hlast
    decide
  · obtain ⟨centuries, groups, rest, rfl, hcenturies, hgroups, hrest, hshort⟩ :=
      exists_groups (show day < 146096 by omega)
    rw [yearOfCycle_groups hcenturies hgroups hrest hshort, yearStart_groups hgroups (by omega)]
    omega

/-- Only a year that ends with a 29 February has a day 365. -/
theorem isLeapYear_of_lastDay {day : Nat} (hday : day < 146097)
    (hlastDay : day = yearStart (yearOfCycle day) + 365) (cycle : Int) :
    isLeapYear (400 * cycle + yearOfCycle day + 1) = true := by
  have hleap : (yearOfCycle day + 1) % 4 = 0 ∧
      ((yearOfCycle day + 1) % 100 ≠ 0 ∨ (yearOfCycle day + 1) % 400 = 0) := by
    by_cases hlast : day = 146096
    · subst hlast
      decide
    · obtain ⟨centuries, groups, rest, rfl, hcenturies, hgroups, hrest, hshort⟩ :=
        exists_groups (show day < 146096 by omega)
      rw [yearOfCycle_groups hcenturies hgroups hrest hshort,
        yearStart_groups hgroups (by omega)] at hlastDay
      rw [yearOfCycle_groups hcenturies hgroups hrest hshort]
      omega
  simp only [isLeapYear, Bool.and_eq_true, Bool.or_eq_true, beq_iff_eq, bne_iff_ne]
  omega

/-! ## Days of a year -/

/-- The date of a day of a year, both counted from March. -/
def ofYearDay (year : Int) (day : Nat) : Date :=
  let monthOfYear := (5 * day + 2) / 153
  let month := if monthOfYear < 10 then monthOfYear + 3 else monthOfYear - 9
  ⟨if month ≤ 2 then year + 1 else year, month, day - (153 * monthOfYear + 2) / 5 + 1⟩

/-- A day lies in the month that is computed for it. The last month has its 29th day only as the day
365. -/
theorem monthOfYear_bounds {day month : Nat} (hday : day ≤ 365)
    (hmonth : (5 * day + 2) / 153 = month) :
    month ≤ 11 ∧ (153 * month + 2) / 5 ≤ day ∧
      day - (153 * month + 2) / 5 + 1 ≤
        if month = 11 then if day = 365 then 29 else 28
        else if month % 5 = 1 ∨ month % 5 = 3 then 30 else 31 := by
  refine ⟨by omega, by omega, ?_⟩
  split
  · split <;> omega
  · split <;> omega

section YearDay

variable {year : Int} {day month : Nat}

/-- From March to December the year is the year that started in March. -/
theorem ofYearDay_of_lt (hmonth : (5 * day + 2) / 153 = month) (hlt : month < 10) :
    ofYearDay year day = ⟨year, month + 3, day - (153 * month + 2) / 5 + 1⟩ := by
  unfold ofYearDay
  rw [hmonth]
  simp only [if_pos hlt, if_neg (show ¬ month + 3 ≤ 2 by omega)]

/-- January and February belong to the next year. -/
theorem ofYearDay_of_ge (hmonth : (5 * day + 2) / 153 = month) (hge : 10 ≤ month)
    (hle : month ≤ 11) :
    ofYearDay year day = ⟨year + 1, month - 9, day - (153 * month + 2) / 5 + 1⟩ := by
  unfold ofYearDay
  rw [hmonth]
  simp only [if_neg (show ¬ month < 10 by omega), if_pos (show month - 9 ≤ 2 by omega)]

theorem dayNumber_ofYearDay (hday : day ≤ 365) :
    (ofYearDay year day).dayNumber =
      365 * year + year / 4 - year / 100 + year / 400 + day - epochDay := by
  obtain ⟨month, hmonth⟩ : ∃ month, (5 * day + 2) / 153 = month := ⟨_, rfl⟩
  obtain ⟨hle, hstart, _⟩ := monthOfYear_bounds hday hmonth
  by_cases hten : month < 10
  · rw [ofYearDay_of_lt hmonth hten]
    unfold dayNumber
    dsimp only
    rw [if_neg (by omega), show (month + 3 + 9) % 12 = month by omega]
    omega
  · rw [ofYearDay_of_ge hmonth (by omega) hle]
    unfold dayNumber
    dsimp only
    rw [if_pos (by omega), show (month - 9 + 9) % 12 = month by omega]
    omega

theorem isValid_ofYearDay (hday : day ≤ 365)
    (hleap : day = 365 → isLeapYear (year + 1) = true) : (ofYearDay year day).isValid = true := by
  obtain ⟨month, hmonth⟩ : ∃ month, (5 * day + 2) / 153 = month := ⟨_, rfl⟩
  obtain ⟨hle, hstart, hlength⟩ := monthOfYear_bounds hday hmonth
  by_cases hten : month < 10
  · rw [ofYearDay_of_lt hmonth hten]
    simp only [isValid, Bool.and_eq_true, decide_eq_true_eq]
    refine ⟨⟨⟨by omega, by omega⟩, by omega⟩, ?_⟩
    rw [if_neg (by omega)] at hlength
    rw [monthLength, if_neg (by omega)]
    split at hlength <;> split <;> omega
  · rw [ofYearDay_of_ge hmonth (by omega) hle]
    simp only [isValid, Bool.and_eq_true, decide_eq_true_eq]
    refine ⟨⟨⟨by omega, by omega⟩, by omega⟩, ?_⟩
    by_cases hfebruary : month = 11
    · subst hfebruary
      rw [if_pos rfl] at hlength
      rw [monthLength, if_pos rfl]
      by_cases hlast : day = 365
      · rw [if_pos hlast] at hlength
        rw [hleap hlast, if_pos rfl]
        exact hlength
      · rw [if_neg hlast] at hlength
        split <;> omega
    · rw [if_neg hfebruary] at hlength
      rw [monthLength, if_neg (by omega)]
      split at hlength <;> split <;> omega

end YearDay

/-! ## Day numbers -/

/-- The date of a day number, by its cycle, its year and its day of the year. -/
theorem exists_ofDayNumber_eq (number : Int) :
    ∃ (cycle : Int) (year day : Nat), number + epochDay = 146097 * cycle + yearStart year + day ∧
      year < 400 ∧ day ≤ 365 ∧ (day = 365 → isLeapYear (400 * cycle + year + 1) = true) ∧
      ofDayNumber number = ofYearDay (400 * cycle + year) day := by
  obtain ⟨day, hday⟩ : ∃ day, ((number + epochDay) % 146097).toNat = day := ⟨_, rfl⟩
  have hlt : day < 146097 := by omega
  obtain ⟨hyear, hstart, hend⟩ := yearOfCycle_bounds hlt
  refine ⟨(number + epochDay) / 146097, yearOfCycle day, day - yearStart (yearOfCycle day), by omega,
    hyear, by omega, ?_, ?_⟩
  · intro hlast
    exact isLeapYear_of_lastDay hlt (by omega) _
  · subst hday
    rfl

/-- The date of a day number has that number. -/
theorem dayNumber_ofDayNumber (number : Int) : (ofDayNumber number).dayNumber = number := by
  obtain ⟨cycle, year, day, hnumber, hyear, hday, _, hdate⟩ := exists_ofDayNumber_eq number
  rw [hdate, dayNumber_ofYearDay hday]
  unfold yearStart at hnumber
  omega

/-- The calendar has the date of a day number. -/
theorem isValid_ofDayNumber (number : Int) : (ofDayNumber number).isValid = true := by
  obtain ⟨cycle, year, day, _, _, hday, hleap, hdate⟩ := exists_ofDayNumber_eq number
  rw [hdate]
  exact isValid_ofYearDay hday hleap

theorem monthLength_le (year : Int) (month : Nat) : monthLength year month ≤ 31 := by
  unfold monthLength
  split
  · split <;> decide
  · split <;> decide

/-- The ranges of the month and the day, whatever the year. -/
theorem bounds_of_isValid {date : Date} (h : date.isValid = true) :
    (1 ≤ date.month ∧ date.month ≤ 12) ∧ 1 ≤ date.day ∧ date.day ≤ 31 := by
  simp only [isValid, Bool.and_eq_true, decide_eq_true_eq] at h
  obtain ⟨⟨hmonth, hday⟩, hlength⟩ := h
  exact ⟨hmonth, hday, Nat.le_trans hlength (monthLength_le _ _)⟩

end Date

end FilterQuery
