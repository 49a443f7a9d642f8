import LiveJobs.Time.Civil

/-!
# The calendar

Every day has a date, and the date leads back to the day. Within an era a day falls into one of 400
years and is one of the 366 days that a year can have from March on. Both bounds rest on the three
ways in which the calendar keeps step: the leap days of every four years, those left out every
hundred years, and the one at the end of the era.
-/

namespace LiveJobs.Time

/-- The year of its era that a day of the era lies in. -/
def yearOfEra (day : Int) : Int := (day - day / 1460 + day / 36524 - day / 146096) / 365

/-- The day of its year, from March on, that a day of the era is. -/
def dayOfYear (day : Int) : Int :=
  day - (365 * yearOfEra day + yearOfEra day / 4 - yearOfEra day / 100)

variable {day : Int}

theorem yearOfEra_bounds (first : 0 ≤ day) (last : day ≤ 146096) :
    0 ≤ yearOfEra day ∧ yearOfEra day ≤ 399 := by
  rw [yearOfEra]
  omega

theorem dayOfYear_bounds (first : 0 ≤ day) (last : day ≤ 146096) :
    0 ≤ dayOfYear day ∧ dayOfYear day ≤ 365 := by
  have centuries : day / 36524 = 0 ∨ day / 36524 = 1 ∨ day / 36524 = 2 ∨ day / 36524 = 3 ∨
      day / 36524 = 4 := by omega
  have ending : day / 146096 = 0 ∨ day / 146096 = 1 := by omega
  have bounds := yearOfEra_bounds first last
  have years : yearOfEra day / 100 = 0 ∨ yearOfEra day / 100 = 1 ∨ yearOfEra day / 100 = 2 ∨
      yearOfEra day / 100 = 3 := by omega
  rw [dayOfYear]
  have year : yearOfEra day = (day - day / 1460 + day / 36524 - day / 146096) / 365 := rfl
  generalize yearOfEra day = count at *
  -- Each quotient takes a few values only, and the bounds are linear once they are known.
  rcases centuries with century | century | century | century | century <;>
    rcases ending with ends | ends <;>
    rcases years with hundreds | hundreds | hundreds | hundreds <;>
    omega

/-- The date of a day of a year that begins in March. -/
def dateFromMarch (year day : Int) : Date :=
  let monthFromMarch := (5 * day + 2) / 153
  let month := if monthFromMarch < 10 then monthFromMarch + 3 else monthFromMarch - 9
  ⟨if month ≤ 2 then year + 1 else year, month.toNat,
    (day - (153 * monthFromMarch + 2) / 5 + 1).toNat⟩

/-- The day of a numbered day in its era. -/
def dayOfEra (days : Int) : Int :=
  days + epochOffset - Int.fdiv (days + epochOffset) daysPerEra * daysPerEra

theorem ofDays_eq (days : Int) :
    Date.ofDays days =
      dateFromMarch
        (yearOfEra (dayOfEra days) + Int.fdiv (days + epochOffset) daysPerEra * 400)
        (dayOfYear (dayOfEra days)) :=
  rfl

theorem dayOfEra_bounds (days : Int) : 0 ≤ dayOfEra days ∧ dayOfEra days ≤ 146096 := by
  rw [dayOfEra, Int.fdiv_eq_ediv_of_nonneg _ (by decide), daysPerEra]
  omega

/-- A date counts the days of the eras, of the years and of the months before it. -/
theorem toDays_dateFromMarch {era year day : Int} (yearFirst : 0 ≤ year) (yearLast : year ≤ 399)
    (dayFirst : 0 ≤ day) (dayLast : day ≤ 365) :
    (dateFromMarch (year + era * 400) day).toDays =
      era * daysPerEra + (year * 365 + year / 4 - year / 100 + day) - epochOffset := by
  have inEra : Int.fdiv (year + era * 400) 400 = era := by
    rw [Int.fdiv_eq_ediv_of_nonneg _ (by decide)]
    omega
  have ofMonth : (153 * ((5 * day + 2) / 153) + 2) / 5 ≤ day := by omega
  rw [dateFromMarch, Date.toDays]
  dsimp only
  rw [Int.toNat_of_nonneg (by omega : 0 ≤ day - (153 * ((5 * day + 2) / 153) + 2) / 5 + 1)]
  by_cases early : (5 * day + 2) / 153 < 10
  · have march : ¬ ((5 * day + 2) / 153 + 3).toNat ≤ 2 := by omega
    have month : ((((5 * day + 2) / 153 + 3).toNat : Int) + 9) % 12 = (5 * day + 2) / 153 := by
      omega
    rw [if_pos early, if_neg march, if_neg (by omega), month, inEra, Int.add_sub_cancel]
    omega
  · have january : ((5 * day + 2) / 153 - 9).toNat ≤ 2 := by omega
    have month : ((((5 * day + 2) / 153 - 9).toNat : Int) + 9) % 12 = (5 * day + 2) / 153 := by
      omega
    rw [if_neg early, if_pos january, if_pos (by omega), Int.add_sub_cancel, month, inEra,
      Int.add_sub_cancel]
    omega

theorem toDays_ofDays (days : Int) : (Date.ofDays days).toDays = days := by
  have era := dayOfEra_bounds days
  have year := yearOfEra_bounds era.1 era.2
  have day := dayOfYear_bounds era.1 era.2
  rw [ofDays_eq, toDays_dateFromMarch year.1 year.2 day.1 day.2]
  rw [dayOfYear, dayOfEra]
  omega

end LiveJobs.Time
