import Fixture.Calendar.Date
import Mathlib.Tactic.IntervalCases
import Mathlib.Tactic.Ring

/-!
# Dates and days

Both directions between dates and days go through years that begin on the first of March. A day is
the day of such a year (`ofMarch`), and before a year lie as many days as `daysBefore` says. That
the year of a day is found by dividing only once is seen from the day's place in its cycle: so many
centuries, so many times four years, so many years.
-/

namespace Fixture.Date

theorem isLeap_iff {year : Int} :
    isLeap year = true ↔ year % 4 = 0 ∧ (year % 100 ≠ 0 ∨ year % 400 = 0) := by
  simp [isLeap]

theorem monthLength_le (year : Int) (month : Nat) : monthLength year month ≤ 31 := by
  simp only [monthLength]
  split
  · split <;> omega
  · split <;> omega

/-- The days before a year that begins in March, counted from the March of the year 0. -/
def daysBefore (year : Int) : Int := 365 * year + year / 4 - year / 100 + year / 400

/-- A day of a year that begins in March. Its first day is the day 0. -/
def ofMarch (year dayOfYear : Int) : Date :=
  let month := (5 * dayOfYear + 2) / 153
  let day := dayOfYear - (153 * month + 2) / 5 + 1
  if month < 10 then ⟨year, (month + 3).toNat, day.toNat⟩
  else ⟨year + 1, (month - 9).toNat, day.toNat⟩

theorem ofMarch_early {dayOfYear month : Int} (year : Int)
    (hmonth : (5 * dayOfYear + 2) / 153 = month) (h : month < 10) :
    ofMarch year dayOfYear =
      ⟨year, (month + 3).toNat, (dayOfYear - (153 * month + 2) / 5 + 1).toNat⟩ := by
  simp only [ofMarch, hmonth, if_pos h]

theorem ofMarch_late {dayOfYear month : Int} (year : Int)
    (hmonth : (5 * dayOfYear + 2) / 153 = month) (h : ¬month < 10) :
    ofMarch year dayOfYear =
      ⟨year + 1, (month - 9).toNat, (dayOfYear - (153 * month + 2) / 5 + 1).toNat⟩ := by
  simp only [ofMarch, hmonth, if_neg h]

/-- A year that begins in March has the day 365 if the year that begins in it is a leap year. -/
def HasDay (year dayOfYear : Int) : Prop :=
  0 ≤ dayOfYear ∧ dayOfYear ≤ 365 ∧ (dayOfYear = 365 → isLeap (year + 1) = true)

/-! ### The year of a day -/

/-- Every day of a cycle lies in a century of it, in four years of that and in one of those. Only
the last year of four has a day 365, and of the last four of a century only those of the last
century. -/
theorem exists_place (dayOfCycle : Int) (hfirst : 0 ≤ dayOfCycle) (hlast : dayOfCycle < 146097) :
    ∃ century four year day : Int, (0 ≤ century ∧ century ≤ 3) ∧ (0 ≤ four ∧ four ≤ 24) ∧
      (0 ≤ year ∧ year ≤ 3) ∧ (0 ≤ day ∧ day ≤ 365) ∧
        (day = 365 → year = 3 ∧ (four = 24 → century = 3)) ∧
          dayOfCycle = 36524 * century + 1461 * four + 365 * year + day := by
  obtain ⟨century, hcentury⟩ : ∃ century, century = min (dayOfCycle / 36524) 3 := ⟨_, rfl⟩
  obtain ⟨four, hfour⟩ : ∃ four, four = (dayOfCycle - 36524 * century) / 1461 := ⟨_, rfl⟩
  obtain ⟨year, hyear⟩ : ∃ year,
    year = min ((dayOfCycle - 36524 * century - 1461 * four) / 365) 3 := ⟨_, rfl⟩
  refine ⟨century, four, year, dayOfCycle - 36524 * century - 1461 * four - 365 * year,
    ?_, ?_, ?_, ?_, ?_, ?_⟩
  all_goals omega

theorem yearOfCycle_of_place {century four year day dayOfCycle : Int}
    (hcentury : 0 ≤ century ∧ century ≤ 3) (hfour : 0 ≤ four ∧ four ≤ 24)
    (hyear : 0 ≤ year ∧ year ≤ 3) (hday : 0 ≤ day ∧ day ≤ 365)
    (hlong : day = 365 → year = 3 ∧ (four = 24 → century = 3))
    (h : dayOfCycle = 36524 * century + 1461 * four + 365 * year + day) :
    (dayOfCycle - dayOfCycle / 1460 + dayOfCycle / 36524 - dayOfCycle / 146096) / 365 =
      100 * century + 4 * four + year := by
  by_cases hlast : dayOfCycle = 146096
  · -- The last day of a cycle is the only one beyond four times 36524 days.
    have hparts : century = 3 ∧ four = 24 ∧ year = 3 := by omega
    rw [hlast, hparts.1, hparts.2.1, hparts.2.2]
    decide
  · have hcycle : dayOfCycle / 146096 = 0 := by omega
    have hcenturies : dayOfCycle / 36524 = century := by omega
    by_cases hlate : 1460 ≤ 24 * century + four + 365 * year + day
    · have hfours : dayOfCycle / 1460 = 25 * century + four + 1 := by omega
      rw [hcycle, hcenturies, hfours]
      omega
    · have hfours : dayOfCycle / 1460 = 25 * century + four := by omega
      rw [hcycle, hcenturies, hfours]
      omega

theorem leapDays_of_place {four year : Int} (century : Int) (hfour : 0 ≤ four ∧ four ≤ 24)
    (hyear : 0 ≤ year ∧ year ≤ 3) :
    (100 * century + 4 * four + year) / 4 - (100 * century + 4 * four + year) / 100 =
      24 * century + four := by
  omega

theorem daysBefore_of_place {century four year : Int} (cycle : Int)
    (hcentury : 0 ≤ century ∧ century ≤ 3) (hfour : 0 ≤ four ∧ four ≤ 24)
    (hyear : 0 ≤ year ∧ year ≤ 3) :
    daysBefore (400 * cycle + (100 * century + 4 * four + year)) =
      146097 * cycle + (36524 * century + 1461 * four + 365 * year) := by
  rw [daysBefore]
  omega

theorem isLeap_of_place {century four : Int} (cycle : Int)
    (hfour : 0 ≤ four ∧ four ≤ 24) (hlong : four = 24 → century = 3) :
    isLeap (400 * cycle + (100 * century + 4 * four + 3) + 1) = true := by
  rw [isLeap_iff]
  omega

theorem exists_march (days : Int) :
    ∃ year dayOfYear, HasDay year dayOfYear ∧
      days + epochOffset = daysBefore year + dayOfYear ∧ ofDays days = ofMarch year dayOfYear := by
  have hfirst : 0 ≤ (days + epochOffset) % daysPerCycle := Int.emod_nonneg _ (by decide)
  have hlast : (days + epochOffset) % daysPerCycle < 146097 := Int.emod_lt_of_pos _ (by decide)
  obtain ⟨century, four, year, day, hcentury, hfour, hyear, hday, hlong, hplace⟩ :=
    exists_place _ hfirst hlast
  have hyearOfCycle := yearOfCycle_of_place hcentury hfour hyear hday hlong hplace
  have hbefore := daysBefore_of_place ((days + epochOffset) / daysPerCycle) hcentury hfour hyear
  have hwhole := Int.mul_ediv_add_emod (days + epochOffset) daysPerCycle
  refine ⟨400 * ((days + epochOffset) / daysPerCycle) + (100 * century + 4 * four + year), day,
    ⟨hday.1, hday.2, fun hlast => ?_⟩, ?_, ?_⟩
  · obtain ⟨hyear, hcentury⟩ := hlong hlast
    rw [hyear]
    exact isLeap_of_place _ hfour hcentury
  · calc days + epochOffset
        = 146097 * ((days + epochOffset) / daysPerCycle) +
            (36524 * century + 1461 * four + 365 * year + day) := by
          rw [← hplace]
          exact hwhole.symm
      _ = _ := by
          rw [hbefore]
          ring
  · have hdayOfYear : (days + epochOffset) % daysPerCycle -
        (365 * (100 * century + 4 * four + year) + (100 * century + 4 * four + year) / 4 -
          (100 * century + 4 * four + year) / 100) = day := by
      rw [hplace, Int.add_sub_assoc (365 * _), leapDays_of_place century hfour hyear]
      ring
    simp only [ofDays, hyearOfCycle, hdayOfYear, Int.mul_comm _ (400 : Int)]
    rfl

/-! ### The days of a date -/

theorem daysBefore_eq (year : Int) :
    year / 400 * daysPerCycle + (year % 400 * 365 + year % 400 / 4 - year % 400 / 100) =
      daysBefore year := by
  simp only [daysPerCycle, daysBefore]
  omega

theorem toDays_ofMarch {year dayOfYear : Int} (hfirst : 0 ≤ dayOfYear) (hlast : dayOfYear ≤ 365) :
    (ofMarch year dayOfYear).toDays = daysBefore year + dayOfYear - epochOffset := by
  rw [← daysBefore_eq]
  by_cases hlate : (5 * dayOfYear + 2) / 153 < 10
  · rw [ofMarch_early year rfl hlate, toDays]
    dsimp only
    rw [if_neg (by omega), if_neg (by omega)]
    omega
  · rw [ofMarch_late year rfl hlate, toDays]
    dsimp only
    rw [if_pos (by omega), if_pos (by omega), Int.add_sub_cancel]
    omega

theorem toDays_ofDays (days : Int) : (ofDays days).toDays = days := by
  obtain ⟨year, dayOfYear, hday, hdays, hdate⟩ := exists_march days
  rw [hdate, toDays_ofMarch hday.1 hday.2.1]
  omega

/-! ### No day lies in two years -/

theorem daysBefore_mono {year other : Int} (h : year ≤ other) :
    daysBefore year ≤ daysBefore other := by
  simp only [daysBefore]
  omega

theorem HasDay.before_next {year dayOfYear : Int} (h : HasDay year dayOfYear) :
    daysBefore year + dayOfYear < daysBefore (year + 1) := by
  obtain ⟨-, hlast, hleap⟩ := h
  by_cases hlong : dayOfYear = 365
  · have hleap := isLeap_iff.1 (hleap hlong)
    simp only [daysBefore]
    omega
  · simp only [daysBefore]
    omega

theorem HasDay.year_le {year other dayOfYear otherDay : Int} (hday : HasDay year dayOfYear)
    (hother : HasDay other otherDay)
    (h : daysBefore year + dayOfYear = daysBefore other + otherDay) : other ≤ year := by
  by_contra hlt
  have hnext := hday.before_next
  have hmono : daysBefore (year + 1) ≤ daysBefore other := daysBefore_mono (by omega)
  have hfirst := hother.1
  omega

theorem HasDay.unique {year other dayOfYear otherDay : Int} (hday : HasDay year dayOfYear)
    (hother : HasDay other otherDay)
    (h : daysBefore year + dayOfYear = daysBefore other + otherDay) :
    year = other ∧ dayOfYear = otherDay := by
  obtain rfl : year = other := Int.le_antisymm (hother.year_le hday h.symm) (hday.year_le hother h)
  exact ⟨rfl, by omega⟩

/-! ### Dates that exist -/

theorem year_of_days {year dayOfYear days : Int} (hday : HasDay year dayOfYear)
    (hdays : days + epochOffset = daysBefore year + dayOfYear) (hfirst : -96465292 ≤ days)
    (hlast : days ≤ 95026236) :
    firstYear - 1 ≤ year ∧ year ≤ lastYear ∧ (year = firstYear - 1 → 306 ≤ dayOfYear) ∧
      (year = lastYear → dayOfYear < 306) := by
  obtain ⟨h0, h365, -⟩ := hday
  simp only [epochOffset, daysBefore, firstYear, lastYear] at *
  refine ⟨?_, ?_, ?_, ?_⟩
  · omega
  · omega
  · omega
  · omega

theorem length_of_month (year : Int) {dayOfYear month : Int} (hfirst : 0 ≤ dayOfYear)
    (hlast : dayOfYear < 337) (hmonth : month = (5 * dayOfYear + 2) / 153) :
    dayOfYear - (153 * month + 2) / 5 + 1 ≤
      monthLength year (if month < 10 then month + 3 else month - 9).toNat := by
  have hbounds : 0 ≤ month ∧ month ≤ 10 := by omega
  obtain ⟨hlow, hhigh⟩ := hbounds
  interval_cases month
  all_goals
    simp [monthLength]
    omega

theorem length_of_february {year dayOfYear : Int} (h : HasDay year dayOfYear) :
    dayOfYear - 336 ≤ monthLength (year + 1) 2 := by
  obtain ⟨-, hlast, hleap⟩ := h
  by_cases hlong : dayOfYear = 365
  · rw [hlong, monthLength, hleap hlong]
    decide
  · have hshort : 28 ≤ monthLength (year + 1) 2 := by
      cases hcase : isLeap (year + 1) <;> simp [monthLength, hcase]
    omega

/-- The first year that can be handled begins with January, and the last one ends with December. -/
theorem isValid_ofMarch {year dayOfYear : Int} (hday : HasDay year dayOfYear)
    (hfirst : firstYear - 1 ≤ year) (hlast : year ≤ lastYear)
    (hbegin : year = firstYear - 1 → 306 ≤ dayOfYear) (hend : year = lastYear → dayOfYear < 306) :
    (ofMarch year dayOfYear).isValid = true := by
  have hfebruary := length_of_february hday
  obtain ⟨h0, h365, -⟩ := hday
  by_cases hlate : 337 ≤ dayOfYear
  · have hmonth : (5 * dayOfYear + 2) / 153 = 11 := by omega
    have hdate : ofMarch year dayOfYear = ⟨year + 1, 2, (dayOfYear - 337 + 1).toNat⟩ := by
      rw [ofMarch_late year hmonth (by decide)]
      rfl
    rw [hdate]
    simp only [isValid, Bool.and_eq_true, decide_eq_true_eq]
    omega
  · obtain ⟨month, hmonth⟩ : ∃ month, month = (5 * dayOfYear + 2) / 153 := ⟨_, rfl⟩
    have hlength := fun year => length_of_month year h0 (by omega) hmonth
    by_cases hearly : month < 10
    · have hlength := hlength year
      rw [if_pos hearly] at hlength
      rw [ofMarch_early year hmonth.symm hearly]
      simp only [isValid, Bool.and_eq_true, decide_eq_true_eq]
      omega
    · have hlength := hlength (year + 1)
      rw [if_neg hearly] at hlength
      rw [ofMarch_late year hmonth.symm hearly]
      simp only [isValid, Bool.and_eq_true, decide_eq_true_eq]
      omega

theorem isValid_ofDays {days : Int} (hfirst : -96465292 ≤ days) (hlast : days ≤ 95026236) :
    (ofDays days).isValid = true := by
  obtain ⟨year, dayOfYear, hday, hdays, hdate⟩ := exists_march days
  obtain ⟨hyear, hyear', hbegin, hend⟩ := year_of_days hday hdays hfirst hlast
  rw [hdate]
  exact isValid_ofMarch hday hyear hyear' hbegin hend

theorem exists_of_isValid {date : Date} (h : date.isValid = true) :
    ∃ year dayOfYear, HasDay year dayOfYear ∧ ofMarch year dayOfYear = date := by
  obtain ⟨year, month, day⟩ := date
  simp only [isValid, Bool.and_eq_true, decide_eq_true_eq] at h
  obtain ⟨⟨⟨⟨-, hmonth⟩, hmonth'⟩, hday⟩, hlength⟩ := h
  obtain rfl | rfl | hlate : month = 1 ∨ month = 2 ∨ 3 ≤ month := by omega
  · have hlength : day ≤ 31 := hlength
    have hm : (5 * (305 + (day : Int)) + 2) / 153 = 10 := by omega
    refine ⟨year - 1, 305 + day, ⟨by omega, by omega, by omega⟩, ?_⟩
    rw [ofMarch_late _ hm (by decide), mk.injEq]
    omega
  · have hlength : day ≤ if isLeap year then 29 else 28 := hlength
    have hleap : day = 29 → isLeap year = true := by
      intro hlast
      by_contra hcommon
      rw [if_neg hcommon] at hlength
      omega
    have hday' : day ≤ 29 := by
      split at hlength <;> omega
    have hm : (5 * (336 + (day : Int)) + 2) / 153 = 11 := by omega
    refine ⟨year - 1, 336 + day, ⟨by omega, by omega, fun hlast => ?_⟩, ?_⟩
    · rw [Int.sub_add_cancel]
      exact hleap (by omega)
    · rw [ofMarch_late _ hm (by decide), mk.injEq]
      omega
  · obtain ⟨dayOfYear, hdayOfYear⟩ : ∃ dayOfYear : Int,
        dayOfYear = (153 * (month - 3) + 2) / 5 + (day - 1) := ⟨_, rfl⟩
    have hm : (5 * dayOfYear + 2) / 153 = month - 3 := by
      interval_cases month
      all_goals
        simp [monthLength] at hlength
        omega
    refine ⟨year, dayOfYear, ⟨by omega, by omega, by omega⟩, ?_⟩
    rw [ofMarch_early _ hm (by omega), mk.injEq]
    omega

theorem ofDays_toDays {date : Date} (h : date.isValid = true) : ofDays date.toDays = date := by
  obtain ⟨year, dayOfYear, hday, hdate⟩ := exists_of_isValid h
  obtain ⟨other, otherDay, hother, hdays, hdate'⟩ := exists_march date.toDays
  have htotal : daysBefore year + dayOfYear = daysBefore other + otherDay := by
    rw [← hdays, ← hdate, toDays_ofMarch hday.1 hday.2.1]
    omega
  obtain ⟨rfl, rfl⟩ := hday.unique hother htotal
  rw [hdate', hdate]

theorem toDays_of_isValid {date : Date} (h : date.isValid = true) :
    -96465292 ≤ date.toDays ∧ date.toDays ≤ 95026236 := by
  obtain ⟨year, month, day⟩ := date
  have hlength : monthLength year month ≤ 31 := monthLength_le year month
  simp only [isValid, Bool.and_eq_true, decide_eq_true_eq] at h
  simp only [firstYear, lastYear] at h
  by_cases hearly : month ≤ 2
  · have hdays : toDays ⟨year, month, day⟩ =
        daysBefore (year - 1) + ((153 * (month + 9) + 2) / 5 + (day - 1)) - epochOffset := by
      rw [← daysBefore_eq, toDays, if_pos hearly, if_pos hearly, Int.add_assoc (_ * _)]
    rw [hdays]
    simp only [daysBefore, epochOffset]
    omega
  · have hdays : toDays ⟨year, month, day⟩ =
        daysBefore year + ((153 * (month - 3) + 2) / 5 + (day - 1)) - epochOffset := by
      rw [← daysBefore_eq, toDays, if_neg hearly, if_neg hearly, Int.add_assoc (_ * _)]
    rw [hdays]
    simp only [daysBefore, epochOffset]
    omega

end Fixture.Date
