/-
Day numbers, dates, and what a step of the calendar does to a moment.

A date is found from its day number by two divisions that are not exact: the number of the
year in its era is guessed from the day, and the month from the day of the year. Both
guesses are right. With years that begin in March, the day before which a year begins is a
sum of four quotients (`daysToMarch`), the day of an era lies in the year that is guessed
(`exists_yearOfEra`), and so a day number gives a date that gives the day number back
(`toDayNumber_ofDayNumber`) and exists (`date_ofDayNumber`).

Months are counted through, from January of the year 0, so that adding months is adding
numbers; each begins when the one before it is over (`monthStart_succ`). A step forwards
therefore never leads to an earlier moment, nor a step backwards to a later one, whatever
its unit (`TimeUnit.toSeconds_le_of_add?`, `TimeUnit.le_toSeconds_of_add?`).
-/
import MonitorControl.Time.Phrase
import Mathlib.Tactic.IntervalCases

set_option autoImplicit false

namespace MonitorControl

/-! ## Years that begin in March -/

/-- **The number of days before the first of March of a year**, from that of the year 0. -/
def daysToMarch (year : Int) : Int := 365 * year + year / 4 - year / 100 + year / 400

theorem isLeapYear_iff (year : Int) :
    isLeapYear year = true ↔ year % 4 = 0 ∧ (year % 100 ≠ 0 ∨ year % 400 = 0) := by
  simp [isLeapYear]

/-- A year that begins in March ends with a leap day, if the one that began in January has one. -/
theorem daysToMarch_sub (year : Int) :
    daysToMarch year - daysToMarch (year - 1) = if isLeapYear year then 366 else 365 := by
  have hleap := isLeapYear_iff year
  have h4 : year / 4 - (year - 1) / 4 = if year % 4 = 0 then 1 else 0 := by split <;> omega
  have h100 : year / 100 - (year - 1) / 100 = if year % 100 = 0 then 1 else 0 := by
    split <;> omega
  have h400 : year / 400 - (year - 1) / 400 = if year % 400 = 0 then 1 else 0 := by
    split <;> omega
  have hfour : year % 100 % 4 = year % 4 := Int.emod_emod_of_dvd year (by decide)
  have hhundred : year % 400 % 100 = year % 100 := Int.emod_emod_of_dvd year (by decide)
  by_cases h : isLeapYear year = true
  · have hyear := hleap.1 h
    rw [if_pos h]
    simp only [daysToMarch]
    split at h4 <;> split at h100 <;> split at h400 <;> omega
  · have hyear := (not_congr hleap).1 h
    rw [if_neg h]
    simp only [daysToMarch]
    split at h4 <;> split at h100 <;> split at h400 <;> omega

/-- Every era has the same days. -/
theorem daysToMarch_add_era (year era : Int) :
    daysToMarch (year + era * 400) = daysToMarch year + era * 146097 := by
  have h4 : (year + era * 400) / 4 = year / 4 + era * 100 := by omega
  have h100 : (year + era * 400) / 100 = year / 100 + era * 4 := by omega
  have h400 : (year + era * 400) / 400 = year / 400 + era := by omega
  simp only [daysToMarch, h4, h100, h400]
  omega

/-- **A day of an era lies in the year that is guessed for it.** The day is split as the leap days
are: into centuries, and those into spans of four years. The last day of the era belongs to a fifth
century and is a case of its own. -/
theorem exists_yearOfEra {dayOfEra : Int} (hfirst : 0 ≤ dayOfEra) (hlast : dayOfEra < 146097) :
    ∃ year, year = (dayOfEra - dayOfEra / 1460 + dayOfEra / 36524 - dayOfEra / 146096) / 365 ∧
      0 ≤ year ∧ year < 400 ∧ daysToMarch year ≤ dayOfEra ∧ dayOfEra < daysToMarch (year + 1) := by
  by_cases hleap : dayOfEra = 146096
  · subst hleap
    exact ⟨399, by decide⟩
  obtain ⟨century, inCentury, hera, hc, hc', hi, hi'⟩ : ∃ century inCentury : Int,
      dayOfEra = 36524 * century + inCentury ∧ 0 ≤ century ∧ century ≤ 3 ∧
        0 ≤ inCentury ∧ inCentury < 36524 :=
    ⟨dayOfEra / 36524, dayOfEra % 36524, by omega, by omega, by omega, by omega, by omega⟩
  obtain ⟨four, inFour, hcentury, hf, hf', hd, hd'⟩ : ∃ four inFour : Int,
      inCentury = 1461 * four + inFour ∧ 0 ≤ four ∧ four ≤ 24 ∧ 0 ≤ inFour ∧ inFour < 1461 :=
    ⟨inCentury / 1461, inCentury % 1461, by omega, by omega, by omega, by omega, by omega⟩
  have hcenturies : dayOfEra / 36524 = century := by omega
  have hend : dayOfEra / 146096 = 0 := by omega
  -- only the fourth of four years can have a day more
  obtain ⟨year, hyear, hy, hy', hlow, hhigh⟩ : ∃ year : Int,
      100 * century + 4 * four + year =
        (dayOfEra - dayOfEra / 1460 + dayOfEra / 36524 - dayOfEra / 146096) / 365 ∧
      0 ≤ year ∧ year ≤ 3 ∧ 365 * year ≤ inFour ∧
        (inFour < 365 * (year + 1) ∨ year = 3 ∧ inFour = 1460) := by
    rw [hcenturies, hend]
    by_cases hb : four + inFour + 24 * century < 1460
    · have hfours : dayOfEra / 1460 = 25 * century + four := by omega
      rw [hfours]
      exact ⟨inFour / 365, by omega, by omega, by omega, by omega, by omega⟩
    · have hfours : dayOfEra / 1460 = 25 * century + four + 1 := by omega
      rw [hfours]
      exact ⟨3, by omega, by omega, by omega, by omega, by omega⟩
  refine ⟨100 * century + 4 * four + year, hyear, by omega, by omega, ?_, ?_⟩
  · have h4 : (100 * century + 4 * four + year) / 4 = 25 * century + four := by omega
    have h100 : (100 * century + 4 * four + year) / 100 = century := by omega
    have h400 : (100 * century + 4 * four + year) / 400 = 0 := by omega
    rw [daysToMarch, h4, h100, h400]
    omega
  · -- the leap day of a century is its last, and that was split off
    rcases hhigh with hhigh | ⟨rfl, hhigh⟩
    · have h4 : 25 * century + four ≤ (100 * century + 4 * four + year + 1) / 4 := by omega
      have h100 : (100 * century + 4 * four + year + 1) / 100 ≤
          (100 * century + 4 * four + year + 1) / 4 - 24 * century - four := by omega
      rw [daysToMarch]
      omega
    · have h4 : (100 * century + 4 * four + 3 + 1) / 4 = 25 * century + four + 1 := by omega
      have h100 : (100 * century + 4 * four + 3 + 1) / 100 = century := by omega
      rw [daysToMarch, h4, h100]
      omega

/-! ## Dates of a day -/

/-- The date of a day of a year that begins in March. -/
def Date.ofMarch (year dayOfYear : Int) : Date :=
  let monthFromMarch := (5 * dayOfYear + 2) / 153
  let month := if monthFromMarch < 10 then monthFromMarch + 3 else monthFromMarch - 9
  { year := year + (if month ≤ 2 then 1 else 0)
    month := month.toNat
    day := (dayOfYear - (153 * monthFromMarch + 2) / 5 + 1).toNat }

/-- **Every day lies in a year that begins in March**, and its date is found there. -/
theorem exists_ofMarch (n : Int) :
    ∃ year dayOfYear : Int, Date.ofDayNumber n = .ofMarch year dayOfYear ∧
      n + 719468 = daysToMarch year + dayOfYear ∧ 0 ≤ dayOfYear ∧
      daysToMarch year + dayOfYear < daysToMarch (year + 1) := by
  obtain ⟨year, hyear, hfirst, hlast, hstart, hstop⟩ :=
    exists_yearOfEra (show 0 ≤ (n + 719468) % 146097 by omega) (by omega)
  have hdays : daysToMarch year = 365 * year + year / 4 - year / 100 := by
    have h400 : year / 400 = 0 := by omega
    rw [daysToMarch, h400, Int.add_zero]
  have hera := daysToMarch_add_era year ((n + 719468) / 146097)
  have hera' := daysToMarch_add_era (year + 1) ((n + 719468) / 146097)
  rw [Int.add_right_comm] at hera'
  refine ⟨year + (n + 719468) / 146097 * 400, (n + 719468) % 146097 - daysToMarch year, ?_,
    by omega, by omega, by omega⟩
  simp only [Date.ofDayNumber, Date.ofMarch, ← hyear, hdays]

/-- **The months from March on**: five of them have 153 days, and so have the next five. -/
theorem ofMarch_cases (year : Int) {dayOfYear : Int} (hfirst : 0 ≤ dayOfYear)
    (hlast : dayOfYear ≤ 365) :
    ∃ month day : Nat, month < 12 ∧ (day : Int) = dayOfYear - (153 * month + 2) / 5 + 1 ∧
      1 ≤ day ∧ dayOfYear < (153 * (month + 1) + 2) / 5 ∧
      Date.ofMarch year dayOfYear =
        { year := if month < 10 then year else year + 1
          month := if month < 10 then month + 3 else month - 9
          day := day } := by
  obtain ⟨month, hmonth⟩ : ∃ month : Nat, (5 * dayOfYear + 2) / 153 = month :=
    ⟨((5 * dayOfYear + 2) / 153).toNat, by omega⟩
  obtain ⟨day, hday⟩ : ∃ day : Nat, dayOfYear - (153 * month + 2) / 5 + 1 = day :=
    ⟨(dayOfYear - (153 * month + 2) / 5 + 1).toNat, by omega⟩
  refine ⟨month, day, by omega, hday.symm, by omega, by omega, ?_⟩
  simp only [Date.ofMarch, hmonth, hday]
  by_cases h : month < 10
  · have h' : (month : Int) < 10 := by omega
    have hlate : ¬ (month : Int) + 3 ≤ 2 := by omega
    simp only [h, h', hlate, if_true, if_false, Date.mk.injEq]
    omega
  · have h' : ¬ (month : Int) < 10 := by omega
    have hearly : (month : Int) - 9 ≤ 2 := by omega
    simp only [h, h', hearly, if_true, if_false, Date.mk.injEq, true_and]
    omega

theorem toDayNumber_eq (d : Date) :
    d.toDayNumber = daysToMarch (if d.month ≤ 2 then d.year - 1 else d.year) +
      (153 * ((d.month + 9) % 12 : Nat) + 2) / 5 + d.day - 719469 := by
  simp only [Date.toDayNumber, daysToMarch]
  generalize (if d.month ≤ 2 then d.year - 1 else d.year) = year
  omega

/-- **A date gives its day number back.** -/
theorem toDayNumber_ofDayNumber (n : Int) : (Date.ofDayNumber n).toDayNumber = n := by
  obtain ⟨year, dayOfYear, hdate, hn, hfirst, hlast⟩ := exists_ofMarch n
  have hyear := daysToMarch_sub (year + 1)
  rw [Int.add_sub_cancel] at hyear
  have hlength : dayOfYear ≤ 365 := by split at hyear <;> omega
  obtain ⟨month, day, hmonth, hday, -, -, hmarch⟩ := ofMarch_cases year hfirst hlength
  rw [hdate, hmarch, toDayNumber_eq]
  by_cases h : month < 10
  · have hmod : (month + 3 + 9) % 12 = month := by omega
    simp only [h, if_true, hmod]
    rw [if_neg (by omega)]
    omega
  · -- January and February belong to the year that began in the March before
    have hmod : (month - 9 + 9) % 12 = month := by omega
    simp only [h, if_false, hmod]
    rw [if_pos (by omega), Int.add_sub_cancel]
    omega

/-- **The date of a day exists**: it has a month, and a day of that month. -/
theorem date_ofDayNumber (n : Int) :
    let d := Date.ofDayNumber n
    1 ≤ d.month ∧ d.month ≤ 12 ∧ 1 ≤ d.day ∧ d.day ≤ daysInMonth d.year d.month := by
  obtain ⟨year, dayOfYear, hdate, hn, hfirst, hlast⟩ := exists_ofMarch n
  have hyear := daysToMarch_sub (year + 1)
  rw [Int.add_sub_cancel] at hyear
  have hlength : dayOfYear ≤ 365 := by split at hyear <;> omega
  obtain ⟨month, day, hmonth, hday, hone, hnext, hmarch⟩ := ofMarch_cases year hfirst hlength
  simp only [hdate, hmarch]
  refine ⟨by split <;> omega, by split <;> omega, hone, ?_⟩
  by_cases hfebruary : month = 11
  · -- the last month is as long as its year lets it be
    subst hfebruary
    simp only [daysInMonth]
    split at hyear <;> simp_all <;> omega
  · interval_cases month <;> simp [daysInMonth] at hday hnext hfebruary ⊢ <;> omega

/-! ## Months counted through -/

/-- **The first day of a month**, for months counted from January of the year 0. -/
def monthStart (total : Int) : Int :=
  (Date.mk (total / 12) ((total % 12).toNat + 1) 1).toDayNumber

/-- The length of a month. -/
def monthLength (total : Int) : Nat := daysInMonth (total / 12) ((total % 12).toNat + 1)

theorem toDayNumber_mk (total : Int) (day : Nat) :
    (Date.mk (total / 12) ((total % 12).toNat + 1) day).toDayNumber =
      monthStart total + day - 1 := by
  simp only [monthStart, toDayNumber_eq]
  omega

/-- **A month begins when the one before it is over.** -/
theorem monthStart_succ (total : Int) :
    monthStart (total + 1) = monthStart total + monthLength total := by
  obtain ⟨year, month, htotal, hmonth⟩ : ∃ (year : Int) (month : Nat),
      total = 12 * year + month ∧ month < 12 :=
    ⟨total / 12, (total % 12).toNat, by omega, by omega⟩
  have hdiv : total / 12 = year := by omega
  have hmod : (total % 12).toNat = month := by omega
  have hdiv' : (total + 1) / 12 = if month = 11 then year + 1 else year := by split <;> omega
  have hmod' : ((total + 1) % 12).toNat = if month = 11 then 0 else month + 1 := by
    split <;> omega
  have hmarch := daysToMarch_sub year
  simp only [monthStart, monthLength, toDayNumber_eq, hdiv, hmod, hdiv', hmod', daysInMonth]
  generalize isLeapYear year = leap at hmarch ⊢
  clear hdiv hmod hdiv' hmod' htotal
  interval_cases month <;> simp at hmarch ⊢ <;> cases leap <;> simp at hmarch ⊢ <;> omega

theorem monthLength_pos (total : Int) : 1 ≤ monthLength total := by
  simp only [monthLength, daysInMonth]
  split
  · split <;> omega
  · split <;> omega

/-- **Later months begin no earlier.** -/
theorem monthStart_le {a b : Int} (h : a ≤ b) : monthStart a ≤ monthStart b := by
  obtain ⟨count, rfl⟩ : ∃ count : Nat, b = a + count := ⟨(b - a).toNat, by omega⟩
  clear h
  induction count with
  | zero => simp
  | succ count ih =>
    have hnext := monthStart_succ (a + count)
    rw [Int.natCast_add, Int.natCast_one, ← Int.add_assoc]
    omega

/-! ## Steps -/

namespace Moment

/-- A number of seconds is that of its moment. -/
theorem toSeconds_ofSeconds (s : Int) : (ofSeconds s).toSeconds = s := by
  simp only [toSeconds, ofSeconds, secondsPerDay, Int.ofNat_eq_natCast]
  omega

variable {m m' : Moment}

/-- A moment in the calendar is the only one that is let through. -/
theorem inCalendar?_eq_some (h : m.inCalendar? = some m') : m' = m := by
  rw [inCalendar?, Option.ite_none_right_eq_some, Option.some_inj] at h
  exact h.2.symm

/-- **Seconds that are added are counted**, but for one when they lead forwards from a leap second. -/
theorem toSeconds_of_addSeconds? {s : Int} (h : m.addSeconds? s = some m') :
    m'.toSeconds = m.toSeconds + s ∨ 0 < s ∧ m'.toSeconds = m.toSeconds - 1 + s := by
  rw [addSeconds?] at h
  split at h
  · next hzero =>
    rw [inCalendar?_eq_some h, beq_iff_eq.1 hzero, Int.add_zero]
    exact .inl rfl
  · split at h
    · next hleap =>
      rw [Bool.and_eq_true, decide_eq_true_iff] at hleap
      rw [inCalendar?_eq_some h, toSeconds_ofSeconds]
      exact .inr ⟨hleap.2, rfl⟩
    · rw [inCalendar?_eq_some h, toSeconds_ofSeconds]
      exact .inl rfl

/-- **The month of a moment and the day in it**, and what adding months does to them: the day stays,
where the month has it. -/
theorem exists_month (m : Moment) :
    ∃ (month : Int) (day : Nat), m.day = monthStart month + day - 1 ∧ 1 ≤ day ∧
      day ≤ monthLength month ∧ ∀ (months : Int) (m' : Moment), m.addMonths? months = some m' →
        m' = { m with day := monthStart (month + months) +
          (min day (monthLength (month + months)) : Nat) - 1 } := by
  obtain ⟨hfirst, hlast, hone, hlength⟩ : 1 ≤ m.date.month ∧ m.date.month ≤ 12 ∧
      1 ≤ m.date.day ∧ m.date.day ≤ daysInMonth m.date.year m.date.month := date_ofDayNumber m.day
  have hyear : (m.date.year * 12 + m.date.month - 1) / 12 = m.date.year := by omega
  have hmonth : ((m.date.year * 12 + m.date.month - 1) % 12).toNat + 1 = m.date.month := by omega
  refine ⟨m.date.year * 12 + m.date.month - 1, m.date.day, ?_, hone, ?_, ?_⟩
  · rw [← toDayNumber_mk, hyear, hmonth]
    exact (toDayNumber_ofDayNumber m.day).symm
  · rw [monthLength, hyear, hmonth]
    exact hlength
  · intro months m' h
    simp only [addMonths?] at h
    rw [Option.ite_none_right_eq_some, Option.some_inj] at h
    rw [← h.2, ← toDayNumber_mk]
    rfl

theorem toSeconds_le_toSeconds {day day' : Int} (h : day ≤ day') :
    ({ m with day } : Moment).toSeconds ≤ ({ m with day := day' } : Moment).toSeconds := by
  simp only [toSeconds, secondsPerDay]
  omega

/-- **Months backwards do not lead forwards**: even the last day of an earlier month is earlier. -/
theorem toSeconds_le_of_addMonths? {months : Int} (h : m.addMonths? months = some m')
    (hmonths : months ≤ 0) : m'.toSeconds ≤ m.toSeconds := by
  obtain ⟨month, day, hday, hone, hlength, hadd⟩ := m.exists_month
  rw [hadd months m' h]
  refine toSeconds_le_toSeconds (?_ : _ ≤ m.day)
  rcases Int.lt_or_eq_of_le hmonths with hback | rfl
  · have hnext := monthStart_succ (month + months)
    have hle := monthStart_le (show month + months + 1 ≤ month by omega)
    omega
  · rw [Int.add_zero]
    omega

/-- **Months forwards do not lead backwards.** -/
theorem le_toSeconds_of_addMonths? {months : Int} (h : m.addMonths? months = some m')
    (hmonths : 0 ≤ months) : m.toSeconds ≤ m'.toSeconds := by
  obtain ⟨month, day, hday, hone, hlength, hadd⟩ := m.exists_month
  rw [hadd months m' h]
  refine toSeconds_le_toSeconds (?_ : m.day ≤ _)
  rcases Int.lt_or_eq_of_le hmonths with hforth | rfl
  · have hnext := monthStart_succ month
    have hle := monthStart_le (show month + 1 ≤ month + months by omega)
    have hpos := monthLength_pos (month + months)
    omega
  · rw [Int.add_zero]
    omega

end Moment

/-- **A step backwards does not lead forwards**, whatever its unit. -/
theorem TimeUnit.toSeconds_le_of_add? {unit : TimeUnit} {amount : Int} {m m' : Moment}
    (h : unit.add? amount m = some m') (hamount : amount ≤ 0) : m'.toSeconds ≤ m.toSeconds := by
  cases unit with
  | month => exact Moment.toSeconds_le_of_addMonths? h hamount
  | year => exact Moment.toSeconds_le_of_addMonths? h (by omega)
  | _ =>
    have hcount := Moment.toSeconds_of_addSeconds? h
    omega

/-- **A step forwards does not lead backwards.** -/
theorem TimeUnit.le_toSeconds_of_add? {unit : TimeUnit} {amount : Int} {m m' : Moment}
    (h : unit.add? amount m = some m') (hamount : 0 ≤ amount) : m.toSeconds ≤ m'.toSeconds := by
  cases unit with
  | month => exact Moment.le_toSeconds_of_addMonths? h hamount
  | year => exact Moment.le_toSeconds_of_addMonths? h (by omega)
  | _ =>
    have hcount := Moment.toSeconds_of_addSeconds? h
    omega

end MonitorControl
