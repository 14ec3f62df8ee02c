/-
The day that a phrase such as `last Monday` means.

A moment knows its day by a number, and the day of the week is a remainder of that number.
What the days of the week really are is said of dates: the first of January 1970 was a
Thursday, and wherever one date follows another, over the ends of months and years and over
leap days, the day of the week moves on by one, forwards and backwards (`FallsOn`). The day
numbers of dates follow one another as the dates do (`Date.toDayNumber_next`,
`Date.ofDayNumber_succ`), so the remainder is right on every date (`fallsOn_ofDayNumber_iff`).

A phrase then means the nearest day of that name on its side of today
(`resolvePhrase_weekday`). Of the seven days that come into question exactly one has the name,
and the remainder of the distance says which (`occurrence_means`).
-/
import MonitorControl.Proofs.Time.Overflow
import Mathlib.Order.Bounds.Defs

set_option autoImplicit false

namespace MonitorControl

open Text

/-! ## Dates that follow one another -/

namespace Date

/-- **A date that there is**: the year has the month, and the month has the day. -/
structure IsDate (d : Date) : Prop where
  one_le_month : 1 ≤ d.month
  month_le : d.month ≤ 12
  one_le_day : 1 ≤ d.day
  day_le : d.day ≤ daysInMonth d.year d.month

instance (d : Date) : Decidable d.IsDate :=
  decidable_of_iff
    (1 ≤ d.month ∧ d.month ≤ 12 ∧ 1 ≤ d.day ∧ d.day ≤ daysInMonth d.year d.month)
    ⟨fun ⟨h, h₁, h₂, h₃⟩ => ⟨h, h₁, h₂, h₃⟩, fun ⟨h, h₁, h₂, h₃⟩ => ⟨h, h₁, h₂, h₃⟩⟩

/-- **The date after a date**: the next day of the month, or the first of the next month. -/
def next (d : Date) : Date :=
  if d.day < daysInMonth d.year d.month then ⟨d.year, d.month, d.day + 1⟩
  else if d.month < 12 then ⟨d.year, d.month + 1, 1⟩
  else ⟨d.year + 1, 1, 1⟩

theorem isDate_ofDayNumber (n : Int) : (ofDayNumber n).IsDate := by
  obtain ⟨hone, htwelve, hfirst, hlast⟩ := date_ofDayNumber n
  exact ⟨hone, htwelve, hfirst, hlast⟩

/-- The number of the month of a date, counted through from January of the year 0. -/
def monthCount (d : Date) : Int := 12 * d.year + d.month - 1

namespace IsDate

variable {d e : Date}

/-- The month of a date, found again from its number. -/
theorem monthCount_eq (h : d.IsDate) :
    d.monthCount / 12 = d.year ∧ (d.monthCount % 12).toNat + 1 = d.month := by
  have hone := h.one_le_month
  have htwelve := h.month_le
  rw [monthCount]
  omega

theorem toDayNumber_eq_monthStart (h : d.IsDate) :
    d.toDayNumber = monthStart d.monthCount + d.day - 1 := by
  rw [← toDayNumber_mk, h.monthCount_eq.1, h.monthCount_eq.2]

theorem monthLength_eq (h : d.IsDate) :
    monthLength d.monthCount = daysInMonth d.year d.month := by
  rw [monthLength, h.monthCount_eq.1, h.monthCount_eq.2]

/-- A date of a later month comes later. -/
theorem toDayNumber_lt (hd : d.IsDate) (he : e.IsDate) (h : d.monthCount < e.monthCount) :
    d.toDayNumber < e.toDayNumber := by
  have hover := monthStart_succ d.monthCount
  have hle := monthStart_le (show d.monthCount + 1 ≤ e.monthCount by omega)
  have hlast := hd.day_le
  rw [← hd.monthLength_eq] at hlast
  have hfirst := he.one_le_day
  rw [hd.toDayNumber_eq_monthStart, he.toDayNumber_eq_monthStart]
  omega

/-- **No two dates have one day number.** -/
theorem eq_of_toDayNumber (hd : d.IsDate) (he : e.IsDate) (h : d.toDayNumber = e.toDayNumber) :
    d = e := by
  have hmonth : d.monthCount = e.monthCount := by
    rcases Int.lt_trichotomy d.monthCount e.monthCount with hlt | heq | hgt
    · exact absurd h (by have := hd.toDayNumber_lt he hlt; omega)
    · exact heq
    · exact absurd h (by have := he.toDayNumber_lt hd hgt; omega)
  have hday : d.day = e.day := by
    rw [hd.toDayNumber_eq_monthStart, he.toDayNumber_eq_monthStart, hmonth] at h
    omega
  obtain ⟨hyear, hcount⟩ := hd.monthCount_eq
  obtain ⟨hyear', hcount'⟩ := he.monthCount_eq
  rw [hmonth] at hyear hcount
  obtain ⟨year, month, day⟩ := d
  obtain ⟨year', month', day'⟩ := e
  cases hday
  cases hyear.symm.trans hyear'
  cases hcount.symm.trans hcount'
  rfl

/-- **The date after a date is the next day**, and it is a date that there is. -/
theorem next (h : d.IsDate) : d.next.IsDate ∧ d.next.toDayNumber = d.toDayNumber + 1 := by
  have hlength := h.monthLength_eq
  have hlast := h.day_le
  by_cases hday : d.day < daysInMonth d.year d.month
  · have hnext : (⟨d.year, d.month, d.day + 1⟩ : Date).IsDate :=
      ⟨h.one_le_month, h.month_le, Nat.succ_pos d.day, hday⟩
    rw [Date.next, if_pos hday]
    refine ⟨hnext, ?_⟩
    rw [hnext.toDayNumber_eq_monthStart, h.toDayNumber_eq_monthStart]
    simp only [monthCount]
    omega
  · -- the month is over, and the next one begins on the day after
    have hbegin : ∀ e : Date, e.day = 1 → e.IsDate → e.monthCount = d.monthCount + 1 →
        e.toDayNumber = d.toDayNumber + 1 := by
      intro e hfirst he hcount
      have hover := monthStart_succ d.monthCount
      rw [he.toDayNumber_eq_monthStart, h.toDayNumber_eq_monthStart, hcount, hfirst]
      omega
    have hone : ∀ year month, 1 ≤ daysInMonth year month := by
      intro year month
      simp only [daysInMonth]
      split
      · split <;> omega
      · split <;> omega
    rw [Date.next, if_neg hday]
    by_cases hmonth : d.month < 12
    · have hnext : (⟨d.year, d.month + 1, 1⟩ : Date).IsDate :=
        ⟨by simp, hmonth, Nat.le_refl 1, hone _ _⟩
      rw [if_pos hmonth]
      refine ⟨hnext, hbegin _ rfl hnext ?_⟩
      simp only [monthCount]
      omega
    · have hnext : (⟨d.year + 1, 1, 1⟩ : Date).IsDate :=
        ⟨Nat.le_refl 1, by simp, Nat.le_refl 1, hone _ _⟩
      have htwelve := h.month_le
      rw [if_neg hmonth]
      refine ⟨hnext, hbegin _ rfl hnext ?_⟩
      simp only [monthCount]
      omega

end IsDate

/-- **Days that follow one another have dates that do.** -/
theorem ofDayNumber_succ (n : Int) : ofDayNumber (n + 1) = (ofDayNumber n).next := by
  obtain ⟨hdate, hnumber⟩ := (isDate_ofDayNumber n).next
  refine (isDate_ofDayNumber (n + 1)).eq_of_toDayNumber hdate ?_
  rw [hnumber, toDayNumber_ofDayNumber, toDayNumber_ofDayNumber]

end Date

/-! ## The days of the week -/

/-- The day of the week after another. -/
def Weekday.next : Weekday → Weekday
  | .monday => .tuesday
  | .tuesday => .wednesday
  | .wednesday => .thursday
  | .thursday => .friday
  | .friday => .saturday
  | .saturday => .sunday
  | .sunday => .monday

/-- **The day of the week of a date.** The first of January 1970 was a Thursday, and from a date to the
next one the day of the week moves on by one, which also leads back from a date to the one before. -/
inductive FallsOn : Date → Weekday → Prop where
  | thursday : FallsOn ⟨1970, 1, 1⟩ .thursday
  | next {d : Date} {weekday : Weekday} (h : FallsOn d weekday) : FallsOn d.next weekday.next
  | previous {d : Date} {weekday : Weekday} (hd : d.IsDate) (h : FallsOn d.next weekday.next) :
    FallsOn d weekday

theorem Weekday.next_surjective (weekday : Weekday) : ∃ before : Weekday, before.next = weekday := by
  cases weekday
  · exact ⟨.sunday, rfl⟩
  · exact ⟨.monday, rfl⟩
  · exact ⟨.tuesday, rfl⟩
  · exact ⟨.wednesday, rfl⟩
  · exact ⟨.thursday, rfl⟩
  · exact ⟨.friday, rfl⟩
  · exact ⟨.saturday, rfl⟩

/-- The place of a day in its week moves on as the days of the week do. -/
theorem weekdayIndex_succ (n : Int) (weekday : Weekday) :
    weekdayIndex (n + 1) = weekday.next.fromMonday ↔ weekdayIndex n = weekday.fromMonday := by
  simp only [weekdayIndex]
  cases weekday <;> simp only [Weekday.next, Weekday.fromMonday] <;> omega

theorem FallsOn.weekdayIndex_eq {d : Date} {weekday : Weekday} (h : FallsOn d weekday) :
    d.IsDate ∧ weekdayIndex d.toDayNumber = weekday.fromMonday := by
  induction h with
  | thursday => decide
  | next _ ih =>
    obtain ⟨hdate, hnumber⟩ := ih.1.next
    rw [hnumber, weekdayIndex_succ]
    exact ⟨hdate, ih.2⟩
  | previous hd _ ih =>
    have hindex := ih.2
    rw [hd.next.2, weekdayIndex_succ] at hindex
    exact ⟨hd, hindex⟩

theorem fallsOn_of_weekdayIndex (n : Int) : ∀ weekday : Weekday,
    weekdayIndex n = weekday.fromMonday → FallsOn (.ofDayNumber n) weekday := by
  induction n using Int.induction_on with
  | zero =>
    intro weekday hindex
    obtain rfl : weekday = .thursday := by
      revert hindex
      cases weekday <;> decide
    exact .thursday
  | succ n ih =>
    intro weekday hindex
    obtain ⟨before, rfl⟩ := weekday.next_surjective
    rw [Date.ofDayNumber_succ]
    exact .next (ih before ((weekdayIndex_succ _ _).1 hindex))
  | pred n ih =>
    intro weekday hindex
    have hnext : -(n : Int) - 1 + 1 = -n := by omega
    refine .previous (Date.isDate_ofDayNumber _) ?_
    rw [← Date.ofDayNumber_succ, hnext]
    apply ih
    rwa [← hnext, weekdayIndex_succ]

/-- **The remainder of a day number is the day of the week**, on every date. -/
theorem fallsOn_ofDayNumber_iff (n : Int) (weekday : Weekday) :
    FallsOn (.ofDayNumber n) weekday ↔ weekdayIndex n = weekday.fromMonday := by
  refine ⟨fun h => ?_, fallsOn_of_weekdayIndex n weekday⟩
  have hindex := h.weekdayIndex_eq.2
  rwa [toDayNumber_ofDayNumber] at hindex

/-! ## Spelling -/

/-- The names of a day of the week: the whole word, and its first three letters. -/
def Weekday.spellings : Weekday → List Text
  | .monday => ["mon", "monday"]
  | .tuesday => ["tue", "tuesday"]
  | .wednesday => ["wed", "wednesday"]
  | .thursday => ["thu", "thursday"]
  | .friday => ["fri", "friday"]
  | .saturday => ["sat", "saturday"]
  | .sunday => ["sun", "sunday"]

/-- The word for an occurrence. -/
def Occurrence.spelling : Occurrence → Text
  | .last => "last"
  | .next => "next"
  | .this => "this"

/-- **Words in lower case spell a day of the week**, with the occurrence that is meant in front; a day
alone means this one. -/
inductive SpellsWeekday : List Text → Weekday → Occurrence → Prop where
  | alone {day : Text} {weekday : Weekday} (hday : day ∈ weekday.spellings) :
    SpellsWeekday [day] weekday .this
  | directed {day : Text} {weekday : Weekday} (occurrence : Occurrence)
    (hday : day ∈ weekday.spellings) :
    SpellsWeekday [occurrence.spelling, day] weekday occurrence

theorem Weekday.ofName?_of_mem {weekday : Weekday} {day : Text} (h : day ∈ weekday.spellings) :
    Weekday.ofName? day = some weekday := by
  have hall : ∀ name ∈ weekday.spellings, Weekday.ofName? name = some weekday := by
    cases weekday <;> decide
  exact hall day h

theorem Occurrence.ofName?_spelling (occurrence : Occurrence) :
    Occurrence.ofName? occurrence.spelling = some occurrence := by
  cases occurrence <;> decide

/-- What is spelled is read. -/
theorem SpellsWeekday.names {words : List Text} {weekday : Weekday} {occurrence : Occurrence}
    (h : SpellsWeekday words weekday occurrence) : NamesWeekday words weekday occurrence := by
  cases h with
  | alone hday => exact .plain (Weekday.ofName?_of_mem hday)
  | directed occurrence hday =>
    exact .directed occurrence.ofName?_spelling (Weekday.ofName?_of_mem hday)

/-! ## The day that is meant -/

/-- **The day that an occurrence of a day of the week means**, seen from today: the latest one before
today, the earliest one after today, or the earliest one from today on. -/
def Occurrence.Means (weekday : Weekday) (today day : Int) : Occurrence → Prop
  | .last => IsGreatest {d | d < today ∧ FallsOn (.ofDayNumber d) weekday} day
  | .next => IsLeast {d | today < d ∧ FallsOn (.ofDayNumber d) weekday} day
  | .this => IsLeast {d | today ≤ d ∧ FallsOn (.ofDayNumber d) weekday} day

/-- **The remainder of the distance leads to the nearest day of that name**, and no day in between
has it. -/
theorem occurrence_means (now : Moment) (weekday : Weekday) (occurrence : Occurrence) :
    occurrence.Means weekday now.day (weekdayFrom now weekday occurrence).day := by
  show occurrence.Means weekday now.day (now.day + occurrence.offset _)
  generalize hforward : (Int.ofNat weekday.fromMonday - weekdayIndex now.day) % 7 = forward
  have hfirst : 0 ≤ forward := hforward ▸ Int.emod_nonneg _ (by decide)
  have hlast : forward < 7 := hforward ▸ Int.emod_lt_of_pos _ (by decide)
  have hmonday : weekday.fromMonday ≤ 6 := by cases weekday <;> decide
  -- the days of that name are the ones a whole number of weeks away from the first
  have hfalls : ∀ d : Int, FallsOn (.ofDayNumber d) weekday ↔ (d - now.day - forward) % 7 = 0 := by
    intro d
    rw [fallsOn_ofDayNumber_iff]
    simp only [weekdayIndex, Int.ofNat_eq_natCast] at hforward ⊢
    omega
  cases occurrence with
  | last =>
    simp only [Occurrence.Means, Occurrence.offset, hfalls]
    refine ⟨⟨by omega, by omega⟩, ?_⟩
    rintro d ⟨hbefore, hname⟩
    omega
  | next =>
    simp only [Occurrence.Means, Occurrence.offset, hfalls]
    by_cases htoday : forward = 0
    · rw [if_pos (beq_iff_eq.2 htoday)]
      refine ⟨⟨by omega, by omega⟩, ?_⟩
      rintro d ⟨hafter, hname⟩
      omega
    · rw [if_neg (mt beq_iff_eq.1 htoday)]
      refine ⟨⟨by omega, by omega⟩, ?_⟩
      rintro d ⟨hafter, hname⟩
      omega
  | this =>
    simp only [Occurrence.Means, Occurrence.offset, hfalls]
    refine ⟨⟨by omega, by omega⟩, ?_⟩
    rintro d ⟨hfrom, hname⟩
    omega

theorem NamesWeekday.resolveWords_eq {words : List Text} {weekday : Weekday}
    {occurrence : Occurrence} (h : NamesWeekday words weekday occurrence) (now : Moment) :
    resolveWords words now = resolveWeekday now weekday occurrence := by
  cases h with
  | plain hday => simp only [resolveWords, hday]
  | directed hoccurrence hday => simp only [resolveWords, hoccurrence, hday]

/-! ## Main result -/

/-- **A phrase for a day of the week means the right day**, from every date that is a week away from
the ends of the calendar: the start of the nearest day of that name on its side of today, in whatever
case the words are and whatever white space is around them. -/
theorem resolvePhrase_weekday {phrase : Text} {weekday : Weekday} {occurrence : Occurrence}
    {now : Moment} (hphrase : SpellsWeekday phrase.fold.words weekday occurrence)
    (hfirst : firstDay + 7 ≤ now.day) (hlast : now.day + 7 ≤ lastDay) :
    ∃ day, resolvePhrase phrase now = .moment ⟨day, 0, 0, 0⟩ ∧
      FallsOn (.ofDayNumber day) weekday ∧ occurrence.Means weekday now.day day := by
  have hmeans := occurrence_means now weekday occurrence
  refine ⟨(weekdayFrom now weekday occurrence).day, ?_, ?_, hmeans⟩
  · have hnames := hphrase.names
    have hinside : (weekdayFrom now weekday occurrence).inCalendar = true := by
      obtain ⟨hlow, hhigh⟩ := weekdayFrom_day now weekday occurrence
      rw [Moment.inCalendar, Bool.and_eq_true, decide_eq_true_iff, decide_eq_true_iff]
      omega
    rw [(hnames.comesToWords now).checkedPhrase_eq.2, hnames.resolveWords_eq, resolveWeekday,
      if_pos hinside]
    rfl
  · cases occurrence <;> exact hmeans.1.2

/-- The last Thursday before the second of March 2024 is the leap day, and the first of January of
the year 1 is a Monday, so the Sunday before it belongs to the year 0. -/
theorem resolvePhrase_weekday_leapDay :
    let march : Moment := ⟨(Date.mk 2024 3 2).toDayNumber, 10, 30, 0⟩
    let january : Moment := ⟨(Date.mk 1 1 1).toDayNumber, 0, 0, 0⟩
    SpellsWeekday (fold " LAST\tThu ").words .thursday .last ∧
      firstDay + 7 ≤ march.day ∧ march.day + 7 ≤ lastDay ∧
      (∃ day, resolvePhrase " LAST\tThu " march = .moment ⟨day, 0, 0, 0⟩ ∧
        Date.ofDayNumber day = ⟨2024, 2, 29⟩ ∧ FallsOn ⟨2024, 2, 29⟩ .thursday ∧
        Occurrence.Means .thursday march.day day .last) ∧
      resolvePhrase "last sunday" january =
        .moment ⟨(Date.mk 0 12 31).toDayNumber, 0, 0, 0⟩ := by
  intro march january
  have hwords : (fold " LAST\tThu ").words = [Occurrence.spelling .last, "thu".toList] := by decide
  have hspells : SpellsWeekday (fold " LAST\tThu ").words .thursday .last := by
    rw [hwords]
    exact .directed .last (by decide)
  have hfirst : firstDay + 7 ≤ march.day := by decide
  have hlast : march.day + 7 ≤ lastDay := by decide
  obtain ⟨day, hday, hfalls, hmeans⟩ := resolvePhrase_weekday hspells hfirst hlast
  have hdate : Date.ofDayNumber day = ⟨2024, 2, 29⟩ := by
    have hresolved : resolvePhrase " LAST\tThu " march =
        .moment ⟨(Date.mk 2024 2 29).toDayNumber, 0, 0, 0⟩ := by decide
    rw [hday, Resolution.moment.injEq, Moment.mk.injEq] at hresolved
    rw [hresolved.1]
    decide
  rw [hdate] at hfalls
  exact ⟨hspells, hfirst, hlast, ⟨day, hday, hdate, hfalls, hmeans⟩, by decide⟩

end MonitorControl
