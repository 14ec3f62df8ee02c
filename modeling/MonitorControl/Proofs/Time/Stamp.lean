/-
Absolute times with a sign in front.

All layouts of an absolute time begin with a year and a dash, and none looks at the year
again. So reading one is reading that much and then one of four tails
(`readStamp?_eq`), and two texts that differ only in their year are read by the same tail,
as long as both years have the same days (`exists_readTails?`). A sign in front of a text
that begins with a digit changes the year and nothing else (`readStamp?_signed`): a plus
leaves it as it is, and a minus turns it to the other side of the year 0, where a year has
as many days as before.
-/
import MonitorControl.Filter.Condition.TimeRange
import MonitorControl.Proofs.Time.Calendar
import MonitorControl.Proofs.Text.Words
import MonitorControl.Proofs.Time.CaseFolding

set_option autoImplicit false

namespace MonitorControl

open Text

/-! ## Numbers before a mark -/

theorem takeNumber?_eq (width : Nat) (t : Text) :
    takeNumber? width t =
      let digits := (t.takeWhile Char.isDigit).take width
      if digits.isEmpty then none else some (valueOfDigits digits, t.drop digits.length) := by
  rw [takeNumber?, ← List.take_takeWhile]

/-- What stands behind the digits at the head of a text. -/
theorem drop_length_digits (t : Text) :
    t.drop (t.takeWhile Char.isDigit).length = t.dropWhile Char.isDigit := by
  have hsplit : t = t.takeWhile Char.isDigit ++ t.dropWhile Char.isDigit :=
    List.takeWhile_append_dropWhile.symm
  calc t.drop (t.takeWhile Char.isDigit).length
      = (t.takeWhile Char.isDigit ++ t.dropWhile Char.isDigit).drop
          (t.takeWhile Char.isDigit).length := congrArg (List.drop _) hsplit
    _ = t.dropWhile Char.isDigit := List.drop_left

/-- **A number that has a mark behind it** was read to its end. -/
theorem takeNumber?_before_mark {width n : Nat} {t rest : Text} {mark : Char}
    (hmark : mark.isDigit = false) (h : takeNumber? width t = some (n, mark :: rest)) :
    t.takeWhile Char.isDigit ≠ [] ∧ (t.takeWhile Char.isDigit).length ≤ width ∧
      n = valueOfDigits (t.takeWhile Char.isDigit) ∧
      t.dropWhile Char.isDigit = mark :: rest := by
  rw [takeNumber?_eq] at h
  simp only [Option.ite_none_left_eq_some, Option.some_inj, Prod.mk.injEq] at h
  obtain ⟨hsome, hn, hrest⟩ := h
  have hsplit : t.takeWhile Char.isDigit ++ t.dropWhile Char.isDigit = t :=
    List.takeWhile_append_dropWhile
  have hwidth : (t.takeWhile Char.isDigit).length ≤ width := by
    -- a digit that was left over would stand where the mark is
    by_contra hlong
    rw [Nat.not_le] at hlong
    rw [List.length_take_of_le (Nat.le_of_lt hlong), ← hsplit,
      List.drop_append_of_le_length (Nat.le_of_lt hlong)] at hrest
    have hmem : mark ∈ t.takeWhile Char.isDigit := by
      apply List.mem_of_mem_drop (i := width)
      cases hdrop : (t.takeWhile Char.isDigit).drop width with
      | nil => exact absurd (List.drop_eq_nil_iff.1 hdrop) (Nat.not_le.2 hlong)
      | cons c others =>
        rw [hdrop, List.cons_append] at hrest
        rw [(List.cons.inj hrest).1]
        exact List.mem_cons_self
    rw [List.mem_takeWhile_imp hmem] at hmark
    cases hmark
  rw [List.take_of_length_le hwidth] at hsome hn hrest
  rw [drop_length_digits] at hrest
  exact ⟨fun hnil => hsome (List.isEmpty_iff.2 hnil), hwidth, hn.symm, hrest⟩

theorem takeNumber?_of_le {width : Nat} {t : Text} (hne : t.takeWhile Char.isDigit ≠ [])
    (hwidth : (t.takeWhile Char.isDigit).length ≤ width) :
    takeNumber? width t =
      some (valueOfDigits (t.takeWhile Char.isDigit), t.dropWhile Char.isDigit) := by
  rw [takeNumber?_eq, List.take_of_length_le hwidth]
  simp only [drop_length_digits]
  rw [if_neg (mt List.isEmpty_iff.1 hne)]

/-- A number is read off the head of a text, as digits. -/
theorem exists_front_of_takeNumber? {width n : Nat} {t rest : Text}
    (h : takeNumber? width t = some (n, rest)) :
    ∃ front, t = front ++ rest ∧ ∀ c ∈ front, isQuote c = false := by
  simp only [takeNumber?, Option.ite_none_left_eq_some, Option.some_inj, Prod.mk.injEq] at h
  obtain ⟨-, -, rfl⟩ := h
  have hprefix : (t.take width).takeWhile Char.isDigit <+: t :=
    (List.takeWhile_prefix _).trans (List.take_prefix width t)
  refine ⟨(t.take width).takeWhile Char.isDigit, (List.prefix_iff_eq_append.1 hprefix).symm, ?_⟩
  exact fun c hc => isQuote_of_isDigit (List.mem_takeWhile_imp hc)

theorem exists_front_of_takeYear? {n : Int} {t rest : Text} (h : takeYear? t = some (n, rest)) :
    ∃ front, t = front ++ rest ∧ ∀ c ∈ front, isQuote c = false := by
  unfold takeYear? at h
  split at h <;> rw [Option.map_eq_some_iff] at h <;> obtain ⟨⟨m, rest'⟩, hm, heq⟩ := h <;>
    obtain ⟨-, rfl⟩ := Prod.mk.inj heq <;>
    obtain ⟨front, heq, hfront⟩ := exists_front_of_takeNumber? hm
  · exact ⟨'+' :: front, congrArg _ heq, List.forall_mem_cons.2 ⟨by decide, hfront⟩⟩
  · exact ⟨'-' :: front, congrArg _ heq, List.forall_mem_cons.2 ⟨by decide, hfront⟩⟩
  · exact ⟨front, heq, hfront⟩

/-! ## The year and its dash -/

/-- **The year and the dash** that every absolute time begins with, and what follows them. -/
def dashedYear? (t : Text) : Option (Int × Text) :=
  (takeYear? (trimStart t)).bind fun (year, rest) =>
    match rest with
    | '-' :: rest => some (year, rest)
    | _ => none

theorem dashedYear?_eq_some_iff {t rest : Text} {year : Int} :
    dashedYear? t = some (year, rest) ↔ takeYear? (trimStart t) = some (year, '-' :: rest) := by
  rw [dashedYear?, Option.bind_eq_some_iff]
  constructor
  · rintro ⟨⟨year', rest'⟩, hread, hdash⟩
    simp only at hdash
    split at hdash
    · obtain ⟨rfl, rfl⟩ := Prod.mk.inj (Option.some_inj.1 hdash)
      exact hread
    · cases hdash
  · intro h
    exact ⟨_, h, rfl⟩

/-- What the layouts of an absolute time have behind the year. -/
def stampTails : List (List StampPart) :=
  let date : List StampPart := [.field .month, .mark '-', .field .day]
  [date ++ .space :: secondLayout, date ++ .space :: minuteLayout,
    date ++ .mark 'T' :: secondLayout, date]

/-- A moment by one of the tails, in a year. -/
def readTails? (year : Int) (t : Text) : Option Moment :=
  stampTails.findSome? fun layout => (readLayout? { year } layout t).bind StampNumbers.toMoment?

theorem readLayout?_year (layout : List StampPart) (t : Text) :
    readLayout? {} (.field .year :: .mark '-' :: layout) t =
      (dashedYear? t).bind fun (year, rest) => readLayout? { year } layout rest := by
  rw [readLayout?, StampPart.read?, dashedYear?]
  cases takeYear? (trimStart t) with
  | none => rfl
  | some read =>
    obtain ⟨year, rest⟩ := read
    simp only [Option.map_some, Option.bind_some]
    cases rest with
    | nil => rfl
    | cons c rest =>
      rw [readLayout?, StampPart.read?]
      by_cases hc : c = '-'
      · subst hc
        rfl
      · rw [if_neg (by simpa using hc)]
        split
        · simp_all
        · simp [hc]

/-- **An absolute time** is a year with its dash and one of four tails. -/
theorem readStamp?_eq (t : Text) :
    readStamp? t = (dashedYear? t).bind fun (year, rest) => readTails? year rest := by
  have hlayouts : stampLayouts =
      stampTails.map fun layout => .field .year :: .mark '-' :: layout := rfl
  rw [readStamp?, hlayouts, List.findSome?_map]
  simp only [Function.comp_def, readLayout?_year]
  cases dashedYear? t with
  | none => simp
  | some read => rfl

/-! ## What an absolute time is made of -/

/-- A part that is no quotation mark. -/
def StampPart.isQuoteFree : StampPart → Bool
  | .mark c => !isQuote c
  | _ => true

/-- A part of a layout reads a piece of the text, and leaves the rest. There is no quotation mark in
the piece, for a part reads white space, digits, signs and marks. -/
theorem StampPart.exists_front_of_read? {part : StampPart} {numbers numbers' : StampNumbers}
    {t rest : Text} (hpart : part.isQuoteFree = true)
    (h : part.read? numbers t = some (numbers', rest)) :
    ∃ front, t = front ++ rest ∧ ∀ c ∈ front, isQuote c = false := by
  have hblank : ∀ c ∈ t.takeWhile isBlank, isQuote c = false := fun c hc =>
    isQuote_of_isBlank (List.mem_takeWhile_imp hc)
  have hstart : t.takeWhile isBlank ++ trimStart t = t := takeWhile_append_trimStart t
  -- a field reads white space and then a piece of what is left
  have hfield : ∀ front, trimStart t = front ++ rest → (∀ c ∈ front, isQuote c = false) →
      ∃ front, t = front ++ rest ∧ ∀ c ∈ front, isQuote c = false := by
    intro front heq hfront
    refine ⟨t.takeWhile isBlank ++ front, ?_, ?_⟩
    · rw [List.append_assoc, ← heq, hstart]
    · intro c hc
      rcases List.mem_append.1 hc with hc | hc
      · exact hblank c hc
      · exact hfront c hc
  cases part with
  | space =>
    simp only [read?, Option.some_inj, Prod.mk.injEq] at h
    exact ⟨t.takeWhile isBlank, by rw [← h.2, hstart], hblank⟩
  | mark c =>
    cases t with
    | nil => exact absurd h (by simp [read?])
    | cons d t =>
      simp only [read?, Option.ite_none_right_eq_some, Option.some_inj, Prod.mk.injEq,
        beq_iff_eq] at h
      obtain ⟨rfl, -, rfl⟩ := h
      exact ⟨[d], rfl, by simpa [isQuoteFree] using hpart⟩
  | field f =>
    cases f with
    | year =>
      simp only [read?, Option.map_eq_some_iff, Prod.mk.injEq] at h
      obtain ⟨⟨n, rest'⟩, hn, -, rfl⟩ := h
      obtain ⟨front, heq, hfront⟩ := exists_front_of_takeYear? hn
      exact hfield front heq hfront
    | _ =>
      simp only [read?, Option.map_eq_some_iff, Prod.mk.injEq] at h
      obtain ⟨⟨n, rest'⟩, hn, -, rfl⟩ := h
      obtain ⟨front, heq, hfront⟩ := exists_front_of_takeNumber? hn
      exact hfield front heq hfront

/-- **There is no quotation mark in an absolute time.** -/
theorem isQuote_of_readLayout? {layout : List StampPart} {numbers numbers' : StampNumbers}
    {t : Text} (hlayout : ∀ part ∈ layout, part.isQuoteFree = true)
    (h : readLayout? numbers layout t = some numbers') : ∀ c ∈ t, isQuote c = false := by
  induction layout generalizing numbers t with
  | nil =>
    cases t with
    | nil => simp
    | cons c t => cases h
  | cons part layout ih =>
    rw [readLayout?] at h
    cases hread : part.read? numbers t with
    | none =>
      rw [hread] at h
      cases h
    | some read =>
      rw [hread] at h
      obtain ⟨front, rfl, hfront⟩ :=
        StampPart.exists_front_of_read? (hlayout part List.mem_cons_self) hread
      intro c hc
      rcases List.mem_append.1 hc with hc | hc
      · exact hfront c hc
      · exact ih (fun other hother => hlayout other (List.mem_cons_of_mem part hother)) h c hc

theorem isQuote_of_readStamp? {t : Text} {m : Moment} (h : readStamp? t = some m) :
    ∀ c ∈ t, isQuote c = false := by
  obtain ⟨layout, hlayout, hread⟩ := List.exists_of_findSome?_eq_some h
  obtain ⟨n, hn, -⟩ := Option.bind_eq_some_iff.1 hread
  have hparts : ∀ layout ∈ stampLayouts, ∀ part ∈ layout, part.isQuoteFree = true := by decide
  exact isQuote_of_readLayout? (hparts layout hlayout) hn

/-! ## Years with the same days -/

/-- A tail does not look at the year. -/
theorem StampPart.read?_withYear {part : StampPart} (hpart : part ≠ .field .year)
    (numbers : StampNumbers) (year : Int) (t : Text) :
    part.read? { numbers with year } t =
      (part.read? numbers t).map (Prod.map ({ · with year }) id) := by
  cases part with
  | space => rfl
  | mark c =>
    cases t with
    | nil => rfl
    | cons d t =>
      simp only [read?]
      by_cases hd : (d == c) = true
      · rw [if_pos hd, if_pos hd]
        rfl
      · rw [if_neg hd, if_neg hd]
        rfl
  | field f =>
    cases f with
    | year => exact absurd rfl hpart
    | _ =>
      simp only [read?, Option.map_map]
      rfl

theorem readLayout?_withYear {layout : List StampPart} (hlayout : StampPart.field .year ∉ layout)
    (numbers : StampNumbers) (year : Int) (t : Text) :
    readLayout? { numbers with year } layout t =
      (readLayout? numbers layout t).map ({ · with year }) := by
  induction layout generalizing numbers t with
  | nil => cases t <;> rfl
  | cons part layout ih =>
    rw [List.mem_cons, not_or] at hlayout
    rw [readLayout?, readLayout?, StampPart.read?_withYear (Ne.symm hlayout.1)]
    cases part.read? numbers t with
    | none => rfl
    | some read => exact ih hlayout.2 read.1 read.2

/-- **The numbers of a tail are the same in every year**; only whether they name a moment is not. -/
theorem readTail?_eq {layout : List StampPart} (hlayout : layout ∈ stampTails) (year : Int)
    (t : Text) :
    (readLayout? { year } layout t).bind StampNumbers.toMoment? =
      (readLayout? {} layout t).bind fun n => StampNumbers.toMoment? { n with year } := by
  have htails : ∀ layout ∈ stampTails, StampPart.field .year ∉ layout := by decide
  have hyear := readLayout?_withYear (htails layout hlayout) {} year t
  rw [hyear, Option.bind_map]
  rfl

/-- Numbers name a moment if their date is one and their time of day is one. -/
theorem StampNumbers.toMoment?_eq_some_iff {n : StampNumbers} {m : Moment} :
    n.toMoment? = some m ↔
      (Date.mk n.year n.month n.day).isValid = true ∧
        (n.hour ≤ 23 ∧ n.minute ≤ 59 ∧ n.second ≤ 60) ∧
        m = ⟨(Date.mk n.year n.month n.day).toDayNumber, n.hour, n.minute, n.second⟩ := by
  simp only [toMoment?, Option.ite_none_right_eq_some, Option.some_inj, Bool.and_eq_true,
    decide_eq_true_eq, and_assoc, eq_comm (b := m)]

/-- A moment read by a tail lies in a year of the calendar. -/
theorem inCalendar_of_readTails? {year : Int} {t : Text} {m : Moment}
    (h : readTails? year t = some m) :
    firstYear ≤ year ∧ year ≤ lastYear := by
  obtain ⟨layout, hlayout, hread⟩ := List.exists_of_findSome?_eq_some h
  rw [readTail?_eq hlayout] at hread
  obtain ⟨n, -, hm⟩ := Option.bind_eq_some_iff.1 hread
  have hvalid := (StampNumbers.toMoment?_eq_some_iff.1 hm).1
  simp only [Date.isValid, Bool.and_eq_true, decide_eq_true_eq, and_assoc] at hvalid
  exact ⟨hvalid.1, hvalid.2.1⟩

/-- **Two years of the calendar that are leap years both or neither.** -/
structure SameDays (year year' : Int) : Prop where
  first : firstYear ≤ year ∧ firstYear ≤ year'
  last : year ≤ lastYear ∧ year' ≤ lastYear
  leap : isLeapYear year = isLeapYear year'

namespace SameDays

variable {year year' : Int}

/-- Such years have the same dates. -/
theorem isValid_eq (h : SameDays year year') (month day : Nat) :
    (Date.mk year month day).isValid = (Date.mk year' month day).isValid := by
  simp only [Date.isValid, daysInMonth, h.leap, h.first.1, h.first.2, h.last.1, h.last.2]

theorem toMoment?_isSome (h : SameDays year year') (n : StampNumbers) :
    (StampNumbers.toMoment? { n with year }).isSome =
      (StampNumbers.toMoment? { n with year := year' }).isSome := by
  simp only [StampNumbers.toMoment?, h.isValid_eq]
  split <;> rfl

/-- **In years with the same days the same tail is read.** -/
theorem exists_readTails? (h : SameDays year year') {t : Text} {m : Moment}
    (hm : readTails? year t = some m) :
    ∃ (n : StampNumbers) (m' : Moment), n.year = year ∧ n.toMoment? = some m ∧
      StampNumbers.toMoment? { n with year := year' } = some m' ∧
      readTails? year' t = some m' := by
  rw [readTails?, List.findSome?_eq_some_iff] at hm
  obtain ⟨before, layout, after, htails, hread, hbefore⟩ := hm
  have hlayout : layout ∈ stampTails := htails ▸ List.mem_append_right before List.mem_cons_self
  rw [readTail?_eq hlayout] at hread
  obtain ⟨n, hn, hm⟩ := Option.bind_eq_some_iff.1 hread
  obtain ⟨m', hm'⟩ : ∃ m', StampNumbers.toMoment? { n with year := year' } = some m' := by
    rw [← Option.isSome_iff_exists, ← h.toMoment?_isSome, hm, Option.isSome_some]
  refine ⟨{ n with year }, m', rfl, hm, hm', ?_⟩
  rw [readTails?, List.findSome?_eq_some_iff]
  refine ⟨before, layout, after, htails, ?_, ?_⟩
  · rw [readTail?_eq hlayout]
    exact Option.bind_eq_some_iff.2 ⟨n, hn, hm'⟩
  · -- the tails that come before it read no moment in the other year either
    intro other hother
    have hmem : other ∈ stampTails := htails ▸ List.mem_append_left _ hother
    have hnone := hbefore other hother
    rw [readTail?_eq hmem, Option.bind_eq_none_iff] at hnone ⊢
    intro numbers hnumbers
    rw [← Option.not_isSome_iff_eq_none, ← h.toMoment?_isSome, Option.not_isSome_iff_eq_none]
    exact hnone numbers hnumbers

end SameDays

/-! ## A sign in front -/

/-- **What the sign of a direction makes of a number.** -/
def TimeDirection.turn : TimeDirection → Int → Int
  | .past, n => -n
  | .future, n => n

theorem isLeapYear_neg (year : Int) : isLeapYear (-year) = isLeapYear year := by
  rw [Bool.eq_iff_iff, isLeapYear_iff, isLeapYear_iff]
  omega

/-- A year of the calendar that is not before the year 0 has as many days as the year on the other
side. -/
theorem sameDays_turn (direction : TimeDirection) {year : Int} (hfirst : 0 ≤ year)
    (hlast : year ≤ lastYear) : SameDays year (direction.turn year) := by
  rw [lastYear] at hlast
  cases direction with
  | past =>
    refine ⟨?_, ?_, (isLeapYear_neg year).symm⟩ <;> rw [TimeDirection.turn] <;>
      simp only [firstYear, lastYear] <;> omega
  | future =>
    refine ⟨?_, ?_, rfl⟩ <;> rw [TimeDirection.turn] <;>
      simp only [firstYear, lastYear] <;> omega

theorem isBlank_sign (direction : TimeDirection) : isBlank direction.sign = false := by
  cases direction <;> decide

theorem isAlpha_sign (direction : TimeDirection) : direction.sign.isAlpha = false := by
  cases direction <;> decide

theorem sign_ne_at (direction : TimeDirection) : direction.sign ≠ '@' := by
  cases direction <;> decide

/-- **A sign in front of a year** that begins with a digit: the number is the same. -/
theorem dashedYear?_signed (direction : TimeDirection) {t rest : Text} {year : Int}
    (hdigit : ∃ c ∈ t.head?, c.isDigit = true) (h : dashedYear? t = some (year, rest)) :
    0 ≤ year ∧ dashedYear? (direction.sign :: t) = some (direction.turn year, rest) := by
  obtain ⟨c, hc, hdigit⟩ := hdigit
  have hplain : takeYear? t = (takeNumber? 4 t).map (Prod.map Int.ofNat id) := by
    cases t with
    | nil => cases hc
    | cons d t =>
      obtain rfl : d = c := Option.some_inj.1 hc
      obtain ⟨hplus, hminus⟩ := sign_ne_of_isDigit hdigit
      rw [takeYear?_eq_withSign, withSign_of_unsigned _ _ _ _ hplus hminus]
      rfl
  have hkeep : trimStart t = t := trimStart_of_head fun d hd =>
    Option.mem_unique hc hd ▸ isBlank_of_isDigit hdigit
  rw [dashedYear?_eq_some_iff, hkeep, hplain, Option.map_eq_some_iff] at h
  obtain ⟨⟨n, rest'⟩, hnumber, heq⟩ := h
  obtain ⟨rfl, rfl⟩ := Prod.mk.inj heq
  obtain ⟨hne, -, rfl, hdrop⟩ := takeNumber?_before_mark (by decide) hnumber
  -- behind a sign a year may have any number of digits
  have hlong : takeNumber? t.length t =
      some (valueOfDigits (t.takeWhile Char.isDigit), '-' :: rest) := by
    rw [takeNumber?_of_le hne (List.takeWhile_prefix _).length_le, hdrop]
  refine ⟨Int.natCast_nonneg _, ?_⟩
  rw [dashedYear?_eq_some_iff, trimStart_of_head (by simp [isBlank_sign])]
  cases direction with
  | past =>
    rw [TimeDirection.sign, takeYear?, hlong]
    rfl
  | future =>
    rw [TimeDirection.sign, takeYear?, hlong]
    rfl

/-- **A sign in front of an absolute time** that begins with a digit turns its year, and leaves its
month, its day and its time of day as they are. -/
theorem readStamp?_signed (direction : TimeDirection) {t : Text} {m : Moment}
    (hdigit : ∃ c ∈ t.head?, c.isDigit = true) (h : readStamp? t = some m) :
    ∃ (n : StampNumbers) (m' : Moment), 0 ≤ n.year ∧ n.toMoment? = some m ∧
      StampNumbers.toMoment? { n with year := direction.turn n.year } = some m' ∧
      readStamp? (direction.sign :: t) = some m' := by
  rw [readStamp?_eq, Option.bind_eq_some_iff] at h
  obtain ⟨⟨year, rest⟩, hyear, htail⟩ := h
  obtain ⟨hfirst, hsigned⟩ := dashedYear?_signed direction hdigit hyear
  have hlast : year ≤ lastYear := (inCalendar_of_readTails? htail).2
  obtain ⟨n, m', rfl, hm, hm', hread⟩ :=
    (sameDays_turn direction hfirst hlast).exists_readTails? htail
  refine ⟨n, m', hfirst, hm, hm', ?_⟩
  rw [readStamp?_eq, hsigned]
  exact hread

/-! ## What a minus does to the moment -/

theorem daysToMarch_lt {year year' : Int} (h : year < year') :
    daysToMarch year < daysToMarch year' := by
  rw [daysToMarch, daysToMarch]
  omega

/-- **The moment of a turned year** is an earlier one, but for the year 0 and forwards. -/
theorem toMoment?_turn {n : StampNumbers} {m m' : Moment} {direction : TimeDirection}
    (hyear : 0 ≤ n.year) (hm : n.toMoment? = some m)
    (hm' : StampNumbers.toMoment? { n with year := direction.turn n.year } = some m') :
    m' = m ↔ direction = .future ∨ n.year = 0 := by
  obtain ⟨-, -, rfl⟩ := StampNumbers.toMoment?_eq_some_iff.1 hm
  obtain ⟨-, -, rfl⟩ := StampNumbers.toMoment?_eq_some_iff.1 hm'
  simp only [Moment.mk.injEq, and_true, toDayNumber_eq]
  cases direction with
  | future => simp [TimeDirection.turn]
  | past =>
    simp only [TimeDirection.turn]
    by_cases hzero : n.year = 0
    · simp [hzero]
    · have hlt := daysToMarch_lt (show -n.year < n.year by omega)
      have hlt' := daysToMarch_lt (show -n.year - 1 < n.year - 1 by omega)
      refine iff_of_false ?_ (by simp [hzero])
      split <;> omega

/-! ## Phrases -/

theorem isTimePhrase_iff {phrase : Text} {now : Moment} :
    isTimePhrase phrase now = true ↔ ∃ m, resolvePhrase phrase now = .moment m := by
  rw [isTimePhrase]
  cases resolvePhrase phrase now <;> simp [Resolution.moment?]

/-- A fixed word begins with a letter. -/
theorem resolveFixed?_cons {c : Char} (hc : c.isAlpha = false) (t : Text) (now : Moment) :
    resolveFixed? (c :: t) now = none := by
  have hne : ∀ (d : Char) (u : Text), d.isAlpha = true → ((c :: t) == (d :: u)) = false := by
    intro d u hd
    apply beq_false_of_ne
    intro heq
    rw [(List.cons.inj heq).1, hd] at hc
    cases hc
  simp [resolveFixed?, hne]

/-- **A phrase that begins with neither a letter nor an at sign** is an absolute time, or else it is
words. -/
theorem resolvePhrase_of_head {phrase : Text} {c : Char} (hfirst : phrase.trim.head? = some c)
    (hletter : c.isAlpha = false) (hat : c ≠ '@') (now : Moment) :
    resolvePhrase phrase now =
      match readStamp? phrase.trim with
      | some m => .moment m
      | none => resolveWords phrase.fold.words now := by
  obtain ⟨rest, htrim⟩ : ∃ rest, phrase.trim = c :: rest := List.head?_eq_some_iff.1 hfirst
  have hkeep : c.toLower = c := (toLower_cases c).resolve_right (by simp [hletter])
  have hwords : phrase.fold.words = words (c :: fold rest) := by
    rw [← words_trim, trim_fold, htrim, fold_cons, hkeep]
  simp only [resolvePhrase, htrim, fold_cons, hkeep, resolveFixed?_cons hletter, hwords]
  split
  · simp_all
  · rfl

end MonitorControl
