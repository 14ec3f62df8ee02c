/-
Steps of a phrase, with the limits of the numbers that they are taken with.

A length of time is counted in milliseconds, in 64 bits; years are made months in 64 bits;
and months that are added are a number of 31 bits. A step beyond one of these limits has no
result (`TimeUnit.addLimited?`). But the calendar ends long before: from any of its moments
a step beyond a limit would lead out of it, so the limits change nothing
(`TimeUnit.addLimited?_eq`).

Therefore a unit can be divided: a week is seven days, a day 24 hours, and so on, and what
is divided fails where the whole fails, whatever the limits of the two are
(`TimeUnit.addLimited?_part`).
-/
import MonitorControl.Proofs.Time.Terms

set_option autoImplicit false

namespace MonitorControl

open Text

theorem fitsSigned64_iff {n : Int} : fitsSigned64 n = true ↔ -2 ^ 63 ≤ n ∧ n < 2 ^ 63 := by
  rw [fitsSigned64, Bool.and_eq_true, decide_eq_true_iff, decide_eq_true_iff, maxSigned64]
  omega

/-! ## Moments of the calendar -/

namespace Moment

/-- **The moments there are**: days of the calendar, with a time of day. -/
structure IsValid (m : Moment) : Prop where
  inCalendar : m.inCalendar = true
  hour : m.hour ≤ 23
  minute : m.minute ≤ 59
  second : m.second ≤ 60

instance (m : Moment) : Decidable m.IsValid :=
  decidable_of_iff (m.inCalendar = true ∧ m.hour ≤ 23 ∧ m.minute ≤ 59 ∧ m.second ≤ 60)
    ⟨fun ⟨h, h₁, h₂, h₃⟩ => ⟨h, h₁, h₂, h₃⟩, fun ⟨h, h₁, h₂, h₃⟩ => ⟨h, h₁, h₂, h₃⟩⟩

variable {m m' : Moment}

theorem inCalendar_iff : m.inCalendar = true ↔ -96465292 ≤ m.day ∧ m.day ≤ 95026236 := by
  have hfirst : firstDay = -96465292 := by decide
  have hlast : lastDay = 95026236 := by decide
  rw [Moment.inCalendar, hfirst, hlast, Bool.and_eq_true, decide_eq_true_iff, decide_eq_true_iff]

/-! ## Lengths of time -/

/-- The time of day of a number of seconds is one. -/
theorem isValid_of_inCalendar?_ofSeconds {s : Int} (h : (ofSeconds s).inCalendar? = some m) :
    m.IsValid := by
  obtain rfl := inCalendar?_eq_some h
  rw [inCalendar?, Option.ite_none_right_eq_some] at h
  refine ⟨h.1, ?_, ?_, ?_⟩ <;> simp only [ofSeconds, secondsPerDay] <;> omega

theorem IsValid.addSeconds? (hm : m.IsValid) {s : Int} (h : m.addSeconds? s = some m') :
    m'.IsValid := by
  rw [Moment.addSeconds?] at h
  split at h
  · rw [inCalendar?_eq_some h]
    exact hm
  · split at h <;> exact isValid_of_inCalendar?_ofSeconds h

/-- A number of seconds that lies outside the calendar. -/
theorem inCalendar?_ofSeconds_eq_none {s : Int} (h : s < -96465292 * 86400 ∨ 95026237 * 86400 ≤ s) :
    (ofSeconds s).inCalendar? = none := by
  rw [inCalendar?, if_neg]
  rw [inCalendar_iff]
  simp only [ofSeconds, secondsPerDay]
  omega

/-- **A duration that does not fit** leads out of the calendar. -/
theorem IsValid.addSeconds?_eq_none (hm : m.IsValid) {s : Int} (h : 2 ^ 63 ≤ (s * 1000).natAbs) :
    m.addSeconds? s = none := by
  obtain ⟨hfirst, hlast⟩ := inCalendar_iff.1 hm.inCalendar
  have hhour := hm.hour
  have hminute := hm.minute
  have hsecond := hm.second
  have hcount : m.toSeconds = m.day * 86400 + (m.hour * 3600 + m.minute * 60 + m.second : Nat) := rfl
  have hzero : ¬ (s == 0) = true := by
    rw [beq_iff_eq]
    omega
  rw [Moment.addSeconds?, if_neg hzero]
  split <;> exact inCalendar?_ofSeconds_eq_none (by omega)

/-! ## Months -/

/-- The year of a day of the calendar. -/
theorem year_date (h : m.inCalendar = true) : -300000 ≤ m.date.year ∧ m.date.year ≤ 300000 := by
  obtain ⟨hfirst, hlast⟩ := inCalendar_iff.1 h
  have hday : m.date.toDayNumber = m.day := toDayNumber_ofDayNumber m.day
  obtain ⟨-, hmonth, hone, hlength⟩ : 1 ≤ m.date.month ∧ m.date.month ≤ 12 ∧
      1 ≤ m.date.day ∧ m.date.day ≤ daysInMonth m.date.year m.date.month := date_ofDayNumber m.day
  have hlong : daysInMonth m.date.year m.date.month ≤ 31 := by
    simp only [daysInMonth]
    split
    · split <;> omega
    · split <;> omega
  rw [toDayNumber_eq] at hday
  simp only [daysToMarch] at hday
  split at hday <;> omega

/-- **The months of the calendar** run from its first day to its last. -/
theorem inCalendar_month {month : Int} (hfirst : firstYear ≤ month / 12)
    (hlast : month / 12 ≤ lastYear) {day : Nat} (hone : 1 ≤ day) (hlength : day ≤ monthLength month) :
    firstDay ≤ monthStart month + day - 1 ∧ monthStart month + day - 1 ≤ lastDay := by
  have hbegin : monthStart (12 * firstYear) = firstDay := by decide
  have hend : monthStart (12 * (lastYear + 1)) = lastDay + 1 := by decide
  have hnext := monthStart_succ month
  have hlow := monthStart_le (show 12 * firstYear ≤ month by omega)
  have hhigh := monthStart_le (show month + 1 ≤ 12 * (lastYear + 1) by omega)
  omega

theorem IsValid.addMonths? (hm : m.IsValid) {months : Int} (h : m.addMonths? months = some m') :
    m'.IsValid := by
  obtain ⟨-, -, hone, -⟩ : 1 ≤ m.date.month ∧ m.date.month ≤ 12 ∧
      1 ≤ m.date.day ∧ m.date.day ≤ daysInMonth m.date.year m.date.month := date_ofDayNumber m.day
  simp only [Moment.addMonths?, Option.ite_none_right_eq_some, Option.some_inj, Bool.and_eq_true,
    decide_eq_true_iff] at h
  obtain ⟨⟨hfirst, hlast⟩, rfl⟩ := h
  generalize m.date.year * 12 + Int.ofNat m.date.month - 1 + months = month at hfirst hlast
  have hpos := monthLength_pos month
  obtain ⟨hlow, hhigh⟩ := inCalendar_month hfirst hlast
    (show 1 ≤ min m.date.day (monthLength month) by omega) (Nat.min_le_right _ _)
  refine ⟨?_, hm.hour, hm.minute, hm.second⟩
  rw [Moment.inCalendar, Bool.and_eq_true, decide_eq_true_iff, decide_eq_true_iff]
  show firstDay ≤ (Date.mk (month / 12) ((month % 12).toNat + 1) _).toDayNumber ∧ _ ≤ lastDay
  rw [toDayNumber_mk]
  exact ⟨hlow, hhigh⟩

/-- **A number of months that does not fit** leads out of the calendar. -/
theorem IsValid.addMonths?_eq_none (hm : m.IsValid) {months : Int} (h : 2 ^ 31 ≤ months.natAbs) :
    m.addMonths? months = none := by
  obtain ⟨hlow, hhigh⟩ := year_date hm.inCalendar
  obtain ⟨hone, htwelve, -, -⟩ : 1 ≤ m.date.month ∧ m.date.month ≤ 12 ∧
      1 ≤ m.date.day ∧ m.date.day ≤ daysInMonth m.date.year m.date.month := date_ofDayNumber m.day
  simp only [Moment.addMonths?, Int.ofNat_eq_natCast]
  rw [if_neg]
  rw [Bool.and_eq_true, decide_eq_true_iff, decide_eq_true_iff, firstYear, lastYear]
  omega

end Moment

/-! ## Steps -/

/-- **A length of time is added**, if it fits 64 bits in milliseconds. -/
def Moment.addDuration? (m : Moment) (seconds : Int) : Option Moment :=
  if (seconds * 1000).natAbs < 2 ^ 63 then m.addSeconds? seconds else none

/-- **Months are added**, if their number fits 31 bits. -/
def Moment.addMonthCount? (m : Moment) (months : Int) : Option Moment :=
  if months.natAbs < 2 ^ 31 then m.addMonths? months else none

/-- **One step of a phrase, within its limits.** Twelve times a number of years must fit 64 bits. -/
def TimeUnit.addLimited? (unit : TimeUnit) (amount : Int) (m : Moment) : Option Moment :=
  match unit with
  | .second => m.addDuration? amount
  | .minute => m.addDuration? (amount * 60)
  | .hour => m.addDuration? (amount * 3600)
  | .day => m.addDuration? (amount * 86400)
  | .week => m.addDuration? (amount * 604800)
  | .month => m.addMonthCount? amount
  | .year => if fitsSigned64 (amount * 12) then m.addMonthCount? (amount * 12) else none

namespace Moment.IsValid

variable {m m' : Moment}

theorem addDuration?_eq (hm : m.IsValid) (seconds : Int) :
    m.addDuration? seconds = m.addSeconds? seconds := by
  rw [addDuration?]
  split
  · rfl
  · next hlarge => rw [hm.addSeconds?_eq_none (Nat.le_of_not_lt hlarge)]

theorem addMonthCount?_eq (hm : m.IsValid) (months : Int) :
    m.addMonthCount? months = m.addMonths? months := by
  rw [addMonthCount?]
  split
  · rfl
  · next hlarge => rw [hm.addMonths?_eq_none (Nat.le_of_not_lt hlarge)]

/-- **A step leads from one moment of the calendar to another.** -/
theorem add? (hm : m.IsValid) {unit : TimeUnit} {amount : Int} (h : unit.add? amount m = some m') :
    m'.IsValid := by
  cases unit with
  | month => exact hm.addMonths? h
  | year => exact hm.addMonths? h
  | _ => exact hm.addSeconds? h

/-- **An amount that does not fit** leads out of the calendar, whatever its unit. -/
theorem add?_eq_none (hm : m.IsValid) (unit : TimeUnit) {amount : Int}
    (h : 2 ^ 63 ≤ amount.natAbs) : unit.add? amount m = none := by
  cases unit with
  | month => exact hm.addMonths?_eq_none (by omega)
  | year => exact hm.addMonths?_eq_none (by omega)
  | _ => exact hm.addSeconds?_eq_none (by omega)

end Moment.IsValid

namespace TimeUnit

variable {m : Moment}

/-- **The limits change nothing**: what they rule out lies outside the calendar. -/
theorem addLimited?_eq (hm : m.IsValid) (unit : TimeUnit) (amount : Int) :
    unit.addLimited? amount m = unit.add? amount m := by
  cases unit with
  | month => exact hm.addMonthCount?_eq amount
  | year =>
    rw [addLimited?, add?, hm.addMonthCount?_eq]
    split
    · rfl
    · next hlarge =>
      rw [hm.addMonths?_eq_none]
      rw [fitsSigned64_iff] at hlarge
      omega
  | _ => exact hm.addDuration?_eq _

/-- **A unit and its next smaller part**: how many of them it is. -/
def part? : TimeUnit → Option (Int × TimeUnit)
  | .year => some (12, .month)
  | .week => some (7, .day)
  | .day => some (24, .hour)
  | .hour => some (60, .minute)
  | .minute => some (60, .second)
  | .month | .second => none

/-- **A unit is as much as its parts**, and fails where they do. -/
theorem addLimited?_part (hm : m.IsValid) {unit part : TimeUnit} {count : Int}
    (h : unit.part? = some (count, part)) (amount : Int) :
    part.addLimited? (amount * count) m = unit.addLimited? amount m := by
  rw [addLimited?_eq hm, addLimited?_eq hm]
  cases unit <;> cases h <;> simp only [add?, Int.mul_assoc] <;> rfl

end TimeUnit

/-! ## Divided terms -/

/-- **A term is divided** into parts of its unit, and these into parts again, or is left whole. -/
inductive Divides : Int × TimeUnit → Int × TimeUnit → Prop where
  | whole (term : Int × TimeUnit) : Divides term term
  | part {amount count : Int} {unit part : TimeUnit} {term : Int × TimeUnit}
    (h : unit.part? = some (count, part)) (hrest : Divides (amount * count, part) term) :
    Divides (amount, unit) term

namespace Divides

variable {term part : Int × TimeUnit}

theorem neg (h : Divides term part) : Divides (-term.1, term.2) (-part.1, part.2) := by
  induction h with
  | whole term => exact .whole _
  | part h _ ih =>
    rw [← Int.neg_mul] at ih
    exact .part h ih

theorem addLimited?_eq (h : Divides term part) {m : Moment} (hm : m.IsValid) :
    part.2.addLimited? part.1 m = term.2.addLimited? term.1 m := by
  induction h with
  | whole => rfl
  | part h _ ih => exact ih.trans (TimeUnit.addLimited?_part hm h _)

end Divides

/-- One step after another, as long as there is a moment to go on from. -/
def addLimitedTerms? (m : Moment) (terms : List (Int × TimeUnit)) : Option Moment :=
  terms.foldlM (fun m term => term.2.addLimited? term.1 m) m

variable {terms parts : List (Int × TimeUnit)} {m : Moment}

theorem addLimitedTerms?_cons (m : Moment) (term : Int × TimeUnit)
    (terms : List (Int × TimeUnit)) :
    addLimitedTerms? m (term :: terms) =
      (term.2.addLimited? term.1 m).bind fun next => addLimitedTerms? next terms :=
  List.foldlM_cons

/-- **Terms are added step by step**, and within the limits. -/
theorem addLimitedTerms?_eq (hm : m.IsValid) : addLimitedTerms? m terms = addTerms? m terms := by
  induction terms generalizing m with
  | nil => rfl
  | cons term terms ih =>
    rw [addLimitedTerms?_cons, addTerms?, TimeUnit.addLimited?_eq hm]
    cases hstep : term.2.add? term.1 m with
    | none => rfl
    | some next => exact ih (hm.add? hstep)

/-- Divided terms lead to the same moment, or fail with the others. -/
theorem addLimitedTerms?_of_divides (h : List.Forall₂ Divides terms parts) (hm : m.IsValid) :
    addLimitedTerms? m parts = addLimitedTerms? m terms := by
  induction h generalizing m with
  | nil => rfl
  | @cons term part terms parts hterm _ ih =>
    rw [addLimitedTerms?_cons, addLimitedTerms?_cons, hterm.addLimited?_eq hm]
    cases hstep : term.2.addLimited? term.1 m with
    | none => rfl
    | some next =>
      rw [TimeUnit.addLimited?_eq hm] at hstep
      exact ih (hm.add? hstep)

theorem Divides.turnedBack (h : List.Forall₂ Divides terms parts) (ago : Bool) :
    List.Forall₂ Divides (turnedBack ago terms) (turnedBack ago parts) := by
  cases ago with
  | false => exact h
  | true =>
    show List.Forall₂ Divides (terms.map _) (parts.map _)
    rw [List.forall₂_map_left_iff, List.forall₂_map_right_iff]
    exact h.imp fun _ _ hterm => hterm.neg

/-! ## Main result -/

theorem SpellsPhrase.resolvePhrase_of_fit {phrase : Text} {ago : Bool} (hm : m.IsValid)
    (h : SpellsPhrase phrase.fold.words terms ago) (hfit : termsFit terms = true) :
    resolvePhrase phrase m = .ofOption (addLimitedTerms? m (turnedBack ago terms)) := by
  rw [h.resolvePhrase_eq, if_pos hfit, addLimitedTerms?_eq hm]

/-- **A phrase of terms leads where its terms lead**, one step after another from now on, and nowhere
as soon as one of the steps fails; `ago` turns every amount around. The same phrase in smaller units,
as long as all amounts fit 64 bits, has the same meaning. -/
theorem resolvePhrase_terms {phrase : Text} {terms : List (Int × TimeUnit)} {ago : Bool}
    {now : Moment} (hnow : now.IsValid) (h : SpellsPhrase phrase.fold.words terms ago)
    (hfit : termsFit terms = true) :
    resolvePhrase phrase now = .ofOption ((turnedBack ago terms).foldlM
        (fun m term => term.2.addLimited? term.1 m) now) ∧
      ∀ (divided : Text) (parts : List (Int × TimeUnit)), List.Forall₂ Divides terms parts →
        SpellsPhrase divided.fold.words parts ago → termsFit parts = true →
          resolvePhrase divided now = resolvePhrase phrase now := by
  refine ⟨h.resolvePhrase_of_fit hnow hfit, fun divided parts hdivides hdivided hfit' => ?_⟩
  rw [hdivided.resolvePhrase_of_fit hnow hfit', h.resolvePhrase_of_fit hnow hfit,
    addLimitedTerms?_of_divides (Divides.turnedBack hdivides ago) hnow]

/-- A year and two weeks, and the same in months and days. -/
theorem resolvePhrase_terms_yearAndWeeks :
    let now : Moment := ⟨19858, 10, 30, 0⟩
    let terms : List (Int × TimeUnit) := [(1, .year), (2, .week)]
    let parts : List (Int × TimeUnit) := [(12, .month), (14, .day)]
    now.IsValid ∧ SpellsPhrase (fold "+1 Year\t2WEEKS ago").words terms true ∧
      termsFit terms = true ∧ List.Forall₂ Divides terms parts ∧
      resolvePhrase "+1 Year\t2WEEKS ago" now = .moment ⟨19478, 10, 30, 0⟩ ∧
      resolvePhrase "12Months 14 day Ago" now = .moment ⟨19478, 10, 30, 0⟩ := by
  intro now terms parts
  have hnow : now.IsValid := by decide
  have hwords : (fold "+1 Year\t2WEEKS ago").words =
      ["+1".toList, "year".toList, "2weeks".toList] ++ ["ago".toList] := by
    decide
  have hwords' : (fold "12Months 14 day Ago").words =
      ["12months".toList, "14".toList, "day".toList] ++ ["ago".toList] := by
    decide
  have hone : WritesAmount "+1" 1 := .signed .future (by decide) (List.all_eq_true.1 (by decide))
  have htwo : WritesAmount "2" 2 := .plain (by decide) (List.all_eq_true.1 (by decide))
  have htwelve : WritesAmount "12" 12 := .plain (by decide) (List.all_eq_true.1 (by decide))
  have hfourteen : WritesAmount "14" 14 := .plain (by decide) (List.all_eq_true.1 (by decide))
  have hspelled : SpellsPhrase (fold "+1 Year\t2WEEKS ago").words terms true := by
    rw [hwords]
    exact .ago (.apart hone (by decide) (.glued htwo (by decide) .nil)) (by decide)
  have hspelled' : SpellsPhrase (fold "12Months 14 day Ago").words parts true := by
    rw [hwords']
    exact .ago (.glued htwelve (by decide) (.apart hfourteen (by decide) .nil)) (by decide)
  have hdivides : List.Forall₂ Divides terms parts :=
    .cons (.part rfl (.whole _)) (.cons (.part rfl (.whole _)) .nil)
  obtain ⟨hterms, hparts⟩ := resolvePhrase_terms hnow hspelled (by decide)
  have hmoment : resolvePhrase "+1 Year\t2WEEKS ago" now = .moment ⟨19478, 10, 30, 0⟩ := by
    rw [hterms]
    decide
  refine ⟨hnow, hspelled, by decide, hdivides, hmoment, ?_⟩
  rw [hparts _ parts hdivides hspelled' (by decide), hmoment]

end MonitorControl
