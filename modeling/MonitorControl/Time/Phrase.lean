/-
Times as people write them: `-1 day`, `yesterday`, `last Monday`, `@1700000000`
or an absolute time.

A phrase is resolved against the present moment. The kinds of phrase are tried in
a fixed order: the five fixed words, a count of seconds since 1970, an absolute
time, a day of the week, and last a list of amounts with units, which are applied
one after the other. Each step that leaves the calendar makes the phrase
unreadable, except the step to a day of the week, which is not guarded and is
reported as a result of its own.
-/
import MonitorControl.Text.Ascii
import MonitorControl.Time.Stamp

set_option autoImplicit false

namespace MonitorControl

/-! ## Days of the week -/

/-- The name of a day, in lower case: the whole word or its first three letters. -/
def Weekday.ofName? (word : Text) : Option Weekday :=
  let names : List (Weekday × Text) :=
    [(.monday, "monday"), (.tuesday, "tuesday"), (.wednesday, "wednesday"),
      (.thursday, "thursday"), (.friday, "friday"), (.saturday, "saturday"), (.sunday, "sunday")]
  (names.find? fun (_, name) => word == name || word == name.take 3).map Prod.fst

/-- Which occurrence of a day of the week is meant. -/
inductive Occurrence where
  /-- The latest one strictly before today. -/
  | last
  /-- The earliest one strictly after today. -/
  | next
  /-- The earliest one on or after today. -/
  | this
  deriving DecidableEq, Repr

/-- The occurrence that a word names. -/
def Occurrence.ofName? (word : Text) : Option Occurrence :=
  if word == "last".toList then some .last
  else if word == "next".toList then some .next
  else if word == "this".toList then some .this
  else none

/-- The number of days from today to an occurrence, where `forward` days lead to the day of the week
that is meant, on or after today. -/
def Occurrence.offset (forward : Int) : Occurrence → Int
  | .last => forward - 7
  | .next => if forward == 0 then 7 else forward
  | .this => forward

/-- **The day of the week that is meant**, at midnight. -/
def weekdayFrom (now : Moment) (weekday : Weekday) (occurrence : Occurrence) : Moment :=
  let forward := (Int.ofNat weekday.fromMonday - weekdayIndex now.day) % 7
  now.midnight.shiftDays (occurrence.offset forward)

/-! ## Amounts of time -/

/-- **A unit of time.** -/
inductive TimeUnit where
  | second
  | minute
  | hour
  | day
  | week
  | month
  | year
  deriving DecidableEq, Repr

/-- The unit that a word in lower case names; the plural may have any number of letters `s`. -/
def TimeUnit.ofName? (word : Text) : Option TimeUnit :=
  let singular := (word.reverse.dropWhile (· == 's')).reverse
  let names : List (TimeUnit × Text) :=
    [(.second, "sec"), (.second, "second"), (.minute, "min"), (.minute, "minute"), (.hour, "hour"),
      (.day, "day"), (.week, "week"), (.month, "month"), (.year, "year")]
  (names.find? fun (_, name) => singular == name).map Prod.fst

/-- **One step of a phrase**: an amount of a unit is added to a moment. Months and years follow the
calendar, all other units are lengths of time. -/
def TimeUnit.add? (unit : TimeUnit) (amount : Int) (m : Moment) : Option Moment :=
  match unit with
  | .second => m.addSeconds? amount
  | .minute => m.addSeconds? (amount * 60)
  | .hour => m.addSeconds? (amount * 3600)
  | .day => m.addSeconds? (amount * 86400)
  | .week => m.addSeconds? (amount * 604800)
  | .month => m.addMonths? amount
  | .year => m.addMonths? (amount * 12)

/-- A word such as `+5days` or `-1`: a signed number, and what follows its digits. -/
def splitAmount? (word : Text) : Option (Int × Text) :=
  let (sign, body) : Text × Text :=
    match word with
    | c :: rest => if c == '+' || c == '-' then ([c], rest) else ([], word)
    | [] => ([], [])
  let digits := body.takeWhile Char.isDigit
  (Text.readSigned64? (sign ++ digits)).map fun amount => (amount, body.drop digits.length)

/-- **The terms of a phrase**, from words in lower case. The unit is glued to the number or is the
next word. -/
def readTerms? : List Text → Option (List (Int × TimeUnit))
  | [] => some []
  | word :: rest =>
    match splitAmount? word with
    | none => none
    | some (amount, []) =>
      match rest with
      | [] => none
      | unit :: rest =>
        match TimeUnit.ofName? unit, readTerms? rest with
        | some unit, some terms => some ((amount, unit) :: terms)
        | _, _ => none
    | some (amount, glued) =>
      match TimeUnit.ofName? glued, readTerms? rest with
      | some unit, some terms => some ((amount, unit) :: terms)
      | _, _ => none

/-- The terms are added in order; none as soon as one step leaves the calendar. -/
def addTerms? (m : Moment) : List (Int × TimeUnit) → Option Moment
  | [] => some m
  | (amount, unit) :: rest =>
    match unit.add? amount m with
    | some m => addTerms? m rest
    | none => none

/-- A list of amounts with units; a last word `ago` turns every amount around. -/
def resolveTerms? (words : List Text) (now : Moment) : Option Moment :=
  let ago := words.getLast? == some "ago".toList
  let terms := if ago then words.dropLast else words
  match terms with
  | [] => none
  | _ :: _ =>
    match readTerms? terms with
    | some terms => addTerms? now (if ago then terms.map fun (n, unit) => (-n, unit) else terms)
    | none => none

/-! ## Phrases -/

/-- **What a phrase means.** -/
inductive Resolution where
  /-- A moment of the calendar. -/
  | moment (m : Moment)
  /-- The phrase cannot be read, or a step of it leaves the calendar. -/
  | unreadable
  /-- The day of the week that is meant lies outside the calendar. -/
  | beyondCalendar
  deriving DecidableEq, Repr

namespace Resolution

/-- A moment, or nothing. -/
def ofOption : Option Moment → Resolution
  | some m => .moment m
  | none => .unreadable

/-- The moment, if there is one. -/
def moment? : Resolution → Option Moment
  | .moment m => some m
  | _ => none

end Resolution

/-- A day of the week that is meant, which has to lie in the calendar. -/
def resolveWeekday (now : Moment) (weekday : Weekday) (occurrence : Occurrence) : Resolution :=
  let m := weekdayFrom now weekday occurrence
  if m.inCalendar then .moment m else .beyondCalendar

/-- A phrase of words in lower case that is neither a fixed word nor an absolute time. -/
def resolveWords (words : List Text) (now : Moment) : Resolution :=
  match words with
  | [word, day] =>
    match Occurrence.ofName? word with
    | some occurrence =>
      match Weekday.ofName? day with
      | some weekday => resolveWeekday now weekday occurrence
      | none => .unreadable
    | none => .ofOption (resolveTerms? words now)
  | [day] =>
    match Weekday.ofName? day with
    | some weekday => resolveWeekday now weekday .this
    | none => .ofOption (resolveTerms? words now)
  | _ => .ofOption (resolveTerms? words now)

/-- The moment that one of the fixed words names. -/
def resolveFixed? (word : Text) (now : Moment) : Option Resolution :=
  if word == "now".toList then some (.moment now)
  else if word == "today".toList || word == "midnight".toList then some (.moment now.midnight)
  else if word == "yesterday".toList then some (.ofOption (now.midnight.addSeconds? (-secondsPerDay)))
  else if word == "tomorrow".toList then some (.ofOption (now.midnight.addSeconds? secondsPerDay))
  else none

/-- **Resolving a phrase** against the present moment. Case and outer white space do not matter,
except for the letter `T` of an absolute time. -/
def resolvePhrase (phrase : Text) (now : Moment) : Resolution :=
  let exact := phrase.trim
  let lower := exact.fold
  match resolveFixed? lower now with
  | some resolution => resolution
  | none =>
    match lower with
    | '@' :: seconds =>
      .ofOption ((Text.readSigned64? seconds).bind fun s => (Moment.ofSeconds s).inCalendar?)
    | _ =>
      match readStamp? exact with
      | some m => .moment m
      | none => resolveWords lower.words now

/-- The phrase names a moment. -/
def isTimePhrase (phrase : Text) (now : Moment) : Bool := (resolvePhrase phrase now).moment?.isSome

/-- The phrase names a day of the week outside the calendar. -/
def leavesCalendar (phrase : Text) (now : Moment) : Bool :=
  resolvePhrase phrase now == .beyondCalendar

end MonitorControl
