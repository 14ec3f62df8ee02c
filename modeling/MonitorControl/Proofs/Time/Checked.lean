/-
Resolving a phrase with every operation checked.

Most steps of a phrase are guarded: where the sum or the product has no place in its number
or in the calendar, the phrase has no meaning. Some are plain: the way to a day of the week,
and the negation of an amount for `ago`. With the checks of a plain operation written out
(`checkedPhrase`), a run ends with the number that does not fit or with the day that is not
in the calendar.

Terms are added as they are read, so a negation may fail in front of a word that nobody can
read, and not be reached behind a step that leads nowhere. `NegatesLeast` says when it is
reached, and `checkedTerms_cases` that it alone makes a difference.
-/
import MonitorControl.Proofs.Time.Limits

set_option autoImplicit false

namespace MonitorControl

open Text

/-! ## What is read is spelled -/

/-- A word that can be split begins with a number, and no digit follows that. -/
theorem exists_number_of_splitAmount? {word : Text} (h : splitAmount? word ≠ none) :
    ∃ number tail amount, word = number ++ tail ∧ WritesAmount number amount ∧
      ∀ c ∈ tail.head?, c.isDigit = false := by
  have hhead : ∀ t : Text, ∀ c ∈ (t.dropWhile Char.isDigit).head?, c.isDigit = false := by
    intro t c hc
    have hnot := List.head?_dropWhile_not Char.isDigit t
    rw [Option.mem_def.1 hc] at hnot
    exact hnot
  have hdigits : ∀ t : Text, ∀ c ∈ t.takeWhile Char.isDigit, c.isDigit = true :=
    fun t c hc => List.mem_takeWhile_imp hc
  cases word with
  | nil => exact absurd (by decide) h
  | cons c rest =>
    by_cases hsign : (c == '+' || c == '-') = true
    · obtain ⟨direction, rfl⟩ : ∃ direction : TimeDirection, c = direction.sign := by
        rw [Bool.or_eq_true, beq_iff_eq, beq_iff_eq] at hsign
        rcases hsign with rfl | rfl
        · exact ⟨.future, rfl⟩
        · exact ⟨.past, rfl⟩
      refine ⟨direction.sign :: rest.takeWhile Char.isDigit, rest.dropWhile Char.isDigit, _, ?_,
        .signed direction ?_ (hdigits rest), hhead rest⟩
      · rw [List.cons_append, List.takeWhile_append_dropWhile]
      · -- a sign alone is no number
        intro hnil
        apply h
        rw [splitAmount?]
        simp only [if_pos hsign, hnil]
        cases direction <;> rfl
    · refine ⟨(c :: rest).takeWhile Char.isDigit, (c :: rest).dropWhile Char.isDigit, _, ?_,
        .plain ?_ (hdigits _), hhead _⟩
      · rw [List.takeWhile_append_dropWhile]
      · intro hnil
        apply h
        rw [splitAmount?]
        simp only [if_neg hsign, hnil]
        rfl

/-- **A word is split into a number that fits and what follows it.** -/
theorem splitAmount?_eq_some {word name : Text} {amount : Int}
    (h : splitAmount? word = some (amount, name)) :
    ∃ number, word = number ++ name ∧ WritesAmount number amount ∧ fitsSigned64 amount = true := by
  obtain ⟨number, tail, amount', rfl, hnumber, htail⟩ :=
    exists_number_of_splitAmount? (by rw [h]; exact nofun)
  rw [hnumber.splitAmount?_append htail] at h
  split at h
  · next hfits =>
    cases h
    exact ⟨number, rfl, hnumber, hfits⟩
  · cases h

/-! ## Checked arithmetic -/

/-- **What a plain operation leads to where it has no result.** -/
inductive Overflow where
  /-- A number that does not fit 64 bits. -/
  | number (n : Int)
  /-- A day that is not in the calendar. -/
  | day (n : Int)
  deriving DecidableEq, Repr

/-- The result of a plain operation on numbers of 64 bits. -/
def plain64 (n : Int) : Except Overflow Int :=
  if fitsSigned64 n then .ok n else .error (.number n)

/-- The moment that a plain addition of days leads to. -/
def plainDays (m : Moment) (days : Int) : Except Overflow Moment :=
  if (m.shiftDays days).inCalendar then .ok (m.shiftDays days) else .error (.day (m.day + days))

/-- `Occurrence.offset`, checked. -/
def Occurrence.checkedOffset (forward : Int) : Occurrence → Except Overflow Int
  | .last => if forward == 0 then .ok (-7) else plain64 (forward - 7)
  | .next => .ok (if forward == 0 then 7 else forward)
  | .this => .ok forward

/-- `weekdayFrom`, checked: no operation of it is guarded. -/
def checkedWeekday (now : Moment) (weekday : Weekday) (occurrence : Occurrence) :
    Except Overflow Moment := do
  let difference ← plain64 (Int.ofNat weekday.fromMonday - weekdayIndex now.day)
  let days ← occurrence.checkedOffset (difference % 7)
  plainDays now.midnight days

/-- A step, checked: `ago` is a plain negation, and the step itself is guarded. -/
def TimeUnit.checkedAdd (unit : TimeUnit) (ago : Bool) (amount : Int) (m : Moment) :
    Except Overflow (Option Moment) := do
  let amount ← if ago then plain64 (-amount) else .ok amount
  return unit.addLimited? amount m

/-- From where a step leads, if it leads anywhere, the next one is taken. -/
def andThen (step : Except Overflow (Option Moment))
    (next : Moment → Except Overflow (Option Moment)) : Except Overflow (Option Moment) :=
  match step with
  | .error overflow => .error overflow
  | .ok none => .ok none
  | .ok (some m) => next m

/-- **Terms are read and added in one go**, so that what cannot be read is not noticed before the
terms in front of it have been added. -/
def checkedTerms (ago : Bool) (m : Moment) : List Text → Except Overflow (Option Moment)
  | [] => .ok (some m)
  | word :: rest =>
    match splitAmount? word with
    | none => .ok none
    | some (amount, []) =>
      match rest with
      | [] => .ok none
      | name :: rest =>
        match TimeUnit.ofName? name with
        | none => .ok none
        | some unit =>
          andThen (unit.checkedAdd ago amount m) fun next => checkedTerms ago next rest
    | some (amount, glued) =>
      match TimeUnit.ofName? glued with
      | none => .ok none
      | some unit => andThen (unit.checkedAdd ago amount m) fun next => checkedTerms ago next rest

/-- `resolveTerms?`, checked. -/
def checkedOffsets (words : List Text) (now : Moment) : Except Overflow (Option Moment) :=
  let ago := words.getLast? == some "ago".toList
  let terms := if ago then words.dropLast else words
  match terms with
  | [] => .ok none
  | _ :: _ => checkedTerms ago now terms

/-- `resolveWords`, checked. -/
def checkedWords (words : List Text) (now : Moment) : Except Overflow (Option Moment) :=
  match words with
  | [word, day] =>
    match Occurrence.ofName? word with
    | some occurrence =>
      match Weekday.ofName? day with
      | some weekday => some <$> checkedWeekday now weekday occurrence
      | none => .ok none
    | none => checkedOffsets words now
  | [day] =>
    match Weekday.ofName? day with
    | some weekday => some <$> checkedWeekday now weekday .this
    | none => checkedOffsets words now
  | _ => checkedOffsets words now

/-- **Resolving a phrase with every operation checked.** Those of the fixed words and of a count of
seconds are guarded, and an absolute time is only read. -/
def checkedPhrase (phrase : Text) (now : Moment) : Except Overflow (Option Moment) :=
  let exact := phrase.trim
  let lower := exact.fold
  match resolveFixed? lower now with
  | some resolution => .ok resolution.moment?
  | none =>
    match lower with
    | '@' :: seconds =>
      .ok ((readSigned64? seconds).bind fun s => (Moment.ofSeconds s).inCalendar?)
    | _ =>
      match readStamp? exact with
      | some m => .ok (some m)
      | none => checkedWords lower.words now

/-! ## Days of the week -/

theorem plain64_eq {n : Int} (h : -2 ^ 63 ≤ n ∧ n < 2 ^ 63) : plain64 n = .ok n := by
  rw [plain64, if_pos (fitsSigned64_iff.2 h)]

theorem Occurrence.checkedOffset_eq (occurrence : Occurrence) {forward : Int} (hfirst : 0 ≤ forward)
    (hlast : forward < 7) :
    occurrence.checkedOffset forward = .ok (occurrence.offset forward) := by
  cases occurrence with
  | last =>
    rw [checkedOffset]
    split
    · next hzero =>
      rw [beq_iff_eq.1 hzero]
      rfl
    · exact plain64_eq (by omega)
  | next => rfl
  | this => rfl

/-- **A day of the week only fails at the last step**, when it lies outside the calendar. -/
theorem checkedWeekday_eq (now : Moment) (weekday : Weekday) (occurrence : Occurrence) :
    checkedWeekday now weekday occurrence =
      if (weekdayFrom now weekday occurrence).inCalendar then
        .ok (weekdayFrom now weekday occurrence)
      else .error (.day (weekdayFrom now weekday occurrence).day) := by
  have hmonday : weekday.fromMonday ≤ 6 := by cases weekday <;> decide
  have hindex : 0 ≤ weekdayIndex now.day ∧ weekdayIndex now.day < 7 := by
    rw [weekdayIndex]
    omega
  have hdifference : plain64 (Int.ofNat weekday.fromMonday - weekdayIndex now.day) =
      .ok (Int.ofNat weekday.fromMonday - weekdayIndex now.day) :=
    plain64_eq (by rw [Int.ofNat_eq_natCast]; omega)
  rw [checkedWeekday, hdifference]
  show (occurrence.checkedOffset _ >>= fun days => plainDays now.midnight days) = _
  rw [occurrence.checkedOffset_eq (Int.emod_nonneg _ (by decide)) (Int.emod_lt_of_pos _ (by decide))]
  rfl

/-! ## Terms -/

theorem turnedBack_cons (ago : Bool) (amount : Int) (unit : TimeUnit)
    (terms : List (Int × TimeUnit)) :
    turnedBack ago ((amount, unit) :: terms) =
      (if ago then -amount else amount, unit) :: turnedBack ago terms := by
  cases ago <;> rfl

/-- The amount of a term in front is turned around and added, and then those of the others. -/
theorem addTerms?_turnedBack_cons (ago : Bool) (amount : Int) (unit : TimeUnit)
    (terms : Option (List (Int × TimeUnit))) (m : Moment) :
    ((terms.map ((amount, unit) :: ·)).bind fun terms => addTerms? m (turnedBack ago terms)) =
      (unit.add? (if ago then -amount else amount) m).bind fun next =>
        terms.bind fun terms => addTerms? next (turnedBack ago terms) := by
  cases terms with
  | none => cases unit.add? (if ago then -amount else amount) m <;> rfl
  | some terms =>
    rw [Option.map_some, Option.bind_some, turnedBack_cons, addTerms?]
    cases unit.add? (if ago then -amount else amount) m <;> rfl

/-- The least amount cannot be turned around. -/
theorem TimeUnit.checkedAdd_least (unit : TimeUnit) (m : Moment) :
    unit.checkedAdd true (-2 ^ 63) m = .error (.number (2 ^ 63)) := rfl

/-- **Every other amount can.** -/
theorem TimeUnit.checkedAdd_eq {ago : Bool} {amount : Int} (hfits : fitsSigned64 amount = true)
    (hleast : ago = true → amount ≠ -2 ^ 63) (unit : TimeUnit) (m : Moment) :
    unit.checkedAdd ago amount m = .ok (unit.addLimited? (if ago then -amount else amount) m) := by
  cases ago with
  | false => rfl
  | true =>
    have hne := hleast rfl
    rw [fitsSigned64_iff] at hfits
    rw [checkedAdd, if_pos rfl, plain64_eq (by omega)]
    rfl

variable {words rest : List Text} {m next : Moment}

/-- **The first term of words**, whether its unit is glued to the number or not. -/
theorem checkedTerms_first {first : List Text} {amount : Int} {unit : TimeUnit}
    (h : SpellsTerms first [(amount, unit)]) (hfits : fitsSigned64 amount = true) (ago : Bool)
    (m : Moment) (rest : List Text) :
    readTerms? (first ++ rest) = (readTerms? rest).map ((amount, unit) :: ·) ∧
      checkedTerms ago m (first ++ rest) =
        andThen (unit.checkedAdd ago amount m) fun next => checkedTerms ago next rest := by
  cases h with
  | @glued number name _ _ _ _ hnumber hname hrest =>
    cases hrest
    obtain ⟨hne, hsplit⟩ := hnumber.splitAmount?_name hname
    rw [if_pos hfits] at hsplit
    refine ⟨readTerms?_glued hne hsplit hname, ?_⟩
    obtain ⟨c, letters, rfl⟩ := List.exists_cons_of_ne_nil hne
    rw [List.singleton_append, checkedTerms, hsplit]
    simp only [hname]
  | @apart number name _ _ _ _ hnumber hname hrest =>
    cases hrest
    have hsplit := hnumber.splitAmount?_alone
    rw [if_pos hfits] at hsplit
    refine ⟨readTerms?_apart hsplit hname, ?_⟩
    rw [List.cons_append, List.singleton_append, checkedTerms, hsplit]
    simp only [hname]

/-- **Words begin with a term, or neither reading gets anywhere.** -/
theorem first_cases (hne : words ≠ []) :
    (∃ first amount unit rest, words = first ++ rest ∧ SpellsTerms first [(amount, unit)] ∧
        fitsSigned64 amount = true) ∨
      readTerms? words = none ∧ ∀ ago m, checkedTerms ago m words = .ok none := by
  cases words with
  | nil => exact absurd rfl hne
  | cons word rest =>
    cases hsplit : splitAmount? word with
    | none => exact .inr ⟨readTerms?_of_unsplit hsplit, fun ago m => by rw [checkedTerms, hsplit]⟩
    | some parts =>
      obtain ⟨amount, name⟩ := parts
      obtain ⟨number, hword, hnumber, hfits⟩ := splitAmount?_eq_some hsplit
      cases name with
      | cons c letters =>
        cases hname : TimeUnit.ofName? (c :: letters) with
        | none =>
          refine .inr ⟨?_, fun ago m => ?_⟩
          · rw [readTerms?, hsplit]
            simp only [hname]
          · rw [checkedTerms, hsplit]
            simp only [hname]
        | some unit =>
          refine .inl ⟨[number ++ c :: letters], amount, unit, rest, ?_, ?_, hfits⟩
          · rw [hword, List.singleton_append]
          · exact .glued hnumber hname .nil
      | nil =>
        cases rest with
        | nil =>
          refine .inr ⟨?_, fun ago m => ?_⟩
          · rw [readTerms?, hsplit]
          · rw [checkedTerms, hsplit]
        | cons name rest =>
          cases hname : TimeUnit.ofName? name with
          | none =>
            refine .inr ⟨?_, fun ago m => ?_⟩
            · rw [readTerms?, hsplit]
              simp only [hname]
            · rw [checkedTerms, hsplit]
              simp only [hname]
          | some unit =>
            refine .inl ⟨[number, name], amount, unit, rest, ?_, ?_, hfits⟩
            · rw [hword, List.append_nil]
              rfl
            · exact .apart hnumber hname .nil

/-- **A term with the least amount is turned around**, after the terms in front of it have been turned
around and added. -/
inductive NegatesLeast : Moment → List Text → Prop where
  | here {first : List Text} {unit : TimeUnit} (hfirst : SpellsTerms first [(-2 ^ 63, unit)])
    (m : Moment) (rest : List Text) : NegatesLeast m (first ++ rest)
  | behind {first rest : List Text} {amount : Int} {unit : TimeUnit} {m next : Moment}
    (hfirst : SpellsTerms first [(amount, unit)]) (hfits : fitsSigned64 amount = true)
    (hadd : unit.add? (-amount) m = some next) (hrest : NegatesLeast next rest) :
    NegatesLeast m (first ++ rest)

theorem NegatesLeast.checkedTerms_eq (h : NegatesLeast m words) (hm : m.IsValid) :
    checkedTerms true m words = .error (.number (2 ^ 63)) := by
  induction h with
  | here hfirst m rest =>
    rw [(checkedTerms_first hfirst (by decide) true m rest).2, TimeUnit.checkedAdd_least]
    rfl
  | @behind first rest amount unit m next hfirst hfits hadd _ ih =>
    have hleast : amount ≠ -2 ^ 63 := by
      rintro rfl
      rw [hm.add?_eq_none unit (by decide)] at hadd
      cases hadd
    rw [(checkedTerms_first hfirst hfits true m rest).2,
      TimeUnit.checkedAdd_eq hfits (fun _ => hleast), if_pos rfl, TimeUnit.addLimited?_eq hm, hadd]
    exact ih (hm.add? hadd)

/-- **Reading and adding in one go** comes to the same as reading first, but where the least amount is
turned around. -/
theorem checkedTerms_cases (ago : Bool) (words : List Text) (hm : m.IsValid) :
    (ago = true ∧ NegatesLeast m words) ∨
      checkedTerms ago m words =
        .ok ((readTerms? words).bind fun terms => addTerms? m (turnedBack ago terms)) := by
  induction hlength : words.length using Nat.strong_induction_on generalizing words m with
  | _ length ih =>
    by_cases hnil : words = []
    · right
      subst hnil
      cases ago <;> rfl
    rcases first_cases hnil with ⟨first, amount, unit, rest, rfl, hfirst, hfits⟩ | ⟨hread, hchecked⟩
    · by_cases hleast : ago = true ∧ amount = -2 ^ 63
      · obtain ⟨rfl, rfl⟩ := hleast
        exact .inl ⟨rfl, .here hfirst m rest⟩
      have hadd := TimeUnit.checkedAdd_eq hfits (fun hago heq => hleast ⟨hago, heq⟩) unit m
      obtain ⟨hread, hchecked⟩ := checkedTerms_first hfirst hfits ago m rest
      rw [hchecked, hread, hadd, addTerms?_turnedBack_cons, TimeUnit.addLimited?_eq hm]
      cases hstep : unit.add? (if ago then -amount else amount) m with
      | none => exact .inr rfl
      | some next =>
        have hne : first ≠ [] := by
          rintro rfl
          cases hfirst
        have hshorter : rest.length < length := by
          have hpos := List.length_pos_iff.2 hne
          rw [List.length_append] at hlength
          omega
        rcases ih _ hshorter rest (hm.add? hstep) rfl with ⟨rfl, hrest⟩ | hrest
        · exact .inl ⟨rfl, .behind hfirst hfits hstep hrest⟩
        · exact .inr hrest
    · right
      rw [hread, hchecked]
      rfl

/-- The first word begins with a number. -/
theorem NegatesLeast.exists_first (h : NegatesLeast m words) :
    ∃ number amount name rest, words = (number ++ name) :: rest ∧ WritesAmount number amount ∧
      ∀ c ∈ name.head?, c.isAlpha = true := by
  obtain ⟨first, amount, unit, rest, rfl, hfirst⟩ : ∃ first amount unit rest,
      words = first ++ rest ∧ SpellsTerms first [(amount, unit)] := by
    cases h with
    | here hfirst _ rest => exact ⟨_, _, _, rest, rfl, hfirst⟩
    | behind hfirst => exact ⟨_, _, _, _, rfl, hfirst⟩
  obtain ⟨number, value, name, others, rfl, hnumber, hname⟩ :=
    hfirst.exists_first (List.cons_ne_nil _ _)
  exact ⟨number, value, name, others ++ rest, List.cons_append, hnumber, hname⟩

/-- With the last word `ago` or without it, the terms in front are what both readings go by. -/
theorem offsets_eq {front : List Text} {ago : Bool} (hne : front ≠ [])
    (hlast : (words.getLast? == some "ago".toList) = ago)
    (hfront : (if ago then words.dropLast else words) = front) (m : Moment) :
    checkedOffsets words m = checkedTerms ago m front ∧
      resolveTerms? words m =
        (readTerms? front).bind fun terms => addTerms? m (turnedBack ago terms) := by
  obtain ⟨word, rest, rfl⟩ := List.exists_cons_of_ne_nil hne
  constructor
  · simp only [checkedOffsets, hlast, hfront]
  · simp only [resolveTerms?, hlast, hfront]
    cases readTerms? (word :: rest) <;> rfl

theorem offsets_ago {front : List Text} (hne : front ≠ []) (m : Moment) :
    checkedOffsets (front ++ ["ago".toList]) m = checkedTerms true m front ∧
      resolveTerms? (front ++ ["ago".toList]) m =
        (readTerms? front).bind fun terms => addTerms? m (turnedBack true terms) := by
  refine offsets_eq hne ?_ ?_ m
  · rw [List.getLast?_concat, beq_self_eq_true]
  · rw [if_pos rfl, List.dropLast_concat]

theorem NegatesLeast.checkedOffsets_eq (h : NegatesLeast m words) (hm : m.IsValid) :
    checkedOffsets (words ++ ["ago".toList]) m = .error (.number (2 ^ 63)) := by
  obtain ⟨number, amount, name, rest, hcons, -, -⟩ := h.exists_first
  have hne : words ≠ [] := hcons ▸ List.cons_ne_nil _ _
  rw [(offsets_ago hne m).1, h.checkedTerms_eq hm]

theorem checkedOffsets_cases (words : List Text) (hm : m.IsValid) :
    (∃ front, words = front ++ ["ago".toList] ∧ NegatesLeast m front) ∨
      checkedOffsets words m = .ok (resolveTerms? words m) := by
  by_cases hlast : (words.getLast? == some "ago".toList) = true
  · obtain ⟨front, rfl⟩ := List.getLast?_eq_some_iff.1 (beq_iff_eq.1 hlast)
    by_cases hnil : front = []
    · subst hnil
      exact .inr rfl
    obtain ⟨hoffsets, hterms⟩ := offsets_ago hnil m
    rcases checkedTerms_cases true front hm with ⟨-, hleast⟩ | hchecked
    · exact .inl ⟨front, rfl, hleast⟩
    · right
      rw [hoffsets, hterms, hchecked]
  · right
    by_cases hnil : words = []
    · subst hnil
      rfl
    obtain ⟨hoffsets, hterms⟩ := offsets_eq hnil (Bool.not_eq_true _ ▸ hlast) rfl m
    rw [hoffsets, hterms]
    exact (checkedTerms_cases false words hm).resolve_left fun h => absurd h.1 Bool.false_ne_true

end MonitorControl
