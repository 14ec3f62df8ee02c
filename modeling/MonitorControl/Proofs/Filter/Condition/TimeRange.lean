/-
What the sign in front of a value does to it.

A value that begins with a digit gets the sign of a direction, and the sign is a part of
the text that is resolved. Amounts of time take it for the sign of the first of them, and
of no other, and `ago` turns that one around with the rest (`node?_of_terms`). An absolute
time takes it for the sign of its year: a plus changes nothing, and a minus leads to the
year on the other side of the year 0 (`node?_of_stamp`).
-/
import MonitorControl.Proofs.Filter.Heads
import MonitorControl.Proofs.Text.Quotes
import MonitorControl.Proofs.Time.Terms

set_option autoImplicit false

namespace MonitorControl

open Text

/-! ## Signed values -/

namespace TimeRange

/-- The three ranges there are. -/
def all : List TimeRange := [standard, nextCheck, lastCheck]

variable {range : TimeRange} {token : Text} {comparison : Comparison}

/-- No operator of a range begins another, and none occurs twice. -/
theorem readToken?_table (hrange : range ∈ all) (hentry : (token, comparison) ∈ range.table)
    {word : Text} (hword : word.sameLetters token = true) (rest : Text) :
    readToken? range.table (word ++ rest) = some (comparison, rest.trim) := by
  have hfind : ∀ range ∈ all, ∀ entry ∈ range.table,
      range.table.find? (·.1 == entry.1) = some entry := by
    decide
  have hbeyond : ∀ range ∈ all, ∀ u ∈ range.table.map Prod.fst, ∀ entry ∈ range.table,
      u.startsWith entry.1 = true → u = entry.1 := by
    decide
  apply readToken?_append (hfind range hrange (token, comparison) hentry) hword
  intro u hu _ h
  exact hbeyond range hrange u hu (token, comparison) hentry h

/-- The direction of a range after one of its operators. -/
def direction (range : TimeRange) (comparison : Comparison) : TimeDirection :=
  range.forced.getD comparison.timeDirection

/-- A value that begins with a digit is signed. -/
theorem signed_of_digit {value : Text} {c : Char} (hfirst : value.head? = some c)
    (hc : c.isDigit = true) :
    range.signed comparison value = (range.direction comparison).sign :: value := by
  cases value with
  | nil => cases hfirst
  | cons d value =>
    obtain rfl := Option.some_inj.1 hfirst
    exact if_pos hc

/-- The phrase of a query whose value begins with a digit. -/
theorem phrase?_of_digit {query rest : Text} {c : Char}
    (hread : readToken? range.table query = some (comparison, rest))
    (hfirst : (trimQuotes rest).head? = some c) (hc : c.isDigit = true) :
    range.phrase? query =
      some (comparison, (range.direction comparison).sign :: trimQuotes rest) := by
  have hne : ¬ (trimQuotes rest).isEmpty = true := by
    rw [List.isEmpty_iff]
    intro hnil
    rw [hnil] at hfirst
    cases hfirst
  simp only [phrase?, hread, Option.bind_eq_bind, Option.bind_some, if_neg hne,
    signed_of_digit hfirst hc]

/-- **A condition is accepted if its phrase names a moment**, and then it has that phrase. -/
theorem accepts_iff {query phrase : Text} {now : Moment}
    (hphrase : range.phrase? query = some (comparison, phrase)) :
    range.accepts now query = true ↔ ∃ m, resolvePhrase phrase now = .moment m := by
  rw [accepts, read?, hphrase, Option.filter_some, ← isTimePhrase_iff]
  cases h : isTimePhrase phrase now <;> simp [h]

theorem node?_of_phrase? {query phrase : Text} {now m : Moment}
    (hphrase : range.phrase? query = some (comparison, phrase))
    (hm : resolvePhrase phrase now = .moment m) (field : Text) :
    range.node? now query field = some (.time field comparison phrase) := by
  have htime : isTimePhrase phrase now = true := isTimePhrase_iff.2 ⟨m, hm⟩
  simp only [node?, read?, hphrase, Option.filter_some, htime, if_true, Option.map_some]

/-! ## Absolute times -/

/-- **The sign of an absolute time is the sign of its year.** A text that begins with a digit and is
an absolute time, behind an operator and in quotation marks or not, is a condition with the moment
whose month, day and time of day it says, and whose year is turned as the direction is. So the
condition is about the moment that the text means exactly if it is forwards, or in the year 0. -/
theorem node?_of_stamp (hrange : range ∈ all) (hentry : (token, comparison) ∈ range.table)
    {word gap opening closing v : Text} (hword : word.sameLetters token = true)
    (hgap : ∀ c ∈ gap, isBlank c = true) (hopening : ∀ c ∈ opening, isQuote c = true)
    (hclosing : ∀ c ∈ closing, isQuote c = true) (hdigit : ∃ c ∈ v.head?, c.isDigit = true)
    {m : Moment} (hv : readStamp? v.trim = some m) (now : Moment) (field : Text) :
    ∃ (n : StampNumbers) (m' : Moment) (phrase : Text),
      n.toMoment? = some m ∧
      StampNumbers.toMoment? { n with year := (range.direction comparison).turn n.year } =
        some m' ∧
      range.node? now (word ++ (gap ++ (opening ++ v ++ closing))) field =
        some (.time field comparison phrase) ∧
      (∀ clock, resolvePhrase v clock = .moment m ∧ resolvePhrase phrase clock = .moment m') ∧
      (m' = m ↔ range.direction comparison = .future ∨ n.year = 0) := by
  obtain ⟨c, hfirst, hc⟩ := hdigit
  have hblank := isBlank_of_isDigit hc
  obtain ⟨trail, hparts, hhead, htrail⟩ := exists_trail_of_head hfirst hblank
  have hquotes : ∀ d ∈ v, isQuote d = false := by
    intro d hd
    rw [hparts] at hd
    rcases List.mem_append.1 hd with hd | hd
    · exact isQuote_of_readStamp? hv d hd
    · exact isQuote_of_isBlank (htrail d hd)
  obtain ⟨value, trail', hvalue, hv', hhead', htrail'⟩ :=
    exists_trimQuotes_eq hgap hopening hclosing hfirst hblank hquotes
  have htrim : trim value = trim v := by
    rw [hv', trim_append_of_blank htrail']
  obtain ⟨n, m', hyear, hm, hm', hread⟩ :=
    readStamp?_signed (range.direction comparison) ⟨c, hhead, hc⟩ hv
  have hplain : ∀ clock, resolvePhrase v clock = .moment m := by
    intro clock
    rw [resolvePhrase_of_head hhead (isAlpha_of_isDigit hc) (by rintro rfl; cases hc), hv]
  have hsigned : ∀ clock,
      resolvePhrase ((range.direction comparison).sign :: value) clock = .moment m' := by
    intro clock
    have hsplit := trim_cons_of_head (isBlank_sign (range.direction comparison)) hhead' hblank
    rw [htrim] at hsplit
    rw [resolvePhrase_of_head (c := (range.direction comparison).sign) (by rw [hsplit]; rfl)
      (isAlpha_sign _) (sign_ne_at _), hsplit, hread]
  refine ⟨n, m', (range.direction comparison).sign :: value, hm, hm', ?_,
    fun clock => ⟨hplain clock, hsigned clock⟩, toMoment?_turn hyear hm hm'⟩
  have hphrase := phrase?_of_digit (readToken?_table hrange hentry hword _) (hvalue ▸ hhead') hc
  rw [hvalue] at hphrase
  exact node?_of_phrase? hphrase (hsigned now) field

/-- An absolute time in quotation marks, where all lengths of time are in the future. -/
theorem node?_of_stamp_nextCheck :
    ("After".toList, Comparison.greaterEqual) ∈ nextCheck.table ∧
      readStamp? (trim "2024-03-01 12:00") = some ⟨19783, 12, 0, 0⟩ ∧
      ∃ phrase, nextCheck.node? ⟨19858, 10, 30, 0⟩ "after '2024-03-01 12:00'" "next_check" =
          some (.time "next_check" .greaterEqual phrase) ∧
        ∀ clock, resolvePhrase phrase clock = .moment ⟨19783, 12, 0, 0⟩ := by
  have hentry : ("After".toList, Comparison.greaterEqual) ∈ nextCheck.table := by decide
  have hv : readStamp? (trim "2024-03-01 12:00") = some ⟨19783, 12, 0, 0⟩ := by decide
  have hword : sameLetters "after" "After" = true := by decide
  have hgap : ∀ c ∈ " ".toList, isBlank c = true := List.all_eq_true.1 (by decide)
  have hquote : ∀ c ∈ "'".toList, isQuote c = true := List.all_eq_true.1 (by decide)
  have hdigit : ∃ c ∈ "2024-03-01 12:00".toList.head?, c.isDigit = true := ⟨'2', rfl, rfl⟩
  obtain ⟨n, m', phrase, -, -, hnode, hclock, hiff⟩ := node?_of_stamp (by decide) hentry hword hgap
    hquote hquote hdigit hv ⟨19858, 10, 30, 0⟩ "next_check"
  rw [hiff.2 (.inl rfl)] at hclock
  exact ⟨hentry, hv, phrase, hnode, fun clock => (hclock clock).2⟩

/-- **A minus in front of a date** is taken for the sign of its year, and the moment is another one.
The same date behind an operator whose sign is a plus is the moment that it says. -/
theorem node?_newerThan_date :
    lastCheck.node? ⟨19858, 10, 30, 0⟩ "Newer Than 2024-03-01" "last_check" =
        some (.time "last_check" .greaterEqual "-2024-03-01") ∧
      resolvePhrase "2024-03-01" ⟨19858, 10, 30, 0⟩ = .moment ⟨19783, 0, 0, 0⟩ ∧
      resolvePhrase "-2024-03-01" ⟨19858, 10, 30, 0⟩ = .moment ⟨-1458719, 0, 0, 0⟩ ∧
      standard.node? ⟨19858, 10, 30, 0⟩ "Before 2024-03-01" "last_check" =
        some (.time "last_check" .lessEqual "+2024-03-01") ∧
      resolvePhrase "+2024-03-01" ⟨19858, 10, 30, 0⟩ = .moment ⟨19783, 0, 0, 0⟩ := by
  decide

/-! ## Amounts of time -/

/-- **The sign of a length of time is the sign of its first amount.** An accepted phrase of amounts
without signs, with `ago` or without, is a condition with the moment that its terms lead to, the
first of them turned as the direction is, and all of them turned back by `ago`. So the direction
governs a phrase without `ago` if it is forwards or there is one term, and then the moment lies in
that direction. -/
theorem node?_of_terms {query rest : Text} {terms : List (Int × TimeUnit)} {ago : Bool}
    {now : Moment} (hread : readToken? range.table query = some (comparison, rest))
    (hphrase : UnsignedPhrase (trimQuotes rest) terms ago)
    (haccepts : range.accepts now query = true) (field : Text) :
    ∃ phrase, range.node? now query field = some (.time field comparison phrase) ∧
      ∀ clock,
        resolvePhrase phrase clock = .ofOption (addTerms? clock
          (turnedBack ago ((range.direction comparison).turnFirst terms))) ∧
        (ago = false → range.direction comparison = .future ∨ terms.length = 1 →
          resolvePhrase phrase clock =
              .ofOption (addTerms? clock ((range.direction comparison).turnAll terms)) ∧
            ∀ m, resolvePhrase phrase clock = .moment m →
              (range.direction comparison).Leads clock m) := by
  obtain ⟨-, -, -, -, c, hfirst, hc⟩ := hphrase.exists_words
  have hsigned := phrase?_of_digit hread hfirst hc
  obtain ⟨m, hm⟩ := (accepts_iff hsigned).1 haccepts
  have hspells := hphrase.signed (range.direction comparison)
  -- an amount that does not fit would have made the phrase unreadable
  have hfits : termsFit ((range.direction comparison).turnFirst terms) = true := by
    rw [hspells.resolvePhrase_eq] at hm
    by_contra hnot
    rw [if_neg hnot] at hm
    cases hm
  have hresolve : ∀ clock, resolvePhrase ((range.direction comparison).sign :: trimQuotes rest)
      clock = .ofOption (addTerms? clock
        (turnedBack ago ((range.direction comparison).turnFirst terms))) := by
    intro clock
    rw [hspells.resolvePhrase_eq, if_pos hfits]
  refine ⟨_, node?_of_phrase? hsigned hm field, fun clock => ⟨hresolve clock, ?_⟩⟩
  rintro rfl hgoverned
  have hall : resolvePhrase ((range.direction comparison).sign :: trimQuotes rest) clock =
      .ofOption (addTerms? clock ((range.direction comparison).turnAll terms)) := by
    rw [hresolve, TimeDirection.turnFirst_eq hgoverned]
    rfl
  refine ⟨hall, fun m' hm' => ?_⟩
  rw [hall] at hm'
  cases hadd : addTerms? clock ((range.direction comparison).turnAll terms) with
  | none =>
    rw [hadd] at hm'
    cases hm'
  | some m'' =>
    rw [hadd] at hm'
    obtain rfl : m'' = m' := Resolution.moment.inj hm'
    exact leads_of_addTerms? hphrase.nonneg hadd

/-- Two amounts forwards, one with its unit glued to it. -/
theorem node?_of_terms_before :
    let now : Moment := ⟨19858, 10, 30, 0⟩
    let terms : List (Int × TimeUnit) := [(1, .hour), (30, .minute)]
    UnsignedPhrase "1 hour 30MIN" terms false ∧
      standard.accepts now "before \"1 hour 30MIN\"" = true ∧
      ∃ phrase, standard.node? now "before \"1 hour 30MIN\"" "next_check" =
          some (.time "next_check" .lessEqual phrase) ∧
        ∀ clock, resolvePhrase phrase clock = .ofOption (addTerms? clock terms) ∧
          ∀ m, resolvePhrase phrase clock = .moment m → clock.toSeconds ≤ m.toSeconds := by
  intro now terms
  have hread : readToken? standard.table "before \"1 hour 30MIN\"" =
      some (.lessEqual, "\"1 hour 30MIN\"".toList) := by
    decide
  have hone : WritesAmount "1" 1 := .plain (by decide) (List.all_eq_true.1 (by decide))
  have hthirty : WritesAmount "30" 30 := .plain (by decide) (List.all_eq_true.1 (by decide))
  have hterms : SpellsTerms ["1", "hour", "30min"] terms :=
    .apart hone (by decide) (.glued hthirty (by decide) .nil)
  have hphrase : UnsignedPhrase "1 hour 30MIN" terms false := by
    have hwords : (fold "1 hour 30MIN").words = ["1".toList, "hour".toList, "30min".toList] := by
      decide
    refine ⟨?_, fun c hc => ?_, ?_⟩
    · rw [hwords]
      exact .plain hterms (by decide)
    · obtain rfl : '1' = c := Option.some_inj.1 hc
      decide
    · rw [hwords]
      decide
  have haccepts : standard.accepts now "before \"1 hour 30MIN\"" = true := by decide
  obtain ⟨phrase, hnode, hclock⟩ := node?_of_terms hread hphrase haccepts "next_check"
  exact ⟨hphrase, haccepts, phrase, hnode, fun clock => (hclock clock).2 rfl (.inl rfl)⟩

/-- **Where a length of time that is forced into the past leads forwards**: `ago` turns the one amount
around again, and a second amount has no sign. -/
theorem node?_olderThan_ago :
    let now : Moment := ⟨19858, 10, 30, 0⟩
    lastCheck.node? now "Older Than 5 minutes ago" "last_check" =
        some (.time "last_check" .lessEqual "-5 minutes ago") ∧
      addTerms? now [(-5, .minute)] = some ⟨19858, 10, 25, 0⟩ ∧
      resolvePhrase "-5 minutes ago" now = .moment ⟨19858, 10, 35, 0⟩ ∧
      lastCheck.node? now "Older Than 1 hour 90 minutes" "last_check" =
        some (.time "last_check" .lessEqual "-1 hour 90 minutes") ∧
      addTerms? now [(-1, .hour), (-90, .minute)] = some ⟨19858, 8, 0, 0⟩ ∧
      resolvePhrase "-1 hour 90 minutes" now = .moment ⟨19858, 11, 0, 0⟩ := by
  decide

end TimeRange

end MonitorControl
