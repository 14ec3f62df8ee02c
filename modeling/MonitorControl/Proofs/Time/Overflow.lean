/-
Where resolving a phrase overflows.

There are two places and no others (`Overflows`): a day of the week that lies outside the
calendar, which can only be meant within a week of its ends, and the least amount of 64
bits, turned around by `ago`. Only phrases that come to their words get there
(`ComesToWords`), and so what is to be shown of a phrase with an overflow is that it is
none of the others: a name of a day begins with a letter, but is no fixed word; terms begin
with a number, but no dash follows that.
-/
import MonitorControl.Proofs.Time.Checked

set_option autoImplicit false

namespace MonitorControl

open Text

variable {words : List Text} {m : Moment}

/-! ## Overflows -/

/-- **Words in lower case name a day of the week**: an occurrence of it, or the next one from today
on. -/
inductive NamesWeekday : List Text → Weekday → Occurrence → Prop where
  | plain {day : Text} {weekday : Weekday} (hday : Weekday.ofName? day = some weekday) :
    NamesWeekday [day] weekday .this
  | directed {word day : Text} {weekday : Weekday} {occurrence : Occurrence}
    (hoccurrence : Occurrence.ofName? word = some occurrence)
    (hday : Weekday.ofName? day = some weekday) : NamesWeekday [word, day] weekday occurrence

/-- **The two overflows there are**: a day of the week outside the calendar, and the least amount
turned around by `ago`. -/
inductive Overflows (now : Moment) : List Text → Overflow → Prop where
  | weekday {words : List Text} {weekday : Weekday} {occurrence : Occurrence}
    (hnames : NamesWeekday words weekday occurrence)
    (houtside : (weekdayFrom now weekday occurrence).inCalendar = false) :
    Overflows now words (.day (weekdayFrom now weekday occurrence).day)
  | least {front : List Text} (hleast : NegatesLeast now front) :
    Overflows now (front ++ ["ago".toList]) (.number (2 ^ 63))

/-- **Words are a day of the week, or nothing that can be read, or terms.** -/
theorem words_cases (words : List Text) (m : Moment) :
    (∃ weekday occurrence, NamesWeekday words weekday occurrence ∧
        checkedWords words m = some <$> checkedWeekday m weekday occurrence ∧
        resolveWords words m = resolveWeekday m weekday occurrence) ∨
      checkedWords words m = .ok none ∧ resolveWords words m = .unreadable ∨
      checkedWords words m = checkedOffsets words m ∧
        resolveWords words m = .ofOption (resolveTerms? words m) := by
  match words with
  | [] => exact .inr (.inr ⟨rfl, rfl⟩)
  | [day] =>
    cases hday : Weekday.ofName? day with
    | none => exact .inr (.inr (by simp only [checkedWords, resolveWords, hday, and_self]))
    | some weekday =>
      exact .inl ⟨weekday, .this, .plain hday, by simp only [checkedWords, hday],
        by simp only [resolveWords, hday]⟩
  | [word, day] =>
    cases hoccurrence : Occurrence.ofName? word with
    | none => exact .inr (.inr (by simp only [checkedWords, resolveWords, hoccurrence, and_self]))
    | some occurrence =>
      cases hday : Weekday.ofName? day with
      | none =>
        exact .inr (.inl (by simp only [checkedWords, resolveWords, hoccurrence, hday, and_self]))
      | some weekday =>
        exact .inl ⟨weekday, occurrence, .directed hoccurrence hday,
          by simp only [checkedWords, hoccurrence, hday],
          by simp only [resolveWords, hoccurrence, hday]⟩
  | _ :: _ :: _ :: _ => exact .inr (.inr ⟨rfl, rfl⟩)

/-- **Words are resolved without overflow, or one of the two is there.** -/
theorem checkedWords_cases (words : List Text) (hm : m.IsValid) :
    (∃ overflow, Overflows m words overflow) ∨
      checkedWords words m = .ok (resolveWords words m).moment? := by
  rcases words_cases words m with ⟨weekday, occurrence, hnames, hchecked, hresolved⟩ |
    ⟨hchecked, hresolved⟩ | ⟨hchecked, hresolved⟩
  · rw [hchecked, hresolved]
    cases hinside : (weekdayFrom m weekday occurrence).inCalendar with
    | false => exact .inl ⟨_, .weekday hnames hinside⟩
    | true =>
      right
      rw [checkedWeekday_eq, resolveWeekday, hinside]
      rfl
  · rw [hchecked, hresolved]
    exact .inr rfl
  · rw [hchecked, hresolved]
    rcases checkedOffsets_cases words hm with ⟨front, rfl, hleast⟩ | hoffsets
    · exact .inl ⟨_, .least hleast⟩
    · right
      rw [hoffsets]
      cases resolveTerms? words m <;> rfl

/-- Words that begin with no letter name no day of the week. -/
theorem checkedWords_of_head {c : Char} (hc : c.isAlpha = false) (word : Text) (words : List Text)
    (m : Moment) :
    checkedWords ((c :: word) :: words) m = checkedOffsets ((c :: word) :: words) m := by
  obtain ⟨hday, hoccurrence⟩ := ofName?_of_head hc word
  cases words with
  | nil => simp only [checkedWords, hday]
  | cons day words =>
    cases words with
    | nil => simp only [checkedWords, hoccurrence]
    | cons other words => rfl

theorem Overflows.checkedWords_eq {overflow : Overflow} (h : Overflows m words overflow)
    (hm : m.IsValid) : checkedWords words m = .error overflow := by
  cases h with
  | weekday hnames houtside =>
    cases hnames with
    | plain hday =>
      simp only [checkedWords, hday, checkedWeekday_eq, houtside]
      rfl
    | directed hoccurrence hday =>
      simp only [checkedWords, hoccurrence, hday, checkedWeekday_eq, houtside]
      rfl
  | @least front hleast =>
    obtain ⟨number, amount, name, rest, hcons, hnumber, -⟩ := hleast.exists_first
    obtain ⟨c, digits, hnum, hletter, -, -⟩ := hnumber.exists_head
    rw [← hleast.checkedOffsets_eq hm, hcons, hnum]
    exact checkedWords_of_head hletter _ _ m

/-! ## Phrases that come to words -/

/-- **A phrase that comes to its words**: it is no fixed word, no count of seconds and no absolute
time. -/
structure ComesToWords (phrase : Text) (now : Moment) : Prop where
  not_fixed : resolveFixed? phrase.trim.fold now = none
  not_seconds : phrase.trim.fold.head? ≠ some '@'
  not_stamp : readStamp? phrase.trim = none

theorem ComesToWords.checkedPhrase_eq {phrase : Text} (h : ComesToWords phrase m) :
    checkedPhrase phrase m = checkedWords phrase.fold.words m ∧
      resolvePhrase phrase m = resolveWords phrase.fold.words m := by
  have hwords : phrase.trim.fold.words = phrase.fold.words := by rw [← trim_fold, words_trim]
  simp only [checkedPhrase, resolvePhrase, h.not_fixed, h.not_stamp, ← hwords]
  have hseconds := h.not_seconds
  constructor <;>
  · split
    · next heq =>
      rw [heq] at hseconds
      exact absurd rfl hseconds
    · rfl

/-- Every other phrase is resolved with guarded operations only. -/
theorem checkedPhrase_of_not_comesToWords {phrase : Text} (h : ¬ ComesToWords phrase m) :
    checkedPhrase phrase m = .ok (resolvePhrase phrase m).moment? := by
  cases hfixed : resolveFixed? phrase.trim.fold m with
  | some resolution => simp only [checkedPhrase, resolvePhrase, hfixed]
  | none =>
    by_cases hhead : phrase.trim.fold.head? = some '@'
    · obtain ⟨seconds, hcons⟩ := List.head?_eq_some_iff.1 hhead
      rw [hcons] at hfixed
      simp only [checkedPhrase, resolvePhrase, hcons, hfixed]
      cases (readSigned64? seconds).bind fun s => (Moment.ofSeconds s).inCalendar? <;> rfl
    · obtain ⟨stamp, hstamp⟩ : ∃ stamp, readStamp? phrase.trim = some stamp :=
        Option.ne_none_iff_exists'.1 fun hstamp => h ⟨hfixed, hhead, hstamp⟩
      have hnot : ∀ seconds, phrase.trim.fold ≠ '@' :: seconds := by
        intro seconds hcons
        rw [hcons] at hhead
        exact hhead rfl
      have hresolved : resolvePhrase phrase m = .moment stamp := by
        simp only [resolvePhrase, hfixed, hstamp]
      simp only [checkedPhrase, hfixed, hstamp, hresolved]
      rfl

/-! ## Phrases of terms, and days of the week -/

theorem comesToWords_of_number {phrase number name : Text} {amount : Int} {rest : List Text}
    (hwords : phrase.fold.words = (number ++ name) :: rest) (hnumber : WritesAmount number amount)
    (hname : ∀ c ∈ name.head?, c.isAlpha = true) (m : Moment) : ComesToWords phrase m := by
  obtain ⟨c, digits, hcons, hletter, hat, -⟩ := hnumber.exists_head
  obtain ⟨hstamp, hfirst⟩ := readStamp?_of_number hwords hnumber hname
  rw [hcons] at hfirst
  obtain ⟨tail, htrim⟩ : ∃ tail, phrase.trim = c :: tail := List.head?_eq_some_iff.1 hfirst
  have hkeep : c.toLower = c := (toLower_cases c).resolve_right (by simp [hletter])
  refine ⟨?_, ?_, hstamp⟩
  · rw [htrim, fold_cons, hkeep, resolveFixed?_cons hletter]
  · rw [htrim, fold_cons, hkeep, List.head?_cons, Ne, Option.some_inj]
    exact hat

/-- The name of a day of the week begins with a letter, and so does a word in front of it. -/
theorem NamesWeekday.exists_first {weekday : Weekday} {occurrence : Occurrence}
    (h : NamesWeekday words weekday occurrence) :
    ∃ c word rest, words = (c :: word) :: rest ∧ c.isAlpha = true := by
  have hletter : ∀ {word : Text}, (Weekday.ofName? word ≠ none ∨ Occurrence.ofName? word ≠ none) →
      ∃ c rest, word = c :: rest ∧ c.isAlpha = true := by
    intro word hname
    cases word with
    | nil =>
      have hnone : Weekday.ofName? [] = none ∧ Occurrence.ofName? [] = none := by decide
      rcases hname with hname | hname
      · exact absurd hnone.1 hname
      · exact absurd hnone.2 hname
    | cons c rest =>
      refine ⟨c, rest, rfl, Bool.of_not_eq_false fun hc => ?_⟩
      obtain ⟨hday, hoccurrence⟩ := ofName?_of_head hc rest
      rcases hname with hname | hname
      · exact hname hday
      · exact hname hoccurrence
  cases h with
  | @plain day weekday hday =>
    obtain ⟨c, rest, rfl, hc⟩ := hletter (.inl (by rw [hday]; exact nofun))
    exact ⟨c, rest, [], rfl, hc⟩
  | @directed word day weekday occurrence hoccurrence hday =>
    obtain ⟨c, rest, rfl, hc⟩ := hletter (.inr (by rw [hoccurrence]; exact nofun))
    exact ⟨c, rest, [day], rfl, hc⟩

/-- A phrase that begins with a letter is no absolute time. -/
theorem readStamp?_of_letter {phrase : Text} {c : Char} (hfirst : phrase.trim.head? = some c)
    (hletter : c.isAlpha = true) : readStamp? phrase.trim = none := by
  obtain ⟨rest, hcons⟩ : ∃ rest, phrase.trim = c :: rest := List.head?_eq_some_iff.1 hfirst
  have hkeep : trimStart (c :: rest) = c :: rest := by
    rw [← hcons]
    exact trimStart_of_head (isTrimmed_trim phrase).first
  have hdigit : ¬ c.isDigit = true := by
    rw [isDigit_of_isAlpha hletter]
    exact Bool.false_ne_true
  have hnumber : takeNumber? 4 (c :: rest) = none := by
    rw [takeNumber?, List.take_succ_cons, List.takeWhile_cons_of_neg hdigit]
    rfl
  have hyear : takeYear? (c :: rest) = none := by
    rw [takeYear?_eq_withSign, withSign_of_unsigned _ _ _ _ (by rintro rfl; cases hletter)
      (by rintro rfl; cases hletter), hnumber]
    rfl
  rw [readStamp?_eq, dashedYear?, hcons, hkeep, hyear]
  rfl

/-- The fixed words. -/
def fixedWords : List Text := ["now", "today", "midnight", "yesterday", "tomorrow"]

theorem mem_fixedWords {word : Text} {resolution : Resolution}
    (h : resolveFixed? word m = some resolution) : word ∈ fixedWords := by
  by_contra hnot
  have hne : ∀ fixed ∈ fixedWords, (word == fixed) = false := by
    intro fixed hmem
    apply beq_false_of_ne
    rintro rfl
    exact hnot hmem
  have hnone : resolveFixed? word m = none := by
    rw [resolveFixed?, hne "now".toList (by decide), hne "today".toList (by decide),
      hne "midnight".toList (by decide), hne "yesterday".toList (by decide),
      hne "tomorrow".toList (by decide)]
    rfl
  rw [hnone] at h
  cases h

theorem NamesWeekday.comesToWords {phrase : Text} {weekday : Weekday} {occurrence : Occurrence}
    (h : NamesWeekday phrase.fold.words weekday occurrence) (m : Moment) :
    ComesToWords phrase m := by
  have htrim : phrase.fold.words = phrase.trim.fold.words := by rw [← trim_fold, words_trim]
  rw [htrim] at h
  obtain ⟨c, word, rest, hwords, hletter⟩ := h.exists_first
  have hfirst : ∀ c ∈ phrase.trim.fold.head?, isBlank c = false := by
    rw [← trim_fold]
    exact (isTrimmed_trim _).first
  obtain ⟨tail, htext, -⟩ := exists_tail_of_words hwords hfirst
  refine ⟨?_, ?_, ?_⟩
  · cases hfixed : resolveFixed? phrase.trim.fold m with
    | none => rfl
    | some resolution =>
      -- a fixed word is one word, and no name of a day
      have hnone : ∀ word ∈ fixedWords, words word = [word] ∧ Weekday.ofName? word = none := by
        decide
      obtain ⟨hone, hday⟩ := hnone _ (mem_fixedWords hfixed)
      rw [hone] at h
      cases h with
      | plain hname =>
        rw [hday] at hname
        cases hname
  · rw [htext, List.cons_append, List.head?_cons, Ne, Option.some_inj]
    rintro rfl
    cases hletter
  · obtain ⟨d, hd, rfl⟩ : ∃ d, phrase.trim.head? = some d ∧ d.toLower = c := by
      rw [← Option.map_eq_some_iff, ← List.head?_map]
      exact congrArg List.head? htext
    have halpha : IgnoresCase Char.isAlpha := .of_codes (by decide)
    rw [halpha] at hletter
    exact readStamp?_of_letter hd hletter

/-- Where there is an overflow, the phrase comes to its words. -/
theorem Overflows.comesToWords {phrase : Text} {overflow : Overflow}
    (h : Overflows m phrase.fold.words overflow) : ComesToWords phrase m := by
  obtain ⟨words, hwords⟩ : ∃ words, phrase.fold.words = words := ⟨_, rfl⟩
  rw [hwords] at h
  cases h with
  | weekday hnames =>
    rw [← hwords] at hnames
    exact hnames.comesToWords m
  | least hleast =>
    obtain ⟨number, amount, name, rest, rfl, hnumber, hname⟩ := hleast.exists_first
    exact comesToWords_of_number hwords hnumber hname m

/-- A day of the week that is meant is at most seven days away. -/
theorem weekdayFrom_day (now : Moment) (weekday : Weekday) (occurrence : Occurrence) :
    now.day - 7 ≤ (weekdayFrom now weekday occurrence).day ∧
      (weekdayFrom now weekday occurrence).day ≤ now.day + 7 := by
  show now.day - 7 ≤ now.day + occurrence.offset _ ∧ now.day + occurrence.offset _ ≤ now.day + 7
  generalize hforward : (Int.ofNat weekday.fromMonday - weekdayIndex now.day) % 7 = forward
  have hfirst : 0 ≤ forward := hforward ▸ Int.emod_nonneg _ (by decide)
  have hlast : forward < 7 := hforward ▸ Int.emod_lt_of_pos _ (by decide)
  cases occurrence with
  | last =>
    simp only [Occurrence.offset]
    omega
  | next =>
    simp only [Occurrence.offset]
    split <;> omega
  | this =>
    simp only [Occurrence.offset]
    omega

/-! ## Main result -/

/-- **Resolving a phrase overflows in two ways and no other**, at every moment and for every text: in a
day of the week that lies outside the calendar, and in turning the least amount around. Where there
is no overflow, the phrase is resolved as it is without the checks. -/
theorem checkedPhrase_overflows (phrase : Text) {now : Moment} (hnow : now.IsValid) :
    (∀ overflow, checkedPhrase phrase now = .error overflow ↔
        Overflows now phrase.fold.words overflow) ∧
      ((∀ overflow, ¬ Overflows now phrase.fold.words overflow) →
        checkedPhrase phrase now = .ok (resolvePhrase phrase now).moment?) := by
  have hover : ∀ {overflow}, Overflows now phrase.fold.words overflow →
      checkedPhrase phrase now = .error overflow := by
    intro overflow h
    rw [h.comesToWords.checkedPhrase_eq.1, h.checkedWords_eq hnow]
  have hcases : (∃ overflow, Overflows now phrase.fold.words overflow) ∨
      checkedPhrase phrase now = .ok (resolvePhrase phrase now).moment? := by
    by_cases hcomes : ComesToWords phrase now
    · obtain ⟨hchecked, hresolved⟩ := hcomes.checkedPhrase_eq
      rw [hchecked, hresolved]
      exact checkedWords_cases _ hnow
    · exact .inr (checkedPhrase_of_not_comesToWords hcomes)
  refine ⟨fun overflow => ⟨fun herror => ?_, hover⟩, fun hnone => ?_⟩
  · rcases hcases with ⟨other, h⟩ | hok
    · rw [hover h] at herror
      cases herror
      exact h
    · rw [hok] at herror
      cases herror
  · exact hcases.resolve_left fun ⟨overflow, h⟩ => hnone overflow h

/-- The last day of the calendar is a Monday, and it has a next one. -/
theorem checkedPhrase_overflows_nextMonday :
    let now : Moment := ⟨lastDay, 10, 30, 0⟩
    now.IsValid ∧ Overflows now (fold " Next MON").words (.day (lastDay + 7)) ∧
      checkedPhrase " Next MON" now = .error (.day (lastDay + 7)) := by
  intro now
  have hnow : now.IsValid := by decide
  have hwords : (fold " Next MON").words = ["next".toList, "mon".toList] := by decide
  have hnames : NamesWeekday ["next".toList, "mon".toList] .monday .next :=
    .directed (by decide) (by decide)
  have hover : Overflows now (fold " Next MON").words (.day (lastDay + 7)) := by
    rw [hwords]
    exact .weekday hnames (by decide)
  exact ⟨hnow, hover, ((checkedPhrase_overflows " Next MON" hnow).1 _).2 hover⟩

/-- **Resolving a phrase can fail altogether**, which is neither a moment nor none. -/
theorem checkedPhrase_fails :
    let now : Moment := ⟨lastDay, 10, 30, 0⟩
    now.IsValid ∧ resolvePhrase "next monday" now = .beyondCalendar ∧
      checkedPhrase "next monday" now = .error (.day (lastDay + 7)) ∧
      checkedPhrase "-9223372036854775808 seconds ago" now = .error (.number (2 ^ 63)) := by
  decide

end MonitorControl
