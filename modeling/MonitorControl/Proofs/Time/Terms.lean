/-
Amounts of time in words.

The words of a phrase spell its terms: a number in digits, perhaps with a sign, and the
name of a unit, which is glued to the number or comes as the next word (`SpellsTerms`). A
last word `ago` may follow them (`SpellsPhrase`). What is spelled is read: the split of a
word falls behind its digits, for no unit begins with a digit, and no unit is called `ago`
(`SpellsPhrase.resolveTerms?_eq`). Nothing else can be read into such a phrase, for it begins
with no letter, and there is no dash behind its first digits, as there is in an absolute
time (`SpellsPhrase.resolvePhrase_eq`).

A sign in front of a phrase is a sign in front of its first word, and so it belongs to the
first amount and to no other (`SpellsPhrase.signed`).
-/
import MonitorControl.Proofs.Time.Stamp

set_option autoImplicit false

namespace MonitorControl

open Text

/-! ## Spelling -/

/-- **A number as a phrase has it**: digits, or a sign and digits. -/
inductive WritesAmount : Text → Int → Prop where
  | plain {digits : Text} (hne : digits ≠ []) (hdigits : ∀ c ∈ digits, c.isDigit = true) :
    WritesAmount digits (valueOfDigits digits)
  | signed (direction : TimeDirection) {digits : Text} (hne : digits ≠ [])
    (hdigits : ∀ c ∈ digits, c.isDigit = true) :
    WritesAmount (direction.sign :: digits) (direction.turn (valueOfDigits digits))

/-- **Words in lower case spell terms.** The unit is glued to the number or is the next word. -/
inductive SpellsTerms : List Text → List (Int × TimeUnit) → Prop where
  | nil : SpellsTerms [] []
  | glued {number name : Text} {amount : Int} {unit : TimeUnit} {words : List Text}
    {terms : List (Int × TimeUnit)} (hnumber : WritesAmount number amount)
    (hname : TimeUnit.ofName? name = some unit) (hrest : SpellsTerms words terms) :
    SpellsTerms ((number ++ name) :: words) ((amount, unit) :: terms)
  | apart {number name : Text} {amount : Int} {unit : TimeUnit} {words : List Text}
    {terms : List (Int × TimeUnit)} (hnumber : WritesAmount number amount)
    (hname : TimeUnit.ofName? name = some unit) (hrest : SpellsTerms words terms) :
    SpellsTerms (number :: name :: words) ((amount, unit) :: terms)

/-- **Words in lower case spell a phrase** of at least one term, with `ago` behind the terms or
without. -/
inductive SpellsPhrase : List Text → List (Int × TimeUnit) → Bool → Prop where
  | plain {words : List Text} {terms : List (Int × TimeUnit)} (h : SpellsTerms words terms)
    (hne : terms ≠ []) : SpellsPhrase words terms false
  | ago {words : List Text} {terms : List (Int × TimeUnit)} (h : SpellsTerms words terms)
    (hne : terms ≠ []) : SpellsPhrase (words ++ ["ago".toList]) terms true

/-! ## Numbers and units -/

theorem readNat?_of_digits {digits : Text} (hne : digits ≠ [])
    (hdigits : ∀ c ∈ digits, c.isDigit = true) : readNat? digits = some (valueOfDigits digits) := by
  have hall : digits.all Char.isDigit = true := List.all_eq_true.2 hdigits
  rw [readNat?, hall, if_neg (by simpa using hne)]

namespace WritesAmount

variable {number : Text} {amount : Int}

/-- **A written number is read**, if it fits. -/
theorem readSigned64?_eq (h : WritesAmount number amount) :
    readSigned64? number = if fitsSigned64 amount then some amount else none := by
  have hfilter : readSigned64? number = (some amount).filter fitsSigned64 := by
    cases h with
    | plain hne hdigits =>
      have hread := readNat?_of_digits hne hdigits
      cases number with
      | nil => exact absurd rfl hne
      | cons c digits =>
        obtain ⟨hplus, hminus⟩ := sign_ne_of_isDigit (hdigits c List.mem_cons_self)
        rw [readSigned64?_eq_readExponent?, readExponent?_eq_withSign,
          withSign_of_unsigned _ _ _ _ hplus hminus, hread]
        rfl
    | signed direction hne hdigits =>
      have hread := readNat?_of_digits hne hdigits
      cases direction with
      | past => simp [readSigned64?, TimeDirection.sign, TimeDirection.turn, hread]
      | future => simp [readSigned64?, TimeDirection.sign, TimeDirection.turn, hread]
  rw [hfilter, Option.filter_some]

/-- **A word is split behind its digits.** -/
theorem splitAmount?_append (h : WritesAmount number amount) {name : Text}
    (hname : ∀ c ∈ name.head?, c.isDigit = false) :
    splitAmount? (number ++ name) =
      if fitsSigned64 amount then some (amount, name) else none := by
  have hread := h.readSigned64?_eq
  cases h with
  | plain hne hdigits =>
    cases number with
    | nil => exact absurd rfl hne
    | cons c digits =>
      obtain ⟨hplus, hminus⟩ := sign_ne_of_isDigit (hdigits c List.mem_cons_self)
      have hsign : ¬ (c == '+' || c == '-') = true := by simp [hplus, hminus]
      have hspan := (span_append hdigits hname).1
      rw [List.cons_append] at hspan
      rw [List.cons_append, splitAmount?]
      simp only [if_neg hsign, hspan, List.nil_append, hread]
      rw [← List.cons_append, List.drop_left]
      split <;> rfl
  | signed direction hne hdigits =>
    have hsign : (direction.sign == '+' || direction.sign == '-') = true := by
      cases direction <;> rfl
    have hspan := (span_append hdigits hname).1
    rw [List.cons_append, splitAmount?]
    simp only [if_pos hsign, hspan, List.cons_append, List.nil_append, hread, List.drop_left]
    split <;> rfl

/-- A number begins with a digit or a sign. -/
theorem exists_head (h : WritesAmount number amount) :
    ∃ c rest, number = c :: rest ∧ c.isAlpha = false ∧ c ≠ '@' ∧ isBlank c = false := by
  cases h with
  | plain hne hdigits =>
    cases number with
    | nil => exact absurd rfl hne
    | cons c digits =>
      have hc := hdigits c List.mem_cons_self
      have hat : c ≠ '@' := by
        rintro rfl
        cases hc
      exact ⟨c, digits, rfl, isAlpha_of_isDigit hc, hat, isBlank_of_isDigit hc⟩
  | signed direction hne hdigits =>
    exact ⟨direction.sign, _, rfl, isAlpha_sign direction, sign_ne_at direction,
      isBlank_sign direction⟩

end WritesAmount

/-- **The name of a unit begins with a letter.** -/
theorem TimeUnit.exists_letter_of_ofName? {name : Text} {unit : TimeUnit}
    (h : TimeUnit.ofName? name = some unit) : ∃ c rest, name = c :: rest ∧ c.isAlpha = true := by
  simp only [TimeUnit.ofName?, Option.map_eq_some_iff] at h
  obtain ⟨⟨unit', singular⟩, hfind, -⟩ := h
  -- taking letters off the end leaves the first letter
  have hfront : (name.reverse.dropWhile (· == 's')).reverse <+: name := by
    rw [← List.reverse_suffix, List.reverse_reverse]
    exact List.dropWhile_suffix _
  have hsingular : (name.reverse.dropWhile (· == 's')).reverse = singular := by
    simpa using List.find?_some hfind
  have hletter : singular.head?.any Char.isAlpha = true :=
    (List.all_eq_true (p := fun entry : TimeUnit × Text => entry.2.head?.any Char.isAlpha)).1
      (by decide) _ (List.mem_of_find?_eq_some hfind)
  rw [hsingular] at hfront
  obtain ⟨tail, rfl⟩ := hfront
  cases singular with
  | nil => cases hletter
  | cons c rest => exact ⟨c, rest ++ tail, rfl, hletter⟩

namespace WritesAmount

variable {number : Text} {amount : Int}

/-- A number with a unit glued to it. -/
theorem splitAmount?_name (h : WritesAmount number amount) {name : Text} {unit : TimeUnit}
    (hname : TimeUnit.ofName? name = some unit) :
    name ≠ [] ∧ splitAmount? (number ++ name) =
      if fitsSigned64 amount then some (amount, name) else none := by
  obtain ⟨c, rest, rfl, hc⟩ := TimeUnit.exists_letter_of_ofName? hname
  exact ⟨List.cons_ne_nil c rest, h.splitAmount?_append (by simp [isDigit_of_isAlpha hc])⟩

/-- A number that is a word of its own. -/
theorem splitAmount?_alone (h : WritesAmount number amount) :
    splitAmount? number = if fitsSigned64 amount then some (amount, []) else none := by
  have hsplit := h.splitAmount?_append (show ∀ d ∈ ([] : Text).head?, d.isDigit = false by simp)
  rwa [List.append_nil] at hsplit

end WritesAmount

/-! ## Signs -/

namespace TimeDirection

/-- **What a sign in front of a phrase does to its terms**: it belongs to the first amount. -/
def turnFirst (direction : TimeDirection) : List (Int × TimeUnit) → List (Int × TimeUnit)
  | [] => []
  | (amount, unit) :: terms => (direction.turn amount, unit) :: terms

/-- All terms in one direction. -/
def turnAll (direction : TimeDirection) (terms : List (Int × TimeUnit)) : List (Int × TimeUnit) :=
  terms.map fun (amount, unit) => (direction.turn amount, unit)

theorem turnAll_future (terms : List (Int × TimeUnit)) : turnAll .future terms = terms :=
  List.map_id terms

theorem turnFirst_ne_nil (direction : TimeDirection) {terms : List (Int × TimeUnit)}
    (hne : terms ≠ []) : direction.turnFirst terms ≠ [] := by
  cases terms with
  | nil => exact absurd rfl hne
  | cons term terms => exact List.cons_ne_nil _ _

/-- One term has one direction, and forwards all terms go as they are. -/
theorem turnFirst_eq {direction : TimeDirection} {terms : List (Int × TimeUnit)}
    (h : direction = .future ∨ terms.length = 1) :
    direction.turnFirst terms = direction.turnAll terms := by
  rcases h with rfl | hone
  · rw [turnAll_future]
    cases terms <;> rfl
  · obtain ⟨term, rfl⟩ := List.length_eq_one_iff.1 hone
    rfl

theorem toLower_sign (direction : TimeDirection) : direction.sign.toLower = direction.sign := by
  cases direction <;> decide

/-- A moment that lies in a direction from another, or is as late. -/
def Leads (direction : TimeDirection) (now m : Moment) : Prop :=
  match direction with
  | past => m.toSeconds ≤ now.toSeconds
  | future => now.toSeconds ≤ m.toSeconds

end TimeDirection

/-- A word that does not begin with a sign. -/
def IsUnsigned (word : Text) : Prop := ∀ c ∈ word.head?, c ≠ '+' ∧ c ≠ '-'

instance (word : Text) : Decidable (IsUnsigned word) :=
  decidable_of_iff ((word.head?.all fun c => c != '+' && c != '-') = true) <| by
    cases word <;> simp [IsUnsigned]

theorem WritesAmount.of_unsigned {number name : Text} {amount : Int}
    (h : WritesAmount number amount) (hunsigned : IsUnsigned (number ++ name)) :
    number ≠ [] ∧ (∀ c ∈ number, c.isDigit = true) ∧ amount = valueOfDigits number := by
  cases h with
  | plain hne hdigits => exact ⟨hne, hdigits, rfl⟩
  | signed direction hne hdigits =>
    obtain ⟨hplus, hminus⟩ := hunsigned direction.sign rfl
    cases direction with
    | past => exact absurd rfl hminus
    | future => exact absurd rfl hplus

/-! ## Reading what is spelled -/

/-- All amounts fit in 64 bits. -/
def termsFit (terms : List (Int × TimeUnit)) : Bool := terms.all fun term => fitsSigned64 term.1

variable {words : List Text} {terms : List (Int × TimeUnit)} {ago : Bool}

theorem termsFit_cons (term : Int × TimeUnit) (terms : List (Int × TimeUnit)) :
    termsFit (term :: terms) = (fitsSigned64 term.1 && termsFit terms) := rfl

/-- A term in one word. -/
theorem readTerms?_glued {word name : Text} {amount : Int} {unit : TimeUnit} (hne : name ≠ [])
    (hsplit : splitAmount? word = some (amount, name)) (hname : TimeUnit.ofName? name = some unit) :
    readTerms? (word :: words) = (readTerms? words).map ((amount, unit) :: ·) := by
  cases name with
  | nil => exact absurd rfl hne
  | cons c name =>
    rw [readTerms?, hsplit]
    simp only [hname]
    cases readTerms? words <;> rfl

/-- A term in two words. -/
theorem readTerms?_apart {word name : Text} {amount : Int} {unit : TimeUnit}
    (hsplit : splitAmount? word = some (amount, [])) (hname : TimeUnit.ofName? name = some unit) :
    readTerms? (word :: name :: words) = (readTerms? words).map ((amount, unit) :: ·) := by
  rw [readTerms?, hsplit]
  simp only [hname]
  cases readTerms? words <;> rfl

/-- A word without a number is no term. -/
theorem readTerms?_of_unsplit {word : Text} (hsplit : splitAmount? word = none) :
    readTerms? (word :: words) = none := by
  rw [readTerms?, hsplit]

namespace SpellsTerms

/-- **What is spelled is read**, if all amounts fit. -/
theorem readTerms?_eq (h : SpellsTerms words terms) :
    readTerms? words = if termsFit terms then some terms else none := by
  induction h with
  | nil => rfl
  | @glued number name amount unit words terms hnumber hname _ ih =>
    obtain ⟨hne, hsplit⟩ := hnumber.splitAmount?_name hname
    rw [termsFit_cons]
    by_cases hfits : fitsSigned64 amount = true
    · rw [if_pos hfits] at hsplit
      rw [readTerms?_glued hne hsplit hname, ih, hfits, Bool.true_and]
      split <;> rfl
    · rw [if_neg hfits] at hsplit
      rw [Bool.not_eq_true] at hfits
      rw [readTerms?_of_unsplit hsplit, hfits, Bool.false_and]
      rfl
  | @apart number name amount unit words terms hnumber hname _ ih =>
    have hsplit := hnumber.splitAmount?_alone
    rw [termsFit_cons]
    by_cases hfits : fitsSigned64 amount = true
    · rw [if_pos hfits] at hsplit
      rw [readTerms?_apart hsplit hname, ih, hfits, Bool.true_and]
      split <;> rfl
    · rw [if_neg hfits] at hsplit
      rw [Bool.not_eq_true] at hfits
      rw [readTerms?_of_unsplit hsplit, hfits, Bool.false_and]
      rfl

/-- **The first word of terms** is a number, and a letter follows in it or it is at its end. -/
theorem exists_first (h : SpellsTerms words terms) (hne : terms ≠ []) :
    ∃ number amount name rest, words = (number ++ name) :: rest ∧ WritesAmount number amount ∧
      ∀ c ∈ name.head?, c.isAlpha = true := by
  cases h with
  | nil => exact absurd rfl hne
  | @glued number name amount unit words terms hnumber hname _ =>
    obtain ⟨c, rest, rfl, hc⟩ := TimeUnit.exists_letter_of_ofName? hname
    exact ⟨number, amount, c :: rest, words, rfl, hnumber, by simp [hc]⟩
  | @apart number name amount unit words terms hnumber _ _ =>
    exact ⟨number, amount, [], name :: words, by rw [List.append_nil], hnumber, by simp⟩

/-- **No term ends with `ago`**: a word with a number does not begin with a letter, and no unit is
called so. -/
theorem getLast?_ne (h : SpellsTerms words terms) : words.getLast? ≠ some "ago".toList := by
  have hfirst : ∀ {number : Text} {amount : Int} (name : Text), WritesAmount number amount →
      number ++ name ≠ "ago" := by
    intro number amount name hnumber heq
    obtain ⟨c, rest, rfl, hc, -, -⟩ := hnumber.exists_head
    obtain rfl : c = 'a' := (List.cons.inj heq).1
    cases hc
  induction h with
  | nil => simp
  | @glued number name amount unit words terms hnumber _ _ ih =>
    cases words with
    | nil => simpa using hfirst name hnumber
    | cons word words => rwa [List.getLast?_cons_cons]
  | @apart number name amount unit words terms hnumber hname _ ih =>
    cases words with
    | nil =>
      rw [List.getLast?_cons_cons]
      intro heq
      rw [List.getLast?_singleton, Option.some_inj] at heq
      have hnone : TimeUnit.ofName? "ago" = none := by decide
      rw [heq, hnone] at hname
      cases hname
    | cons word words => rwa [List.getLast?_cons_cons, List.getLast?_cons_cons]

/-- Terms without signs have no negative amounts. -/
theorem nonneg (h : SpellsTerms words terms) (hunsigned : ∀ word ∈ words, IsUnsigned word) :
    ∀ term ∈ terms, 0 ≤ term.1 := by
  have hnumber : ∀ {number : Text} {amount : Int} (name : Text), WritesAmount number amount →
      IsUnsigned (number ++ name) → 0 ≤ amount := by
    intro number amount name h hunsigned
    rw [(h.of_unsigned hunsigned).2.2]
    exact Int.natCast_nonneg _
  induction h with
  | nil => simp
  | @glued number name amount unit words terms h _ _ ih =>
    rw [List.forall_mem_cons] at hunsigned ⊢
    exact ⟨hnumber name h hunsigned.1, ih hunsigned.2⟩
  | @apart number name amount unit words terms h _ _ ih =>
    rw [List.forall_mem_cons, List.forall_mem_cons] at hunsigned
    rw [List.forall_mem_cons]
    refine ⟨hnumber [] h ?_, ih hunsigned.2.2⟩
    rw [List.append_nil]
    exact hunsigned.1

/-- **A sign in front of terms** is a sign of the first amount. -/
theorem signed {word : Text} (h : SpellsTerms (word :: words) terms) (hunsigned : IsUnsigned word)
    (direction : TimeDirection) :
    SpellsTerms ((direction.sign :: word) :: words) (direction.turnFirst terms) := by
  cases h with
  | glued hnumber hname hrest =>
    obtain ⟨hne, hdigits, rfl⟩ := hnumber.of_unsigned hunsigned
    exact .glued (.signed direction hne hdigits) hname hrest
  | apart hnumber hname hrest =>
    rw [← List.append_nil word] at hunsigned
    obtain ⟨hne, hdigits, rfl⟩ := hnumber.of_unsigned hunsigned
    exact .apart (.signed direction hne hdigits) hname hrest

end SpellsTerms

/-- The terms of a phrase as they are added: `ago` turns every amount around. -/
def turnedBack (ago : Bool) (terms : List (Int × TimeUnit)) : List (Int × TimeUnit) :=
  if ago then terms.map fun (n, unit) => (-n, unit) else terms

namespace SpellsPhrase

theorem ne_nil (h : SpellsPhrase words terms ago) : terms ≠ [] := by
  cases h <;> assumption

/-- The words of a phrase are those of its terms, and perhaps `ago`. -/
theorem exists_front (h : SpellsPhrase words terms ago) :
    ∃ front, words = front ++ (if ago then ["ago".toList] else []) ∧ SpellsTerms front terms := by
  cases h with
  | plain h _ => exact ⟨words, (List.append_nil words).symm, h⟩
  | ago h _ => exact ⟨_, rfl, h⟩

theorem of_front {front : List Text} (h : SpellsTerms front terms) (hne : terms ≠ []) (ago : Bool) :
    SpellsPhrase (front ++ (if ago then ["ago".toList] else [])) terms ago := by
  cases ago with
  | false =>
    rw [if_neg Bool.false_ne_true, List.append_nil]
    exact .plain h hne
  | true => exact .ago h hne

/-- **A phrase is resolved by its terms**, if all amounts fit. -/
theorem resolveTerms?_eq (h : SpellsPhrase words terms ago) (now : Moment) :
    resolveTerms? words now =
      if termsFit terms then addTerms? now (turnedBack ago terms) else none := by
  cases h with
  | plain h hne =>
    have hread := h.readTerms?_eq
    have hlast := h.getLast?_ne
    obtain ⟨number, amount, name, rest, rfl, -, -⟩ := h.exists_first hne
    have hago : ¬ (((number ++ name) :: rest).getLast? == some "ago".toList) = true := by
      simpa using hlast
    by_cases hfits : termsFit terms = true
    · rw [if_pos hfits] at hread ⊢
      simp only [resolveTerms?, if_neg hago, hread]
      rfl
    · rw [if_neg hfits] at hread ⊢
      simp only [resolveTerms?, if_neg hago, hread]
  | @ago words terms h hne =>
    have hread := h.readTerms?_eq
    obtain ⟨number, amount, name, rest, rfl, -, -⟩ := h.exists_first hne
    have hago : (((number ++ name) :: rest ++ ["ago".toList]).getLast? ==
        some "ago".toList) = true := by
      rw [List.getLast?_concat, beq_self_eq_true]
    by_cases hfits : termsFit terms = true
    · rw [if_pos hfits] at hread ⊢
      simp only [resolveTerms?, if_pos hago, List.dropLast_concat, hread]
      rfl
    · rw [if_neg hfits] at hread ⊢
      simp only [resolveTerms?, if_pos hago, List.dropLast_concat, hread]

/-- The first word of a phrase is that of its terms. -/
theorem exists_first (h : SpellsPhrase words terms ago) :
    ∃ number amount name rest, words = (number ++ name) :: rest ∧ WritesAmount number amount ∧
      ∀ c ∈ name.head?, c.isAlpha = true := by
  obtain ⟨front, rfl, hterms⟩ := h.exists_front
  obtain ⟨number, amount, name, rest, rfl, hnumber, hname⟩ := hterms.exists_first h.ne_nil
  exact ⟨number, amount, name, _, List.cons_append, hnumber, hname⟩

/-- **A sign in front of a phrase** is a sign of its first amount, and of no other. -/
theorem signed {word : Text} (h : SpellsPhrase (word :: words) terms ago)
    (hunsigned : IsUnsigned word) (direction : TimeDirection) :
    SpellsPhrase ((direction.sign :: word) :: words) (direction.turnFirst terms) ago := by
  obtain ⟨front, hwords, hterms⟩ := h.exists_front
  obtain ⟨number, amount, name, rest, rfl, -, -⟩ := hterms.exists_first h.ne_nil
  obtain ⟨rfl, rfl⟩ := List.cons.inj hwords
  exact of_front (hterms.signed hunsigned direction) (direction.turnFirst_ne_nil h.ne_nil) ago

end SpellsPhrase

/-! ## Phrases -/

/-- **Behind the first digits of a phrase there is no dash**, as there is in an absolute time. -/
theorem dashedYear?_number_append {number tail : Text} {amount : Int}
    (hnumber : WritesAmount number amount)
    (htail : ∀ c ∈ tail.head?, c.isDigit = false ∧ c ≠ '-') :
    dashedYear? (number ++ tail) = none := by
  obtain ⟨c, rest, hcons, -, -, hblank⟩ := hnumber.exists_head
  have hkeep : trimStart (number ++ tail) = number ++ tail := by
    apply trimStart_of_head
    rw [hcons]
    simpa using hblank
  -- whatever number is read, what it leaves would have to be the rest of the text
  have hnone : ∀ {digits : Text} {width n : Nat} {rest : Text},
      (∀ c ∈ digits, c.isDigit = true) →
        takeNumber? width (digits ++ tail) ≠ some (n, '-' :: rest) := by
    intro digits width n rest hdigits hread
    obtain ⟨-, -, -, hdrop⟩ := takeNumber?_before_mark (by decide) hread
    rw [(span_append hdigits fun c hc => (htail c hc).1).2] at hdrop
    exact (htail '-' (by rw [hdrop]; rfl)).2 rfl
  rw [Option.eq_none_iff_forall_ne_some]
  rintro ⟨year, rest'⟩ hyear
  rw [dashedYear?_eq_some_iff, hkeep] at hyear
  cases hnumber with
  | plain hne hdigits =>
    cases number with
    | nil => exact hne rfl
    | cons c digits =>
      obtain ⟨hplus, hminus⟩ := sign_ne_of_isDigit (hdigits c List.mem_cons_self)
      rw [takeYear?_eq_withSign, List.cons_append, withSign_of_unsigned _ _ _ _ hplus hminus,
        ← List.cons_append, Option.map_eq_some_iff] at hyear
      obtain ⟨⟨n, rest''⟩, hread, heq⟩ := hyear
      exact hnone hdigits ((Prod.mk.inj heq).2 ▸ hread)
  | signed direction hne hdigits =>
    cases direction with
    | past =>
      rw [List.cons_append, TimeDirection.sign, takeYear?, Option.map_eq_some_iff] at hyear
      obtain ⟨⟨n, rest''⟩, hread, heq⟩ := hyear
      exact hnone hdigits ((Prod.mk.inj heq).2 ▸ hread)
    | future =>
      rw [List.cons_append, TimeDirection.sign, takeYear?, Option.map_eq_some_iff] at hyear
      obtain ⟨⟨n, rest''⟩, hread, heq⟩ := hyear
      exact hnone hdigits ((Prod.mk.inj heq).2 ▸ hread)

/-- A year and a dash are there in either case of letters. -/
theorem dashedYear?_of_fold {t : Text} (h : dashedYear? t.fold = none) : dashedYear? t = none := by
  rw [Option.eq_none_iff_forall_ne_some]
  rintro ⟨year, rest⟩ hyear
  rw [dashedYear?_eq_some_iff] at hyear
  have hfold : dashedYear? t.fold = some (year, fold rest) := by
    rw [dashedYear?_eq_some_iff, trimStart_fold, takeYear?_fold, hyear]
    rfl
  rw [h] at hfold
  cases hfold

/-- No day of the week and no occurrence of one begins with anything but a letter. -/
theorem ofName?_of_head {c : Char} (hc : c.isAlpha = false) (word : Text) :
    Weekday.ofName? (c :: word) = none ∧ Occurrence.ofName? (c :: word) = none := by
  have hne : ∀ (d : Char) (u : Text), d.isAlpha = true → ((c :: word) == (d :: u)) = false := by
    intro d u hd
    apply beq_false_of_ne
    intro heq
    rw [(List.cons.inj heq).1, hd] at hc
    cases hc
  constructor
  · simp [Weekday.ofName?, hne]
  · simp [Occurrence.ofName?, hne]

/-- Words that begin with no letter are no day of the week. -/
theorem resolveWords_of_head {c : Char} (hc : c.isAlpha = false) (word : Text) (words : List Text)
    (now : Moment) :
    resolveWords ((c :: word) :: words) now =
      .ofOption (resolveTerms? ((c :: word) :: words) now) := by
  obtain ⟨hday, hoccurrence⟩ := ofName?_of_head hc word
  cases words with
  | nil => simp only [resolveWords, hday]
  | cons day words =>
    cases words with
    | nil => simp only [resolveWords, hoccurrence]
    | cons other words => rfl

/-- **A phrase whose first word is a number, or begins with one that a letter follows**, is no absolute
time. -/
theorem readStamp?_of_number {phrase number name : Text} {amount : Int} {rest : List Text}
    (hwords : phrase.fold.words = (number ++ name) :: rest) (hnumber : WritesAmount number amount)
    (hname : ∀ c ∈ name.head?, c.isAlpha = true) :
    readStamp? phrase.trim = none ∧ phrase.trim.head? = number.head? := by
  obtain ⟨c, digits, hcons, hletter, -, -⟩ := hnumber.exists_head
  have htrimmed : IsTrimmed (trim phrase.fold) := isTrimmed_trim _
  rw [← words_trim] at hwords
  obtain ⟨tail, htext, htail⟩ := exists_tail_of_words hwords htrimmed.first
  rw [trim_fold, List.append_assoc] at htext
  have hdash : dashedYear? phrase.trim = none := by
    apply dashedYear?_of_fold
    rw [htext]
    apply dashedYear?_number_append hnumber
    intro d hd
    cases name with
    | nil => exact isDigit_of_isBlank (htail d hd)
    | cons e name =>
      have hd' : d.isAlpha = true := hname d hd
      exact ⟨isDigit_of_isAlpha hd', by rintro rfl; cases hd'⟩
  constructor
  · rw [readStamp?_eq, hdash]
    rfl
  · rw [hcons] at htext ⊢
    exact head?_of_fold hletter htext

/-- **A phrase that is spelled means its terms**, one added after the other. -/
theorem SpellsPhrase.resolvePhrase_eq {phrase : Text}
    (h : SpellsPhrase phrase.fold.words terms ago) (now : Moment) :
    resolvePhrase phrase now =
      .ofOption (if termsFit terms then addTerms? now (turnedBack ago terms) else none) := by
  obtain ⟨number, amount, name, rest, hwords, hnumber, hname⟩ := h.exists_first
  obtain ⟨c, digits, hcons, hletter, hat, -⟩ := hnumber.exists_head
  obtain ⟨hstamp, hfirst⟩ := readStamp?_of_number hwords hnumber hname
  rw [hcons] at hfirst
  rw [resolvePhrase_of_head hfirst hletter hat, hstamp, hwords, hcons]
  show resolveWords ((c :: (digits ++ name)) :: rest) now = _
  rw [resolveWords_of_head hletter, ← List.cons_append, ← hcons, ← hwords, h.resolveTerms?_eq]

/-! ## Phrases without signs -/

/-- **A phrase without signs**: its words spell terms, and it begins with the first of them. -/
structure UnsignedPhrase (phrase : Text) (terms : List (Int × TimeUnit)) (ago : Bool) : Prop where
  spells : SpellsPhrase phrase.fold.words terms ago
  first : ∀ c ∈ phrase.head?, isBlank c = false
  unsigned : ∀ word ∈ phrase.fold.words, IsUnsigned word

namespace UnsignedPhrase

variable {phrase : Text}

theorem first_fold (h : UnsignedPhrase phrase terms ago) :
    ∀ c ∈ phrase.fold.head?, isBlank c = false := by
  intro c hc
  rw [Text.fold, List.head?_map] at hc
  obtain ⟨d, hd, rfl⟩ := Option.map_eq_some_iff.1 hc
  rw [ignoresCase_isBlank d]
  exact h.first d hd

theorem exists_words (h : UnsignedPhrase phrase terms ago) :
    ∃ word words, phrase.fold.words = word :: words ∧ IsUnsigned word ∧
      ∃ c, phrase.head? = some c ∧ c.isDigit = true := by
  obtain ⟨number, amount, name, rest, hwords, hnumber, -⟩ := h.spells.exists_first
  have hunsigned : IsUnsigned (number ++ name) :=
    h.unsigned _ (hwords ▸ List.mem_cons_self)
  obtain ⟨hne, hdigits, -⟩ := hnumber.of_unsigned hunsigned
  obtain ⟨tail, htext, -⟩ := exists_tail_of_words hwords h.first_fold
  refine ⟨number ++ name, rest, hwords, hunsigned, ?_⟩
  cases number with
  | nil => exact absurd rfl hne
  | cons c digits =>
    have hc := hdigits c List.mem_cons_self
    exact ⟨c, head?_of_fold (isAlpha_of_isDigit hc) htext, hc⟩

theorem nonneg (h : UnsignedPhrase phrase terms ago) : ∀ term ∈ terms, 0 ≤ term.1 := by
  obtain ⟨front, hwords, hterms⟩ := h.spells.exists_front
  apply hterms.nonneg
  intro word hword
  exact h.unsigned word (hwords ▸ List.mem_append_left _ hword)

/-- The same on the text: a sign right in front of it is a part of its first word. -/
theorem signed (h : UnsignedPhrase phrase terms ago) (direction : TimeDirection) :
    SpellsPhrase (fold (direction.sign :: phrase)).words (direction.turnFirst terms) ago := by
  obtain ⟨word, words, hwords, hunsigned, -⟩ := h.exists_words
  have hspells := h.spells
  rw [hwords] at hspells
  rw [fold_cons, direction.toLower_sign,
    words_cons_of_words (isBlank_sign direction) hwords h.first_fold]
  exact hspells.signed hunsigned direction

end UnsignedPhrase

/-! ## Where terms lead -/

/-- **Terms backwards do not lead forwards**, one after the other. -/
theorem toSeconds_le_of_addTerms? {m m' : Moment} (h : addTerms? m terms = some m')
    (hterms : ∀ term ∈ terms, term.1 ≤ 0) : m'.toSeconds ≤ m.toSeconds := by
  induction terms generalizing m with
  | nil => exact Option.some_inj.1 h ▸ Int.le_refl _
  | cons term terms ih =>
    rw [List.forall_mem_cons] at hterms
    rw [addTerms?] at h
    cases hstep : term.2.add? term.1 m with
    | none =>
      rw [hstep] at h
      cases h
    | some next =>
      rw [hstep] at h
      exact Int.le_trans (ih h hterms.2) (TimeUnit.toSeconds_le_of_add? hstep hterms.1)

/-- **Terms forwards do not lead backwards.** -/
theorem le_toSeconds_of_addTerms? {m m' : Moment} (h : addTerms? m terms = some m')
    (hterms : ∀ term ∈ terms, 0 ≤ term.1) : m.toSeconds ≤ m'.toSeconds := by
  induction terms generalizing m with
  | nil => exact Option.some_inj.1 h ▸ Int.le_refl _
  | cons term terms ih =>
    rw [List.forall_mem_cons] at hterms
    rw [addTerms?] at h
    cases hstep : term.2.add? term.1 m with
    | none =>
      rw [hstep] at h
      cases h
    | some next =>
      rw [hstep] at h
      exact Int.le_trans (TimeUnit.le_toSeconds_of_add? hstep hterms.1) (ih h hterms.2)

/-- **Terms that all go in one direction** lead in that direction. -/
theorem leads_of_addTerms? {direction : TimeDirection} {m m' : Moment}
    (hterms : ∀ term ∈ terms, 0 ≤ term.1) (h : addTerms? m (direction.turnAll terms) = some m') :
    direction.Leads m m' := by
  cases direction with
  | past =>
    apply toSeconds_le_of_addTerms? h
    intro term hterm
    obtain ⟨⟨amount, unit⟩, hmem, rfl⟩ := List.mem_map.1 hterm
    have hamount := hterms (amount, unit) hmem
    show -amount ≤ 0
    omega
  | future =>
    rw [TimeDirection.turnAll_future] at h
    exact le_toSeconds_of_addTerms? h hterms

end MonitorControl
