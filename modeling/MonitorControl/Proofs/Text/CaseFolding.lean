/-
What folding leaves alone.

A reader that ignores case gives for a folded text what it gives for the text
itself, folded where the answer holds text. That is an equation between folding
first and folding last, and it composes: a reader made of readers that have such an
equation has one by rewriting with theirs. This module has the equations for the
operations all readers are made of. A class of characters that tells no letter from
its capital (`IgnoresCase`) cuts a folded text where it cuts the text, so trimming,
quotation marks and heads come first; numbers are next, which hold no letters but
the mark of an exponent.

What is cut out of a text is again a part of it (`<:+:`), which is how a condition
on what stands next to what in a query reaches the phrases in it.
-/
import MonitorControl.Number.Reading
import MonitorControl.Proofs.Text.Ascii
import MonitorControl.Proofs.Text.Blank
import MonitorControl.Text.Quotes

set_option autoImplicit false

namespace MonitorControl.Text

/-! ## Letters -/

/-- **Only letters are folded**, and they stay letters. -/
theorem toLower_cases (c : Char) :
    c.toLower = c ∨ c.isAlpha = true ∧ c.toLower.isAlpha = true := by
  rcases Nat.lt_or_ge c.toNat 0x80 with hascii | habove
  · exact ascii_cases (P := fun c => c.toLower = c ∨ c.isAlpha = true ∧ c.toLower.isAlpha = true)
      (by decide) hascii
  · exact .inl (toLower_of_not_ascii habove)

/-- A character that is no letter is what it is folded from. -/
theorem toLower_eq_iff {c mark : Char} (hmark : mark.isAlpha = false) :
    c.toLower = mark ↔ c = mark := by
  rcases toLower_cases c with hc | ⟨hc, hlower⟩
  · rw [hc]
  · -- neither a letter nor its small form is the mark
    refine iff_of_false ?_ ?_
    · rintro rfl
      exact absurd hlower (Bool.not_eq_true _ ▸ hmark)
    · rintro rfl
      exact absurd hc (Bool.not_eq_true _ ▸ hmark)

theorem toLower_toLower (c : Char) : c.toLower.toLower = c.toLower := by
  rcases Nat.lt_or_ge c.toNat 0x80 with hascii | habove
  · exact ascii_cases (P := fun c => c.toLower.toLower = c.toLower) (by decide) hascii
  · rw [toLower_of_not_ascii habove, toLower_of_not_ascii habove]

/-- Letters are one byte in either case. -/
theorem utf8Size_toLower (c : Char) : c.toLower.utf8Size = c.utf8Size := by
  rw [← length_charBytes, ← length_charBytes, ← map_lowerByte_charBytes, List.length_map]

/-- **A class that ignores case** has both or neither of a letter and its capital. -/
def IgnoresCase (p : Char → Bool) : Prop := ∀ c, p c.toLower = p c

namespace IgnoresCase

/-- It is enough to try the 128 codes of ASCII. -/
theorem of_codes {p : Char → Bool}
    (hcodes : ∀ n < 0x80, p (Char.ofNat n).toLower = p (Char.ofNat n)) : IgnoresCase p := by
  intro c
  rcases Nat.lt_or_ge c.toNat 0x80 with hascii | habove
  · exact ascii_cases (P := fun c => p c.toLower = p c) hcodes hascii
  · rw [toLower_of_not_ascii habove]

theorem comp_toLower {p : Char → Bool} (hp : IgnoresCase p) : p ∘ Char.toLower = p := funext hp

end IgnoresCase

theorem ignoresCase_isBlank : IgnoresCase isBlank := .of_codes (by decide)

theorem ignoresCase_isDigit : IgnoresCase Char.isDigit := .of_codes (by decide)

theorem ignoresCase_isQuote : IgnoresCase isQuote := .of_codes (by decide)

/-! ## Cutting a folded text -/

@[simp] theorem fold_nil : fold [] = [] := rfl

@[simp] theorem fold_cons (c : Char) (t : Text) : fold (c :: t) = c.toLower :: fold t := rfl

/-- **A folded text that begins with no letter** begins as the text does. -/
theorem head?_of_fold {t rest : Text} {c : Char} (hc : c.isAlpha = false) (h : fold t = c :: rest) :
    t.head? = some c := by
  cases t with
  | nil => cases h
  | cons d t =>
    obtain ⟨hd, -⟩ := List.cons.inj h
    rcases toLower_cases d with hsame | ⟨-, hlower⟩
    · rw [List.head?_cons, ← hd, hsame]
    · rw [hd, hc] at hlower
      cases hlower

@[simp] theorem fold_fold (t : Text) : fold (fold t) = fold t := by
  rw [fold, fold, List.map_map]
  exact List.map_congr_left fun c _ => toLower_toLower c

@[simp] theorem isEmpty_fold (t : Text) : (fold t).isEmpty = t.isEmpty := List.isEmpty_map

@[simp] theorem take_fold (n : Nat) (t : Text) : (fold t).take n = fold (t.take n) :=
  List.map_take.symm

@[simp] theorem drop_fold (n : Nat) (t : Text) : (fold t).drop n = fold (t.drop n) :=
  List.map_drop.symm

@[simp] theorem reverse_fold (t : Text) : (fold t).reverse = fold t.reverse :=
  List.map_reverse.symm

@[simp] theorem byteLength_fold (t : Text) : byteLength (fold t) = byteLength t := by
  induction t with
  | nil => rfl
  | cons c t ih => rw [fold_cons, byteLength_cons, byteLength_cons, utf8Size_toLower, ih]

/-- **A class that ignores case cuts a folded text where it cuts the text.** -/
theorem IgnoresCase.dropWhile_fold {p : Char → Bool} (hp : IgnoresCase p) (t : Text) :
    (fold t).dropWhile p = fold (t.dropWhile p) := by
  rw [fold, List.dropWhile_map, hp.comp_toLower]
  rfl

theorem IgnoresCase.takeWhile_fold {p : Char → Bool} (hp : IgnoresCase p) (t : Text) :
    (fold t).takeWhile p = fold (t.takeWhile p) := by
  rw [fold, List.takeWhile_map, hp.comp_toLower]
  rfl

@[simp] theorem trimStart_fold (t : Text) : trimStart (fold t) = fold (trimStart t) :=
  ignoresCase_isBlank.dropWhile_fold t

theorem IgnoresCase.trimWhile_fold {p : Char → Bool} (hp : IgnoresCase p) (t : Text) :
    trimWhile p (fold t) = fold (trimWhile p t) := by
  simp only [trimWhile, hp.dropWhile_fold, reverse_fold]

@[simp] theorem trim_fold (t : Text) : trim (fold t) = fold (trim t) :=
  ignoresCase_isBlank.trimWhile_fold t

@[simp] theorem trimQuotes_fold (t : Text) : trimQuotes (fold t) = fold (trimQuotes t) :=
  ignoresCase_isQuote.trimWhile_fold t

theorem dropOpeningQuote_fold (t : Text) :
    dropOpeningQuote (fold t) = fold (dropOpeningQuote t) := by
  cases t with
  | nil => rfl
  | cons c t =>
    rw [fold_cons, dropOpeningQuote, dropOpeningQuote, ignoresCase_isQuote c]
    by_cases hc : isQuote c = true
    · rw [if_pos hc, if_pos hc]
    · rw [if_neg hc, if_neg hc, fold_cons]

@[simp] theorem unquote_fold (t : Text) : unquote (fold t) = fold (unquote t) := by
  simp only [unquote, trim_fold, dropOpeningQuote_fold, reverse_fold]

/-! ## Heads of a folded text -/

@[simp] theorem sameLetters_fold_left (a b : Text) : sameLetters (fold a) b = sameLetters a b := by
  rw [sameLetters, sameLetters, fold_fold]

@[simp] theorem sameLetters_fold_right (a b : Text) :
    sameLetters a (fold b) = sameLetters a b := by
  rw [sameLetters, sameLetters, fold_fold]

@[simp] theorem startsWith_fold_left (t : Text) : startsWith (fold t) = startsWith t := by
  funext head
  rw [startsWith, startsWith, take_fold, sameLetters_fold_left]

@[simp] theorem startsWith_fold_right (t head : Text) :
    startsWith t (fold head) = startsWith t head := by
  rw [startsWith, startsWith, length_fold, sameLetters_fold_right]

@[simp] theorem afterHead?_fold (t head : Text) :
    afterHead? (fold t) head = (afterHead? t head).map fold := by
  rw [afterHead?, afterHead?, startsWith_fold_left, drop_fold, trim_fold]
  by_cases h : startsWith t head = true
  · rw [if_pos h, if_pos h, Option.map_some]
  · rw [if_neg h, if_neg h, Option.map_none]

/-! ## Parts of a text -/

theorem trimWhile_isInfix (p : Char → Bool) (t : Text) : trimWhile p t <:+: t :=
  (List.rdropWhile_prefix p _).isInfix.trans (List.dropWhile_suffix p).isInfix

theorem trim_isInfix (t : Text) : trim t <:+: t := trimWhile_isInfix isBlank t

theorem trimQuotes_isInfix (t : Text) : trimQuotes t <:+: t := trimWhile_isInfix isQuote t

theorem afterHead?_isInfix {t head rest : Text} (h : afterHead? t head = some rest) :
    rest <:+: t := by
  rw [afterHead?, Option.ite_none_right_eq_some, Option.some_inj] at h
  obtain ⟨-, rfl⟩ := h
  exact (trim_isInfix _).trans (List.drop_suffix _ t).isInfix

/-! ## Numbers -/

/-- **It is enough to try the ten digits.** -/
theorem digit_cases {P : Char → Prop} (hcodes : ∀ n < 10, P (Char.ofNat (0x30 + n))) {c : Char}
    (hc : c.isDigit = true) : P c := by
  rw [Char.isDigit, Bool.and_eq_true, decide_eq_true_eq, decide_eq_true_eq] at hc
  have hzero : '0'.toNat ≤ c.toNat := UInt32.le_iff_toNat_le.1 hc.1
  have hnine : c.toNat ≤ '9'.toNat := UInt32.le_iff_toNat_le.1 hc.2
  simp only [Char.reduceToNat] at hzero hnine
  have hcode := hcodes (c.toNat - 0x30) (by omega)
  rwa [Nat.add_sub_cancel' hzero, Char.ofNat_toNat] at hcode

theorem toLower_of_isDigit {c : Char} (h : c.isDigit = true) : c.toLower = c :=
  digit_cases (P := fun c => c.toLower = c) (by decide) h

theorem isBlank_of_isQuote {c : Char} (h : isQuote c = true) : isBlank c = false := by
  simp only [isQuote, Bool.or_eq_true, beq_iff_eq] at h
  rcases h with rfl | rfl <;> decide

theorem isQuote_of_isBlank {c : Char} (h : isBlank c = true) : isQuote c = false := by
  rw [← Bool.not_eq_true]
  intro hquote
  rw [isBlank_of_isQuote hquote] at h
  cases h

theorem isAlpha_of_isDigit {c : Char} (h : c.isDigit = true) : c.isAlpha = false :=
  digit_cases (P := fun c => c.isAlpha = false) (by decide) h

theorem isDigit_of_isAlpha {c : Char} (h : c.isAlpha = true) : c.isDigit = false := by
  rw [← Bool.not_eq_true]
  intro hdigit
  rw [isAlpha_of_isDigit hdigit] at h
  cases h

theorem isBlank_of_isDigit {c : Char} (h : c.isDigit = true) : isBlank c = false :=
  digit_cases (P := fun c => isBlank c = false) (by decide) h

/-- White space is neither a digit nor a dash. -/
theorem isDigit_of_isBlank {c : Char} (h : isBlank c = true) : c.isDigit = false ∧ c ≠ '-' := by
  constructor
  · rw [← Bool.not_eq_true]
    intro hdigit
    rw [isBlank_of_isDigit hdigit] at h
    cases h
  · rintro rfl
    cases h

theorem isQuote_of_isDigit {c : Char} (h : c.isDigit = true) : isQuote c = false :=
  digit_cases (P := fun c => isQuote c = false) (by decide) h

/-- A digit is no sign. -/
theorem sign_ne_of_isDigit {c : Char} (hc : c.isDigit = true) : c ≠ '+' ∧ c ≠ '-' := by
  constructor <;> rintro rfl <;> cases hc

/-- A text of digits has nothing to fold. -/
theorem fold_of_digits {t : Text} (h : ∀ c ∈ t, c.isDigit = true) : fold t = t := by
  rw [fold, List.map_congr_left fun c hc => toLower_of_isDigit (h c hc), List.map_id']

theorem fold_takeWhile_isDigit (t : Text) :
    fold (t.takeWhile Char.isDigit) = t.takeWhile Char.isDigit :=
  fold_of_digits fun _ hc => List.mem_takeWhile_imp hc

@[simp] theorem readNat?_fold (t : Text) : readNat? (fold t) = readNat? t := by
  have hall : (fold t).all Char.isDigit = t.all Char.isDigit := by
    rw [fold, List.all_map, ignoresCase_isDigit.comp_toLower]
  rw [readNat?, readNat?, isEmpty_fold, hall]
  -- digits are folded to themselves, and what is not all digits is refused before it is looked at
  by_cases hdigits : t.all Char.isDigit = true
  · rw [fold_of_digits (List.all_eq_true.1 hdigits)]
  · rw [Bool.not_eq_true] at hdigits
    rw [hdigits, Bool.not_false, Bool.or_true, if_pos rfl, if_pos rfl]

/-- **A reader with an optional sign**: one way to read on after a plus, one after a minus, and one
without a sign. -/
def withSign {α : Type} (plus minus plain : Text → α) (t : Text) : α :=
  match t with
  | '+' :: rest => plus rest
  | '-' :: rest => minus rest
  | rest => plain rest

theorem withSign_of_unsigned {α : Type} (plus minus plain : Text → α) {c : Char} (t : Text)
    (hplus : c ≠ '+') (hminus : c ≠ '-') :
    withSign plus minus plain (c :: t) = plain (c :: t) := by
  unfold withSign
  split <;> simp_all

/-- Signs are no letters, so it only matters how each of the three ways takes a folded text. -/
theorem withSign_fold {α : Type} {plus minus plain : Text → α} {f : α → α}
    (hplus : ∀ t, plus (fold t) = f (plus t)) (hminus : ∀ t, minus (fold t) = f (minus t))
    (hplain : ∀ t, plain (fold t) = f (plain t)) (t : Text) :
    withSign plus minus plain (fold t) = f (withSign plus minus plain t) := by
  cases t with
  | nil => exact hplain []
  | cons c t =>
    by_cases hc : c = '+'
    · subst hc
      exact hplus t
    by_cases hc' : c = '-'
    · subst hc'
      exact hminus t
    -- no other character is folded to a sign
    have hlower : c.toLower ≠ '+' := mt (toLower_eq_iff (by decide)).1 hc
    have hlower' : c.toLower ≠ '-' := mt (toLower_eq_iff (by decide)).1 hc'
    rw [withSign_of_unsigned plus minus plain t hc hc', fold_cons,
      withSign_of_unsigned plus minus plain _ hlower hlower', ← fold_cons, hplain]

theorem readExponent?_eq_withSign (t : Text) :
    readExponent? t =
      withSign (fun digits => (readNat? digits).map Int.ofNat)
        (fun digits => (readNat? digits).map fun n => -Int.ofNat n)
        (fun digits => (readNat? digits).map Int.ofNat) t := rfl

theorem readExponent?_fold (t : Text) : readExponent? (fold t) = readExponent? t := by
  rw [readExponent?_eq_withSign, readExponent?_eq_withSign]
  exact withSign_fold (f := id) (by simp) (by simp) (by simp) t

theorem readSigned64?_eq_readExponent? (t : Text) :
    readSigned64? t = (readExponent? t).filter fitsSigned64 := rfl

@[simp] theorem readSigned64?_fold (t : Text) : readSigned64? (fold t) = readSigned64? t := by
  rw [readSigned64?_eq_readExponent?, readSigned64?_eq_readExponent?, readExponent?_fold]

theorem readDecimal?_fold (t : Text) : readDecimal? (fold t) = readDecimal? t := by
  have hmark : IgnoresCase fun c => !(c == 'e' || c == 'E') := .of_codes (by decide)
  have hpoint : IgnoresCase fun c => c != '.' := .of_codes (by decide)
  unfold readDecimal?
  simp only [hmark.takeWhile_fold, hmark.dropWhile_fold, hpoint.takeWhile_fold,
    hpoint.dropWhile_fold, drop_fold, length_fold, ← fold_append, readNat?_fold]
  -- the mark of the exponent is dropped, in whichever case it stands
  cases t.dropWhile fun c => !(c == 'e' || c == 'E') with
  | nil => rfl
  | cons c exponent => simp only [fold_cons, readExponent?_fold]

@[simp] theorem readFinite?_fold (t : Text) : readFinite? (fold t) = readFinite? t := by
  have hmagnitude : ∀ t : Text,
      (readDecimal? (fold t)).map Decimal.toFloat = (readDecimal? t).map Decimal.toFloat := by
    intro t
    rw [readDecimal?_fold]
  have hsign : ∀ t : Text, readFinite? t =
      (withSign (fun digits => (readDecimal? digits).map Decimal.toFloat)
        (fun digits => ((readDecimal? digits).map Decimal.toFloat).map fun x => -x)
        (fun digits => (readDecimal? digits).map Decimal.toFloat) t).filter Float.isFinite :=
    fun _ => rfl
  rw [hsign, hsign, withSign_fold (f := id) hmagnitude (by simp [hmagnitude]) hmagnitude]
  rfl

end MonitorControl.Text
