/-
Time phrases up to case.

Everything about a phrase is decided on its folded text, but for an absolute time,
and there one layout has a letter for a mark: the `T` between a day and an hour,
which is read as a capital only. In that layout the mark follows a number, so a text
in which no such letter stands right behind a digit does not fit it in either case
(`readLayout?_stampMark`), and in all other layouts the case of letters plays no
part (`readLayout?_fold`).
-/
import MonitorControl.Proofs.Text.CaseFolding
import MonitorControl.Time.Phrase
import Mathlib.Data.List.Chain

set_option autoImplicit false

namespace MonitorControl

open Text

/-! ## Letters behind digits -/

/-- **A text without a stamp mark**: no letter T, in either case, right behind a digit. -/
def Unstamped (t : Text) : Prop := t.IsChain fun d c => d.isDigit = true → c.toLower ≠ 't'

instance (t : Text) : Decidable (Unstamped t) :=
  inferInstanceAs (Decidable (t.IsChain fun d c => d.isDigit = true → c.toLower ≠ 't'))

theorem Unstamped.of_isInfix {part t : Text} (h : Unstamped t) (hpart : part <:+: t) :
    Unstamped part :=
  List.IsChain.infix h hpart

@[simp] theorem unstamped_fold (t : Text) : Unstamped t.fold ↔ Unstamped t := by
  simp only [Unstamped, Text.fold, List.isChain_map, ignoresCase_isDigit _, toLower_toLower]

/-- A letter T in a text without stamp marks has no digit before it. -/
theorem Unstamped.toLower_ne {front rest : Text} {d c : Char}
    (h : Unstamped (front ++ d :: c :: rest)) (hd : d.isDigit = true) : c.toLower ≠ 't' :=
  (List.isChain_cons_cons.1 (h.of_isInfix (List.suffix_append front _).isInfix)).1 hd

/-! ## Numbers in a layout -/

theorem takeNumber?_fold (width : Nat) (t : Text) :
    takeNumber? width t.fold = (takeNumber? width t).map (Prod.map id Text.fold) := by
  simp only [takeNumber?, take_fold, ignoresCase_isDigit.takeWhile_fold, fold_takeWhile_isDigit,
    drop_fold]
  by_cases hnone : ((t.take width).takeWhile Char.isDigit).isEmpty = true
  · rw [if_pos hnone, if_pos hnone, Option.map_none]
  · rw [if_neg hnone, if_neg hnone, Option.map_some, Prod.map_apply, id]

/-- **What a number leaves stands right behind a digit.** -/
theorem exists_digit_of_takeNumber? {width n : Nat} {t rest : Text}
    (h : takeNumber? width t = some (n, rest)) : ∃ d, d.isDigit = true ∧ d :: rest <:+ t := by
  rw [takeNumber?, Option.ite_none_left_eq_some, Option.some_inj, Prod.mk.injEq] at h
  obtain ⟨hsome, -, hrest⟩ := h
  rw [List.isEmpty_iff] at hsome
  -- the digits read are not empty, so there is a last one
  obtain ⟨front, d, hdigits⟩ := List.eq_nil_or_concat _ |>.resolve_left hsome
  rw [List.concat_eq_append] at hdigits
  have hd : d.isDigit = true :=
    List.mem_takeWhile_imp (hdigits ▸ List.mem_append_right front List.mem_cons_self)
  have hprefix : (t.take width).takeWhile Char.isDigit <+: t :=
    (List.takeWhile_prefix _).trans (List.take_prefix width t)
  refine ⟨d, hd, front, ?_⟩
  rw [List.append_cons, ← hdigits, ← hrest]
  exact List.prefix_iff_eq_append.1 hprefix

/-- The signs of a year. -/
theorem takeYear?_eq_withSign (t : Text) :
    takeYear? t =
      withSign (fun rest => (takeNumber? rest.length rest).map fun (n, rest) => (Int.ofNat n, rest))
        (fun rest => (takeNumber? rest.length rest).map fun (n, rest) => (-Int.ofNat n, rest))
        (fun rest => (takeNumber? 4 rest).map fun (n, rest) => (Int.ofNat n, rest)) t := rfl

theorem takeYear?_fold (t : Text) :
    takeYear? t.fold = (takeYear? t).map (Prod.map id Text.fold) := by
  rw [takeYear?_eq_withSign, takeYear?_eq_withSign]
  apply withSign_fold <;> intro t <;>
    simp only [takeNumber?_fold, length_fold, Option.map_map] <;> rfl

theorem exists_digit_of_takeYear? {n : Int} {t rest : Text} (h : takeYear? t = some (n, rest)) :
    ∃ d, d.isDigit = true ∧ d :: rest <:+ t := by
  unfold takeYear? at h
  split at h <;> rw [Option.map_eq_some_iff] at h <;> obtain ⟨⟨m, rest'⟩, hm, heq⟩ := h <;>
    obtain ⟨-, rfl⟩ := Prod.mk.inj heq <;>
    obtain ⟨d, hd, hsuffix⟩ := exists_digit_of_takeNumber? hm
  · exact ⟨d, hd, hsuffix.trans (List.suffix_cons _ _)⟩
  · exact ⟨d, hd, hsuffix.trans (List.suffix_cons _ _)⟩
  · exact ⟨d, hd, hsuffix⟩

/-! ## Parts of a layout -/

/-- A part that is no letter. -/
def StampPart.ignoresCase : StampPart → Bool
  | .mark c => !c.isAlpha
  | _ => true

theorem StampPart.read?_fold {part : StampPart} (hpart : part.ignoresCase = true)
    (numbers : StampNumbers) (t : Text) :
    part.read? numbers t.fold = (part.read? numbers t).map (Prod.map id Text.fold) := by
  cases part with
  | space => simp [read?]
  | mark c =>
    rw [ignoresCase, Bool.not_eq_true'] at hpart
    cases t with
    | nil => rfl
    | cons d t =>
      simp only [fold_cons, read?, beq_iff_eq, toLower_eq_iff hpart]
      by_cases hd : d = c
      · rw [if_pos hd, if_pos hd, Option.map_some, Prod.map_apply, id]
      · rw [if_neg hd, if_neg hd, Option.map_none]
  | field f =>
    cases f <;> simp only [read?, trimStart_fold, takeYear?_fold, takeNumber?_fold, Option.map_map]
      <;> rfl

/-- What a number in a layout leaves stands right behind a digit. -/
theorem StampPart.exists_digit_of_read? {f : StampField} {numbers numbers' : StampNumbers}
    {t rest : Text} (h : (StampPart.field f).read? numbers t = some (numbers', rest)) :
    ∃ d, d.isDigit = true ∧ d :: rest <:+ t := by
  have hstart : trimStart t <:+ t := List.dropWhile_suffix isBlank
  cases f <;> simp only [read?, Option.map_eq_some_iff, Prod.mk.injEq] at h <;>
    obtain ⟨⟨n, rest'⟩, hn, -, rfl⟩ := h
  case year =>
    obtain ⟨d, hd, hsuffix⟩ := exists_digit_of_takeYear? hn
    exact ⟨d, hd, hsuffix.trans hstart⟩
  all_goals
    obtain ⟨d, hd, hsuffix⟩ := exists_digit_of_takeNumber? hn
    exact ⟨d, hd, hsuffix.trans hstart⟩

theorem StampPart.suffix_of_read? {part : StampPart} {numbers numbers' : StampNumbers}
    {t rest : Text} (h : part.read? numbers t = some (numbers', rest)) : rest <:+ t := by
  cases part with
  | field f =>
    obtain ⟨d, -, hsuffix⟩ := exists_digit_of_read? h
    exact (List.suffix_cons d rest).trans hsuffix
  | mark c =>
    cases t with
    | nil => exact absurd h (by simp [read?])
    | cons d t =>
      simp only [read?, Option.ite_none_right_eq_some, Option.some_inj, Prod.mk.injEq] at h
      obtain ⟨-, -, rfl⟩ := h
      exact List.suffix_cons d t
  | space =>
    simp only [read?, Option.some_inj, Prod.mk.injEq] at h
    exact h.2 ▸ List.dropWhile_suffix isBlank

/-! ## Layouts -/

/-- A layout without letters reads a folded text as it reads the text. -/
theorem readLayout?_fold {layout : List StampPart}
    (hlayout : ∀ part ∈ layout, part.ignoresCase = true) (numbers : StampNumbers) (t : Text) :
    readLayout? numbers layout t.fold = readLayout? numbers layout t := by
  induction layout generalizing numbers t with
  | nil => cases t <;> rfl
  | cons part layout ih =>
    rw [readLayout?, readLayout?, StampPart.read?_fold (hlayout part List.mem_cons_self)]
    cases part.read? numbers t with
    | none => rfl
    | some read =>
      exact ih (fun other hother => hlayout other (List.mem_cons_of_mem part hother)) read.1 read.2

/-- **A layout with a `T` after a number does not fit a text without stamp marks.** The induction is
on the parts before that number; each leaves a part of the text, which has no stamp mark either. -/
theorem readLayout?_stampMark {t : Text} (ht : Unstamped t) (numbers : StampNumbers)
    (front back : List StampPart) (f : StampField) :
    readLayout? numbers (front ++ .field f :: .mark 'T' :: back) t = none := by
  induction front generalizing numbers t with
  | nil =>
    rw [List.nil_append, readLayout?]
    cases hread : (StampPart.field f).read? numbers t with
    | none => rfl
    | some read =>
      obtain ⟨numbers', rest⟩ := read
      -- the mark would have to stand right behind the last digit of the number
      obtain ⟨d, hd, before, hbefore⟩ := StampPart.exists_digit_of_read? hread
      simp only
      cases rest with
      | nil => rfl
      | cons c rest =>
        have hc : c ≠ 'T' := by
          rintro rfl
          exact Unstamped.toLower_ne (hbefore ▸ ht) hd rfl
        rw [readLayout?, StampPart.read?, beq_false_of_ne hc]
        rfl
  | cons part front ih =>
    rw [List.cons_append, readLayout?]
    cases hread : part.read? numbers t with
    | none => rfl
    | some read =>
      exact ih (ht.of_isInfix (StampPart.suffix_of_read? hread).isInfix) read.1

theorem readStamp?_fold {t : Text} (ht : Unstamped t) : readStamp? t.fold = readStamp? t := by
  have hstamp : ∀ t : Text, Unstamped t →
      readLayout? {} (dateLayout ++ .mark 'T' :: secondLayout) t = none := by
    intro t ht
    exact readLayout?_stampMark ht {} [.field .year, .mark '-', .field .month, .mark '-']
      secondLayout .day
  -- the layout with the mark gives nothing on either side; the other three have no letters
  simp only [readStamp?, stampLayouts, List.findSome?_cons, List.findSome?_nil, hstamp t ht,
    hstamp t.fold ((unstamped_fold t).2 ht)]
  rw [readLayout?_fold (by decide), readLayout?_fold (by decide), readLayout?_fold (by decide)]

/-! ## Phrases -/

/-- **A phrase without a stamp mark means the same in any case.** -/
theorem resolvePhrase_fold {phrase : Text} (h : Unstamped phrase) (now : Moment) :
    resolvePhrase phrase.fold now = resolvePhrase phrase now := by
  -- all but the absolute time is looked for in the folded phrase, and that is folded already
  have htrim : Unstamped phrase.trim := h.of_isInfix (trim_isInfix phrase)
  simp only [resolvePhrase, trim_fold, fold_fold, readStamp?_fold htrim]

/-- The letter that stamp marks are about is read as a capital only. -/
example : readStamp? "2024-03-01T12:00:00" = some ⟨19783, 12, 0, 0⟩ ∧
    readStamp? "2024-03-01t12:00:00" = none := by
  decide

theorem isTimePhrase_fold {phrase : Text} (h : Unstamped phrase) (now : Moment) :
    isTimePhrase phrase.fold now = isTimePhrase phrase now := by
  rw [isTimePhrase, isTimePhrase, resolvePhrase_fold h]

end MonitorControl
