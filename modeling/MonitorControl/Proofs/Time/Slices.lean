/-
Time phrases by byte offsets.

A phrase is only sliced where a number and a unit are taken apart: behind the sign, behind
the digits, and in front of what follows them. The sign and the digits are of ASCII, so as
many bytes as there are characters are passed over, and every offset lies between characters
whatever the rest of the word is written in (`slicedSplitAmount?_eq`).

Terms are read here before any is added, as `readTerms?` does it. Reading stops at the first
word that is no term and at no other, so no slice is missed that a reader would take who adds
the terms as it goes.
-/
import MonitorControl.Proofs.Text.Slices
import MonitorControl.Proofs.Time.Stamp

set_option autoImplicit false

namespace MonitorControl

open Text

/-! ## Amounts -/

/-- `splitAmount?` by offsets: where the digits start, and where they stop. -/
def slicedSplitAmount? (word : Text) : Sliced (Option (Int × Text)) := do
  let start := if word.head?.any (fun c => c == '+' || c == '-') then 1 else 0
  let body ← sliceFrom word start
  let stop := start + byteLength (body.takeWhile Char.isDigit)
  if stop = start then return none
  else
    let number ← sliceText word 0 stop
    let rest ← sliceFrom word stop
    return (readSigned64? number).map fun amount => (amount, rest)

/-- The sign of a word, if it has one, and what follows it. -/
theorem exists_sign (word : Text) :
    ∃ sign body : Text, word = sign ++ body ∧
      (if word.head?.any (fun c => c == '+' || c == '-') then 1 else 0) = byteLength sign ∧
      readSigned64? sign = none ∧
      splitAmount? word = (readSigned64? (sign ++ body.takeWhile Char.isDigit)).map fun amount =>
        (amount, body.dropWhile Char.isDigit) := by
  cases word with
  | nil => exact ⟨[], [], rfl, rfl, rfl, rfl⟩
  | cons c rest =>
    by_cases hsign : (c == '+' || c == '-') = true
    · refine ⟨[c], rest, rfl, ?_, ?_, ?_⟩
      · rw [List.head?_cons, Option.any_some, hsign, if_pos rfl]
        rw [Bool.or_eq_true, beq_iff_eq, beq_iff_eq] at hsign
        rcases hsign with rfl | rfl <;> rfl
      · rw [Bool.or_eq_true, beq_iff_eq, beq_iff_eq] at hsign
        rcases hsign with rfl | rfl <;> rfl
      · rw [splitAmount?]
        simp only [if_pos hsign, drop_length_digits]
    · refine ⟨[], c :: rest, rfl, ?_, rfl, ?_⟩
      · rw [List.head?_cons, Option.any_some, if_neg hsign, byteLength_nil]
      · rw [splitAmount?]
        simp only [if_neg hsign, drop_length_digits]

@[simp] theorem slicedSplitAmount?_eq (word : Text) :
    slicedSplitAmount? word = pure (splitAmount? word) := by
  obtain ⟨sign, body, rfl, hstart, hnumber, hsplit⟩ := exists_sign word
  have hbody : body = body.takeWhile Char.isDigit ++ body.dropWhile Char.isDigit :=
    List.takeWhile_append_dropWhile.symm
  rw [slicedSplitAmount?, hstart, hsplit]
  simp only [sliceFrom_append, pure_bind]
  by_cases hdigits : body.takeWhile Char.isDigit = []
  · rw [hdigits, byteLength_nil, Nat.add_zero, if_pos rfl, List.append_nil, hnumber]
    rfl
  · have hpositive : byteLength (body.takeWhile Char.isDigit) ≠ 0 := by
      obtain ⟨c, rest, hcons⟩ := List.exists_cons_of_ne_nil hdigits
      have hsize := c.utf8Size_pos
      rw [hcons, byteLength_cons]
      omega
    have hword : sign ++ body = sign ++ body.takeWhile Char.isDigit ++ body.dropWhile Char.isDigit := by
      rw [List.append_assoc, ← hbody]
    have hnumber : sliceText (sign ++ body) 0
        (byteLength sign + byteLength (body.takeWhile Char.isDigit)) =
          pure (sign ++ body.takeWhile Char.isDigit) := by
      have hslice := sliceText_append [] (sign ++ body.takeWhile Char.isDigit)
        (body.dropWhile Char.isDigit)
      rw [List.nil_append, byteLength_nil, Nat.zero_add, ← hword, byteLength_append] at hslice
      exact hslice
    have hrest : sliceFrom (sign ++ body)
        (byteLength sign + byteLength (body.takeWhile Char.isDigit)) =
          pure (body.dropWhile Char.isDigit) := by
      rw [hword, ← byteLength_append]
      exact sliceFrom_append _ _
    rw [if_neg (by omega), hnumber, hrest]
    rfl

/-! ## Phrases -/

/-- `readTerms?` by offsets. -/
def slicedReadTerms? : List Text → Sliced (Option (List (Int × TimeUnit)))
  | [] => return some []
  | word :: rest => do
    match ← slicedSplitAmount? word with
    | none => return none
    | some (amount, []) =>
      match rest with
      | [] => return none
      | unit :: rest =>
        match TimeUnit.ofName? unit, ← slicedReadTerms? rest with
        | some unit, some terms => return some ((amount, unit) :: terms)
        | _, _ => return none
    | some (amount, glued) =>
      match TimeUnit.ofName? glued, ← slicedReadTerms? rest with
      | some unit, some terms => return some ((amount, unit) :: terms)
      | _, _ => return none

/-- `resolveTerms?` by offsets. -/
def slicedResolveTerms? (words : List Text) (now : Moment) : Sliced (Option Moment) := do
  let ago := words.getLast? == some "ago".toList
  let terms := if ago then words.dropLast else words
  match terms with
  | [] => return none
  | _ :: _ =>
    match ← slicedReadTerms? terms with
    | some terms => return addTerms? now (if ago then terms.map fun (n, unit) => (-n, unit) else terms)
    | none => return none

/-- `resolveWords` by offsets. -/
def slicedResolveWords (words : List Text) (now : Moment) : Sliced Resolution :=
  match words with
  | [word, day] =>
    match Occurrence.ofName? word with
    | some occurrence =>
      match Weekday.ofName? day with
      | some weekday => return resolveWeekday now weekday occurrence
      | none => return .unreadable
    | none => Resolution.ofOption <$> slicedResolveTerms? words now
  | [day] =>
    match Weekday.ofName? day with
    | some weekday => return resolveWeekday now weekday .this
    | none => Resolution.ofOption <$> slicedResolveTerms? words now
  | _ => Resolution.ofOption <$> slicedResolveTerms? words now

/-- **Resolving a phrase by offsets.** -/
def slicedResolvePhrase (phrase : Text) (now : Moment) : Sliced Resolution :=
  let exact := phrase.trim
  let lower := exact.fold
  match resolveFixed? lower now with
  | some resolution => return resolution
  | none =>
    match lower with
    | '@' :: seconds =>
      return .ofOption ((readSigned64? seconds).bind fun s => (Moment.ofSeconds s).inCalendar?)
    | _ =>
      match readStamp? exact with
      | some m => return .moment m
      | none => slicedResolveWords lower.words now

/-- `isTimePhrase` by offsets. -/
def slicedIsTimePhrase (phrase : Text) (now : Moment) : Sliced Bool := do
  return (← slicedResolvePhrase phrase now).moment?.isSome

@[simp] theorem slicedReadTerms?_eq (words : List Text) :
    slicedReadTerms? words = pure (readTerms? words) := by
  induction words using readTerms?.induct with
  | _ => simp [slicedReadTerms?, readTerms?, *]

@[simp] theorem slicedResolveTerms?_eq (words : List Text) (now : Moment) :
    slicedResolveTerms? words now = pure (resolveTerms? words now) := by
  rw [slicedResolveTerms?, resolveTerms?]
  cases hterms : if words.getLast? == some "ago".toList then words.dropLast else words with
  | nil => rfl
  | cons word rest =>
    simp only [slicedReadTerms?_eq, pure_bind]
    cases readTerms? (word :: rest) <;> rfl

@[simp] theorem slicedResolveWords_eq (words : List Text) (now : Moment) :
    slicedResolveWords words now = pure (resolveWords words now) := by
  match words with
  | [] | _ :: _ :: _ :: _ =>
    simp only [slicedResolveWords, resolveWords, slicedResolveTerms?_eq, map_pure]
  | [day] =>
    simp only [slicedResolveWords, resolveWords, slicedResolveTerms?_eq, map_pure]
    cases Weekday.ofName? day <;> rfl
  | [word, day] =>
    simp only [slicedResolveWords, resolveWords, slicedResolveTerms?_eq, map_pure]
    cases Occurrence.ofName? word <;> cases Weekday.ofName? day <;> rfl

@[simp] theorem slicedResolvePhrase_eq (phrase : Text) (now : Moment) :
    slicedResolvePhrase phrase now = pure (resolvePhrase phrase now) := by
  simp only [slicedResolvePhrase, resolvePhrase, slicedResolveWords_eq]
  cases resolveFixed? phrase.trim.fold now with
  | some resolution => rfl
  | none =>
    simp only
    cases phrase.trim.fold with
    | nil => cases readStamp? phrase.trim <;> rfl
    | cons c rest =>
      by_cases hc : c = '@'
      · subst hc
        rfl
      · cases readStamp? phrase.trim <;> simp [hc]

@[simp] theorem slicedIsTimePhrase_eq (phrase : Text) (now : Moment) :
    slicedIsTimePhrase phrase now = pure (isTimePhrase phrase now) := by
  rw [slicedIsTimePhrase, slicedResolvePhrase_eq, pure_bind, isTimePhrase]

end MonitorControl
