/-
The scan of a query on bytes, and what it slices.

This scan walks over the bytes, looks at single bytes in front of and behind a keyword, and
remembers offsets; only then is the query sliced at them. None of this knows about
characters. It is followed here with every access checked: a byte or a range of bytes that
is not there is a fault, and so is a slice that splits a character.

From one offset on, the scan finds the first cut of the bytes (`nextCut?_eq`): one induction
on the bytes, with the open quotation mark as the invariant. Where the cuts are is known from
the division of the query, so the offsets of the scan are those of its stretches
(`rangesFrom_eq`), and these lie between characters.
-/
import MonitorControl.Proofs.Query.Splitting
import MonitorControl.Proofs.Text.Slices

set_option autoImplicit false

namespace MonitorControl

open Text

/-! ## The scan -/

/-- The byte before an offset is part of a word. -/
def afterWordByte (bs : List UInt8) (n : Nat) : Sliced Bool :=
  if n = 0 then return false else do
    return isWordByte (← byteAt bs (n - 1))

/-- The bytes at an offset spell the keyword, and no byte of a word follows. -/
def Conjunction.opensAt (k : Conjunction) (bs : List UInt8) (n : Nat) : Sliced Bool :=
  let stop := n + (bytes k.keyword).length
  if stop ≤ bs.length then do
    return sameLetterBytes (← sliceBytes bs n stop) (bytes k.keyword) &&
      bs[stop]?.all fun b => !isWordByte b
  else return false

/-- **The keyword at an offset**, if neither neighbour of it is part of a word. -/
def conjunctionAtByte? (bs : List UInt8) (n : Nat) : Sliced (Option Conjunction) := do
  if ← afterWordByte bs n then return none
  else Conjunction.all.findM? fun k => k.opensAt bs n

/-- **The first cut** from byte `n` on, with an open quotation mark or none: its offset and its
keyword. The last argument is what there is of the bytes from `n` on. -/
def nextCut? (bs : List UInt8) (quote : Option UInt8) (n : Nat) :
    List UInt8 → Sliced (Option (Nat × Conjunction))
  | [] => return none
  | b :: rest =>
    match quote with
    | some q => nextCut? bs (if b == q then none else some q) (n + 1) rest
    | none => do
      if b == 0x27 || b == 0x22 then nextCut? bs (some b) (n + 1) rest
      else
        match ← conjunctionAtByte? bs n with
        | some k => return some (n, k)
        | none => nextCut? bs none (n + 1) rest

/-- **The offsets of a segment**: where it begins and ends before it is trimmed, and the conjunction
that ends it. -/
structure ByteRange where
  start : Nat
  stop : Nat
  conjunction : Option Conjunction
  deriving DecidableEq, Repr

/-- A cut that is found is not outside. -/
theorem nextCut?_bounds {bs rest : List UInt8} {quote : Option UInt8} {n p : Nat} {k : Conjunction}
    (h : nextCut? bs quote n rest = .ok (some (p, k))) : n ≤ p ∧ p < n + rest.length := by
  induction rest generalizing quote n with
  | nil => cases h
  | cons b rest ih =>
    have hlater : ∀ {quote}, nextCut? bs quote (n + 1) rest = .ok (some (p, k)) →
        n ≤ p ∧ p < n + (b :: rest).length := by
      intro quote h
      obtain ⟨hlow, hhigh⟩ := ih h
      rw [List.length_cons]
      omega
    cases quote with
    | some q => exact hlater h
    | none =>
      rw [nextCut?] at h
      split at h
      · exact hlater h
      · cases hfound : conjunctionAtByte? bs n with
        | error fault =>
          rw [hfound] at h
          cases h
        | ok found =>
          rw [hfound] at h
          cases found with
          | none => exact hlater h
          | some k' =>
            cases h
            rw [List.length_cons]
            omega

/-- **The offsets of all segments** from one at byte `start` on: behind each cut the scan begins anew,
outside quotes. -/
def rangesFrom (bs : List UInt8) (start : Nat) : Sliced (List ByteRange) :=
  match _ : nextCut? bs none start (bs.drop start) with
  | .error fault => .error fault
  | .ok none => return [⟨start, bs.length, none⟩]
  | .ok (some (p, k)) => do
    return ⟨start, p, some k⟩ :: (← rangesFrom bs (p + (bytes k.keyword).length))
termination_by bs.length - start
decreasing_by
  have hbounds := nextCut?_bounds ‹nextCut? bs none start (bs.drop start) = _›
  have hkeyword : 0 < (bytes k.keyword).length := by cases k <;> decide
  rw [List.length_drop] at hbounds
  omega

/-! ## Slices -/

/-- The segment at a range of offsets. -/
def slicedSegment (query : Text) (range : ByteRange) : Sliced Segment := do
  let raw ← sliceText query range.start range.stop
  return Piece.toSegment range.start ⟨raw, range.conjunction⟩

/-- **The segments of a query, by offsets.** -/
def slicedSegments (query : Text) : Sliced (List Segment) := do
  (← rangesFrom (bytes query) 0).mapM (slicedSegment query)

/-- `lastSegmentText` by offsets. -/
def slicedLastSegmentText (query : Text) : Sliced Text := do
  return ((← slicedSegments query).getLast?.map Segment.text).getD []

/-- `splitAtConjunction` by offsets: the rest is what follows the first cut and its keyword. -/
def slicedSplitAtConjunction (query : Text) : Sliced (Text × Option (Conjunction × Text)) := do
  match ← nextCut? (bytes query) none 0 (bytes query) with
  | some (p, k) =>
    let segment ← slicedSegment query ⟨0, p, some k⟩
    let rest ← sliceFrom query (p + (bytes k.keyword).length)
    return (segment.text, some (k, trim rest))
  | none =>
    let segment ← slicedSegment query ⟨0, byteLength query, none⟩
    return (segment.text, none)

/-! ## One place -/

/-- A keyword at an offset, neither neighbour of which is part of a word: a cut, if no quotation mark
is open there. -/
structure StandsAt (bs : List UInt8) (n : Nat) (k : Conjunction) : Prop where
  spelled : ((bs.drop n).take k.keyword.length).map lowerByte = (bytes k.keyword).map lowerByte
  before : ∀ b ∈ (bs.take n).getLast?, isWordByte b = false
  after : ∀ b ∈ (bs.drop (n + k.keyword.length)).head?, isWordByte b = false

theorem isCut_iff_standsAt {bs : List UInt8} {n : Nat} {k : Conjunction} :
    IsCut bs n k ↔ openQuote bs n = none ∧ StandsAt bs n k :=
  ⟨fun h => ⟨h.outside, h.spelled, h.before, h.after⟩,
    fun ⟨houtside, h⟩ => ⟨houtside, h.spelled, h.before, h.after⟩⟩

/-- No two keywords stand at one offset. -/
theorem StandsAt.unique {bs : List UInt8} {n : Nat} {k k' : Conjunction} (h : StandsAt bs n k)
    (h' : StandsAt bs n k') : k = k' := by
  have hfirst : ∀ {k : Conjunction}, StandsAt bs n k →
      ((bs.drop n).map lowerByte).head? = ((bytes k.keyword).map lowerByte).head? := by
    intro k h
    rw [← h.spelled, List.map_take, List.head?_take, if_neg (by cases k <;> decide)]
  have hsame := (hfirst h).symm.trans (hfirst h')
  cases k <;> cases k' <;> first | rfl | exact absurd hsame (by decide)

theorem afterWordByte_eq {bs : List UInt8} {n : Nat} (hn : n ≤ bs.length) :
    afterWordByte bs n = pure ((bs.take n).getLast?.any isWordByte) := by
  rw [afterWordByte]
  cases n with
  | zero => rfl
  | succ n =>
    obtain ⟨b, hb⟩ : ∃ b, bs[n]? = some b := ⟨_, List.getElem?_eq_getElem hn⟩
    have hlast : (bs.take (n + 1)).getLast? = some b := by
      rw [List.getLast?_take, if_neg (Nat.succ_ne_zero n), Nat.add_sub_cancel, hb]
      rfl
    rw [if_neg (Nat.succ_ne_zero n), hlast, byteAt, Nat.add_sub_cancel, hb]
    rfl

theorem Conjunction.opensAt_eq (k : Conjunction) (bs : List UInt8) (n : Nat) :
    ∃ opens, k.opensAt bs n = pure opens ∧ (opens = true ↔
      ((bs.drop n).take k.keyword.length).map lowerByte = (bytes k.keyword).map lowerByte ∧
        ∀ b ∈ (bs.drop (n + k.keyword.length)).head?, isWordByte b = false) := by
  rw [opensAt, length_bytes_keyword]
  by_cases hstop : n + k.keyword.length ≤ bs.length
  · rw [if_pos hstop, sliceBytes, if_pos ⟨Nat.le_add_right _ _, hstop⟩]
    refine ⟨_, rfl, ?_⟩
    rw [Bool.and_eq_true, sameLetterBytes, beq_iff_eq, slice, List.drop_take, Nat.add_sub_cancel_left,
      List.head?_drop, Option.all_eq_true]
    simp only [Bool.not_eq_true', Option.mem_def]
  · rw [if_neg hstop]
    refine ⟨false, rfl, iff_of_false Bool.false_ne_true ?_⟩
    rintro ⟨hspelled, -⟩
    have hlength := congrArg List.length hspelled
    have hkeyword : 0 < k.keyword.length := by cases k <;> decide
    rw [List.length_map, List.length_map, List.length_take, List.length_drop,
      length_bytes_keyword] at hlength
    omega

/-- **What is found at an offset is the keyword that stands there.** -/
theorem conjunctionAtByte?_eq {bs : List UInt8} {n : Nat} (hn : n ≤ bs.length) :
    ∃ found, conjunctionAtByte? bs n = pure found ∧ ∀ k, found = some k ↔ StandsAt bs n k := by
  rw [conjunctionAtByte?, afterWordByte_eq hn, pure_bind]
  cases hbefore : (bs.take n).getLast?.any isWordByte with
  | true =>
    refine ⟨none, rfl, fun k => iff_of_false nofun fun h => ?_⟩
    obtain ⟨b, hb, hword⟩ := (Option.any_eq_true _ _).1 hbefore
    rw [h.before b hb] at hword
    cases hword
  | false =>
    have hquiet : ∀ b ∈ (bs.take n).getLast?, isWordByte b = false := by
      intro b hb
      rw [Option.mem_def.1 hb] at hbefore
      exact hbefore
    choose opens hopens hiff using fun k => Conjunction.opensAt_eq k bs n
    have hstands : ∀ k, opens k = true ↔ StandsAt bs n k := fun k =>
      (hiff k).trans ⟨fun h => ⟨h.1, hquiet, h.2⟩, fun h => ⟨h.spelled, h.after⟩⟩
    simp only [Bool.false_eq_true, if_false, hopens, List.findM?_pure]
    refine ⟨_, rfl, fun k => ?_⟩
    constructor
    · intro hfound
      exact (hstands k).1 (List.find?_some hfound)
    · intro hk
      cases hfound : Conjunction.all.find? opens with
      | none =>
        have hnone := List.find?_eq_none.1 hfound k (by cases k <;> decide)
        exact absurd ((hstands k).2 hk) hnone
      | some k' =>
        rw [((hstands k').1 (List.find?_some hfound)).unique hk]

/-! ## The first cut -/

/-- **The first cut from an offset on**, or none if there is none. -/
inductive FirstCut (bs : List UInt8) (n : Nat) : Option (Nat × Conjunction) → Prop
  | none (hnone : ∀ p k, n ≤ p → ¬ IsCut bs p k) : FirstCut bs n none
  | some {p : Nat} {k : Conjunction} (hle : n ≤ p) (hcut : IsCut bs p k)
    (hfirst : ∀ p' k', n ≤ p' → IsCut bs p' k' → p ≤ p') : FirstCut bs n (some (p, k))

namespace FirstCut

variable {bs : List UInt8} {n : Nat} {found found' : Option (Nat × Conjunction)}

theorem unique (h : FirstCut bs n found) (h' : FirstCut bs n found') : found = found' := by
  cases h with
  | none hnone =>
    cases h' with
    | none => rfl
    | some hle hcut _ => exact absurd hcut (hnone _ _ hle)
  | @some p k hle hcut hfirst =>
    cases h' with
    | none hnone => exact absurd hcut (hnone _ _ hle)
    | @some p' k' hle' hcut' hfirst' =>
      obtain rfl : p = p' := Nat.le_antisymm (hfirst _ _ hle' hcut') (hfirst' _ _ hle hcut)
      rw [(isCut_iff_standsAt.1 hcut).2.unique (isCut_iff_standsAt.1 hcut').2]

/-- Where no cut is at an offset, the first one is the first behind it. -/
theorem pass (hhere : ∀ k, ¬ IsCut bs n k) (h : FirstCut bs (n + 1) found) :
    FirstCut bs n found := by
  have hlater : ∀ {p k}, n ≤ p → IsCut bs p k → n + 1 ≤ p := by
    intro p k hp hcut
    rcases Nat.eq_or_lt_of_le hp with rfl | hlt
    · exact absurd hcut (hhere k)
    · exact hlt
  cases h with
  | none hnone => exact .none fun p k hp hcut => hnone p k (hlater hp hcut) hcut
  | some hle hcut hfirst =>
    exact .some (Nat.le_of_succ_le hle) hcut fun p' k' hp' hcut' =>
      hfirst p' k' (hlater hp' hcut') hcut'

end FirstCut

/-- A quotation mark begins no keyword. -/
theorem not_isCut_of_quote {front rest : List UInt8} {b : UInt8}
    (hb : (b == 0x27 || b == 0x22) = true) (k : Conjunction) :
    ¬ IsCut (front ++ b :: rest) front.length k := by
  intro hcut
  have hletter : lowerByte b ∈ (bytes k.keyword).map lowerByte := by
    rw [← hcut.spelled, List.drop_left]
    cases k <;> exact List.mem_cons_self
  rw [Bool.or_eq_true, beq_iff_eq, beq_iff_eq] at hb
  revert hletter
  rcases hb with rfl | rfl <;> cases k <;> decide

theorem openQuote_succ {front rest : List UInt8} {b : UInt8} :
    openQuote (front ++ b :: rest) (front.length + 1) =
      quoteStep (openQuote (front ++ b :: rest) front.length) b := by
  rw [openQuote, openQuote, List.take_left, List.take_append, Nat.add_sub_cancel_left,
    List.take_of_length_le (Nat.le_succ _), List.foldl_append]
  rfl

/-- **The scan finds the first cut**, without a fault. The induction is on what is left of the bytes,
and the quotation mark that the scan takes for open is the one that those in front leave open. -/
theorem nextCut?_eq (front rest : List UInt8) :
    ∃ found, nextCut? (front ++ rest) (openQuote (front ++ rest) front.length) front.length rest =
      pure found ∧ FirstCut (front ++ rest) front.length found := by
  induction rest generalizing front with
  | nil =>
    refine ⟨none, rfl, .none fun p k hp hcut => ?_⟩
    obtain ⟨b, rest, hdrop, -⟩ := hcut.exists_head
    rw [List.append_nil, List.drop_eq_nil_of_le hp] at hdrop
    cases hdrop
  | cons b rest ih =>
    obtain ⟨found, hfound, hfirst⟩ := ih (front ++ [b])
    simp only [List.append_assoc, List.singleton_append, List.length_append, List.length_cons,
      List.length_nil, Nat.zero_add] at hfound hfirst
    rw [openQuote_succ] at hfound
    cases hquote : openQuote (front ++ b :: rest) front.length with
    | some q =>
      -- inside quotes nothing is a cut
      rw [hquote] at hfound
      refine ⟨found, hfound, hfirst.pass fun k hcut => ?_⟩
      rw [hcut.outside] at hquote
      cases hquote
    | none =>
      rw [hquote, quoteStep] at hfound
      rw [nextCut?]
      by_cases hmark : (b == 0x27 || b == 0x22) = true
      · rw [if_pos hmark] at hfound ⊢
        exact ⟨found, hfound, hfirst.pass (not_isCut_of_quote hmark)⟩
      · rw [if_neg hmark] at hfound ⊢
        have hn : front.length ≤ (front ++ b :: rest).length := by
          rw [List.length_append]
          omega
        obtain ⟨here, heq, hstands⟩ := conjunctionAtByte?_eq hn
        rw [heq, pure_bind]
        cases here with
        | none =>
          refine ⟨found, hfound, hfirst.pass fun k hcut => ?_⟩
          exact absurd ((hstands k).2 (isCut_iff_standsAt.1 hcut).2) nofun
        | some k =>
          have hcut := isCut_iff_standsAt.2 ⟨hquote, (hstands k).1 rfl⟩
          exact ⟨_, rfl, .some (Nat.le_refl _) hcut fun p' k' hp' _ => hp'⟩

/-! ## All offsets -/

/-- The offsets of a stretch. -/
def Stretch.range (x : Stretch) : ByteRange := ⟨x.start, x.stop, x.conjunction⟩

theorem Division.le_of_mem_cutsFrom {start p : Nat} {k : Conjunction} {d : Division}
    (h : (p, k) ∈ d.cutsFrom start) : start ≤ p := by
  induction d generalizing start with
  | last raw => exact absurd h List.not_mem_nil
  | cut raw word k' spells rest ih =>
    rw [cutsFrom, List.mem_cons, Prod.mk.injEq] at h
    rcases h with ⟨rfl, -⟩ | h
    · exact Nat.le_add_right _ _
    · have hlater := ih h
      omega

/-- The first cut of a division, which stands at byte `start`. -/
def Division.firstCut? (start : Nat) : Division → Option (Nat × Conjunction)
  | .last _ => none
  | .cut raw _ k _ _ => some (start + byteLength raw, k)

/-- If the cuts of a division are those of some bytes, then so is the first of them. -/
theorem Division.firstCut {bs : List UInt8} {start : Nat} {d : Division}
    (hcuts : ∀ p k, (p, k) ∈ d.cutsFrom start ↔ start ≤ p ∧ IsCut bs p k) :
    FirstCut bs start (d.firstCut? start) := by
  cases d with
  | last raw => exact .none fun p k hp hcut => List.not_mem_nil ((hcuts p k).2 ⟨hp, hcut⟩)
  | cut raw word k spells rest =>
    obtain ⟨hle, hcut⟩ := (hcuts (start + byteLength raw) k).1 List.mem_cons_self
    refine .some hle hcut fun p' k' hp' hcut' => ?_
    have hmem := (hcuts p' k').2 ⟨hp', hcut'⟩
    rw [cutsFrom, List.mem_cons, Prod.mk.injEq] at hmem
    rcases hmem with ⟨rfl, -⟩ | hmem
    · exact Nat.le_refl _
    · have hlater := le_of_mem_cutsFrom hmem
      omega

/-- **From the start of a division on, the scan finds the first cut of the division**, if the cuts of
the division are those of the bytes. -/
theorem nextCut?_division (before : Text) {d : Division} (hquote : quoteAt before = none)
    (hcuts : ∀ p k, (p, k) ∈ d.cutsFrom (byteLength before) ↔
      byteLength before ≤ p ∧ IsCut (bytes (before ++ d.text)) p k) :
    nextCut? (bytes (before ++ d.text)) none (byteLength before)
        ((bytes (before ++ d.text)).drop (byteLength before)) =
      pure (d.firstCut? (byteLength before)) := by
  have hdrop : (bytes (before ++ d.text)).drop (byteLength before) = bytes d.text := by
    rw [bytes_append, ← length_bytes before, List.drop_left]
  have hopen : openQuote (bytes before ++ bytes d.text) (bytes before).length = none := by
    rw [openQuote, List.take_left, foldl_quoteStep_bytes, hquote]
    rfl
  obtain ⟨found, hfound, hfirst⟩ := nextCut?_eq (bytes before) (bytes d.text)
  rw [hopen, length_bytes, ← bytes_append] at hfound
  rw [length_bytes, ← bytes_append] at hfirst
  rw [hdrop, hfound, hfirst.unique (Division.firstCut hcuts)]

theorem rangesFrom_of_none {bs : List UInt8} {start : Nat}
    (h : nextCut? bs none start (bs.drop start) = pure none) :
    rangesFrom bs start = pure [⟨start, bs.length, none⟩] := by
  rw [rangesFrom]
  split
  · next heq => cases h.symm.trans heq
  · rfl
  · next heq => cases h.symm.trans heq

theorem rangesFrom_of_some {bs : List UInt8} {start p : Nat} {k : Conjunction}
    (h : nextCut? bs none start (bs.drop start) = pure (some (p, k))) :
    rangesFrom bs start = do
      return ⟨start, p, some k⟩ :: (← rangesFrom bs (p + (bytes k.keyword).length)) := by
  rw [rangesFrom]
  split
  · next heq => cases h.symm.trans heq
  · next heq => cases h.symm.trans heq
  · next heq =>
    cases h.symm.trans heq
    rfl

/-- **The offsets of the scan are those of the stretches.** Behind a cut, the division of the rest is
followed in the same way. -/
theorem rangesFrom_division (before : Text) {d : Division} (hquote : quoteAt before = none)
    (hcuts : ∀ p k, (p, k) ∈ d.cutsFrom (byteLength before) ↔
      byteLength before ≤ p ∧ IsCut (bytes (before ++ d.text)) p k) :
    rangesFrom (bytes (before ++ d.text)) (byteLength before) =
      pure ((d.stretchesFrom (byteLength before)).map Stretch.range) := by
  have hnext := nextCut?_division before hquote hcuts
  induction d generalizing before with
  | last raw =>
    rw [rangesFrom_of_none hnext, length_bytes, byteLength_append]
    rfl
  | cut raw word k spells rest ih =>
    rw [rangesFrom_of_some hnext]
    have hwhole : before ++ (Division.cut raw word k spells rest).text =
        (before ++ raw ++ word) ++ rest.text := by
      simp only [Division.text, List.append_assoc]
    have hoffset : byteLength (before ++ raw ++ word) =
        byteLength before + byteLength raw + byteLength word := by
      rw [byteLength_append, byteLength_append]
    have hword : (bytes k.keyword).length = byteLength word := by
      rw [length_bytes, byteLength_of_spells spells]
    have hpositive : 0 < byteLength word := by
      rw [byteLength_of_spells spells]
      cases k <;> decide
    have hquote' : quoteAt (before ++ raw ++ word) = none := by
      have hcut := ((hcuts _ k).1 List.mem_cons_self).2
      rw [Division.text, List.append_assoc, ← List.append_assoc before, ← byteLength_append,
        isCut_iff] at hcut
      exact quoteAt_append_word spells hcut.1
    have hcuts' : ∀ p k', (p, k') ∈ rest.cutsFrom (byteLength (before ++ raw ++ word)) ↔
        byteLength (before ++ raw ++ word) ≤ p ∧
          IsCut (bytes ((before ++ raw ++ word) ++ rest.text)) p k' := by
      intro p k'
      have hall := hcuts p k'
      rw [hwhole, Division.cutsFrom, List.mem_cons, Prod.mk.injEq, ← hoffset] at hall
      constructor
      · intro hmem
        exact ⟨Division.le_of_mem_cutsFrom hmem, (hall.1 (.inr hmem)).2⟩
      · rintro ⟨hle, hcut⟩
        rcases hall.2 ⟨by omega, hcut⟩ with ⟨rfl, -⟩ | hmem
        · omega
        · exact hmem
    rw [hword, hwhole, ← hoffset, ih _ hquote' hcuts' (nextCut?_division _ hquote' hcuts'),
      Division.stretchesFrom, List.map_cons, ← hoffset]
    rfl

/-! ## All slices -/

/-- **A stretch in its query**: it begins and ends at its offsets, and is followed by its keyword. -/
theorem Division.exists_of_mem_stretchesFrom {d : Division} (before : Text) {x : Stretch}
    (h : x ∈ d.stretchesFrom (byteLength before)) :
    ∃ lead trail, before ++ d.text = lead ++ x.raw ++ trail ∧ byteLength lead = x.start ∧
      ∀ k ∈ x.conjunction, ∃ word rest, trail = word ++ rest ∧
        byteLength word = (bytes k.keyword).length := by
  induction d generalizing before with
  | last raw =>
    obtain rfl := List.mem_singleton.1 h
    exact ⟨before, [], (List.append_nil _).symm, rfl, nofun⟩
  | cut raw word k spells rest ih =>
    rw [stretchesFrom, List.mem_cons, ← byteLength_append, ← byteLength_append] at h
    rcases h with rfl | h
    · refine ⟨before, word ++ rest.text, by simp only [text, List.append_assoc], rfl, ?_⟩
      rintro k' ⟨⟩
      exact ⟨word, rest.text, rfl, by rw [length_bytes, byteLength_of_spells spells]⟩
    · obtain ⟨lead, trail, hwhole, hrest⟩ := ih (before ++ raw ++ word) h
      refine ⟨lead, trail, ?_, hrest⟩
      rw [← hwhole, text]
      simp only [List.append_assoc]

/-- **A range between characters**: it begins and ends at a boundary, and so does the keyword behind
it. -/
structure ByteRange.Bounded (bs : List UInt8) (range : ByteRange) : Prop where
  start : isBoundary bs range.start = true
  stop : isBoundary bs range.stop = true
  behind : ∀ k ∈ range.conjunction, isBoundary bs (range.stop + (bytes k.keyword).length) = true

theorem Stretch.bounded_range {d : Division} {x : Stretch} (h : x ∈ d.stretchesFrom 0) :
    x.range.Bounded (bytes d.text) := by
  obtain ⟨lead, trail, hwhole, hlead, hword⟩ :=
    Division.exists_of_mem_stretchesFrom [] h
  rw [List.nil_append] at hwhole
  have hstop : byteLength (lead ++ x.raw) = x.stop := by rw [byteLength_append, hlead, Stretch.stop]
  refine ⟨isBoundary_bytes_iff.2 ⟨lead, x.raw ++ trail, ?_, hlead⟩,
    isBoundary_bytes_iff.2 ⟨lead ++ x.raw, trail, hwhole, hstop⟩, fun k hk => ?_⟩
  · rw [hwhole, List.append_assoc]
  · obtain ⟨word, rest, rfl, hlength⟩ := hword k hk
    refine isBoundary_bytes_iff.2 ⟨lead ++ x.raw ++ word, rest, ?_, ?_⟩
    · rw [hwhole, List.append_assoc _ word]
    · rw [byteLength_append, hstop, hlength]
      rfl

theorem slicedSegment_stretch {d : Division} {x : Stretch} (h : x ∈ d.stretchesFrom 0) :
    slicedSegment d.text x.range = pure (Piece.toSegment x.start ⟨x.raw, x.conjunction⟩) := by
  obtain ⟨lead, trail, hwhole, hlead, -⟩ := Division.exists_of_mem_stretchesFrom [] h
  have hslice : sliceText d.text x.start x.stop = pure x.raw := by
    rw [Stretch.stop, ← hlead, ← List.nil_append d.text, hwhole]
    exact sliceText_append lead x.raw trail
  rw [slicedSegment, Stretch.range, hslice]
  rfl

theorem Division.segmentsFrom_pieces (start : Nat) (d : Division) :
    segmentsFrom start d.pieces =
      (d.stretchesFrom start).map fun x => Piece.toSegment x.start ⟨x.raw, x.conjunction⟩ := by
  induction d generalizing start with
  | last raw => rfl
  | cut raw word k spells rest ih =>
    rw [pieces, segmentsFrom, ih, stretchesFrom, List.map_cons, Piece.width, Option.elim_some,
      ← byteLength_of_spells spells, Nat.add_assoc]

/-- What has no fault at any element of a list has none on the list. -/
theorem mapM_eq_pure_map {m : Type → Type} [Monad m] [LawfulMonad m] {α β : Type} {as : List α}
    {f : α → m β} {g : α → β} (h : ∀ a ∈ as, f a = pure (g a)) :
    as.mapM f = pure (as.map g) := by
  induction as with
  | nil => rfl
  | cons a as ih =>
    rw [List.mapM_cons, h a List.mem_cons_self, ih fun a' ha' => h a' (List.mem_cons_of_mem a ha'),
      pure_bind, pure_bind, List.map_cons]

/-- **The division that the scan of a query follows**, on characters and on bytes. -/
theorem exists_division (query : Text) :
    ∃ d : Division, Scans none false query d ∧ d.text = query ∧
      rangesFrom (bytes query) 0 = pure ((d.stretchesFrom 0).map Stretch.range) ∧
      nextCut? (bytes query) none 0 (bytes query) = pure (d.firstCut? 0) := by
  obtain ⟨d, hscan⟩ := exists_scans none false query
  have hcuts := hscan.mem_cutsFrom_iff [] rfl rfl
  have htext := hscan.text_eq
  rw [← htext] at hcuts
  have hranges := rangesFrom_division [] rfl hcuts
  have hnext := nextCut?_division [] rfl hcuts
  rw [List.nil_append, htext] at hranges hnext
  rw [byteLength_nil, List.drop_zero] at hnext
  exact ⟨d, hscan, htext, hranges, hnext⟩

/-- **Every offset of the scan lies between characters.** -/
theorem exists_bounded_ranges (query : Text) :
    ∃ ranges, rangesFrom (bytes query) 0 = .ok ranges ∧
      ∀ range ∈ ranges, range.Bounded (bytes query) := by
  obtain ⟨d, -, rfl, hranges, -⟩ := exists_division query
  refine ⟨_, hranges, fun range hrange => ?_⟩
  obtain ⟨x, hx, rfl⟩ := List.mem_map.1 hrange
  exact Stretch.bounded_range hx

/-- A segment is the slice of the query at its span. -/
theorem sliceText_span {query : Text} {s : Segment} (h : s ∈ segments query) :
    sliceText query s.span.start s.span.stop = .ok s.text := by
  obtain ⟨d, hscan, rfl, -⟩ := exists_division query
  rw [segments, pieces, ← hscan.pieces_eq, d.segmentsFrom_pieces] at h
  obtain ⟨x, hx, rfl⟩ := List.mem_map.1 h
  obtain ⟨lead, trail, hwhole, hlead, -⟩ := Division.exists_of_mem_stretchesFrom [] hx
  obtain ⟨blank, blank', hraw, hspan⟩ := Piece.exists_parts x.start ⟨x.raw, x.conjunction⟩
  have htext : d.text = (lead ++ blank) ++ x.raw.trim ++ (blank' ++ trail) := by
    rw [← List.nil_append d.text, hwhole]
    conv_lhs => rw [show x.raw = blank ++ x.raw.trim ++ blank' from hraw]
    simp only [List.append_assoc]
  rw [hspan, ← hlead, ← byteLength_append, htext]
  exact sliceText_append _ _ _

@[simp] theorem slicedSegments_eq (query : Text) :
    slicedSegments query = pure (segments query) := by
  obtain ⟨d, hscan, htext, hranges, -⟩ := exists_division query
  rw [slicedSegments, hranges, pure_bind, List.mapM_map, mapM_eq_pure_map (fun x hx => by
    rw [Function.comp_apply, ← htext, slicedSegment_stretch hx]), segments, pieces,
    ← hscan.pieces_eq, d.segmentsFrom_pieces]

@[simp] theorem slicedLastSegmentText_eq (query : Text) :
    slicedLastSegmentText query = pure (lastSegmentText query) := by
  rw [slicedLastSegmentText, slicedSegments_eq, pure_bind, lastSegmentText]

@[simp] theorem slicedSplitAtConjunction_eq (query : Text) :
    slicedSplitAtConjunction query = pure (splitAtConjunction query) := by
  obtain ⟨d, hscan, rfl, -, hnext⟩ := exists_division query
  rw [slicedSplitAtConjunction, hnext, pure_bind]
  cases d with
  | last raw =>
    have hslice : slicedSegment (Division.last raw).text ⟨0, byteLength raw, none⟩ =
        pure (Piece.toSegment 0 ⟨raw, none⟩) := by
      rw [← Nat.zero_add (byteLength raw)]
      exact slicedSegment_stretch (d := .last raw) List.mem_cons_self
    rw [splitAtConjunction_of_last hscan, Division.firstCut?]
    exact congrArg (· >>= fun segment => pure (segment.text, none)) hslice
  | cut raw word k spells rest =>
    have hslice := slicedSegment_stretch (d := .cut raw word k spells rest) List.mem_cons_self
    rw [Stretch.range, Stretch.stop] at hslice
    have hrest : sliceFrom (Division.cut raw word k spells rest).text
        (0 + byteLength raw + (bytes k.keyword).length) = pure rest.text := by
      rw [Nat.zero_add, length_bytes, ← byteLength_of_spells spells, ← byteLength_append]
      exact sliceFrom_append (raw ++ word) rest.text
    rw [splitAtConjunction_of_cut hscan, Division.firstCut?]
    simp only [hslice, hrest, pure_bind]
    rfl

end MonitorControl
