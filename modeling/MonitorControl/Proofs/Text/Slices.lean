/-
Slices by byte offsets, which may fail.

Texts are compared by their bytes, and what is compared is then cut off by its number of
bytes. A cut is only good at a boundary of characters (`isBoundary`), so slicing is an
operation that has a fault where a character would be split (`sliceText`). The boundaries
of a text are the numbers of bytes of its beginnings (`isBoundary_bytes_iff`), and there
slicing gives back the characters.

A comparison of bytes that ignores the case of ASCII letters still compares whole
characters: where it finds one text at the head of another, the length of the first is a
boundary of the second (`isBoundary_of_startsWith`). So what is cut off a head has no
fault, and gives what `afterHead?` says without any offsets.
-/
import MonitorControl.Proofs.Text.CaseFolding

set_option autoImplicit false

namespace MonitorControl

open Text

/-! ## Faults -/

/-- **A slice that cannot be taken**, with the bytes that it was to be taken from. -/
structure SliceFault where
  bs : List UInt8
  start : Nat
  stop : Nat
  deriving DecidableEq, Repr

/-- **A computation that takes slices**: its result, or the first slice that could not be taken. -/
abbrev Sliced := Except SliceFault

namespace Text

/-! ## Boundaries -/

/-- **A boundary**: the start or the end, or a byte that is not inside a sequence. -/
def isBoundary (bs : List UInt8) (n : Nat) : Bool :=
  n == 0 ||
    match bs[n]? with
    | none => n == bs.length
    | some b => !isTailByte b

/-- The first byte of a character is no tail byte. -/
theorem not_isTailByte_of_head {c : Char} {b : UInt8} (h : (charBytes c).head? = some b) :
    isTailByte b = false := by
  have hvalid : c.toNat < 0xD800 ∨ 0xDFFF < c.toNat ∧ c.toNat < 0x110000 := c.valid
  rw [← Bool.not_eq_true, isTailByte_iff]
  unfold charBytes at h
  simp only at h
  split_ifs at h <;> cases h <;> rw [toNat_toUInt8 (by omega)] <;> omega

/-- All later bytes of a character are tail bytes. -/
theorem isTailByte_of_mem_tail {c : Char} {b : UInt8} (h : b ∈ (charBytes c).tail) :
    isTailByte b = true := by
  unfold charBytes at h
  simp only at h
  split_ifs at h <;> simp only [List.tail_cons, List.mem_cons, List.not_mem_nil, or_false] at h
  · exact h ▸ isTailByte_low _
  · rcases h with rfl | rfl <;> exact isTailByte_low _
  · rcases h with rfl | rfl | rfl <;> exact isTailByte_low _

theorem isBoundary_append (front back : Text) :
    isBoundary (bytes (front ++ back)) (byteLength front) = true := by
  have hat : (bytes (front ++ back))[byteLength front]? = (bytes back).head? := by
    rw [bytes_append, List.getElem?_append_right (by rw [length_bytes]), length_bytes, Nat.sub_self,
      List.head?_eq_getElem?]
  rw [isBoundary, hat]
  cases back with
  | nil => simp
  | cons c back =>
    obtain ⟨b, rest, hbytes⟩ := List.exists_cons_of_ne_nil (charBytes_ne_nil c)
    have hfirst : isTailByte b = false := not_isTailByte_of_head (by rw [hbytes]; rfl)
    rw [bytes_cons, hbytes, List.cons_append, List.head?_cons]
    simp only [hfirst, Bool.not_false, Bool.or_true]

/-- **The boundaries of a text are the numbers of bytes of its beginnings.** -/
theorem isBoundary_bytes_iff {t : Text} {n : Nat} :
    isBoundary (bytes t) n = true ↔ ∃ front back, t = front ++ back ∧ byteLength front = n := by
  constructor
  · intro h
    induction t generalizing n with
    | nil =>
      have hzero : n = 0 := by simpa [isBoundary] using h
      exact ⟨[], [], rfl, hzero.symm⟩
    | cons c t ih =>
      rcases Nat.eq_zero_or_pos n with rfl | hpos
      · exact ⟨[], c :: t, rfl, rfl⟩
      rcases Nat.lt_or_ge n c.utf8Size with hwithin | hbeyond
      · -- such a byte is inside the sequence of the first character
        exfalso
        have hlt : n < (charBytes c).length := by rwa [length_charBytes]
        have hat : (bytes (c :: t))[n]? = some (charBytes c)[n] := by
          rw [bytes_cons, List.getElem?_append_left hlt, List.getElem?_eq_getElem hlt]
        have htail : isTailByte (charBytes c)[n] = true := by
          refine isTailByte_of_mem_tail (c := c) (List.mem_iff_getElem?.2 ⟨n - 1, ?_⟩)
          rw [List.getElem?_tail, Nat.sub_add_cancel hpos, List.getElem?_eq_getElem hlt]
        rw [isBoundary, hat] at h
        simp only [htail, Bool.not_true, Bool.or_false, beq_iff_eq] at h
        omega
      · have hrest : isBoundary (bytes t) (n - c.utf8Size) = true := by
          have hat : (bytes (c :: t))[n]? = (bytes t)[n - c.utf8Size]? := by
            rw [bytes_cons, List.getElem?_append_right (by rwa [length_charBytes]),
              length_charBytes]
          rw [isBoundary, hat] at h
          rw [isBoundary]
          have hlength : (bytes (c :: t)).length = c.utf8Size + (bytes t).length := by
            rw [length_bytes, length_bytes, byteLength_cons]
          cases hbyte : (bytes t)[n - c.utf8Size]? with
          | none =>
            rw [hbyte, hlength] at h
            simp only [Bool.or_eq_true, beq_iff_eq] at h ⊢
            omega
          | some b =>
            rw [hbyte] at h
            simp only [Bool.or_eq_true, beq_iff_eq] at h ⊢
            exact h.imp_left (by omega)
        obtain ⟨front, back, rfl, hfront⟩ := ih hrest
        refine ⟨c :: front, back, rfl, ?_⟩
        rw [byteLength_cons, hfront]
        omega
  · rintro ⟨front, back, rfl, rfl⟩
    exact isBoundary_append front back

/-! ## Slices -/

/-- **The text between two byte offsets**, which have to be boundaries in this order. -/
def sliceText (t : Text) (start stop : Nat) : Sliced Text :=
  if start ≤ stop && isBoundary (bytes t) start && isBoundary (bytes t) stop then
    .ok (ofBytesLossy (slice (bytes t) start stop))
  else .error ⟨bytes t, start, stop⟩

/-- The text from a byte offset on. -/
def sliceFrom (t : Text) (start : Nat) : Sliced Text := sliceText t start (byteLength t)

/-- The text before and after a byte offset. -/
def splitText (t : Text) (middle : Nat) : Sliced (Text × Text) := do
  return (← sliceText t 0 middle, ← sliceFrom t middle)

/-- The bytes between two offsets. Any offsets will do that are not outside. -/
def sliceBytes (bs : List UInt8) (start stop : Nat) : Sliced (List UInt8) :=
  if start ≤ stop ∧ stop ≤ bs.length then .ok (slice bs start stop) else .error ⟨bs, start, stop⟩

/-- The byte at an offset. -/
def byteAt (bs : List UInt8) (n : Nat) : Sliced UInt8 :=
  match bs[n]? with
  | some b => .ok b
  | none => .error ⟨bs, n, n + 1⟩

theorem sliceText_append (lead core trail : Text) :
    sliceText (lead ++ core ++ trail) (byteLength lead) (byteLength lead + byteLength core) =
      pure core := by
  have hstart : isBoundary (bytes (lead ++ core ++ trail)) (byteLength lead) = true := by
    rw [List.append_assoc]
    exact isBoundary_append lead (core ++ trail)
  have hstop : isBoundary (bytes (lead ++ core ++ trail)) (byteLength lead + byteLength core) =
      true := by
    rw [← byteLength_append]
    exact isBoundary_append (lead ++ core) trail
  rw [sliceText, hstart, hstop, decide_eq_true (Nat.le_add_right _ _), slice_bytes,
    ofBytesLossy_bytes]
  rfl

theorem sliceFrom_append (front back : Text) :
    sliceFrom (front ++ back) (byteLength front) = pure back := by
  have hslice := sliceText_append front back []
  rwa [List.append_nil, ← byteLength_append] at hslice

theorem splitText_append (front back : Text) :
    splitText (front ++ back) (byteLength front) = pure (front, back) := by
  have hfront : sliceText (front ++ back) 0 (byteLength front) = pure front := by
    have hslice := sliceText_append [] front back
    rwa [List.nil_append, byteLength_nil, Nat.zero_add] at hslice
  rw [splitText, hfront, sliceFrom_append]
  rfl

/-- **A slice is taken exactly between boundaries.** -/
theorem sliceText_eq_ok_iff {t core : Text} {start stop : Nat} :
    sliceText t start stop = .ok core ↔ ∃ lead trail, t = lead ++ core ++ trail ∧
      byteLength lead = start ∧ byteLength lead + byteLength core = stop := by
  constructor
  · intro h
    have hgood : start ≤ stop ∧ isBoundary (bytes t) start = true ∧
        isBoundary (bytes t) stop = true := by
      rw [sliceText] at h
      split at h
      · next hgood => simpa [and_assoc] using hgood
      · cases h
    obtain ⟨hle, hstart, hstop⟩ := hgood
    obtain ⟨lead, rest, rfl, rfl⟩ := isBoundary_bytes_iff.1 hstart
    obtain ⟨front, trail, heq, rfl⟩ := isBoundary_bytes_iff.1 hstop
    -- the earlier of two boundaries ends a beginning of what the later one ends
    obtain ⟨core', rfl⟩ : lead <+: front := by
      rcases List.prefix_or_prefix_of_prefix (List.prefix_append lead rest)
        (heq ▸ List.prefix_append front trail) with hlead | ⟨more, rfl⟩
      · exact hlead
      · rw [byteLength_append] at hle
        have hnone : more = [] := by
          cases more with
          | nil => rfl
          | cons c more =>
            have hsize := c.utf8Size_pos
            rw [byteLength_cons] at hle
            omega
        exact ⟨[], by rw [hnone, List.append_nil, List.append_nil]⟩
    rw [heq, byteLength_append, sliceText_append] at h
    obtain rfl : core' = core := Except.ok.inj h
    exact ⟨lead, trail, heq, rfl, (byteLength_append _ _).symm⟩
  · rintro ⟨lead, trail, rfl, rfl, rfl⟩
    exact sliceText_append lead core trail

/-! ## Heads, by bytes -/

/-- Bytes that differ at most in the case of ASCII letters. -/
def sameLetterBytes (a b : List UInt8) : Bool := a.map lowerByte == b.map lowerByte

/-- `startsWith` on bytes, of which as many are compared as the head has. -/
def slicedStartsWith (t head : Text) : Sliced Bool :=
  if (bytes head).length ≤ (bytes t).length then do
    return sameLetterBytes (← sliceBytes (bytes t) 0 (bytes head).length) (bytes head)
  else return false

/-- `afterHead?` by the number of bytes of the head. -/
def slicedAfterHead? (t head : Text) : Sliced (Option Text) := do
  if ← slicedStartsWith t head then
    let rest ← sliceFrom t (byteLength head)
    return some (trim rest)
  else return none

@[simp] theorem slicedStartsWith_eq (t head : Text) :
    slicedStartsWith t head = pure (t.startsWith head) := by
  rw [slicedStartsWith]
  split
  · next hle =>
    rw [sliceBytes, if_pos ⟨Nat.zero_le _, hle⟩]
    have hsame : sameLetterBytes (slice (bytes t) 0 (bytes head).length) (bytes head) =
        t.startsWith head := by
      rw [Bool.eq_iff_iff, startsWith_iff_bytes, sameLetterBytes, beq_iff_eq, slice, List.drop_zero]
    rw [← hsame]
    rfl
  · next hlt =>
    have hnot : t.startsWith head = false := by
      rw [← Bool.not_eq_true, startsWith_iff_bytes]
      intro hsame
      have hlength := congrArg List.length hsame
      rw [List.length_map, List.length_map, List.length_take] at hlength
      omega
    rw [hnot]

/-- **A text that starts with a head begins with as many bytes as the head has.** -/
theorem exists_of_startsWith {t head : Text} (h : t.startsWith head = true) :
    t = t.take head.length ++ t.drop head.length ∧
      byteLength (t.take head.length) = byteLength head := by
  refine ⟨(List.take_append_drop _ t).symm, ?_⟩
  have hsame : fold (t.take head.length) = fold head := by
    rwa [startsWith, sameLetters, beq_iff_eq] at h
  rw [← byteLength_fold, hsame, byteLength_fold]

/-- **A head ends at a boundary**, although only bytes have been compared. -/
theorem isBoundary_of_startsWith {t head : Text} (h : t.startsWith head = true) :
    isBoundary (bytes t) (bytes head).length = true := by
  obtain ⟨hsplit, hlength⟩ := exists_of_startsWith h
  rw [length_bytes, isBoundary_bytes_iff]
  exact ⟨_, _, hsplit, hlength⟩

@[simp] theorem slicedAfterHead?_eq (t head : Text) :
    slicedAfterHead? t head = pure (t.afterHead? head) := by
  rw [slicedAfterHead?, slicedStartsWith_eq, pure_bind, afterHead?]
  split
  · next hstarts =>
    obtain ⟨hsplit, hlength⟩ := exists_of_startsWith hstarts
    have hslice : sliceFrom t (byteLength head) = pure (t.drop head.length) := by
      conv_lhs => rw [hsplit, ← hlength]
      exact sliceFrom_append _ _
    rw [hslice]
    rfl
  · rfl

end Text

end MonitorControl
