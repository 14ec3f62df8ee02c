/-
The UTF-8 form read back, and what its bytes tell about its characters.

Three facts carry everything that is said about bytes elsewhere. A character of
ASCII is one byte, its own code; the bytes of every other character lie above
ASCII, each of them, so no byte of such a character can be taken for a quotation
mark, a letter of a keyword or an escape; and lossy reading, which is total,
loses nothing on bytes that come from a text.

The last one is exact rather than up to replacement, and the reason is the range
of code points: surrogates are no characters, and the second bytes that
`isSecondByte` rules out are the ones that only surrogates, overlong forms and
values above U+10FFFF would need.
-/
import MonitorControl.Text.Utf8
import Mathlib.Tactic.SplitIfs

set_option autoImplicit false

namespace MonitorControl.Text

/-! ## Numbers of bytes -/

/-- A number below 256 survives the passage through a byte. -/
theorem toNat_toUInt8 {n : Nat} (h : n < 0x100) : n.toUInt8.toNat = n :=
  UInt8.toNat_ofNat_of_lt h

/-- The size of a character, with the bounds that `charBytes` tests. -/
theorem utf8Size_eq (c : Char) :
    c.utf8Size = if c.toNat < 0x80 then 1 else if c.toNat < 0x800 then 2
      else if c.toNat < 0x10000 then 3 else 4 := by
  have hbound : ∀ n : Nat, n < 2 ^ 32 → (c.val ≤ UInt32.ofNat n ↔ c.toNat < n + 1) := by
    intro n hn
    rw [UInt32.le_iff_toNat_le, UInt32.toNat_ofNat', Nat.mod_eq_of_lt hn, Nat.lt_succ_iff]
    rfl
  have h1 := hbound 0x7F (by decide)
  have h2 := hbound 0x7FF (by decide)
  have h3 := hbound 0xFFFF (by decide)
  show (if c.val ≤ UInt32.ofNat 0x7F then 1 else if c.val ≤ UInt32.ofNat 0x7FF then 2
    else if c.val ≤ UInt32.ofNat 0xFFFF then 3 else 4) = _
  simp only [h1, h2, h3]

/-- A character has as many bytes as its size says. -/
theorem length_charBytes (c : Char) : (charBytes c).length = c.utf8Size := by
  rw [utf8Size_eq]
  unfold charBytes
  simp only
  split_ifs <;> rfl

@[simp] theorem length_bytes (t : Text) : (bytes t).length = byteLength t := by
  induction t with
  | nil => rfl
  | cons c t ih => rw [bytes_cons, List.length_append, length_charBytes, ih, byteLength_cons]

theorem charBytes_ne_nil (c : Char) : charBytes c ≠ [] := by
  rw [← List.length_pos_iff, length_charBytes]
  exact c.utf8Size_pos

/-! ## ASCII and what lies above it -/

/-- A character of ASCII is one byte, its code. -/
theorem charBytes_of_ascii {c : Char} (h : c.toNat < 0x80) : charBytes c = [c.toNat.toUInt8] := by
  unfold charBytes
  simp only
  rw [if_pos h]

theorem utf8Size_of_ascii {c : Char} (h : c.toNat < 0x80) : c.utf8Size = 1 := by
  rw [utf8Size_eq, if_pos h]

theorem byteLength_of_ascii {t : Text} (h : ∀ c ∈ t, c.toNat < 0x80) : byteLength t = t.length := by
  induction t with
  | nil => rfl
  | cons c t ih =>
    rw [byteLength_cons, utf8Size_of_ascii (h c List.mem_cons_self),
      ih fun d hd => h d (List.mem_cons_of_mem c hd), List.length_cons, Nat.add_comm]

/-- **Every byte of a character outside ASCII lies outside ASCII.** -/
theorem le_of_mem_charBytes {c : Char} (h : 0x80 ≤ c.toNat) {b : UInt8} (hb : b ∈ charBytes c) :
    0x80 ≤ b.toNat := by
  have hvalid : c.toNat < 0xD800 ∨ 0xDFFF < c.toNat ∧ c.toNat < 0x110000 := c.valid
  unfold charBytes at hb
  simp only at hb
  -- two, three or four bytes, every one of which is a small number added to 0x80 or more
  rw [if_neg (by omega)] at hb
  split_ifs at hb <;> simp only [List.mem_cons, List.not_mem_nil, or_false] at hb
  · rcases hb with rfl | rfl <;> rw [toNat_toUInt8 (by omega)] <;> omega
  · rcases hb with rfl | rfl | rfl <;> rw [toNat_toUInt8 (by omega)] <;> omega
  · rcases hb with rfl | rfl | rfl | rfl <;> rw [toNat_toUInt8 (by omega)] <;> omega

/-- What is checked for the 128 codes of ASCII holds of every character of ASCII. -/
theorem ascii_cases {P : Char → Prop} (hcodes : ∀ n < 0x80, P (Char.ofNat n)) {c : Char}
    (h : c.toNat < 0x80) : P c := by
  have hc := hcodes c.toNat h
  rwa [Char.ofNat_toNat] at hc

/-! ## Reading what was written

One lemma for each length of a sequence, with the conditions on its bytes as
conditions on numbers; the character they give is the value of their low bits. -/

theorem isTailByte_iff (b : UInt8) : isTailByte b = true ↔ 0x80 ≤ b.toNat ∧ b.toNat ≤ 0xBF := by
  simp [isTailByte, UInt8.le_iff_toNat_le]

theorem isSecondByte_iff (a b : UInt8) :
    isSecondByte a b = true ↔
      0x80 ≤ b.toNat ∧ b.toNat ≤ 0xBF ∧ (a.toNat = 0xE0 → 0xA0 ≤ b.toNat) ∧
        (a.toNat = 0xED → b.toNat ≤ 0x9F) ∧ (a.toNat = 0xF0 → 0x90 ≤ b.toNat) ∧
        (a.toNat = 0xF4 → b.toNat ≤ 0x8F) := by
  unfold isSecondByte
  simp only [beq_iff_eq, ← UInt8.toNat_inj, UInt8.reduceToNat]
  split_ifs <;> simp [isTailByte_iff, UInt8.le_iff_toNat_le] <;> omega

/-- The low six bits of a number, as a tail byte. -/
theorem isTailByte_low (n : Nat) : isTailByte (0x80 + n % 0x40).toUInt8 = true := by
  rw [isTailByte_iff, toNat_toUInt8 (by omega)]
  omega

theorem tailValue_low (high n : Nat) :
    tailValue high (0x80 + n % 0x40).toUInt8 = high * 0x40 + n % 0x40 := by
  rw [tailValue, toNat_toUInt8 (by omega)]
  omega

theorem ofBytesLossy_one {a : UInt8} (ha : a.toNat < 0x80) (rest : List UInt8) :
    ofBytesLossy (a :: rest) = Char.ofNat a.toNat :: ofBytesLossy rest := by
  have h : a < 0x80 := UInt8.lt_iff_toNat_lt.2 ha
  rw [ofBytesLossy.eq_def]
  simp only [h, if_true]

theorem ofBytesLossy_two {a b : UInt8} (ha : 0xC2 ≤ a.toNat ∧ a.toNat ≤ 0xDF)
    (hb : isTailByte b = true) (rest : List UInt8) :
    ofBytesLossy (a :: b :: rest) =
      Char.ofNat (tailValue (a.toNat % 0x20) b) :: ofBytesLossy rest := by
  have h1 : ¬ a < 0x80 := by simp [UInt8.lt_iff_toNat_lt]; omega
  have h2 : (0xC2 ≤ a && a ≤ 0xDF) = true := by simp [UInt8.le_iff_toNat_le, ha]
  rw [ofBytesLossy.eq_def]
  simp only [h1, h2, hb, if_true, if_false]

theorem ofBytesLossy_three {a b c : UInt8} (ha : 0xE0 ≤ a.toNat ∧ a.toNat ≤ 0xEF)
    (hb : isSecondByte a b = true) (hc : isTailByte c = true) (rest : List UInt8) :
    ofBytesLossy (a :: b :: c :: rest) =
      Char.ofNat (tailValue (tailValue (a.toNat % 0x10) b) c) :: ofBytesLossy rest := by
  have h1 : ¬ a < 0x80 := by simp [UInt8.lt_iff_toNat_lt]; omega
  have h2 : (0xC2 ≤ a && a ≤ 0xDF) = false := by simp [UInt8.le_iff_toNat_le]; omega
  have h3 : (0xE0 ≤ a && a ≤ 0xEF) = true := by simp [UInt8.le_iff_toNat_le, ha]
  rw [ofBytesLossy.eq_def]
  simp only [h1, h2, h3, hb, hc, if_true, if_false, Bool.false_eq_true]

theorem ofBytesLossy_four {a b c d : UInt8} (ha : 0xF0 ≤ a.toNat ∧ a.toNat ≤ 0xF4)
    (hb : isSecondByte a b = true) (hc : isTailByte c = true) (hd : isTailByte d = true)
    (rest : List UInt8) :
    ofBytesLossy (a :: b :: c :: d :: rest) =
      Char.ofNat (tailValue (tailValue (tailValue (a.toNat % 8) b) c) d) ::
        ofBytesLossy rest := by
  have h1 : ¬ a < 0x80 := by simp [UInt8.lt_iff_toNat_lt]; omega
  have h2 : (0xC2 ≤ a && a ≤ 0xDF) = false := by simp [UInt8.le_iff_toNat_le]; omega
  have h3 : (0xE0 ≤ a && a ≤ 0xEF) = false := by simp [UInt8.le_iff_toNat_le]; omega
  have h4 : (0xF0 ≤ a && a ≤ 0xF4) = true := by simp [UInt8.le_iff_toNat_le, ha]
  rw [ofBytesLossy.eq_def]
  simp only [h1, h2, h3, h4, hb, hc, hd, if_true, if_false, Bool.false_eq_true]

/-- The bytes of one character are read back as that character, whatever follows them. -/
theorem ofBytesLossy_charBytes (c : Char) (rest : List UInt8) :
    ofBytesLossy (charBytes c ++ rest) = c :: ofBytesLossy rest := by
  have hvalid : c.toNat < 0xD800 ∨ 0xDFFF < c.toNat ∧ c.toNat < 0x110000 := c.valid
  unfold charBytes
  simp only
  split_ifs with h1 h2 h3
  · rw [List.singleton_append, ofBytesLossy_one (by rw [toNat_toUInt8] <;> omega),
      toNat_toUInt8 (by omega), Char.ofNat_toNat]
  · have ha : (0xC0 + c.toNat / 0x40).toUInt8.toNat = 0xC0 + c.toNat / 0x40 :=
      toNat_toUInt8 (by omega)
    rw [List.cons_append, List.singleton_append,
      ofBytesLossy_two (by omega) (isTailByte_low _), tailValue_low, ha]
    rw [show (0xC0 + c.toNat / 0x40) % 0x20 * 0x40 + c.toNat % 0x40 = c.toNat by omega,
      Char.ofNat_toNat]
  · have ha : (0xE0 + c.toNat / 0x1000).toUInt8.toNat = 0xE0 + c.toNat / 0x1000 :=
      toNat_toUInt8 (by omega)
    have hb : (0x80 + c.toNat / 0x40 % 0x40).toUInt8.toNat = 0x80 + c.toNat / 0x40 % 0x40 :=
      toNat_toUInt8 (by omega)
    -- the second byte after 0xED is where the surrogates would be
    have hsecond : isSecondByte (0xE0 + c.toNat / 0x1000).toUInt8
        (0x80 + c.toNat / 0x40 % 0x40).toUInt8 = true := by
      rw [isSecondByte_iff, ha, hb]
      omega
    simp only [List.cons_append, List.nil_append]
    rw [ofBytesLossy_three (by omega) hsecond (isTailByte_low _), tailValue_low, tailValue_low, ha]
    rw [show ((0xE0 + c.toNat / 0x1000) % 0x10 * 0x40 + c.toNat / 0x40 % 0x40) * 0x40 +
      c.toNat % 0x40 = c.toNat by omega, Char.ofNat_toNat]
  · have ha : (0xF0 + c.toNat / 0x40000).toUInt8.toNat = 0xF0 + c.toNat / 0x40000 :=
      toNat_toUInt8 (by omega)
    have hb : (0x80 + c.toNat / 0x1000 % 0x40).toUInt8.toNat = 0x80 + c.toNat / 0x1000 % 0x40 :=
      toNat_toUInt8 (by omega)
    -- the second byte after 0xF4 stays low, since no character is above 0x10FFFF
    have hsecond : isSecondByte (0xF0 + c.toNat / 0x40000).toUInt8
        (0x80 + c.toNat / 0x1000 % 0x40).toUInt8 = true := by
      rw [isSecondByte_iff, ha, hb]
      omega
    simp only [List.cons_append, List.nil_append]
    rw [ofBytesLossy_four (by omega) hsecond (isTailByte_low _) (isTailByte_low _),
      tailValue_low, tailValue_low, tailValue_low, ha]
    rw [show (((0xF0 + c.toNat / 0x40000) % 8 * 0x40 + c.toNat / 0x1000 % 0x40) * 0x40 +
      c.toNat / 0x40 % 0x40) * 0x40 + c.toNat % 0x40 = c.toNat by omega, Char.ofNat_toNat]

theorem ofBytesLossy_bytes_append (t : Text) (rest : List UInt8) :
    ofBytesLossy (bytes t ++ rest) = t ++ ofBytesLossy rest := by
  induction t with
  | nil => rfl
  | cons c t ih =>
    rw [bytes_cons, List.append_assoc, ofBytesLossy_charBytes, ih, List.cons_append]

/-- **Reading is the inverse of writing**: the bytes of a text read back as that text. -/
theorem ofBytesLossy_bytes (t : Text) : ofBytesLossy (bytes t) = t := by
  have h := ofBytesLossy_bytes_append t []
  rwa [List.append_nil, ofBytesLossy.eq_def [], List.append_nil] at h

/-- No text is cut in the middle of a character by the bytes of another. -/
theorem bytes_prefix_iff (a b : Text) : bytes a <+: bytes b ↔ a <+: b := by
  constructor
  · rintro ⟨rest, hrest⟩
    refine ⟨ofBytesLossy rest, ?_⟩
    rw [← ofBytesLossy_bytes_append, hrest, ofBytesLossy_bytes]
  · rintro ⟨rest, rfl⟩
    exact ⟨bytes rest, (bytes_append a rest).symm⟩

/-! ## Slices -/

/-- The bytes from `start` up to `stop`. -/
def slice (bs : List UInt8) (start stop : Nat) : List UInt8 := (bs.take stop).drop start

/-- A text is the slice of the whole at the place where it stands. -/
theorem slice_bytes (lead core trail : Text) :
    slice (bytes (lead ++ core ++ trail)) (byteLength lead) (byteLength lead + byteLength core) =
      bytes core := by
  have hstop : byteLength lead + byteLength core = (bytes lead ++ bytes core).length := by
    rw [List.length_append, length_bytes, length_bytes]
  rw [slice, bytes_append, bytes_append, hstop, List.take_left, ← length_bytes lead,
    List.drop_left]

end MonitorControl.Text
