/-
Form encoding is inverted exactly by decoding.

Decoding is total and forgiving, so it has many inputs that it reads as the same
text; what is written lies in the small part of them where nothing is forgiven.
The argument goes one character at a time with the rest of the form left open: a
character that stands for itself is neither a plus sign nor an escape, a plus sign
is the byte of a space, and an escape is the byte it was made from. What comes
out is the UTF-8 form of the text, and reading that form loses nothing.

The alphabet matters as much as the inverse: a form holds letters, digits and
five marks, so no operator and no conjunction of a URL can appear inside one.
-/
import MonitorControl.Proofs.Text.Utf8
import MonitorControl.Url.Form

set_option autoImplicit false

namespace MonitorControl.Form

open Text

/-! ## Escapes -/

theorem hexValue?_hexDigit : ∀ n < 16, hexValue? (hexDigit n) = some n := by decide

/-- The two digits of an escape give its byte back. -/
theorem escapedByte?_hexDigits (b : UInt8) :
    escapedByte? (hexDigit (b.toNat / 16)) (hexDigit (b.toNat % 16)) = some b := by
  have hb : b.toNat < 256 := b.toNat_lt
  unfold escapedByte?
  rw [hexValue?_hexDigit _ (by omega), hexValue?_hexDigit _ (by omega)]
  simp only
  rw [show b.toNat / 16 * 16 + b.toNat % 16 = b.toNat by omega]
  exact congrArg some UInt8.ofNat_toNat

theorem decodeBytes_escape (b : UInt8) (rest : Text) :
    decodeBytes (escape b ++ rest) = b :: decodeBytes rest := by
  show decodeBytes ('%' :: hexDigit (b.toNat / 16) :: hexDigit (b.toNat % 16) :: rest) = _
  rw [decodeBytes, escapedByte?_hexDigits]

theorem decodeBytes_escapes (bs : List UInt8) (rest : Text) :
    decodeBytes (bs.flatMap escape ++ rest) = bs ++ decodeBytes rest := by
  induction bs with
  | nil => rfl
  | cons b bs ih =>
    rw [List.flatMap_cons, List.append_assoc, decodeBytes_escape, ih, List.cons_append]

/-! ## One character -/

/-- A character that is neither mark of decoding gives its own bytes. -/
theorem decodeBytes_cons {c : Char} (hplus : c ≠ '+') (hpercent : c ≠ '%') (rest : Text) :
    decodeBytes (c :: rest) = charBytes c ++ decodeBytes rest := by
  rw [decodeBytes.eq_def]
  split
  · next h => exact absurd h (List.cons_ne_nil c rest)
  · next h => exact absurd (List.cons.inj h).1 hplus
  · next h => exact absurd (List.cons.inj h).1 hpercent
  · next h =>
    obtain ⟨rfl, rfl⟩ := List.cons.inj h
    rfl

theorem decodeBytes_encodeChar (c : Char) (rest : Text) :
    decodeBytes (encodeChar c ++ rest) = charBytes c ++ decodeBytes rest := by
  unfold encodeChar
  by_cases hplain : isPlain c = true
  · have hplus : c ≠ '+' := by
      rintro rfl
      exact absurd hplain (by decide)
    have hpercent : c ≠ '%' := by
      rintro rfl
      exact absurd hplain (by decide)
    rw [if_pos hplain, List.singleton_append, decodeBytes_cons hplus hpercent]
  · rw [if_neg hplain]
    by_cases hspace : (c == ' ') = true
    · rw [if_pos hspace, eq_of_beq hspace]
      rfl
    · rw [if_neg hspace, decodeBytes_escapes]

/-! ## A text -/

/-- The form of a text stands for the bytes of the text. -/
theorem decodeBytes_encode (t : Text) : decodeBytes (encode t) = bytes t := by
  induction t with
  | nil => rfl
  | cons c t ih =>
    show decodeBytes (encodeChar c ++ encode t) = _
    rw [decodeBytes_encodeChar, ih, bytes_cons]

/-- **Decoding inverts encoding**, for every text. -/
theorem decode_encode (t : Text) : decode (encode t) = t := by
  rw [decode, decodeBytes_encode, ofBytesLossy_bytes]

/-! ## The alphabet of a form -/

/-- A character that a form can hold. -/
def isFormChar (c : Char) : Bool := isPlain c || c == '+' || c == '%'

theorem isFormChar_hexDigit : ∀ n < 16, isFormChar (hexDigit n) = true := by decide

theorem isFormChar_of_mem_escape {c : Char} {b : UInt8} (h : c ∈ escape b) :
    isFormChar c = true := by
  have hb : b.toNat < 256 := b.toNat_lt
  rw [escape, List.mem_cons, List.mem_cons, List.mem_singleton] at h
  rcases h with rfl | rfl | rfl
  · decide
  · exact isFormChar_hexDigit _ (by omega)
  · exact isFormChar_hexDigit _ (by omega)

/-- **A form holds characters of its alphabet only.** -/
theorem isFormChar_of_mem_encode {c : Char} {t : Text} (h : c ∈ encode t) :
    isFormChar c = true := by
  obtain ⟨d, -, hc⟩ := List.mem_flatMap.1 h
  unfold encodeChar at hc
  by_cases hplain : isPlain d = true
  · rw [if_pos hplain, List.mem_singleton] at hc
    rw [hc, isFormChar, hplain, Bool.true_or, Bool.true_or]
  · rw [if_neg hplain] at hc
    by_cases hspace : (d == ' ') = true
    · rw [if_pos hspace, List.mem_singleton] at hc
      rw [hc]
      decide
    · rw [if_neg hspace] at hc
      obtain ⟨b, -, hb⟩ := List.mem_flatMap.1 hc
      exact isFormChar_of_mem_escape hb

end MonitorControl.Form
