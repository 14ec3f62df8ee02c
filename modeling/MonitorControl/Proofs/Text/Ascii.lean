/-
Comparing texts up to the case of ASCII letters, on characters and on bytes.

Folding is stated on characters and can be carried out on bytes: a byte between
`A` and `Z` is always the whole of its character, so the folded bytes are the
bytes of the folded text (`map_lowerByte_bytes`). With that, a text begins with a
head up to case exactly when its bytes do (`startsWith_iff_bytes`), and there the
one direction that needs an argument is that bytes which begin with all bytes of a
text begin with that text: reading, which loses nothing, gives it.
-/
import MonitorControl.Proofs.Text.Utf8
import MonitorControl.Text.Ascii

set_option autoImplicit false

namespace MonitorControl.Text

/-! ## Folding -/

/-- The byte with the letters A to Z in lower case. -/
def lowerByte (b : UInt8) : UInt8 := if 0x41 ≤ b && b ≤ 0x5A then b + 0x20 else b

theorem lowerByte_of_not_ascii {b : UInt8} (h : 0x80 ≤ b.toNat) : lowerByte b = b := by
  have hnot : ¬ (0x41 ≤ b && b ≤ 0x5A) = true := by
    simp only [Bool.and_eq_true, decide_eq_true_eq, UInt8.le_iff_toNat_le, UInt8.reduceToNat]
    omega
  rw [lowerByte, if_neg hnot]

/-- Characters outside ASCII are not folded. -/
theorem toLower_of_not_ascii {c : Char} (h : 0x80 ≤ c.toNat) : c.toLower = c := by
  have hnot : ¬ (c.val ≥ 'A'.val ∧ c.val ≤ 'Z'.val) := by
    rintro ⟨-, hz⟩
    have hnat : c.toNat ≤ 'Z'.toNat := UInt32.le_iff_toNat_le.1 hz
    have hz' : 'Z'.toNat < 0x80 := by decide
    omega
  exact dif_neg hnot

theorem map_lowerByte_charBytes (c : Char) :
    (charBytes c).map lowerByte = charBytes c.toLower := by
  rcases Nat.lt_or_ge c.toNat 0x80 with hascii | habove
  · exact ascii_cases (P := fun c => (charBytes c).map lowerByte = charBytes c.toLower)
      (by decide) hascii
  · rw [toLower_of_not_ascii habove]
    have hkeep : (charBytes c).map lowerByte = (charBytes c).map id :=
      List.map_congr_left fun b hb => lowerByte_of_not_ascii (le_of_mem_charBytes habove hb)
    rw [hkeep, List.map_id]

/-- **Folding the bytes folds the text.** -/
theorem map_lowerByte_bytes (t : Text) : (bytes t).map lowerByte = bytes (fold t) := by
  induction t with
  | nil => rfl
  | cons c t ih =>
    rw [bytes_cons, List.map_append, map_lowerByte_charBytes, ih]
    rfl

/-! ## Heads -/

theorem startsWith_append (head rest : Text) : startsWith (head ++ rest) head = true := by
  rw [startsWith_iff, fold_append]
  exact List.prefix_append _ _

/-- What follows a head that is there is trimmed. -/
theorem afterHead?_append (head rest : Text) : afterHead? (head ++ rest) head = some rest.trim := by
  rw [afterHead?, if_pos (startsWith_append head rest), List.drop_left]

/-- **A text begins with a head up to case exactly when its bytes do.** -/
theorem startsWith_iff_bytes (t head : Text) :
    t.startsWith head = true ↔
      ((bytes t).take (bytes head).length).map lowerByte = (bytes head).map lowerByte := by
  rw [startsWith_iff, ← bytes_prefix_iff, List.prefix_iff_eq_take, List.map_take,
    map_lowerByte_bytes, map_lowerByte_bytes, eq_comm]
  have hlength : (bytes (fold head)).length = (bytes head).length := by
    rw [← map_lowerByte_bytes, List.length_map]
  rw [hlength]

end MonitorControl.Text
