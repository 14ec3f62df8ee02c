/-
Form encoding: any text as letters, digits and a few marks.

ASCII letters, digits, `-`, `_` and `.` stand for themselves and a space is
written as a plus sign; every other character is written byte by byte in
hexadecimal. Reading is total: an escape that is not complete stands for itself,
and bytes that are no UTF-8 become replacement characters.
-/
import MonitorControl.Text.Hex
import MonitorControl.Text.Utf8

set_option autoImplicit false

namespace MonitorControl.Form

/-! ## Escapes -/

/-- The escape of a byte. -/
def escape (b : UInt8) : Text := ['%', Text.hexDigit (b.toNat / 16), Text.hexDigit (b.toNat % 16)]

/-! ## Writing -/

/-- A character that stands for itself. -/
def isPlain (c : Char) : Bool := c.isAlphanum || c == '-' || c == '_' || c == '.'

/-- The form of one character. -/
def encodeChar (c : Char) : Text :=
  if isPlain c then [c] else if c == ' ' then ['+'] else (Text.charBytes c).flatMap escape

/-- **The form of a text.** -/
def encode (t : Text) : Text := t.flatMap encodeChar

/-! ## Reading -/

/-- The byte of an escape with the given digits. -/
def escapedByte? (high low : Char) : Option UInt8 :=
  match Text.hexValue? high, Text.hexValue? low with
  | some h, some l => some (h * 16 + l).toUInt8
  | _, _ => none

/-- The bytes that a form stands for. -/
def decodeBytes : Text → List UInt8
  | [] => []
  | '+' :: rest => 0x20 :: decodeBytes rest
  | '%' :: high :: low :: rest =>
    match escapedByte? high low with
    | some b => b :: decodeBytes rest
    | none => 0x25 :: decodeBytes (high :: low :: rest)
  | c :: rest => Text.charBytes c ++ decodeBytes rest

/-- **The text that a form stands for.** -/
def decode (t : Text) : Text := Text.ofBytesLossy (decodeBytes t)

@[simp] theorem encode_append (a b : Text) : encode (a ++ b) = encode a ++ encode b := by
  simp [encode]

end MonitorControl.Form
