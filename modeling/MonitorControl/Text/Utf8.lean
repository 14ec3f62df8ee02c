/-
The UTF-8 form of a text.

Byte lengths give the offsets that answers show and decide which of two operator
tokens is longer. Writing goes through the bytes of each character; reading is
total, and each longest piece that no well-formed sequence starts with becomes
one replacement character U+FFFD.
-/
import MonitorControl.Text.Basic

set_option autoImplicit false

namespace MonitorControl.Text

/-! ## Length and bytes -/

/-- The number of bytes of the UTF-8 form. -/
def byteLength : Text → Nat
  | [] => 0
  | c :: rest => c.utf8Size + byteLength rest

@[simp] theorem byteLength_nil : byteLength [] = 0 := rfl

@[simp] theorem byteLength_cons (c : Char) (t : Text) :
    byteLength (c :: t) = c.utf8Size + byteLength t := rfl

@[simp] theorem byteLength_append (a b : Text) :
    byteLength (a ++ b) = byteLength a + byteLength b := by
  induction a with
  | nil => simp
  | cons c a ih => simp [ih, Nat.add_assoc]

/-- The bytes of one character. -/
def charBytes (c : Char) : List UInt8 :=
  let n := c.toNat
  if n < 0x80 then [n.toUInt8]
  else if n < 0x800 then [(0xC0 + n / 0x40).toUInt8, (0x80 + n % 0x40).toUInt8]
  else if n < 0x10000 then
    [(0xE0 + n / 0x1000).toUInt8, (0x80 + n / 0x40 % 0x40).toUInt8, (0x80 + n % 0x40).toUInt8]
  else
    [(0xF0 + n / 0x40000).toUInt8, (0x80 + n / 0x1000 % 0x40).toUInt8,
      (0x80 + n / 0x40 % 0x40).toUInt8, (0x80 + n % 0x40).toUInt8]

/-- **The UTF-8 form.** The bytes of the characters, in order. -/
def bytes (t : Text) : List UInt8 := t.flatMap charBytes

@[simp] theorem bytes_nil : bytes [] = [] := rfl

@[simp] theorem bytes_cons (c : Char) (t : Text) : bytes (c :: t) = charBytes c ++ bytes t := rfl

@[simp] theorem bytes_append (a b : Text) : bytes (a ++ b) = bytes a ++ bytes b := by
  simp [bytes]

/-! ## Reading -/

/-- A byte inside a sequence, after its first. -/
def isTailByte (b : UInt8) : Bool := 0x80 ≤ b && b ≤ 0xBF

/-- The second bytes that may follow the first byte of a sequence of three or four. Overlong
forms, surrogates and values above U+10FFFF are ruled out here. -/
def isSecondByte (first b : UInt8) : Bool :=
  if first == 0xE0 then 0xA0 ≤ b && b ≤ 0xBF
  else if first == 0xED then 0x80 ≤ b && b ≤ 0x9F
  else if first == 0xF0 then 0x90 ≤ b && b ≤ 0xBF
  else if first == 0xF4 then 0x80 ≤ b && b ≤ 0x8F
  else isTailByte b

/-- The value that the low six bits of tail bytes add to `high`. -/
def tailValue (high : Nat) (b : UInt8) : Nat := high * 0x40 + b.toNat % 0x40

/-- The replacement character. -/
def replacement : Char := '\ufffd'

/-- **Lossy reading.** Well-formed sequences become their characters; every longest piece that is
the start of a sequence but not all of it, and every byte that starts none, becomes one U+FFFD. -/
def ofBytesLossy : List UInt8 → Text
  | [] => []
  | a :: rest =>
    if a < 0x80 then Char.ofNat a.toNat :: ofBytesLossy rest
    else if 0xC2 ≤ a && a ≤ 0xDF then
      match rest with
      | b :: rest' =>
        if isTailByte b then Char.ofNat (tailValue (a.toNat % 0x20) b) :: ofBytesLossy rest'
        else replacement :: ofBytesLossy (b :: rest')
      | [] => [replacement]
    else if 0xE0 ≤ a && a ≤ 0xEF then
      match rest with
      | b :: rest' =>
        if isSecondByte a b then
          match rest' with
          | c :: rest'' =>
            if isTailByte c then
              Char.ofNat (tailValue (tailValue (a.toNat % 0x10) b) c) :: ofBytesLossy rest''
            else replacement :: ofBytesLossy (c :: rest'')
          | [] => [replacement]
        else replacement :: ofBytesLossy (b :: rest')
      | [] => [replacement]
    else if 0xF0 ≤ a && a ≤ 0xF4 then
      match rest with
      | b :: rest' =>
        if isSecondByte a b then
          match rest' with
          | c :: rest'' =>
            if isTailByte c then
              match rest'' with
              | d :: rest''' =>
                if isTailByte d then
                  Char.ofNat (tailValue (tailValue (tailValue (a.toNat % 8) b) c) d) ::
                    ofBytesLossy rest'''
                else replacement :: ofBytesLossy (d :: rest''')
              | [] => [replacement]
            else replacement :: ofBytesLossy (c :: rest'')
          | [] => [replacement]
        else replacement :: ofBytesLossy (b :: rest')
      | [] => [replacement]
    else replacement :: ofBytesLossy rest

end MonitorControl.Text
