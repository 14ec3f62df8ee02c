/-
Integers as decimal text.

Numbers in queries, times and commands are 64-bit. Reading takes one optional
sign and then digits only, and refuses what does not fit; writing has no sign but
a minus and no leading zeros.
-/
import MonitorControl.Text.Basic

set_option autoImplicit false

namespace MonitorControl

/-! ## Bounds -/

/-- The largest signed 64-bit integer. -/
def maxSigned64 : Int := 9223372036854775807

/-- **Signed 64-bit range.** -/
def fitsSigned64 (n : Int) : Bool := -maxSigned64 - 1 ≤ n && n ≤ maxSigned64

/-- The largest unsigned 64-bit integer. -/
def maxUnsigned64 : Nat := 18446744073709551615

namespace Text

/-! ## Writing -/

/-- The decimal digits of a natural number. -/
def ofNat (n : Nat) : Text := Nat.toDigits 10 n

/-- The decimal form of an integer. -/
def ofInt (n : Int) : Text :=
  if n < 0 then '-' :: ofNat n.natAbs else ofNat n.natAbs

/-- The decimal form with zeros in front up to `width` digits. -/
def ofNatPadded (width n : Nat) : Text :=
  List.replicate (width - (ofNat n).length) '0' ++ ofNat n

/-! ## Reading -/

/-- The value of a decimal digit. -/
def digitValue (c : Char) : Nat := c.toNat - '0'.toNat

/-- The number that a run of digits stands for. -/
def valueOfDigits (digits : Text) : Nat :=
  digits.foldl (fun n c => n * 10 + digitValue c) 0

/-- A natural number: one or more digits and nothing else. -/
def readNat? (t : Text) : Option Nat :=
  if t.isEmpty || !t.all Char.isDigit then none else some (valueOfDigits t)

/-- **A signed 64-bit integer**: one optional sign, then digits, within the range. -/
def readSigned64? (t : Text) : Option Int :=
  let number :=
    match t with
    | '+' :: digits => (readNat? digits).map Int.ofNat
    | '-' :: digits => (readNat? digits).map fun n => -Int.ofNat n
    | digits => (readNat? digits).map Int.ofNat
  number.filter fitsSigned64

end Text

end MonitorControl
