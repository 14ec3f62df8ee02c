/-
Reading a decimal number as a 64-bit float.

The literal is split into its digits and a power of ten, and the float nearest to
that exact value is taken. Numbers far outside the range are settled by their
size alone, so an exponent of any length costs nothing.
-/
import MonitorControl.Number.Shortest

set_option autoImplicit false

namespace MonitorControl

/-- The float nearest to a decimal number; infinite if it is too large. -/
def Decimal.toFloat (d : Decimal) : Float :=
  let size := Int.ofNat (Text.ofNat d.coefficient).length + d.exponent
  if d.coefficient == 0 then 0.0
  else if size > 400 then Float.ofScientific 1 false 400
  else if size < -400 then 0.0
  else Float.ofScientific d.coefficient (d.exponent < 0) d.exponent.natAbs

namespace Text

/-- An exponent: one optional sign and digits. -/
def readExponent? (t : Text) : Option Int :=
  match t with
  | '+' :: digits => (readNat? digits).map Int.ofNat
  | '-' :: digits => (readNat? digits).map fun n => -Int.ofNat n
  | digits => (readNat? digits).map Int.ofNat

/-- An unsigned decimal literal: digits with at most one point and at least one digit, then
optionally `e` or `E` and an exponent. -/
def readDecimal? (t : Text) : Option Decimal :=
  let isExponentMark := fun c => c == 'e' || c == 'E'
  let significand := t.takeWhile fun c => !isExponentMark c
  let exponent? :=
    match t.dropWhile fun c => !isExponentMark c with
    | [] => some 0
    | _ :: exponent => readExponent? exponent
  let whole := significand.takeWhile (· != '.')
  let fraction := (significand.dropWhile (· != '.')).drop 1
  let digits := whole ++ fraction
  match exponent?, readNat? digits with
  | some e, some n => some ⟨n, e - Int.ofNat fraction.length⟩
  | _, _ => none

/-- **A finite float**: one optional sign and a decimal literal whose nearest float is finite. -/
def readFinite? (t : Text) : Option Float :=
  let magnitude? := fun digits => (readDecimal? digits).map Decimal.toFloat
  let number :=
    match t with
    | '+' :: digits => magnitude? digits
    | '-' :: digits => (magnitude? digits).map fun x => -x
    | digits => magnitude? digits
  number.filter Float.isFinite

end Text

end MonitorControl
