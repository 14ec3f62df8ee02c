/-
Base64: bytes as letters, digits, plus signs and slashes.

Three bytes are four digits of six bits each. One or two bytes at the end are two
or three digits, with equals signs up to four.
-/
import MonitorControl.Text.Utf8

set_option autoImplicit false

namespace MonitorControl.Base64

/-- The digits, in the order of their values. -/
def alphabet : Text := "ABCDEFGHIJKLMNOPQRSTUVWXYZabcdefghijklmnopqrstuvwxyz0123456789+/"

/-- The digit for the lowest six bits of a number. -/
def digit (n : Nat) : Char := alphabet.getD (n % 64) '='

/-- **The digits of some bytes.** -/
def encode : List UInt8 → Text
  | [] => []
  | [a] =>
    let n := a.toNat * 0x10
    [digit (n / 0x40), digit n, '=', '=']
  | [a, b] =>
    let n := (a.toNat * 0x100 + b.toNat) * 4
    [digit (n / 0x1000), digit (n / 0x40), digit n, '=']
  | a :: b :: c :: rest =>
    let n := (a.toNat * 0x100 + b.toNat) * 0x100 + c.toNat
    digit (n / 0x40000) :: digit (n / 0x1000) :: digit (n / 0x40) :: digit n :: encode rest

end MonitorControl.Base64
