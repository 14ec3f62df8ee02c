/-
The fewest decimal digits that read back as the same 64-bit float.

A finite float is `m * 2^q` with natural `m`, and the reals that round to it form
an interval around it whose ends count exactly when `m` is even. Going from
coarse powers of ten to fine ones, the two multiples next to the float are tried;
the first power with a multiple in the interval wins, of two such multiples the
nearer, and of two equally near the larger. All arithmetic is on natural numbers,
so nothing is rounded on the way.
-/
import MonitorControl.Text.Integer

set_option autoImplicit false

namespace MonitorControl

/-! ## The parts of a float -/

/-- **The parts of a finite float**: `mantissa * 2^exponent`, with the sign apart. -/
structure Binary64 where
  negative : Bool
  mantissa : Nat
  exponent : Int
  /-- The gap to the next smaller float is half of the gap to the next larger one. -/
  atPowerOfTwo : Bool
  deriving DecidableEq, Repr

/-- The parts of a finite float, read off its bits. -/
def Binary64.ofFloat (x : Float) : Binary64 :=
  let bits := x.toBits.toNat
  let fraction := bits % Nat.pow 2 52
  let biased := bits / Nat.pow 2 52 % Nat.pow 2 11
  { negative := bits / Nat.pow 2 63 == 1
    mantissa := if biased == 0 then fraction else Nat.pow 2 52 + fraction
    exponent := (max biased 1 : Nat) - 1075
    atPowerOfTwo := fraction == 0 && biased > 1 }

/-! ## Decimal grids -/

/-- **A decimal number** `coefficient * 10^exponent`. -/
structure Decimal where
  coefficient : Nat
  exponent : Int
  deriving DecidableEq, Repr

/-- The reals from `low / den` to `high / den`, with the value `mid / den` among them. `closed` tells
whether the ends belong to the interval. -/
structure RoundingInterval where
  low : Nat
  mid : Nat
  high : Nat
  den : Nat
  closed : Bool
  deriving DecidableEq, Repr

/-- The reals that round to a float. Its ends lie half a gap away, so quarters of the last place
make all of them whole. -/
def Binary64.interval (b : Binary64) : RoundingInterval :=
  let scale := Nat.pow 2 (b.exponent - 2).toNat
  let den := Nat.pow 2 (2 - b.exponent).toNat
  { low := (4 * b.mantissa - (if b.atPowerOfTwo then 1 else 2)) * scale
    mid := 4 * b.mantissa * scale
    high := (4 * b.mantissa + 2) * scale
    den
    closed := b.mantissa % 2 == 0 }

namespace RoundingInterval

/-- The multiple `c * 10^k` lies in the interval. -/
def contains (i : RoundingInterval) (k : Int) (c : Nat) : Bool :=
  let point := c * i.den * Nat.pow 10 k.toNat
  let shrink := Nat.pow 10 (-k).toNat
  if i.closed then i.low * shrink ≤ point && point ≤ i.high * shrink
  else i.low * shrink < point && point < i.high * shrink

/-- The multiple of `10^k` in the interval that is nearest to its value, if there is one. -/
def nearestMultiple? (i : RoundingInterval) (k : Int) : Option Nat :=
  let unit := i.den * Nat.pow 10 k.toNat
  let value := i.mid * Nat.pow 10 (-k).toNat
  let below := value / unit
  let belowFits := below != 0 && i.contains k below
  let aboveFits := i.contains k (below + 1)
  match belowFits, aboveFits with
  | true, true => some (if value - below * unit < (below + 1) * unit - value then below else below + 1)
  | true, false => some below
  | false, true => some (below + 1)
  | false, false => none

/-- The coarsest power of ten worth trying: one above the value. -/
def coarsest (i : RoundingInterval) : Int := (Text.ofNat (i.mid / i.den)).length

end RoundingInterval

/-- **The shortest decimal** of a finite float other than zero, without its sign. A multiple of
`10^(-345)` lies in every interval, so the search always succeeds. -/
def Binary64.shortest (b : Binary64) : Decimal :=
  let i := b.interval
  let powers := (List.range (i.coarsest.toNat + 346)).map fun step => i.coarsest - Int.ofNat step
  (powers.findSome? fun k => (i.nearestMultiple? k).map fun c => ⟨c, k⟩).getD ⟨0, 0⟩

/-! ## Positional text -/

/-- The digits of a decimal number with a point where one is needed, and no exponent. -/
def Decimal.positional (d : Decimal) : Text :=
  let digits := Text.ofNat d.coefficient
  if 0 ≤ d.exponent then digits ++ List.replicate d.exponent.toNat '0'
  else
    let places := (-d.exponent).toNat
    let padded := List.replicate (places + 1 - digits.length) '0' ++ digits
    let whole := padded.take (padded.length - places)
    let fraction := padded.drop (padded.length - places)
    whole ++ '.' :: fraction

/-- The name of a float that is infinite or no number. Its exponent bits are all ones; a NaN shows no
sign. -/
def Text.ofSpecialFloat? (x : Float) : Option Text :=
  let bits := x.toBits.toNat
  if bits / Nat.pow 2 52 % Nat.pow 2 11 != 0x7FF then none
  else if bits % Nat.pow 2 52 != 0 then some "NaN"
  else if bits / Nat.pow 2 63 == 1 then some "-inf"
  else some "inf"

/-- **The text of a float**: the shortest decimal, positional; a whole number has no point, and zero
keeps its sign. A float that is not finite is written by its name. -/
def Text.ofFloat (x : Float) : Text :=
  match ofSpecialFloat? x with
  | some name => name
  | none =>
    let b := Binary64.ofFloat x
    let magnitude : Text := if b.mantissa == 0 then "0" else b.shortest.positional
    if b.negative then '-' :: magnitude else magnitude

end MonitorControl
