/-
JSON as it is written: the shape of a document before its numbers and strings are
given a meaning.

The two are apart because what a reader skips must only be well-formed. A number
too large for a float, half of a surrogate pair and nesting of any depth are
errors in what is used, and pass in what is not.
-/
import MonitorControl.Json.Value

set_option autoImplicit false

namespace MonitorControl

/-! ## Strings -/

/-- **A part of a string**: a character, or a 16-bit code unit from a `\u` escape. -/
inductive StringPart where
  | character (c : Char)
  | codeUnit (n : Nat)
  deriving DecidableEq, Repr

/-- The first halves of surrogate pairs. -/
def isHighSurrogate (n : Nat) : Bool := 0xD800 ≤ n && n < 0xDC00

/-- The second halves of surrogate pairs. -/
def isLowSurrogate (n : Nat) : Bool := 0xDC00 ≤ n && n < 0xE000

/-- The character of a surrogate pair. -/
def surrogatePair (high low : Nat) : Char :=
  Char.ofNat (0x10000 + (high - 0xD800) * 0x400 + (low - 0xDC00))

/-- **The text of a string**, unless one half of a surrogate pair stands alone. -/
def stringText? : List StringPart → Option Text
  | [] => some []
  | .character c :: rest => (stringText? rest).map (c :: ·)
  | .codeUnit high :: .codeUnit low :: rest =>
    if isHighSurrogate high then
      if isLowSurrogate low then (stringText? rest).map (surrogatePair high low :: ·) else none
    else if isLowSurrogate high then none
    else (stringText? (.codeUnit low :: rest)).map (Char.ofNat high :: ·)
  | .codeUnit n :: rest =>
    if isHighSurrogate n || isLowSurrogate n then none
    else (stringText? rest).map (Char.ofNat n :: ·)

/-! ## Numbers -/

/-- **A number as it is written.** -/
structure NumberLiteral where
  negative : Bool
  whole : Text
  /-- The digits after the point; none without a point. -/
  fraction : Text
  /-- The exponent's sign and digits. -/
  exponent : Option (Bool × Text)
  deriving DecidableEq, Repr

/-- The number that `n` becomes with as many of the digits as keep it within 64 bits, and the digits
left over. -/
def appendDigits (n : Nat) : Text → Nat × Text
  | [] => (n, [])
  | c :: rest =>
    let next := n * 10 + Text.digitValue c
    if next ≤ maxUnsigned64 then appendDigits next rest else (n, c :: rest)

/-- A power of ten. -/
def floatPowerOfTen (k : Nat) : Float := Float.ofScientific 1 false k

/-- The largest power of ten that is a float. -/
def largestPowerOfTen : Nat := 308

/-- `x / 10^k`, in steps that floats can hold. -/
def divideByPowerOfTen (x : Float) (k : Nat) : Float :=
  if k ≤ largestPowerOfTen then x / floatPowerOfTen k
  else if x == 0.0 then x
  else divideByPowerOfTen (x / floatPowerOfTen largestPowerOfTen) (k - largestPowerOfTen)
termination_by k
decreasing_by simp_all [largestPowerOfTen]; omega

/-- `n * 10^exponent`, unless it is too large for a float. -/
def scaledFloat? (n : Nat) : Int → Option Float
  | .ofNat k =>
    if n == 0 then some 0.0
    else if k ≤ largestPowerOfTen then some (n.toFloat * floatPowerOfTen k) |>.filter Float.isFinite
    else none
  | .negSucc k => some (divideByPowerOfTen n.toFloat (k + 1))

namespace NumberLiteral

/-- **The float of a number**: the leading digits that fit 64 bits, scaled by a power of ten. Digits
after those count only for the size. -/
def float? (l : NumberLiteral) : Option Float :=
  let (head, dropped) := appendDigits 0 l.whole
  let (significand, unused) := appendDigits head l.fraction
  let places := Int.ofNat dropped.length - Int.ofNat (l.fraction.length - unused.length)
  let exponent :=
    match l.exponent with
    | none => places
    | some (true, digits) => places - Int.ofNat (Text.valueOfDigits digits)
    | some (false, digits) => places + Int.ofNat (Text.valueOfDigits digits)
  (scaledFloat? significand exponent).map fun x => if l.negative then -x else x

/-- A whole number that fits 64 bits; zero with a minus is none. -/
def integer? (l : NumberLiteral) : Option Int :=
  let n := Text.valueOfDigits l.whole
  if !l.fraction.isEmpty || l.exponent.isSome then none
  else if l.negative then if 0 < n && fitsSigned64 (-n) then some (-n) else none
  else if n ≤ maxUnsigned64 then some n else none

/-- **The value of a number**, unless it is too large for a float. -/
def value? (l : NumberLiteral) : Option Json :=
  match l.integer? with
  | some n => some (.integer n)
  | none => l.float?.map Json.float

end NumberLiteral

/-! ## Documents -/

/-- **A value as it is written.** -/
inductive JsonSyntax where
  | null
  | bool (b : Bool)
  | number (literal : NumberLiteral)
  | string (parts : List StringPart)
  | array (items : List JsonSyntax)
  | object (entries : List (List StringPart × JsonSyntax))
  deriving Repr, Inhabited

namespace JsonSyntax

/-- How deep arrays and objects may stand in each other. -/
def nestingLimit : Nat := 127

mutual

/-- **The meaning of a value** in which arrays and objects stand at most `depth` deep in each
other. -/
def value? (depth : Nat) : JsonSyntax → Option Json
  | .null => some .null
  | .bool b => some (.bool b)
  | .number literal => literal.value?
  | .string parts => (stringText? parts).map .string
  | .array items => if depth == 0 then none else (values? (depth - 1) items).map .array
  | .object entries => if depth == 0 then none else (entryValues? (depth - 1) entries).map .object

/-- The meanings of the items of an array. -/
def values? (depth : Nat) : List JsonSyntax → Option (List Json)
  | [] => some []
  | item :: rest => do return (← value? depth item) :: (← values? depth rest)

/-- The meanings of the entries of an object. -/
def entryValues? (depth : Nat) : List (List StringPart × JsonSyntax) → Option (List (Text × Json))
  | [] => some []
  | (key, value) :: rest => do
    return (← stringText? key, ← value? depth value) :: (← entryValues? depth rest)

end

end JsonSyntax

end MonitorControl
