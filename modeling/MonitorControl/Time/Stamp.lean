/-
Absolute times as text: `2024-03-01`, `2024-03-01 12:00` and their like.

A layout is a list of parts, and a text fits a layout if the parts read it to its
end, one after the other. A number may have white space before it and takes as
many digits as its width allows; a space in the layout stands for any white
space, also none; every other mark stands for itself.
-/
import MonitorControl.Text.Blank
import MonitorControl.Time.Calendar

set_option autoImplicit false

namespace MonitorControl

/-! ## Layouts -/

/-- A number in a layout. -/
inductive StampField where
  | year
  | month
  | day
  | hour
  | minute
  | second
  deriving DecidableEq, Repr

/-- A part of a layout. -/
inductive StampPart where
  | field (f : StampField)
  | mark (c : Char)
  | space
  deriving DecidableEq, Repr

/-- The parts of `YYYY-MM-DD`. -/
def dateLayout : List StampPart :=
  [.field .year, .mark '-', .field .month, .mark '-', .field .day]

/-- The parts of `HH:MM`. -/
def minuteLayout : List StampPart := [.field .hour, .mark ':', .field .minute]

/-- The parts of `HH:MM:SS`. -/
def secondLayout : List StampPart := minuteLayout ++ [.mark ':', .field .second]

/-- **The layouts of an absolute time**, in the order in which they are tried. -/
def stampLayouts : List (List StampPart) :=
  [dateLayout ++ .space :: secondLayout, dateLayout ++ .space :: minuteLayout,
    dateLayout ++ .mark 'T' :: secondLayout, dateLayout]

/-! ## Reading -/

/-- The numbers read so far. A layout without a time of day means midnight. -/
structure StampNumbers where
  year : Int := 0
  month : Nat := 0
  day : Nat := 0
  hour : Nat := 0
  minute : Nat := 0
  second : Nat := 0
  deriving DecidableEq, Repr

/-- A run of at least one and at most `width` digits at the head of a text, and what follows. -/
def takeNumber? (width : Nat) (t : Text) : Option (Nat × Text) :=
  let digits := (t.take width).takeWhile Char.isDigit
  if digits.isEmpty then none else some (Text.valueOfDigits digits, t.drop digits.length)

/-- A year: up to four digits, or a sign and any number of digits. -/
def takeYear? (t : Text) : Option (Int × Text) :=
  match t with
  | '+' :: rest => (takeNumber? rest.length rest).map fun (n, rest) => (Int.ofNat n, rest)
  | '-' :: rest => (takeNumber? rest.length rest).map fun (n, rest) => (-Int.ofNat n, rest)
  | rest => (takeNumber? 4 rest).map fun (n, rest) => (Int.ofNat n, rest)

/-- One part of a layout reads the head of a text. -/
def StampPart.read? (part : StampPart) (numbers : StampNumbers) (t : Text) :
    Option (StampNumbers × Text) :=
  match part with
  | .space => some (numbers, Text.trimStart t)
  | .mark c =>
    match t with
    | d :: rest => if d == c then some (numbers, rest) else none
    | [] => none
  | .field .year => (takeYear? (Text.trimStart t)).map fun (n, rest) => ({ numbers with year := n }, rest)
  | .field f =>
    (takeNumber? 2 (Text.trimStart t)).map fun (n, rest) =>
      (match f with
        | .year => numbers
        | .month => { numbers with month := n }
        | .day => { numbers with day := n }
        | .hour => { numbers with hour := n }
        | .minute => { numbers with minute := n }
        | .second => { numbers with second := n },
      rest)

/-- The parts of a layout read a text to its end. -/
def readLayout? (numbers : StampNumbers) : List StampPart → Text → Option StampNumbers
  | [], [] => some numbers
  | [], _ :: _ => none
  | part :: layout, t =>
    match part.read? numbers t with
    | some (numbers, rest) => readLayout? numbers layout rest
    | none => none

/-- The moment that the numbers name, if each is in its range. Second 60 is allowed. -/
def StampNumbers.toMoment? (n : StampNumbers) : Option Moment :=
  let date := Date.mk n.year n.month n.day
  if date.isValid && n.hour ≤ 23 && n.minute ≤ 59 && n.second ≤ 60 then
    some ⟨date.toDayNumber, n.hour, n.minute, n.second⟩
  else none

/-- **An absolute time**, in the first layout that gives a moment. -/
def readStamp? (t : Text) : Option Moment :=
  stampLayouts.findSome? fun layout => (readLayout? {} layout t).bind StampNumbers.toMoment?

end MonitorControl
