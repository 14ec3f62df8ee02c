/-
JSON values.

The entries of an object keep their order. Numbers are of two kinds, as they are
read: whole numbers that fit 64 bits, and floats.
-/
import MonitorControl.Number.Shortest

set_option autoImplicit false

namespace MonitorControl

/-- **A JSON value.** -/
inductive Json where
  | null
  | bool (b : Bool)
  | integer (n : Int)
  | float (x : Float)
  | string (t : Text)
  | array (items : List Json)
  | object (entries : List (Text × Json))
  deriving BEq, Repr, Inhabited

namespace Json

/-! ## Access -/

/-- The value of a key of an object; of several entries with that key, the last. Any other value has
no keys. -/
def get? (key : Text) : Json → Option Json
  | .object entries => entries.reverse.lookup key
  | _ => none

/-- A natural number. -/
def natural (n : Nat) : Json := .integer n

/-! ## Text -/

/-- A character inside a string: quotes, backslashes and control characters are escaped. -/
def escapeChar (c : Char) : Text :=
  if c == '"' then ['\\', '"']
  else if c == '\\' then ['\\', '\\']
  else if c.toNat < 0x20 then "\\u".toList ++ (Nat.toDigits 16 (0x10000 + c.toNat)).drop 1
  else [c]

/-- A string with its quotes. -/
def quote (t : Text) : Text := Text.inDoubleQuotes (t.flatMap escapeChar)

/-- A float, with a point even where it is whole. -/
def writeFloat (x : Float) : Text :=
  let digits := Text.ofFloat x
  if digits.contains '.' then digits else digits ++ ['.', '0']

mutual

/-- **The text of a value**, without blanks. -/
def write : Json → Text
  | .null => "null"
  | .bool true => "true"
  | .bool false => "false"
  | .integer n => Text.ofInt n
  | .float x => writeFloat x
  | .string t => quote t
  | .array items => '[' :: Text.join [','] (writeItems items) ++ [']']
  | .object entries => '{' :: Text.join [','] (writeEntries entries) ++ ['}']

/-- The texts of the items of an array. -/
def writeItems : List Json → List Text
  | [] => []
  | item :: rest => write item :: writeItems rest

/-- The texts of the entries of an object. -/
def writeEntries : List (Text × Json) → List Text
  | [] => []
  | (key, value) :: rest => (quote key ++ ':' :: write value) :: writeEntries rest

end

end Json

end MonitorControl
