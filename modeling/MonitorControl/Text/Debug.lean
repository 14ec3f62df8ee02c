/-
Text in double quotes for a log or a console, with escapes for what would not show.
-/
import MonitorControl.Text.Printable

set_option autoImplicit false

namespace MonitorControl.Text

/-- The escape of a character by its code point, such as `\u{a0}`. -/
def codePointEscape (c : Char) : Text :=
  ['\\', 'u', '{'] ++ Nat.toDigits 16 c.toNat ++ ['}']

/-- A character inside the quotes. -/
def debugChar (c : Char) : Text :=
  if c == '"' then ['\\', '"']
  else if c == '\\' then ['\\', '\\']
  else if c == '\n' then ['\\', 'n']
  else if c == '\r' then ['\\', 'r']
  else if c == '\t' then ['\\', 't']
  else if c == '\x00' then ['\\', '0']
  else if isPrintable c then [c]
  else codePointEscape c

/-- **A text in quotes.** -/
def debug (t : Text) : Text := inDoubleQuotes (t.flatMap debugChar)

/-- Texts in quotes, in brackets. -/
def debugList (ts : List Text) : Text := '[' :: join ", " (ts.map debug) ++ [']']

end MonitorControl.Text
