/-
Patterns: from a text in which a star stands for anything to a `LIKE` pattern.

In a `LIKE` pattern `%` stands for any text, `_` for any one character, and a
backslash takes away the meaning of the character after it. So the three are
escaped, and only then does the star become `%`.
-/
import MonitorControl.Text.Basic

set_option autoImplicit false

namespace MonitorControl.Sql

/-- A text with a star is a pattern. -/
def isPattern (t : Text) : Bool := t.contains '*'

/-- What a character of a starred text is in a `LIKE` pattern. -/
def likeChar (c : Char) : Text :=
  if c == '*' then ['%']
  else if c == '\\' || c == '%' || c == '_' then ['\\', c]
  else [c]

/-- **The `LIKE` pattern of a starred text.** -/
def likePattern (t : Text) : Text := t.flatMap likeChar

end MonitorControl.Sql
