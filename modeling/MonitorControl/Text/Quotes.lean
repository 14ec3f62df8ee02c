/-
Quotation marks around a value.

A value may stand in straight single or double quotes. The two marks are not
matched against each other: a value loses one mark at each end, whichever it is.
-/
import MonitorControl.Text.Blank

set_option autoImplicit false

namespace MonitorControl.Text

/-- Either quotation mark. -/
def isQuote (c : Char) : Bool := c == '\'' || c == '"'

/-- The text without one quotation mark at its start. -/
def dropOpeningQuote : Text → Text
  | [] => []
  | c :: rest => if isQuote c then rest else c :: rest

/-- **The value in quotes**: trimmed, and without one quotation mark at each end. -/
def unquote (t : Text) : Text :=
  (dropOpeningQuote (dropOpeningQuote (trim t)).reverse).reverse

/-- The text without any quotation marks at its ends. -/
def trimQuotes (t : Text) : Text := trimWhile isQuote t

/-- The text between two single quotation marks. -/
def inSingleQuotes (t : Text) : Text := '\'' :: t ++ ['\'']

end MonitorControl.Text
