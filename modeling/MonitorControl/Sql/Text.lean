/-
The text of an SQL query, in the dialect of PostgreSQL.

Every name stands in double quotes with its double quotes doubled, and every text
in single quotes with a backslash before whatever would end or change it, so no
name and no value can reach past its quotes. `AND` and `OR` are joined from left
to right: only the left operand of the same conjunction needs no parentheses.
-/
import MonitorControl.Sql.Condition

set_option autoImplicit false

namespace MonitorControl.Sql

/-! ## Names and literals -/

/-- **A name**: in double quotes, with double quotes inside doubled. -/
def quoteName (name : Text) : Text :=
  '"' :: name.flatMap (fun c => if c == '"' then ['"', '"'] else [c]) ++ ['"']

/-- What a character is inside a quoted text. -/
def escapeChar (c : Char) : Text :=
  match c with
  | '\\' => ['\\', '\\']
  | '"' => ['\\', '"']
  | '\'' => ['\\', '\'']
  | '\x00' => ['\\', '0']
  | '\x08' => ['\\', 'b']
  | '\t' => ['\\', 't']
  | '\x1a' => ['\\', 'z']
  | '\n' => ['\\', 'n']
  | '\r' => ['\\', 'r']
  | c => [c]

/-- **A text**: in single quotes, marked with `E` if it holds an escape. -/
def quoteText (t : Text) : Text :=
  let escaped := t.flatMap escapeChar
  if escaped.contains '\\' then 'E' :: '\'' :: escaped ++ ['\''] else '\'' :: escaped ++ ['\'']

/-- The text of a literal. -/
def Literal.toText : Literal → Text
  | .text t => quoteText t
  | .integer n => Text.ofInt n
  | .float x => Text.ofFloat x

/-! ## Conditions -/

/-- The SQL symbol of a comparison. -/
def comparisonSymbol : Comparison → Text
  | .notEqual => "<>"
  | operator => operator.symbol

/-- The condition is a disjunction or conjunction. -/
def Condition.conjunction? : Condition → Option Conjunction
  | .join k _ _ => some k
  | _ => none

/-- The text in parentheses, if `wrapped`. -/
def parenthesize (wrapped : Bool) (t : Text) : Text := if wrapped then '(' :: t ++ [')'] else t

/-- **The text of a condition.** -/
def Condition.toText : Condition → Text
  | .compare column operator value =>
    quoteName column ++ ' ' :: comparisonSymbol operator ++ ' ' :: value.toText
  | .like column negated pattern =>
    quoteName column ++ (if negated then " NOT LIKE " else " LIKE ").toList ++ quoteText pattern
  | .isIn column values =>
    quoteName column ++ " IN (".toList ++ Text.join ", ".toList (values.map Literal.toText) ++ [')']
  | .join k left right =>
    parenthesize (left.conjunction?.any (· != k)) left.toText ++ ' ' :: k.keyword ++ ' ' ::
      parenthesize right.conjunction?.isSome right.toText

/-- **The text of a query.** -/
def Select.toText (s : Select) : Text :=
  "SELECT * FROM ".toList ++ quoteName s.table ++ " WHERE ".toList ++ s.condition.toText

end MonitorControl.Sql
