/-
Conditions of an SQL query.

A condition compares a column with a literal, matches it against a pattern, looks
it up in a list of literals, or joins two conditions. How it is written out, with
quotes and parentheses, is `MonitorControl.Sql.Text`.
-/
import MonitorControl.Query.Tree

set_option autoImplicit false

namespace MonitorControl.Sql

/-- **A literal.** -/
inductive Literal where
  | text (t : Text)
  | integer (n : Int)
  | float (x : Float)
  deriving DecidableEq, Repr

/-- **A condition** on the columns of a row. -/
inductive Condition where
  | compare (column : Text) (operator : Comparison) (value : Literal)
  | like (column : Text) (negated : Bool) (pattern : Text)
  | isIn (column : Text) (values : List Literal)
  | join (conjunction : Conjunction) (left right : Condition)
  deriving Repr

/-- **A query** for all columns of the rows of a table that meet a condition. -/
structure Select where
  table : Text
  condition : Condition
  deriving Repr

end MonitorControl.Sql
