/-
Conditions on numbers, such as `> 5` or `Is Not 2.5`.

The value is a 64-bit integer if it reads as one, else a finite float.
-/
import MonitorControl.Filter.Completion
import MonitorControl.Number.Reading
import MonitorControl.Query.Tree
import MonitorControl.Text.Quotes

set_option autoImplicit false

namespace MonitorControl.NumberCondition

open Text

/-- The operator tokens and their comparisons, in the order in which they are proposed. -/
def table : List (Text × Comparison) :=
  [("Is", .equal), ("Is Not", .notEqual), ("=", .equal), ("!=", .notEqual), (">", .greater),
    ("<", .less), (">=", .greaterEqual), ("<=", .lessEqual)]

/-- The operator tokens. -/
def operators : List Text := table.map Prod.fst

/-- **The value of a number**: an integer if the text reads as one, else a finite float. -/
def readValue? (t : Text) : Option Value :=
  match t.readSigned64? with
  | some n => some (.integer n)
  | none => t.readFinite?.map Value.float

/-- The comparison and the value of a query. -/
def read? (query : Text) : Option (Comparison × Value) := do
  let (comparison, rest) ← readToken? table query
  let value ← readValue? rest.unquote
  return (comparison, value)

/-- A query is accepted if a number follows its operator. -/
def accepts (query : Text) : Bool := (read? query).isSome

/-- The leaf that a query stands for. -/
def node? (query field : Text) : Option Node :=
  (read? query).map fun (comparison, value) => .plain field comparison value

/-- The completions of a query. -/
def proposals (query : Text) : List Text :=
  if query.isEmpty then operators
  else
    operators.flatMap fun token =>
      if token.sameLetters query then [] else completionOf query token

end MonitorControl.NumberCondition
