/-
Conditions on flags, such as `Is Flapping` or `Is Not Handled Since 1 hour`.

Every flag is a column with a label. The label of a query decides the column, and
the operator decides whether the column is compared with 1 or with 0. A table of
flags may name a column of times; then a range of time may follow the label.
-/
import MonitorControl.Filter.Condition.TimeRange

set_option autoImplicit false

namespace MonitorControl

open Text

/-- **A table of flags.** -/
structure FlagTable where
  /-- Columns with their labels, in the order in which labels are tried. -/
  flags : List (Text × Text)
  positive : Text := "Is"
  negative : Text := "Is Not"
  /-- The column that a range of time after the label is compared with. -/
  timeColumn : Option Text := none
  deriving DecidableEq, Repr

namespace FlagTable

/-- The operator tokens. -/
def operators (table : FlagTable) : List Text := [table.positive, table.negative]

/-- The labels with their columns. -/
def columns (table : FlagTable) : List (Text × Text) :=
  table.flags.map fun (column, label) => (label, column)

/-- **The column, the value compared with, and the text after the label.** -/
def split? (table : FlagTable) (query : Text) : Option (Text × Int × Text) := do
  let token ← longestToken? query table.operators
  let value := if token == table.negative then 0 else 1
  let rest ← query.afterHead? token
  let (column, range) ← readFirst? table.columns rest
  return (column, value, range)

/-- A query is accepted if a label follows its operator, alone or, where the table has a column of
times, with a range of time. -/
def accepts (table : FlagTable) (now : Moment) (query : Text) : Bool :=
  match table.split? query with
  | none => false
  | some (_, _, range) =>
    range.isEmpty || (table.timeColumn.isSome && TimeRange.standard.accepts now range)

/-- **The node of a flag**: the comparison of its column, and, if there is a range of time, that
range before it. -/
def node? (table : FlagTable) (now : Moment) (query : Text) : Option Node := do
  let (column, value, range) ← table.split? query
  let flag := Node.plain column .equal (.integer value)
  if range.isEmpty then return flag
  let timeColumn ← table.timeColumn
  let time ← TimeRange.standard.node? now range timeColumn
  return .join .and time flag

/-- The time phrase of a query, whatever it means. -/
def phrase? (table : FlagTable) (query : Text) : Option Text := do
  let (_, _, range) ← table.split? query
  if range.isEmpty || table.timeColumn.isNone then none
  else (TimeRange.standard.phrase? range).map Prod.snd

/-- The completion of one label: a range of time after the whole label, else the label. -/
def labelProposals (table : FlagTable) (query label : Text) : List Text :=
  match query.afterHead? label with
  | some range => if table.timeColumn.isSome then TimeRange.standard.proposals range else []
  | none => completionOf query label

/-- The completions of one operator: all labels after the whole token, the token if it is only
begun, else the completions of what follows it. -/
def operatorProposals (table : FlagTable) (query token : Text) : List Text :=
  let labels := table.flags.map Prod.snd
  if token.sameLetters query then labels
  else if token.startsWith query then [markTyped token query]
  else
    match query.afterHead? token with
    | some rest => labels.flatMap (table.labelProposals rest)
    | none => []

/-- The completions of a query. -/
def proposals (table : FlagTable) (query : Text) : List Text :=
  if query.isEmpty then table.operators else table.operators.flatMap (table.operatorProposals query)

end FlagTable

end MonitorControl
