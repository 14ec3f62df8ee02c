/-
Ranges of time, such as `Since "1 hour"` or `Older Than 2 days`.

A value that begins with a digit is a length of time. It gets a sign in front:
the direction that the range forces, or else backwards for `>=` and forwards for
every other comparison. A value counts only if it names a moment at present.
-/
import MonitorControl.Filter.Completion
import MonitorControl.Query.Tree
import MonitorControl.Text.Quotes
import MonitorControl.Time.Phrase

set_option autoImplicit false

namespace MonitorControl

open Text

/-! ## Ranges -/

/-- The direction in which a length of time is counted. -/
inductive TimeDirection where
  | past
  | future
  deriving DecidableEq, Repr

/-- The sign of a direction. -/
def TimeDirection.sign : TimeDirection → Char
  | .past => '-'
  | .future => '+'

/-- The direction that a comparison implies. -/
def Comparison.timeDirection : Comparison → TimeDirection
  | .greaterEqual => .past
  | _ => .future

/-- **A time range**: its operator tokens, and the direction that it forces, if any. -/
structure TimeRange where
  table : List (Text × Comparison) := [("Since", .greaterEqual), ("Before", .lessEqual)]
  forced : Option TimeDirection := none
  deriving DecidableEq, Repr

namespace TimeRange

/-- `Since` and `Before`, with no forced direction. -/
def standard : TimeRange := {}

/-- `Until` and `After`, always in the future. -/
def nextCheck : TimeRange :=
  { table := [("Until", .lessEqual), ("After", .greaterEqual)], forced := some .future }

/-- `Older Than` and `Newer Than`, always in the past. -/
def lastCheck : TimeRange :=
  { table := [("Older Than", .lessEqual), ("Is Older Than", .lessEqual),
      ("Newer Than", .greaterEqual), ("Is Newer Than", .greaterEqual)]
    forced := some .past }

/-- The operator tokens. -/
def operators (range : TimeRange) : List Text := range.table.map Prod.fst

/-- The values that are proposed after an operator. -/
def examples : List Text :=
  (["5 minutes", "30 minutes", "1 hour", "6 hours", "1 day", "yesterday", "last Monday"] :
    List Text).map Text.inDoubleQuotes

/-! ## Conditions -/

/-- **The sign in front of a length of time.** Any other value stays as it is. -/
def signed (range : TimeRange) (comparison : Comparison) (value : Text) : Text :=
  match value with
  | c :: _ =>
    if c.isDigit then (range.forced.getD comparison.timeDirection).sign :: value else value
  | [] => value

/-- The comparison and the time phrase of a query, whatever the phrase means. -/
def phrase? (range : TimeRange) (query : Text) : Option (Comparison × Text) := do
  let (comparison, rest) ← readToken? range.table query
  let value := rest.trimQuotes
  if value.isEmpty then none else some (comparison, range.signed comparison value)

/-- The comparison and the time phrase of a query, if the phrase names a moment. -/
def read? (range : TimeRange) (now : Moment) (query : Text) : Option (Comparison × Text) :=
  (range.phrase? query).filter fun (_, phrase) => isTimePhrase phrase now

/-- A query is accepted if a time follows its operator. -/
def accepts (range : TimeRange) (now : Moment) (query : Text) : Bool :=
  (range.read? now query).isSome

/-- The leaf that a query stands for. -/
def node? (range : TimeRange) (now : Moment) (query field : Text) : Option Node :=
  (range.read? now query).map fun (comparison, phrase) => .time field comparison phrase

/-- The completion of one operator: the examples after the whole token, else the token. -/
def operatorProposals (query token : Text) : List Text :=
  match query.afterHead? token with
  | some [] => examples
  | some (_ :: _) => []
  | none => completionOf query token

/-- The completions of a query. -/
def proposals (range : TimeRange) (query : Text) : List Text :=
  if query.isEmpty then range.operators else range.operators.flatMap (operatorProposals query)

end TimeRange

end MonitorControl
