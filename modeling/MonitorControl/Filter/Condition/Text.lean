/-
Conditions on text, such as `Starts With 'web'`.

Each operator word stands for a comparison and a pattern: the value of
`Starts With` gains a star at its end, that of `Ends With` one at its start, and
that of `Contains` and `Matches` both.
-/
import MonitorControl.Filter.Completion
import MonitorControl.Query.Tree
import MonitorControl.Text.Quotes

set_option autoImplicit false

namespace MonitorControl

open Text

/-! ## Operators -/

/-- **An operator on text.** -/
inductive TextOperator where
  | is
  | isNot
  | startsWith
  | endsWith
  | contains
  | equal
  | notEqual
  | like
  | matching
  deriving DecidableEq, Repr

namespace TextOperator

/-- The operators in the order in which they are proposed. -/
def all : List TextOperator :=
  [.is, .isNot, .startsWith, .endsWith, .contains, .equal, .notEqual, .like, .matching]

/-- The token of an operator. -/
def token : TextOperator → Text
  | .is => "Is"
  | .isNot => "Is Not"
  | .startsWith => "Starts With"
  | .endsWith => "Ends With"
  | .contains => "Contains"
  | .equal => "="
  | .notEqual => "!="
  | .like => "Like"
  | .matching => "Matches"

/-- The comparison that an operator makes. -/
def comparison : TextOperator → Comparison
  | .isNot | .notEqual => .notEqual
  | _ => .equal

/-- **The pattern** that an operator makes of its value. -/
def decorate : TextOperator → Text → Text
  | .startsWith, v => v ++ ['*']
  | .endsWith, v => '*' :: v
  | .contains, v | .matching, v => '*' :: v ++ ['*']
  | _, v => v

/-- The value that is proposed after an operator. -/
def hint : TextOperator → Text
  | .startsWith => "value..."
  | .endsWith => "...value"
  | .contains | .matching | .like => "...value..."
  | _ => "value"

/-- The tokens with their operators. -/
def table : List (Text × TextOperator) := all.map fun operator => (operator.token, operator)

end TextOperator

/-! ## Conditions -/

namespace TextCondition

/-- The operator tokens. -/
def operators : List Text := TextOperator.all.map TextOperator.token

/-- The operator of a query and its pattern; no pattern if nothing follows the operator. -/
def read? (query : Text) : Option (TextOperator × Option Text) :=
  (readToken? TextOperator.table query).map fun (operator, rest) =>
    (operator, if rest.isEmpty then none else some (operator.decorate rest.unquote))

/-- A query is accepted if a value follows its operator. -/
def accepts (query : Text) : Bool :=
  match read? query with
  | some (_, some _) => true
  | _ => false

/-- The leaf that a query stands for. -/
def node? (query field : Text) : Option Node := do
  let (operator, value) ← read? query
  let value ← value
  return .plain field operator.comparison (.text value)

/-- The completion of one operator: a value after the whole token, else the token. -/
def operatorProposals (query : Text) (operator : TextOperator) : List Text :=
  if operator.token.sameLetters query then [operator.hint.inSingleQuotes]
  else completionOf query operator.token

/-- The completions of a query. -/
def proposals (query : Text) : List Text :=
  if query.isEmpty then operators else TextOperator.all.flatMap (operatorProposals query)

end TextCondition

end MonitorControl
