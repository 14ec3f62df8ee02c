/-
The kinds of condition that can follow an attribute.

A kind lists its operators, completes a query, tells whether it accepts a query,
and turns an accepted query into a node. Acceptance and conversion are two
functions, since an attribute is chosen by the one and converted by the other.
-/
import MonitorControl.Filter.Condition.Flag
import MonitorControl.Filter.Condition.Number
import MonitorControl.Filter.Condition.State
import MonitorControl.Filter.Condition.Text

set_option autoImplicit false

namespace MonitorControl

/-- **A kind of condition.** -/
inductive Condition where
  | text
  | number
  | state (kind : StateKind)
  | flag (table : FlagTable)
  | time (range : TimeRange)
  deriving DecidableEq, Repr

namespace Condition

/-- The operator tokens, in the order in which they are proposed. -/
def operators : Condition → List Text
  | .text => TextCondition.operators
  | .number => NumberCondition.operators
  | .state _ => StateCondition.operators
  | .flag table => table.operators
  | .time range => range.operators

/-- **The completions of a query.** -/
def proposals : Condition → Text → List Text
  | .text => TextCondition.proposals
  | .number => NumberCondition.proposals
  | .state kind => StateCondition.proposals kind
  | .flag table => table.proposals
  | .time range => range.proposals

/-- **Acceptance** of a query at the present moment. -/
def accepts (now : Moment) : Condition → Text → Bool
  | .text => TextCondition.accepts
  | .number => NumberCondition.accepts
  | .state kind => StateCondition.accepts kind now
  | .flag table => table.accepts now
  | .time range => range.accepts now

/-- **The node of a query** on a field. Flags choose their column themselves. -/
def node? (now : Moment) (condition : Condition) (query field : Text) : Option Node :=
  match condition with
  | .text => TextCondition.node? query field
  | .number => NumberCondition.node? query field
  | .state kind => StateCondition.node? kind now query field
  | .flag table => table.node? now query
  | .time range => range.node? now query field

/-- The time phrase that acceptance of a query depends on, whatever it means. -/
def phrase? : Condition → Text → Option Text
  | .text, _ | .number, _ => none
  | .state kind, query => StateCondition.phrase? kind query
  | .flag table, query => table.phrase? query
  | .time range, query => (range.phrase? query).map Prod.snd

end Condition

end MonitorControl
