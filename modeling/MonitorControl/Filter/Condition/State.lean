/-
Conditions on the state of a host or a service, such as `Is Down` or
`!= Ok Since 1 hour`.

A state may be followed by a range of time, which is compared with the time of
the last change of state.
-/
import MonitorControl.Filter.Condition.TimeRange

set_option autoImplicit false

namespace MonitorControl

open Text

/-! ## States -/

/-- **What has a state**: a host or a service. -/
inductive StateKind where
  | host
  | service
  deriving DecidableEq, Repr

namespace StateKind

/-- The states and their codes. No state begins another. -/
def states : StateKind → List (Text × Int)
  | .host => [("Up", 0), ("Down", 1), ("Unreachable", 2), ("Pending", 99)]
  | .service => [("Ok", 0), ("Warning", 1), ("Critical", 2), ("Unknown", 3), ("Pending", 99)]

/-- The column with the time of the last change of state. -/
def changeColumn : StateKind → Text
  | .host => "host_last_state_change"
  | .service => "service_last_state_change"

end StateKind

/-! ## Conditions -/

namespace StateCondition

/-- The operator tokens and their comparisons, in the order in which they are proposed. -/
def table : List (Text × Comparison) :=
  [("Is", .equal), ("=", .equal), ("!=", .notEqual), ("Is Not", .notEqual)]

/-- The operator tokens. -/
def operators : List Text := table.map Prod.fst

/-- The comparison, the state's code and the text after the state. -/
def split? (kind : StateKind) (query : Text) : Option (Comparison × Int × Text) := do
  let (comparison, rest) ← readToken? table query
  let (code, range) ← readFirst? kind.states rest
  return (comparison, code, range)

/-- The same, if the text after the state is empty or a range of time. -/
def read? (kind : StateKind) (now : Moment) (query : Text) : Option (Comparison × Int × Text) :=
  (split? kind query).filter fun (_, _, range) =>
    range.isEmpty || TimeRange.standard.accepts now range

/-- A query is accepted if a state follows its operator, alone or with a range of time. -/
def accepts (kind : StateKind) (now : Moment) (query : Text) : Bool := (read? kind now query).isSome

/-- **The node of a state**: the comparison with its code, and, if there is a range of time, that
range of the last change after it. -/
def node? (kind : StateKind) (now : Moment) (query field : Text) : Option Node := do
  let (comparison, code, range) ← read? kind now query
  let state := Node.plain field comparison (.integer code)
  if range.isEmpty then return state
  let change ← TimeRange.standard.node? now range kind.changeColumn
  return .join .and state change

/-- The time phrase of a query, whatever it means. -/
def phrase? (kind : StateKind) (query : Text) : Option Text := do
  let (_, _, range) ← split? kind query
  if range.isEmpty then none else (TimeRange.standard.phrase? range).map Prod.snd

/-- The completion of one state: a range of time after the whole state, else the state. -/
def stateProposals (query state : Text) : List Text :=
  match query.afterHead? state with
  | some range => TimeRange.standard.proposals range
  | none => completionOf query state

/-- The completions of the text after an operator. -/
def valueProposals (kind : StateKind) (query : Text) : List Text :=
  let states := kind.states.map Prod.fst
  if query.isEmpty then states else states.flatMap (stateProposals query)

/-- The completions of a query: longer operators first, then states after the operator. -/
def proposals (kind : StateKind) (query : Text) : List Text :=
  if query.isEmpty then operators
  else
    (operators.flatMap fun token =>
        if query.byteLength < token.byteLength then completionOf query token else []) ++
      match readToken? table query with
      | some (_, rest) => valueProposals kind rest
      | none => []

end StateCondition

end MonitorControl
