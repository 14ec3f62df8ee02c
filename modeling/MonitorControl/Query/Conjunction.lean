/-
The two words that join the parts of a query.
-/
import MonitorControl.Text.Ascii

set_option autoImplicit false

namespace MonitorControl

/-- **A conjunction** stands between two parts of a query. -/
inductive Conjunction where
  | and
  | or
  deriving DecidableEq, Repr, Inhabited

namespace Conjunction

/-- Both conjunctions. No keyword begins the other, so their order does not matter. -/
def all : List Conjunction := [.and, .or]

/-- The keyword of a conjunction. It is read in any case and written in capitals. -/
def keyword : Conjunction → Text
  | .and => "AND"
  | .or => "OR"

end Conjunction

end MonitorControl
