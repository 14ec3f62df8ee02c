/-
What a query means: a tree of comparisons.

A comparison is `field operator value`. Conjunctions have no precedence: each new
node is joined to the whole tree so far, so `a AND b OR c` is `(a AND b) OR c`,
and a tree grown by insertion is a left comb.
-/
import MonitorControl.Query.Conjunction
import MonitorControl.Number.Shortest

set_option autoImplicit false

namespace MonitorControl

/-! ## Comparisons -/

/-- **A comparison operator.** -/
inductive Comparison where
  | equal
  | notEqual
  | greater
  | less
  | greaterEqual
  | lessEqual
  deriving DecidableEq, Repr

namespace Comparison

/-- All operators, the longer symbols first: the first that matches at a place is then the longest. -/
def byLength : List Comparison := [.notEqual, .greaterEqual, .lessEqual, .equal, .greater, .less]

/-- The symbol of an operator. -/
def symbol : Comparison → Text
  | .equal => "="
  | .notEqual => "!="
  | .greater => ">"
  | .less => "<"
  | .greaterEqual => ">="
  | .lessEqual => "<="

/-- The operator with a given symbol. -/
def ofSymbol? (t : Text) : Option Comparison := byLength.find? (·.symbol == t)

end Comparison

/-! ## Values -/

/-- How a backend reads the value of a predicate. -/
inductive ValueContext where
  /-- The value is what it is. -/
  | plain
  /-- The value is a relative or absolute time, such as `-1 day`. -/
  | time
  deriving DecidableEq, Repr

/-- **A literal value.** -/
inductive Value where
  | text (t : Text)
  | integer (n : Int)
  | float (x : Float)
  deriving DecidableEq, Repr

/-- The text of a value, as queries and URLs show it. -/
def Value.display : Value → Text
  | .text t => t
  | .integer n => Text.ofInt n
  | .float x => Text.ofFloat x

/-- **A predicate** compares a field with a value: a leaf of the tree. -/
structure Predicate where
  field : Text
  operator : Comparison
  value : Value
  context : ValueContext := .plain
  deriving DecidableEq, Repr

/-- The text `field operator value`. -/
def Predicate.display (p : Predicate) : Text :=
  p.field ++ ' ' :: p.operator.symbol ++ ' ' :: p.value.display

/-! ## Nodes -/

/-- **A node** of the tree. -/
inductive Node where
  | leaf (p : Predicate)
  | join (conjunction : Conjunction) (left right : Node)
  deriving DecidableEq, Repr

namespace Node

/-- The leaf `field operator value`. -/
def plain (field : Text) (operator : Comparison) (value : Value) : Node :=
  .leaf { field, operator, value }

/-- The leaf that compares a field with a time. -/
def time (field : Text) (operator : Comparison) (expression : Text) : Node :=
  .leaf { field, operator, value := .text expression, context := .time }

/-- The leaves from left to right. -/
def predicates : Node → List Predicate
  | .leaf p => [p]
  | .join _ left right => left.predicates ++ right.predicates

/-- The text of a node: every join stands in parentheses. -/
def display : Node → Text
  | .leaf p => p.display
  | .join k left right =>
    '(' :: left.display ++ ' ' :: k.keyword ++ ' ' :: right.display ++ [')']

end Node

/-! ## Trees -/

/-- **A tree**: empty, or a root node. -/
structure Tree where
  root : Option Node
  deriving DecidableEq, Repr

namespace Tree

/-- The tree without a node. -/
def empty : Tree := ⟨none⟩

/-- The tree has no node. -/
def isEmpty (t : Tree) : Bool := t.root.isNone

/-- **Insertion** joins a node to the right of the whole tree. The first node needs no conjunction
and ignores the one given. -/
def insert (t : Tree) (node : Node) (conjunction : Conjunction) : Tree :=
  match t.root with
  | none => ⟨some node⟩
  | some root => ⟨some (.join conjunction root node)⟩

/-- The leaves from left to right. -/
def predicates (t : Tree) : List Predicate := t.root.elim [] Node.predicates

/-- The text of a tree; nothing for the empty one. -/
def display (t : Tree) : Text := t.root.elim [] Node.display

end Tree

end MonitorControl
