/-
From a tree to an SQL condition.

Fields are replaced by the columns they are mapped to. A text with a star becomes
a pattern, a time becomes the moment it names at present, and a long enough
disjunction of equalities on one field becomes a look-up in a list. The last
changes the form of the condition and never which rows meet it.
-/
import MonitorControl.Sql.Condition
import MonitorControl.Sql.Pattern
import MonitorControl.Time.Phrase

set_option autoImplicit false

namespace MonitorControl.Sql

/-! ## Settings and errors -/

/-- **A compiler**: how fields are mapped to columns and when lists are used. -/
structure Compiler where
  /-- Columns by field; the first entry for a field counts. -/
  columns : List (Text × Text) := []
  /-- A field without an entry is an error, where it would else be its own column. -/
  strict : Bool := false
  /-- The least number of equalities that are worth a list. -/
  inThreshold : Nat := 5
  deriving DecidableEq, Repr

/-- **Why a tree has no condition.** -/
inductive CompileError where
  | unknownField (field : Text)
  | emptyTree
  deriving DecidableEq, Repr

/-- The text of an error. -/
def CompileError.message : CompileError → Text
  | .unknownField field => "no column mapped for filter field `".toList ++ field ++ "`".toList
  | .emptyTree => "filter is empty"

/-- A list that took the place of equalities: the field, and the number of values. -/
structure InList where
  field : Text
  count : Nat
  deriving DecidableEq, Repr

namespace Compiler

/-- **The column of a field.** -/
def column (compiler : Compiler) (field : Text) : Except CompileError Text :=
  match compiler.columns.lookup field with
  | some column => .ok column
  | none => if compiler.strict then .error (.unknownField field) else .ok field

/-! ## Leaves -/

/-- The literal of a predicate's value. A time that names no moment at present is left as it is. -/
def literal (now : Moment) (p : Predicate) : Literal :=
  match p.value with
  | .text t =>
    match p.context with
    | .plain => .text t
    | .time =>
      match (resolvePhrase t now).moment? with
      | some m => .text m.display
      | none => .text t
  | .integer n => .integer n
  | .float x => .float x

/-- The starred text that a predicate is matched against, if it is one. -/
def pattern? (p : Predicate) : Option Text :=
  match p.context, p.value with
  | .plain, .text t => if isPattern t then some t else none
  | _, _ => none

/-- **The condition of a predicate.** -/
def predicate (compiler : Compiler) (now : Moment) (p : Predicate) :
    Except CompileError Condition := do
  let column ← compiler.column p.field
  match pattern? p with
  | some t => return .like column (p.operator == .notEqual) (likePattern t)
  | none => return .compare column p.operator (literal now p)

/-! ## Disjunctions of equalities -/

/-- The leaf is an equality with a value that is neither a pattern nor a time. -/
def isPlainEquality (p : Predicate) : Bool :=
  p.operator == .equal && p.context == .plain && (pattern? p).isNone

/-- The leaves of a node that is made of plain equalities and `OR` alone. -/
def equalities? : Node → Option (List Predicate)
  | .leaf p => if isPlainEquality p then some [p] else none
  | .join .and _ _ => none
  | .join .or left right =>
    match equalities? left, equalities? right with
    | some l, some r => some (l ++ r)
    | _, _ => none

/-- **The equalities that a list can replace**: enough of them, all on one field. -/
def listed? (compiler : Compiler) (node : Node) : Option (Text × List Predicate) :=
  match equalities? node with
  | some (first :: rest) =>
    if compiler.inThreshold ≤ rest.length + 1 && rest.all (·.field == first.field) then
      some (first.field, first :: rest)
    else none
  | _ => none

/-! ## Trees -/

/-- **The condition of a node**, and the lists in it from left to right. -/
def node (compiler : Compiler) (now : Moment) :
    Node → Except CompileError (Condition × List InList)
  | .leaf p => do return (← compiler.predicate now p, [])
  | .join .and left right => do
    let (l, listsLeft) ← compiler.node now left
    let (r, listsRight) ← compiler.node now right
    return (.join .and l r, listsLeft ++ listsRight)
  | .join .or left right =>
    match compiler.listed? (.join .or left right) with
    | some (field, equalities) => do
      let column ← compiler.column field
      return (.isIn column (equalities.map (literal now)), [⟨field, equalities.length⟩])
    | none => do
      let (l, listsLeft) ← compiler.node now left
      let (r, listsRight) ← compiler.node now right
      return (.join .or l r, listsLeft ++ listsRight)

/-- **The query of a tree.** -/
def compile (compiler : Compiler) (now : Moment) (table : Text) (tree : Tree) :
    Except CompileError (Select × List InList) :=
  match tree.root with
  | none => .error .emptyTree
  | some root => do
    let (condition, lists) ← compiler.node now root
    return (⟨table, condition⟩, lists)

/-- The time phrases that are resolved while a tree is compiled: those left of the first field
without a column. -/
def phrases (compiler : Compiler) (tree : Tree) : List Text :=
  let compiled := tree.predicates.takeWhile fun p => (compiler.column p.field).isOk
  compiled.filterMap fun p =>
    match p.context, p.value with
    | .time, .text t => some t
    | _, _ => none

end Compiler

end MonitorControl.Sql
