/-
Trees in a URL: `host_name=web%2A&host_state!=0|host_state=2`.

A leaf is `field operator value` with both texts in form encoding; `&` and `|`
stand for AND and OR. There is no grouping, so a tree is written as the sequence
of its leaves and read back as a left comb.
-/
import MonitorControl.Query.Tree
import MonitorControl.Url.Form

set_option autoImplicit false

namespace MonitorControl

/-! ## Writing -/

/-- The mark of a conjunction in a URL. -/
def Conjunction.urlMark : Conjunction → Char
  | .and => '&'
  | .or => '|'

/-- The leaf in a URL. -/
def Predicate.toUrl (p : Predicate) : Text :=
  Form.encode p.field ++ p.operator.symbol ++ Form.encode p.value.display

/-- The leaves of a node in a URL, with their conjunctions. -/
def Node.toUrl : Node → Text
  | .leaf p => p.toUrl
  | .join k left right => left.toUrl ++ k.urlMark :: right.toUrl

/-- **The URL form of a tree.** -/
def Tree.toUrl (t : Tree) : Text := t.root.elim [] Node.toUrl

namespace FilterQuery

/-! ## Terms -/

/-- The conjunction of a mark. -/
def conjunctionOfMark? (c : Char) : Option Conjunction :=
  if c == '&' then some .and else if c == '|' then some .or else none

/-- **A term**: the text between two marks, and the conjunction of the mark after it. -/
structure Term where
  text : Text
  conjunction : Option Conjunction
  deriving DecidableEq, Repr

/-- The first term gains a character at its head. -/
def Term.grow (c : Char) : List Term → List Term
  | [] => []
  | t :: rest => { t with text := c :: t.text } :: rest

/-- The terms of a URL query; always at least one. -/
def terms : Text → List Term
  | [] => [⟨[], none⟩]
  | c :: rest =>
    match conjunctionOfMark? c with
    | some k => ⟨[], some k⟩ :: terms rest
    | none => Term.grow c (terms rest)

/-! ## Leaves -/

/-- The longest operator at the head of a text. -/
def operatorAt? (t : Text) : Option Comparison :=
  Comparison.byLength.find? fun operator => operator.symbol.isPrefixOf t

/-- **The parts of a term** at its first operator: what stands before it, the operator, and what
stands after it. -/
def splitTerm? : Text → Option (Text × Comparison × Text)
  | [] => none
  | c :: rest =>
    match operatorAt? (c :: rest) with
    | some operator => some ([], operator, (c :: rest).drop operator.symbol.length)
    | none =>
      (splitTerm? rest).map fun (field, operator, value) => (c :: field, operator, value)

/-- The field and the operator of the leaf just read, for a bare value that follows it. -/
abbrev Subject := Text × Comparison

/-- **The leaf of a term.** A term without an operator is a value for the subject of the leaf before
it. Nothing is read from a term whose field or value is empty. -/
def readTerm? (previous : Option Subject) (term : Text) : Option (Subject × Text) :=
  match splitTerm? term with
  | some (field, operator, value) =>
    let field := Form.decode field
    let value := Form.decode value
    if field.isEmpty || value.isEmpty then none else some ((field, operator), value)
  | none =>
    if term.isEmpty then none else previous.map fun subject => (subject, Form.decode term)

/-! ## Reading -/

/-- How far a URL query has been read. -/
structure Progress where
  tree : Tree
  /-- The conjunction after the last leaf. -/
  pending : Option Conjunction
  previous : Option Subject
  deriving DecidableEq, Repr

/-- One term is read; a term without a leaf leaves the tree alone and ends the reach of the subject
before it. -/
def Progress.read (progress : Progress) (term : Term) : Progress :=
  match readTerm? progress.previous term.text with
  | some ((field, operator), value) =>
    { tree := progress.tree.insert (.plain field operator (.text value)) (progress.pending.getD .and)
      pending := term.conjunction
      previous := some (field, operator) }
  | none => { progress with previous := none }

/-- **Reading a tree from a URL.** -/
def parse (url : Text) : Tree := ((terms url).foldl Progress.read ⟨.empty, none, none⟩).tree

end FilterQuery

end MonitorControl
