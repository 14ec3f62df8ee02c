/-
What a condition says of a row, and why lists are invisible.

On a row a condition is true, false or unknown, as SQL has it: a comparison with a
column that has no value is unknown, and `AND`, `OR` and `NOT` carry that along.
What a single comparison or match says is left to the row, so that everything
below holds whatever the columns hold and however a value is compared with them.
A list is read as the disjunction of its equalities.

A node has a value on a row as well, once its leaves have one. What a node is
compiled to follows it leaf by leaf (`Compiles`), lists apart, and so has the value
of the node over the conditions of its leaves. In this value the threshold of lists
does not occur: whether a disjunction becomes a list or is written out makes no
difference. Nor does it to failure, because a node fails exactly at the first leaf
whose field has no column, and the field of a list is the field of every leaf in it.
-/
import MonitorControl.Sql.Compiler

set_option autoImplicit false

namespace MonitorControl.Sql

/-! ## Truth values -/

/-- **A truth value** of SQL. -/
inductive Truth where
  | yes
  | no
  | unknown
  deriving DecidableEq, Repr

namespace Truth

/-- `NOT`. -/
def not : Truth → Truth
  | .yes => .no
  | .no => .yes
  | .unknown => .unknown

/-- `AND`: one false side decides. -/
def and : Truth → Truth → Truth
  | .no, _ => .no
  | _, .no => .no
  | .yes, .yes => .yes
  | _, _ => .unknown

/-- `OR`: one true side decides. -/
def or : Truth → Truth → Truth
  | .yes, _ => .yes
  | _, .yes => .yes
  | .no, .no => .no
  | _, _ => .unknown

/-- The connective of a conjunction. -/
def join : Conjunction → Truth → Truth → Truth
  | .and => and
  | .or => or

/-- The disjunction of a list. -/
def any (values : List Truth) : Truth := values.foldr or .no

theorem no_or (a : Truth) : Truth.no.or a = a := by
  cases a <;> rfl

theorem or_no (a : Truth) : a.or .no = a := by
  cases a <;> rfl

theorem or_assoc (a b c : Truth) : (a.or b).or c = a.or (b.or c) := by
  cases a <;> cases b <;> cases c <;> rfl

@[simp] theorem any_singleton (a : Truth) : any [a] = a := or_no a

theorem any_append (as bs : List Truth) : any (as ++ bs) = (any as).or (any bs) := by
  induction as with
  | nil => exact (no_or (any bs)).symm
  | cons a as ih =>
    show a.or (any (as ++ bs)) = (a.or (any as)).or (any bs)
    rw [ih, or_assoc]

end Truth

/-! ## The value of a condition -/

/-- **A row, as far as conditions can tell**: what a comparison of a column with a value says of
it, and what a match of a column with a pattern says. -/
structure Row (Value Pattern : Type) where
  compares : Text → Comparison → Value → Truth
  fits : Text → Pattern → Truth

/-- **The value of a condition on a row.** A list is the disjunction of its equalities. -/
def Condition.truth (row : Row Literal Text) : Condition → Truth
  | .compare column operator value => row.compares column operator value
  | .like column negated pattern =>
    if negated then (row.fits column pattern).not else row.fits column pattern
  | .isIn column values => Truth.any (values.map (row.compares column .equal))
  | .join k left right => Truth.join k (left.truth row) (right.truth row)

end Sql

/-- **The value of a node** over the values of its leaves. -/
def Node.truth (leaf : Predicate → Sql.Truth) : Node → Sql.Truth
  | .leaf p => leaf p
  | .join k left right => Sql.Truth.join k (left.truth leaf) (right.truth leaf)

/-- A node has a leaf. -/
theorem Node.predicates_ne_nil (node : Node) : node.predicates ≠ [] := by
  induction node with
  | leaf p => exact List.cons_ne_nil p []
  | join k left right ihl ihr => exact List.append_ne_nil_of_left_ne_nil ihl _

namespace Sql.Compiler

/-! ## Disjunctions of equalities -/

/-- The equalities of a node are all of its leaves, and the node is their disjunction. -/
theorem equalities?_eq_some {node : Node} {equalities : List Predicate}
    (h : equalities? node = some equalities) :
    equalities = node.predicates ∧ (∀ p ∈ equalities, isPlainEquality p = true) ∧
      ∀ leaf : Predicate → Truth, node.truth leaf = Truth.any (equalities.map leaf) := by
  induction node generalizing equalities with
  | leaf p =>
    by_cases hp : isPlainEquality p = true
    · rw [equalities?, if_pos hp, Option.some.injEq] at h
      subst h
      refine ⟨rfl, ?_, ?_⟩
      · intro q hq
        rw [List.mem_singleton] at hq
        rw [hq]
        exact hp
      · intro leaf
        exact (Truth.any_singleton (leaf p)).symm
    · rw [equalities?, if_neg hp] at h
      simp at h
  | join k left right ihl ihr =>
    cases k with
    | and =>
      -- one conjunction anywhere leaves no equalities
      simp [equalities?] at h
    | or =>
      rw [equalities?] at h
      split at h
      case h_2 => simp at h
      case h_1 l r hl hr =>
        rw [Option.some.injEq] at h
        obtain ⟨rfl, hplainl, htruthl⟩ := ihl hl
        obtain ⟨rfl, hplainr, htruthr⟩ := ihr hr
        subst h
        refine ⟨rfl, ?_, ?_⟩
        · intro p hp
          exact (List.mem_append.1 hp).elim (hplainl p) (hplainr p)
        · intro leaf
          rw [List.map_append, Truth.any_append, ← htruthl, ← htruthr]
          rfl

/-! ## Leaves -/

/-- The leaf has a field without an entry. -/
def isUnmapped (compiler : Compiler) (p : Predicate) : Bool :=
  (compiler.columns.lookup p.field).isNone

theorem column_of_unmapped {compiler : Compiler} (hstrict : compiler.strict = true) {p : Predicate}
    (h : compiler.isUnmapped p = true) :
    compiler.column p.field = .error (.unknownField p.field) := by
  rw [isUnmapped, Option.isNone_iff_eq_none] at h
  simp [column, h, hstrict]

theorem exists_column {compiler : Compiler} {p : Predicate}
    (h : compiler.strict = true → compiler.isUnmapped p = false) :
    ∃ column, compiler.column p.field = .ok column := by
  rw [column]
  split
  case h_1 column hcolumn => exact ⟨column, rfl⟩
  case h_2 hcolumn =>
    by_cases hstrict : compiler.strict = true
    · have := h hstrict
      simp [isUnmapped, hcolumn] at this
    · exact ⟨p.field, if_neg hstrict⟩

/-- A leaf fails with its column and only with it. -/
theorem predicate_of_column_error {compiler : Compiler} (now : Moment) {p : Predicate}
    {e : CompileError} (h : compiler.column p.field = .error e) :
    compiler.predicate now p = .error e := by
  rw [predicate, h]
  rfl

theorem exists_predicate {compiler : Compiler} (now : Moment) {p : Predicate} {column : Text}
    (h : compiler.column p.field = .ok column) :
    ∃ condition, compiler.predicate now p = .ok condition := by
  rw [predicate, h]
  cases pattern? p with
  | none => exact ⟨_, rfl⟩
  | some t => exact ⟨_, rfl⟩

/-- A plain equality is compiled to an equality of its column. -/
theorem condition_of_plainEquality {compiler : Compiler} {now : Moment} {p : Predicate}
    {column : Text} {condition : Condition} (hplain : isPlainEquality p = true)
    (hcolumn : compiler.column p.field = .ok column)
    (h : compiler.predicate now p = .ok condition) :
    condition = .compare column .equal (literal now p) := by
  simp only [isPlainEquality, Bool.and_eq_true, beq_iff_eq, Option.isNone_iff_eq_none] at hplain
  obtain ⟨⟨hoperator, hcontext⟩, hpattern⟩ := hplain
  rw [predicate, hcolumn, hpattern, hoperator] at h
  exact (Except.ok.inj h).symm

/-- The conditions of leaves, all of which are compiled. -/
theorem exists_leaves {compiler : Compiler} (now : Moment) {leaves : List Predicate}
    (h : compiler.strict = true → leaves.find? compiler.isUnmapped = none) :
    ∃ conditions : Predicate → Condition,
      ∀ p ∈ leaves, compiler.predicate now p = .ok (conditions p) := by
  have hleaf : ∀ p, ∃ condition, p ∈ leaves → compiler.predicate now p = .ok condition := by
    intro p
    by_cases hp : p ∈ leaves
    · obtain ⟨column, hcolumn⟩ := exists_column fun hstrict => by
        simpa using List.find?_eq_none.1 (h hstrict) p hp
      obtain ⟨condition, hcondition⟩ := exists_predicate now hcolumn
      exact ⟨condition, fun _ => hcondition⟩
    · exact ⟨.isIn p.field [], fun hmem => absurd hmem hp⟩
  exact Classical.skolem.1 hleaf

/-! ## Nodes -/

/-- **What a list replaces**: a disjunction of plain equalities, all on the field of the list. -/
theorem listed?_eq_some {compiler : Compiler} {node : Node} {field : Text}
    {equalities : List Predicate} (h : compiler.listed? node = some (field, equalities)) :
    equalities? node = some equalities ∧ ∀ p ∈ equalities, p.field = field := by
  rw [listed?] at h
  split at h
  case h_2 => simp at h
  case h_1 first rest heq =>
    split at h
    case isFalse => simp at h
    case isTrue hcond =>
      obtain ⟨rfl, rfl⟩ : first.field = field ∧ first :: rest = equalities := by simpa using h
      rw [Bool.and_eq_true, List.all_eq_true] at hcond
      refine ⟨heq, ?_⟩
      intro p hp
      rcases List.mem_cons.1 hp with rfl | hrest
      · rfl
      · simpa using hcond.2 p hrest

/-- **How a join is compiled**: to a list, if one can replace it, and else to the join of what its
operands are compiled to. -/
theorem node_join (compiler : Compiler) (now : Moment) (k : Conjunction) (left right : Node) :
    (∃ field equalities, compiler.listed? (.join k left right) = some (field, equalities) ∧
      compiler.node now (.join k left right) = (compiler.column field).map fun column =>
        (.isIn column (equalities.map (literal now)), [⟨field, equalities.length⟩])) ∨
    compiler.node now (.join k left right) = (do
      let (l, listsLeft) ← compiler.node now left
      let (r, listsRight) ← compiler.node now right
      return (.join k l r, listsLeft ++ listsRight)) := by
  cases k with
  | and => exact .inr rfl
  | or =>
    cases hlisted : compiler.listed? (.join .or left right) with
    | none => exact .inr (by rw [node, hlisted])
    | some found =>
      obtain ⟨field, equalities⟩ := found
      refine .inl ⟨field, equalities, rfl, ?_⟩
      rw [node, hlisted]
      show (compiler.column field >>= _) = _
      cases compiler.column field <;> rfl

/-- **How a condition follows its node**: leaf by leaf and join by join, except that a disjunction
of plain equalities on one field may have become the list of their values. No threshold decides
when. -/
inductive Compiles (compiler : Compiler) (now : Moment) : Node → Condition → Prop where
  | leaf {p : Predicate} {condition : Condition} (h : compiler.predicate now p = .ok condition) :
    Compiles compiler now (.leaf p) condition
  | join (k : Conjunction) {left right : Node} {l r : Condition}
    (hl : Compiles compiler now left l) (hr : Compiles compiler now right r) :
    Compiles compiler now (.join k left right) (.join k l r)
  | list {node : Node} {equalities : List Predicate} {field column : Text}
    (hequalities : equalities? node = some equalities) (hfield : ∀ p ∈ equalities, p.field = field)
    (hcolumn : compiler.column field = .ok column) :
    Compiles compiler now node (.isIn column (equalities.map (literal now)))

/-- **A node without an unmapped leaf is compiled**, to a condition that follows it. -/
theorem exists_node {compiler : Compiler} (now : Moment) {node : Node}
    (h : compiler.strict = true → node.predicates.find? compiler.isUnmapped = none) :
    ∃ condition lists, compiler.node now node = .ok (condition, lists) ∧
      compiler.Compiles now node condition := by
  obtain ⟨conditions, hconditions⟩ := exists_leaves now h
  clear h
  induction node with
  | leaf p =>
    have hp := hconditions p (List.mem_singleton_self p)
    refine ⟨conditions p, [], ?_, .leaf hp⟩
    rw [Compiler.node, hp]
    rfl
  | join k left right ihl ihr =>
    rcases compiler.node_join now k left right with ⟨field, equalities, hlisted, hnode⟩ | hnode
    · obtain ⟨hequalities, hfield⟩ := listed?_eq_some hlisted
      obtain ⟨rfl, -, -⟩ := equalities?_eq_some hequalities
      -- the column of the list is the column of any leaf in it
      obtain ⟨first, hfirst⟩ :=
        List.exists_mem_of_ne_nil _ (Node.join k left right).predicates_ne_nil
      cases hcolumn : compiler.column field with
      | error e =>
        -- without a column for the list that leaf would have none either
        have herror := hconditions first hfirst
        rw [← hfield first hfirst] at hcolumn
        rw [predicate_of_column_error now hcolumn] at herror
        cases herror
      | ok column =>
        rw [hcolumn] at hnode
        exact ⟨_, _, hnode, .list hequalities hfield hcolumn⟩
    · obtain ⟨l, listsLeft, hl, hfollowsl⟩ := ihl fun p hp =>
        hconditions p (List.mem_append_left _ hp)
      obtain ⟨r, listsRight, hr, hfollowsr⟩ := ihr fun p hp =>
        hconditions p (List.mem_append_right _ hp)
      rw [hl, hr] at hnode
      exact ⟨_, _, hnode, .join k hfollowsl hfollowsr⟩

/-- **A node fails at its first leaf without a column.** -/
theorem node_of_unmapped {compiler : Compiler} (hstrict : compiler.strict = true) (now : Moment)
    {node : Node} {p : Predicate} (h : node.predicates.find? compiler.isUnmapped = some p) :
    compiler.node now node = .error (.unknownField p.field) := by
  have hp : compiler.column p.field = .error (.unknownField p.field) :=
    column_of_unmapped hstrict (List.find?_some h)
  induction node with
  | leaf q =>
    obtain rfl : p = q := by
      have hmem := List.mem_of_find?_eq_some h
      rwa [Node.predicates, List.mem_singleton] at hmem
    rw [Compiler.node, predicate_of_column_error now hp]
    rfl
  | join k left right ihl ihr =>
    rcases compiler.node_join now k left right with ⟨field, equalities, hlisted, hnode⟩ | hnode
    · obtain ⟨hequalities, hfield⟩ := listed?_eq_some hlisted
      obtain ⟨rfl, -, -⟩ := equalities?_eq_some hequalities
      rw [hnode, ← hfield p (List.mem_of_find?_eq_some h), hp]
      rfl
    · -- operands are compiled from left to right, and the first to fail is the one with `p`
      rw [Node.predicates, List.find?_append, Option.or_eq_some_iff] at h
      rcases h with hleft | ⟨hleft, hright⟩
      · rw [hnode, ihl hleft]
        rfl
      · obtain ⟨l, lists, hl, -⟩ := exists_node now fun _ => hleft
        rw [hnode, hl, ihr hright]
        rfl

/-- **A condition has the value of its node** over the conditions of the leaves, on every row. -/
theorem Compiles.truth {compiler : Compiler} {now : Moment} {node : Node} {condition : Condition}
    (h : compiler.Compiles now node condition) {conditions : Predicate → Condition}
    (hleaves : ∀ p ∈ node.predicates, compiler.predicate now p = .ok (conditions p))
    (row : Row Literal Text) :
    condition.truth row = node.truth fun p => (conditions p).truth row := by
  induction h with
  | @leaf p condition h =>
    rw [hleaves p (List.mem_singleton_self p), Except.ok.injEq] at h
    rw [← h]
    rfl
  | join k hl hr ihl ihr =>
    rw [Condition.truth, Node.truth, ihl fun p hp => hleaves p (List.mem_append_left _ hp),
      ihr fun p hp => hleaves p (List.mem_append_right _ hp)]
  | list hequalities hfield hcolumn =>
    obtain ⟨rfl, hplain, htruth⟩ := equalities?_eq_some hequalities
    rw [Condition.truth, htruth, List.map_map]
    congr 1
    apply List.map_congr_left
    intro p hp
    rw [← hfield p hp] at hcolumn
    rw [condition_of_plainEquality (hplain p hp) hcolumn (hleaves p hp)]
    rfl

/-! ## Trees -/

/-- **Two outcomes mean the same**: they are the same error, or two queries of the same table whose
conditions have the same value on every row. -/
inductive SameMeaning : Except CompileError (Select × List InList) →
    Except CompileError (Select × List InList) → Prop where
  | error (e : CompileError) : SameMeaning (.error e) (.error e)
  | ok {first second : Select} (lists lists' : List InList) (table : first.table = second.table)
    (condition : ∀ row, first.condition.truth row = second.condition.truth row) :
    SameMeaning (.ok (first, lists)) (.ok (second, lists'))

/-- A tree without an unmapped leaf is compiled. -/
theorem exists_compile (compiler : Compiler) (now : Moment) (table : Text) {tree : Tree}
    {root : Node} (hroot : tree.root = some root)
    (h : compiler.strict = true → root.predicates.find? compiler.isUnmapped = none) :
    ∃ condition lists, compiler.compile now table tree = .ok (⟨table, condition⟩, lists) ∧
      compiler.Compiles now root condition := by
  obtain ⟨condition, lists, hnode, hcompiles⟩ := exists_node now h
  refine ⟨condition, lists, ?_, hcompiles⟩
  rw [compile, hroot]
  show (compiler.node now root >>= _) = _
  rw [hnode]
  rfl

theorem compile_of_unmapped (compiler : Compiler) (hstrict : compiler.strict = true) (now : Moment)
    (table : Text) {tree : Tree} {p : Predicate}
    (h : tree.predicates.find? compiler.isUnmapped = some p) :
    compiler.compile now table tree = .error (.unknownField p.field) := by
  cases hroot : tree.root with
  | none => simp [Tree.predicates, hroot] at h
  | some root =>
    rw [Tree.predicates, hroot] at h
    rw [compile, hroot]
    show (compiler.node now root >>= _) = _
    rw [node_of_unmapped hstrict now h]
    rfl

/-- The three ways in which compiling can go. -/
theorem compile_cases (compiler : Compiler) (tree : Tree) :
    tree.root = none ∨
    (compiler.strict = true ∧ ∃ p, tree.predicates.find? compiler.isUnmapped = some p) ∨
    ∃ root, tree.root = some root ∧
      (compiler.strict = true → root.predicates.find? compiler.isUnmapped = none) := by
  cases hroot : tree.root with
  | none => exact .inl rfl
  | some root =>
    refine .inr ?_
    rw [Tree.predicates, hroot]
    by_cases hstrict : compiler.strict = true
    · cases hfirst : root.predicates.find? compiler.isUnmapped with
      | none => exact .inr ⟨root, rfl, fun _ => hfirst⟩
      | some p => exact .inl ⟨hstrict, p, hfirst⟩
    · exact .inr ⟨root, rfl, fun h => absurd h hstrict⟩

/-- **What compiling gives**: a query of the table, with a condition that follows the tree. -/
theorem compile_eq_ok {compiler : Compiler} {now : Moment} {table : Text} {tree : Tree}
    {select : Select} {lists : List InList}
    (h : compiler.compile now table tree = .ok (select, lists)) :
    ∃ root condition, tree.root = some root ∧ select = ⟨table, condition⟩ ∧
      compiler.Compiles now root condition ∧
      (compiler.strict = true → root.predicates.find? compiler.isUnmapped = none) := by
  rcases compiler.compile_cases tree with hempty | ⟨hstrict, p, hp⟩ | ⟨root, hroot, hmapped⟩
  · rw [compile, hempty] at h
    cases h
  · rw [compile_of_unmapped compiler hstrict now table hp] at h
    cases h
  · obtain ⟨condition, lists', hcompiled, hfollows⟩ :=
      exists_compile compiler now table hroot hmapped
    rw [hcompiled, Except.ok.injEq, Prod.mk.injEq] at h
    exact ⟨root, condition, hroot, h.1.symm, hfollows, hmapped⟩

/-- **When compiling fails**: the tree is empty, or in strict mode a leaf has a field without an
entry; the error names the leftmost of these. -/
theorem compile_eq_error_iff (compiler : Compiler) (now : Moment) (table : Text) (tree : Tree)
    (e : CompileError) :
    compiler.compile now table tree = .error e ↔
      (tree.root = none ∧ e = .emptyTree) ∨
      (compiler.strict = true ∧ ∃ p, tree.predicates.find? compiler.isUnmapped = some p ∧
        e = .unknownField p.field) := by
  rcases compiler.compile_cases tree with hempty | ⟨hstrict, p, hp⟩ | ⟨root, hroot, hmapped⟩
  · rw [compile, hempty, Tree.predicates, hempty]
    rw [Except.error.injEq]
    simp only [Option.elim_none, List.find?_nil, reduceCtorEq, false_and, exists_false, and_false,
      or_false, true_and]
    exact eq_comm
  · have hroot : tree.root ≠ none := by
      intro hempty
      simp [Tree.predicates, hempty] at hp
    rw [compile_of_unmapped compiler hstrict now table hp, hp, Except.error.injEq]
    constructor
    · intro he
      exact .inr ⟨hstrict, p, rfl, he.symm⟩
    · rintro (⟨hempty, -⟩ | ⟨-, q, hq, he⟩)
      · exact absurd hempty hroot
      · rw [he, Option.some.inj hq]
  · obtain ⟨condition, lists, hcompiled, -⟩ := exists_compile compiler now table hroot hmapped
    rw [hcompiled, Tree.predicates, hroot]
    simp only [reduceCtorEq, false_and, false_or, false_iff, not_and, Option.elim_some]
    intro hstrict
    rw [hmapped hstrict]
    simp

/-- **The threshold of lists is invisible.** Under any two thresholds a tree is compiled to
conditions that have the same value on every row, or fails with the same error. It fails if it is
empty, and in strict mode at the leftmost leaf whose field has no entry, and for no other reason. -/
theorem compile_anyThreshold (compiler : Compiler) (m n : Nat) (now : Moment) (table : Text)
    (tree : Tree) :
    SameMeaning ({ compiler with inThreshold := m }.compile now table tree)
      ({ compiler with inThreshold := n }.compile now table tree) ∧
    ∀ e, compiler.compile now table tree = .error e ↔
      (tree.root = none ∧ e = .emptyTree) ∨
      (compiler.strict = true ∧ ∃ p, tree.predicates.find? compiler.isUnmapped = some p ∧
        e = .unknownField p.field) := by
  refine ⟨?_, compiler.compile_eq_error_iff now table tree⟩
  rcases compiler.compile_cases tree with hempty | ⟨hstrict, p, hp⟩ | ⟨root, hroot, hmapped⟩
  · rw [compile, compile, hempty]
    exact .error .emptyTree
  · rw [compile_of_unmapped { compiler with inThreshold := m } hstrict now table hp,
      compile_of_unmapped { compiler with inThreshold := n } hstrict now table hp]
    exact .error (.unknownField p.field)
  · -- the leaves have the same conditions under both thresholds
    obtain ⟨conditions, hconditions⟩ := exists_leaves now hmapped
    obtain ⟨first, lists, hfirst, hfollows⟩ :=
      exists_compile { compiler with inThreshold := m } now table hroot hmapped
    obtain ⟨second, lists', hsecond, hfollows'⟩ :=
      exists_compile { compiler with inThreshold := n } now table hroot hmapped
    rw [hfirst, hsecond]
    refine .ok lists lists' rfl fun row => ?_
    calc first.truth row = root.truth fun p => (conditions p).truth row :=
          hfollows.truth hconditions row
      _ = second.truth row := (hfollows'.truth hconditions row).symm

end Sql.Compiler

end MonitorControl
