/-
A compiled query, read back as PostgreSQL reads it.

The text of a query consists of the tokens it should have and no others: names and
texts are one token each, whatever is in them, so nothing in them ends a token or
adds to the query. And its condition has one reading, the one it was written for:
parentheses stand wherever `AND` and `OR` would otherwise be joined differently, and
an operand without them is one that the grammar puts there by itself.

So the reading of the condition says of a row what the tree says of it over the
readings of its leaves, a list being the disjunction of its equalities. And the strings
among the tokens are one for each text of a leaf, in order, and have these texts as
their values; only two characters, for which there is no escape, do not come back.
-/
import MonitorControl.Proofs.Sql.Grammar
import MonitorControl.Proofs.Sql.Meaning
import Mathlib.Data.List.Forall2

set_option autoImplicit false

namespace MonitorControl.Sql

namespace Condition

/-! ## What a condition is written as -/

/-- The condition can be written: its floats are finite, and no list is empty. -/
def IsWritable : Condition → Prop
  | .compare _ _ value => value.IsFinite
  | .like _ _ _ => True
  | .isIn _ values => values ≠ [] ∧ ∀ value ∈ values, value.IsFinite
  | .join _ left right => left.IsWritable ∧ right.IsWritable

/-- **What a condition should be read as.** -/
def reading : Condition → Reading
  | .compare column operator value => .compare column operator value.operand
  | .like column negated pattern => .like column negated (.ofText pattern)
  | .isIn column values => .isIn column (values.map Literal.operand)
  | .join k left right => .join k left.reading right.reading

/-- Tokens in parentheses, if `wrapped`. -/
def wrapTokens (wrapped : Bool) (tokens : List Token) : List Token :=
  if wrapped then .mark '(' :: (tokens ++ [.mark ')']) else tokens

/-- **The tokens of a condition**: one for every name, and one for every text. -/
def tokens : Condition → List Token
  | .compare column operator value =>
    .name column :: .operator (comparisonSymbol operator) :: value.operand.tokens
  | .like column negated pattern =>
    .name column :: ((if negated then [keyWord "not"] else []) ++
      [keyWord "like", .string (.ofText pattern)])
  | .isIn column values =>
    .name column :: keyWord "in" :: .mark '(' ::
      (listTokens (values.map Literal.operand) ++ [.mark ')'])
  | .join k left right =>
    wrapTokens (left.conjunction?.any (· != k)) left.tokens ++ conjunctionToken k ::
      wrapTokens right.conjunction?.isSome right.tokens

/-! ## Strings -/

/-- **The texts in a condition**, from left to right. -/
def texts : Condition → List Text
  | .compare _ _ value => value.texts
  | .like _ _ pattern => [pattern]
  | .isIn _ values => values.flatMap Literal.texts
  | .join _ left right => left.texts ++ right.texts

theorem strings_wrapTokens (wrapped : Bool) (tokens : List Token) :
    strings (wrapTokens wrapped tokens) = strings tokens := by
  cases wrapped with
  | false => rfl
  | true =>
    show strings (tokens ++ [.mark ')']) = strings tokens
    rw [strings_append]
    exact List.append_nil _

/-- Behind the first item of a list every item has a comma before it, which is no string. -/
theorem strings_items (values : List Literal) :
    strings ((values.map Literal.operand).flatMap fun v => .mark ',' :: v.tokens) =
      (values.flatMap Literal.texts).map .ofText := by
  induction values with
  | nil => rfl
  | cons v vs ih =>
    rw [List.map_cons, List.flatMap_cons, strings_append, ih, List.flatMap_cons, List.map_append]
    exact congrArg (· ++ _) v.strings_tokens

theorem strings_listTokens (values : List Literal) :
    strings (listTokens (values.map Literal.operand)) = (values.flatMap Literal.texts).map .ofText := by
  cases values with
  | nil => rfl
  | cons v vs =>
    rw [List.map_cons, listTokens, strings_append, v.strings_tokens, strings_items,
      List.flatMap_cons, List.map_append]

/-- **The strings of a condition are those that its texts are written as**, one for each. -/
theorem strings_tokens (condition : Condition) :
    strings condition.tokens = condition.texts.map .ofText := by
  induction condition with
  | compare column operator value => exact value.strings_tokens
  | like column negated pattern => cases negated <;> rfl
  | isIn column values =>
    show strings (listTokens (values.map Literal.operand) ++ [.mark ')']) = _
    rw [strings_append, strings_listTokens]
    exact List.append_nil _
  | join k left right ihl ihr =>
    have hconjunction : strings (conjunctionToken k :: wrapTokens right.conjunction?.isSome
        right.tokens) = strings (wrapTokens right.conjunction?.isSome right.tokens) := by
      cases k <;> rfl
    rw [tokens, strings_append, hconjunction, strings_wrapTokens, strings_wrapTokens, ihl, ihr,
      texts, List.map_append]

/-! ## Parsing -/

/-- The level of the grammar on which a conjunction joins. -/
def joinLevel : Conjunction → Level
  | .and => .conjunction
  | .or => .disjunction

/-- The level of the grammar that a condition is on without parentheses. -/
def level : Condition → Level
  | .join k _ _ => joinLevel k
  | _ => .term

end Condition

/-- A disjunction is the loosest level. -/
theorem Derives.disjunction {level : Level} {tokens : List Token} {r : Reading}
    (h : Derives level tokens r) : Derives .disjunction tokens r := by
  cases level with
  | term => exact .ofConjunction (.ofTerm h)
  | conjunction => exact .ofConjunction h
  | disjunction => exact h

/-- A term is the tightest level. -/
theorem Derives.atLevel {tokens : List Token} {r : Reading} (h : Derives .term tokens r)
    (level : Level) : Derives level tokens r := by
  cases level with
  | term => exact h
  | conjunction => exact .ofTerm h
  | disjunction => exact h.disjunction

namespace Condition

/-- Behind a conjunction a join stands in parentheses, so what stands there is a term. -/
theorem derives_right {right : Condition} (h : Derives right.level right.tokens right.reading) :
    Derives .term (wrapTokens right.conjunction?.isSome right.tokens) right.reading := by
  cases right with
  | join k l r => exact .parentheses h.disjunction
  | compare => exact h
  | like => exact h
  | isIn => exact h

/-- Before a conjunction a join of the same kind needs no parentheses, and any other has them. -/
theorem derives_left (k : Conjunction) {left : Condition}
    (h : Derives left.level left.tokens left.reading) :
    Derives (joinLevel k) (wrapTokens (left.conjunction?.any (· != k)) left.tokens)
      left.reading := by
  cases left with
  | join k' l r =>
    by_cases hk : k' = k
    · subst hk
      have hplain : (Condition.join k' l r).conjunction?.any (· != k') = false := by
        cases k' <;> rfl
      rw [hplain]
      exact h
    · have hwrapped : (Condition.join k' l r).conjunction?.any (· != k) = true := by
        rw [conjunction?, Option.any_some, bne_iff_ne]
        exact hk
      rw [hwrapped]
      exact (Derives.parentheses h.disjunction).atLevel (joinLevel k)
  | compare => exact h.atLevel (joinLevel k)
  | like => exact h.atLevel (joinLevel k)
  | isIn => exact h.atLevel (joinLevel k)

/-- **A condition is read as what it was written for.** -/
theorem derives (condition : Condition) (hwritable : condition.IsWritable) :
    Derives condition.level condition.tokens condition.reading := by
  induction condition with
  | compare column operator value => exact .compare column operator value.operand
  | like column negated pattern =>
    cases negated with
    | true => exact .notLike column (.ofText pattern)
    | false => exact .like column (.ofText pattern)
  | isIn column values =>
    cases values with
    | nil => exact absurd rfl hwritable.1
    | cons v vs => exact .isIn column v.operand (vs.map Literal.operand)
  | join k left right ihl ihr =>
    have hl := derives_left k (ihl hwritable.1)
    have hr := derives_right (ihr hwritable.2)
    cases k with
    | and => exact .and hl hr
    | or => exact .or hl (.ofTerm hr)

end Condition

/-! ## Tokens -/

/-- **A text is read as tokens**, wherever a literal can stand. -/
def ReadsAs (t : Text) (tokens : List Token) : Prop :=
  ∀ rest, Stops rest → lex? (t ++ rest) = (lex? rest).map (tokens ++ ·)

theorem ReadsAs.parenthesize {t : Text} {tokens : List Token} (h : ReadsAs t tokens)
    (wrapped : Bool) : ReadsAs (parenthesize wrapped t) (Condition.wrapTokens wrapped tokens) := by
  intro rest hrest
  cases wrapped with
  | false => exact h rest hrest
  | true =>
    show lex? ('(' :: (t ++ [')'] ++ rest)) = _
    rw [List.append_assoc, List.singleton_append, lex?_mark rfl rfl, h _ (.close rest),
      lex?_mark rfl rfl, Option.map_map, Option.map_map]
    congr 1
    funext tokens'
    simp [Condition.wrapTokens]

/-- **A list is read as its items** and the commas between them. -/
theorem lex?_list {values : List Literal} (hne : values ≠ [])
    (hvalues : ∀ value ∈ values, value.IsFinite) (rest : Text) :
    lex? (Text.join ", ".toList (values.map Literal.toText) ++ ')' :: rest) =
      (lex? (')' :: rest)).map (listTokens (values.map Literal.operand) ++ ·) := by
  induction values with
  | nil => exact absurd rfl hne
  | cons v vs ih =>
    have hv := hvalues v List.mem_cons_self
    -- the last item ends at the parenthesis, and every other one at a comma
    cases vs with
    | nil =>
      show lex? (Text.join ", ".toList [v.toText] ++ ')' :: rest) = _
      rw [Text.join_singleton, lex?_literal hv (.close rest), List.map_singleton, listTokens,
        List.flatMap_nil, List.append_nil]
    | cons w vs =>
      have htail := ih (List.cons_ne_nil w vs) fun value hvalue =>
        hvalues value (List.mem_cons_of_mem v hvalue)
      rw [List.map_cons] at htail
      rw [List.map_cons, List.map_cons, Text.join_cons_cons, List.append_assoc, List.append_assoc]
      show lex? (v.toText ++ ',' :: ' ' :: (Text.join ", ".toList
        (w.toText :: vs.map Literal.toText) ++ ')' :: rest)) = _
      rw [lex?_literal hv (.comma _), lex?_mark rfl rfl, lex?_blank, htail, Option.map_map,
        Option.map_map]
      congr 1
      funext tokens
      simp [listTokens]

/-- A pattern behind `LIKE` is one string, wherever a literal can stand. -/
theorem lex?_like (pattern : Text) {rest : Text} (hrest : Stops rest) :
    lex? ('L' :: ("IKE".toList ++ ' ' :: (quoteText pattern ++ rest))) =
      (lex? rest).map fun tokens => keyWord "like" :: .string (.ofText pattern) :: tokens := by
  obtain ⟨hhead, hcontinues⟩ := hrest.ends
  rw [lex?_word rfl rfl rfl, lex?_quoteText pattern (fun c hc => (hhead c hc).2.2) hcontinues,
    Option.map_map]
  rfl

theorem lex?_conjunction (k : Conjunction) (rest : Text) :
    lex? (k.keyword ++ ' ' :: rest) = (lex? rest).map (conjunctionToken k :: ·) := by
  cases k <;> exact lex?_word rfl rfl rfl rest

/-- **A condition is read as its tokens.** -/
theorem Condition.readsAs {condition : Condition} (hwritable : condition.IsWritable) :
    ReadsAs condition.toText condition.tokens := by
  -- a name never meets a double quote: a space follows it in every condition
  induction condition with
  | compare column operator value =>
    intro rest hrest
    rw [toText, List.append_assoc, List.append_assoc, List.cons_append, List.cons_append,
      lex?_quoteName column (by simp), lex?_blank, lex?_comparison, lex?_literal hwritable hrest,
      Option.map_map, Option.map_map]
    rfl
  | like column negated pattern =>
    intro rest hrest
    rw [toText, List.append_assoc, List.append_assoc]
    cases negated with
    | false =>
      show lex? (quoteName column ++
        ' ' :: 'L' :: ("IKE".toList ++ ' ' :: (quoteText pattern ++ rest))) = _
      rw [lex?_quoteName column (by simp), lex?_blank, lex?_like pattern hrest, Option.map_map]
      rfl
    | true =>
      show lex? (quoteName column ++ ' ' :: 'N' :: ("OT".toList ++
        ' ' :: 'L' :: ("IKE".toList ++ ' ' :: (quoteText pattern ++ rest)))) = _
      rw [lex?_quoteName column (by simp), lex?_blank, lex?_word rfl rfl rfl,
        lex?_like pattern hrest, Option.map_map, Option.map_map]
      rfl
  | isIn column values =>
    intro rest hrest
    rw [toText, List.append_assoc, List.append_assoc, List.append_assoc, List.singleton_append]
    show lex? (quoteName column ++ ' ' :: 'I' :: ("N".toList ++ ' ' :: '(' ::
      (Text.join ", ".toList (values.map Literal.toText) ++ ')' :: rest))) = _
    rw [lex?_quoteName column (by simp), lex?_blank, lex?_word rfl rfl rfl, lex?_mark rfl rfl,
      lex?_list hwritable.1 hwritable.2, lex?_mark rfl rfl]
    simp only [Option.map_map]
    congr 1
    funext tokens'
    simp [tokens, keyWord, Text.fold]
  | join k left right ihl ihr =>
    intro rest hrest
    have hl := (ihl hwritable.1).parenthesize (left.conjunction?.any (· != k))
    have hr := (ihr hwritable.2).parenthesize right.conjunction?.isSome
    rw [toText, List.append_assoc, List.append_assoc, List.cons_append, List.cons_append,
      hl _ (.conjunction k _), lex?_blank, lex?_conjunction, hr rest hrest]
    simp only [Option.map_map]
    congr 1
    funext tokens'
    simp [tokens]

/-- **A query is read as its tokens.** -/
theorem Select.lex?_toText {select : Select} (hwritable : select.condition.IsWritable) :
    lex? select.toText = some ([keyWord "select", .operator ['*'], keyWord "from",
      .name select.table, keyWord "where"] ++ select.condition.tokens) := by
  have hcondition := Condition.readsAs hwritable [] .done
  rw [List.append_nil, lex?_nil, Option.map_some, List.append_nil] at hcondition
  have hselect : "SELECT * FROM ".toList =
      'S' :: ("ELECT".toList ++ ' ' :: '*' :: ' ' :: 'F' :: ("ROM".toList ++ [' '])) := rfl
  have hwhere : " WHERE ".toList = ' ' :: 'W' :: ("HERE".toList ++ [' ']) := rfl
  have hstar : ∀ t, lex? ('*' :: ' ' :: t) = (lex? t).map (.operator ['*'] :: ·) := by
    intro t
    rw [← lex?_blank t]
    exact lex?_token rfl rfl
  unfold toText
  rw [hselect, hwhere]
  simp only [List.append_assoc, List.cons_append, List.nil_append]
  rw [lex?_word rfl rfl rfl, hstar, lex?_word rfl rfl rfl,
    lex?_quoteName select.table (by simp), lex?_blank, lex?_word rfl rfl rfl, hcondition]
  rfl

/-! ## Truth -/

/-- **The value of a reading on a row.** A list is the disjunction of its equalities. -/
def Reading.truth (row : Row Operand StringToken) : Reading → Truth
  | .compare column operator value => row.compares column operator value
  | .like column negated pattern =>
    if negated then (row.fits column pattern).not else row.fits column pattern
  | .isIn column values => Truth.any (values.map (row.compares column .equal))
  | .join k left right => Truth.join k (left.truth row) (right.truth row)

/-- What a row says of literals, if it is known what it says of the tokens they are written as. -/
def Row.ofTokens (row : Row Operand StringToken) : Row Literal Text :=
  { compares := fun column operator value => row.compares column operator value.operand
    fits := fun column pattern => row.fits column (.ofText pattern) }

theorem Condition.truth_reading (row : Row Operand StringToken) (condition : Condition) :
    condition.reading.truth row = condition.truth row.ofTokens := by
  induction condition with
  | compare column operator value => rfl
  | like column negated pattern => rfl
  | isIn column values =>
    rw [reading, Reading.truth, truth, List.map_map]
    rfl
  | join k left right ihl ihr => rw [reading, Reading.truth, truth, ihl, ihr]

namespace Compiler

/-! ## Main result -/

/-- The literal of a leaf is finite if its value is. -/
theorem isFinite_literal (now : Moment) {p : Predicate}
    (h : ∀ x, p.value = .float x → x.isFinite = true) : (literal now p).IsFinite := by
  obtain ⟨field, operator, value, context⟩ := p
  cases value with
  | float x => exact h x rfl
  | integer n => exact trivial
  | text t =>
    cases context with
    | plain => exact trivial
    | time =>
      rw [literal]
      cases hmoment : (resolvePhrase t now).moment? with
      | none =>
        simp only [hmoment]
        exact trivial
      | some m =>
        simp only [hmoment]
        exact trivial

theorem isWritable_of_predicate {compiler : Compiler} {now : Moment} {p : Predicate}
    {condition : Condition} (h : compiler.predicate now p = .ok condition)
    (hfinite : ∀ x, p.value = .float x → x.isFinite = true) : condition.IsWritable := by
  rw [predicate] at h
  cases hcolumn : compiler.column p.field with
  | error e =>
    rw [hcolumn] at h
    cases h
  | ok column =>
    rw [hcolumn] at h
    cases hpattern : pattern? p with
    | none =>
      rw [hpattern] at h
      cases h
      exact isFinite_literal now hfinite
    | some t =>
      rw [hpattern] at h
      cases h
      exact trivial

/-- **What a node is compiled to can be written** if its floats are finite. -/
theorem Compiles.isWritable {compiler : Compiler} {now : Moment} {node : Node}
    {condition : Condition} (h : compiler.Compiles now node condition)
    (hfinite : ∀ p ∈ node.predicates, ∀ x, p.value = .float x → x.isFinite = true) :
    condition.IsWritable := by
  induction h with
  | @leaf p condition h =>
    exact isWritable_of_predicate h (hfinite p (List.mem_singleton_self p))
  | join k hl hr ihl ihr =>
    exact ⟨ihl fun p hp => hfinite p (List.mem_append_left _ hp),
      ihr fun p hp => hfinite p (List.mem_append_right _ hp)⟩
  | @list node equalities field column hequalities hfield hcolumn =>
    obtain ⟨rfl, -, -⟩ := equalities?_eq_some hequalities
    refine ⟨?_, ?_⟩
    · rw [Ne, List.map_eq_nil_iff]
      exact node.predicates_ne_nil
    · intro value hvalue
      obtain ⟨p, hp, rfl⟩ := List.mem_map.1 hvalue
      exact isFinite_literal now (hfinite p hp)

/-- **A condition has the texts of its leaves**, in their order. A list has those of the equalities
that it took the place of. -/
theorem Compiles.texts_eq {compiler : Compiler} {now : Moment} {node : Node} {condition : Condition}
    (h : compiler.Compiles now node condition) {conditions : Predicate → Condition}
    (hleaves : ∀ p ∈ node.predicates, compiler.predicate now p = .ok (conditions p)) :
    condition.texts = node.predicates.flatMap fun p => (conditions p).texts := by
  induction h with
  | @leaf p condition h =>
    rw [hleaves p (List.mem_singleton_self p), Except.ok.injEq] at h
    rw [← h, Node.predicates, List.flatMap_singleton]
  | join k hl hr ihl ihr =>
    rw [Condition.texts, Node.predicates, List.flatMap_append,
      ihl fun p hp => hleaves p (List.mem_append_left _ hp),
      ihr fun p hp => hleaves p (List.mem_append_right _ hp)]
  | list hequalities hfield hcolumn =>
    obtain ⟨rfl, hplain, -⟩ := equalities?_eq_some hequalities
    rw [Condition.texts, List.flatMap_map]
    refine List.flatMap_congr fun p hp => ?_
    rw [← hfield p hp] at hcolumn
    rw [condition_of_plainEquality (hplain p hp) hcolumn (hleaves p hp)]
    rfl

/-- **A compiled query is read back as the tree it was compiled from.** Its text has the tokens of a
query for all columns of one table, with one token for every name and one for every text. The
tokens of its condition have one reading, by a grammar in which `AND` binds tighter than `OR`. The
strings among these tokens are one for each text in the conditions of the leaves, in order, and
stand for these texts. And whatever the comparisons and matches in the condition say of a row, the
reading says of the row what the tree says of it over the readings of its leaves' conditions. -/
theorem compile_readBack {compiler : Compiler} {now : Moment} {table : Text} {tree : Tree}
    {select : Select} {lists : List InList}
    (h : compiler.compile now table tree = .ok (select, lists))
    (hfinite : ∀ p ∈ tree.predicates, ∀ x, p.value = .float x → x.isFinite = true) :
    ∃ (root : Node) (conditions : Predicate → Condition), tree.root = some root ∧
      (∀ p ∈ root.predicates, compiler.predicate now p = .ok (conditions p)) ∧
      lex? select.toText = some ([keyWord "select", .operator ['*'], keyWord "from", .name table,
        keyWord "where"] ++ select.condition.tokens) ∧
      (∀ r, Derives .disjunction select.condition.tokens r ↔ r = select.condition.reading) ∧
      List.Forall₂ StringToken.StandsFor (strings select.condition.tokens)
        (root.predicates.flatMap fun p => (conditions p).texts) ∧
      ∀ row, select.condition.reading.truth row =
        root.truth fun p => (conditions p).reading.truth row := by
  obtain ⟨root, condition, hroot, rfl, hcompiles, hmapped⟩ := compile_eq_ok h
  obtain ⟨conditions, hconditions⟩ := exists_leaves now hmapped
  rw [Tree.predicates, hroot] at hfinite
  have hwritable : condition.IsWritable := hcompiles.isWritable hfinite
  have hderives : Derives .disjunction condition.tokens condition.reading :=
    (condition.derives hwritable).disjunction
  refine ⟨root, conditions, hroot, hconditions, Select.lex?_toText hwritable, fun r => ⟨?_, ?_⟩,
    ?_, ?_⟩
  · intro hr
    exact hderives.unique hr
  · rintro rfl
    exact hderives
  · rw [Condition.strings_tokens, hcompiles.texts_eq hconditions, List.forall₂_map_left_iff,
      List.forall₂_same]
    exact fun t _ => StringToken.standsFor_ofText t
  · intro row
    have hleaf : (fun p => (conditions p).reading.truth row) =
        fun p => (conditions p).truth row.ofTokens := by
      funext p
      exact Condition.truth_reading row (conditions p)
    rw [Condition.truth_reading, hleaf]
    exact hcompiles.truth hconditions row.ofTokens

/-- A tree in which a name and a value try to end their quotes. -/
def quotingTree : Tree :=
  ⟨some (.join .and
    (.join .or (.plain "name" .equal (.text "a' OR 'a' = 'a"))
      (.plain "a\" OR \"a" .notEqual (.text "b*")))
    (.plain "state" .equal (.integer (-1))))⟩

/-- They stay one token each, and the disjunction keeps its parentheses. -/
theorem compile_readBack_quotingTree :
    ∃ select lists,
      ({} : Compiler).compile ⟨20000, 12, 0, 0⟩ "hosts" quotingTree = .ok (select, lists) ∧
      lex? select.toText = some [keyWord "select", .operator ['*'], keyWord "from", .name "hosts",
        keyWord "where", .mark '(', .name "name", .operator "=",
        .string (.escaped "a\\' OR \\'a\\' = \\'a"), keyWord "or", .name "a\" OR \"a",
        keyWord "not", keyWord "like", .string (.plain "b%"), .mark ')', keyWord "and",
        .name "state", .operator "=", .operator ['-'], .number "1"] := by
  refine ⟨_, _, rfl, ?_⟩
  have hcompiled : ({} : Compiler).compile ⟨20000, 12, 0, 0⟩ "hosts" quotingTree = .ok (_, _) := rfl
  have hfinite : ∀ p ∈ quotingTree.predicates, ∀ x, p.value = .float x → x.isFinite = true := by
    intro p hp x hx
    simp only [quotingTree, Tree.predicates, Option.elim_some, Node.predicates, Node.plain,
      List.cons_append, List.nil_append, List.mem_cons, List.not_mem_nil, or_false] at hp
    rcases hp with rfl | rfl | rfl <;> cases hx
  obtain ⟨root, conditions, -, -, hlex, -⟩ := compile_readBack hcompiled hfinite
  exact hlex

end Compiler

end MonitorControl.Sql
