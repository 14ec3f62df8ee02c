/-
Which comparisons the text of a query tells apart.

The text of a query is read back as its table and the reading of its condition, so two
queries with one text have both in common. In a reading a comparison stands with its
operator and its value; a match has only kept whether it is negated, and its pattern.
The value can be had back from either: the escapes of a string and those of a pattern
are codes that are read from the left, one character at a time.

So the six operators give six texts for a value without a star. For a value with one
they give two, as all but the inequality become the same match.
-/
import MonitorControl.Proofs.Sql.ReadBack
import MonitorControl.Proofs.Sql.Wildcards

set_option autoImplicit false

namespace MonitorControl.Sql

/-! ## Codes that are read from the left -/

/-- **A text is determined by the codes of its characters**, if the code of the first character
and the rest can be read off. The induction is on one of the texts; the other is read along. -/
theorem flatMap_injective {code : Char → Text} {read? : Text → Option (Char × Text)}
    (hnil : read? [] = none) (hread : ∀ c rest, read? (code c ++ rest) = some (c, rest)) :
    Function.Injective fun t : Text => t.flatMap code := by
  intro t u h
  change t.flatMap code = u.flatMap code at h
  induction t generalizing u with
  | nil =>
    cases u with
    | nil => rfl
    | cons d u =>
      have hu := hread d (u.flatMap code)
      rw [← List.flatMap_cons, ← h, List.flatMap_nil, hnil] at hu
      cases hu
  | cons c t ih =>
    have ht := hread c (t.flatMap code)
    rw [← List.flatMap_cons, h] at ht
    cases u with
    | nil =>
      rw [List.flatMap_nil, hnil] at ht
      cases ht
    | cons d u =>
      rw [List.flatMap_cons, hread, Option.some.injEq, Prod.mk.injEq] at ht
      obtain ⟨rfl, hrest⟩ := ht
      rw [ih hrest.symm]

/-- The character that a letter behind a backslash was written for. -/
def escapedChar : Char → Char
  | '0' => '\x00'
  | 'b' => '\x08'
  | 't' => '\t'
  | 'z' => '\x1a'
  | 'n' => '\n'
  | 'r' => '\r'
  | c => c

/-- The first character of an escaped text, and what is behind it. -/
def readEscapedChar? : Text → Option (Char × Text)
  | [] => none
  | c :: rest =>
    if c = '\\' then rest.head?.map fun d => (escapedChar d, rest.tail) else some (c, rest)

theorem readEscapedChar?_escapeChar (c : Char) (rest : Text) :
    readEscapedChar? (escapeChar c ++ rest) = some (c, rest) := by
  unfold escapeChar
  split
  case h_10 hslash _ _ _ _ _ _ _ _ => exact if_neg hslash
  all_goals rfl

/-- **A string token has been written for one text.** -/
theorem StringToken.ofText_injective : Function.Injective ofText := by
  intro t u h
  have hescaped : t.flatMap escapeChar = u.flatMap escapeChar := by
    rw [ofText, ofText] at h
    by_cases ht : (t.flatMap escapeChar).contains '\\' = true <;>
      by_cases hu : (u.flatMap escapeChar).contains '\\' = true
    · rw [if_pos ht, if_pos hu] at h
      exact StringToken.escaped.inj h
    · rw [if_pos ht, if_neg hu] at h
      cases h
    · rw [if_neg ht, if_pos hu] at h
      cases h
    · rw [if_neg ht, if_neg hu] at h
      exact StringToken.plain.inj h
  exact flatMap_injective rfl readEscapedChar?_escapeChar hescaped

/-- The first character of the text that a pattern was made of, and the rest of the pattern. -/
def readLikeChar? : Text → Option (Char × Text)
  | [] => none
  | c :: rest =>
    if c = '\\' then rest.head?.map fun d => (d, rest.tail)
    else if c = '%' then some ('*', rest)
    else some (c, rest)

theorem readLikeChar?_likeChar (c : Char) (rest : Text) :
    readLikeChar? (likeChar c ++ rest) = some (c, rest) := by
  unfold likeChar
  by_cases hstar : c = '*'
  · subst hstar
    rfl
  · rw [if_neg (by rwa [beq_iff_eq])]
    by_cases hspecial : (c == '\\' || c == '%' || c == '_') = true
    · rw [if_pos hspecial]
      rfl
    · rw [if_neg hspecial]
      simp only [Bool.or_eq_true, beq_iff_eq, not_or] at hspecial
      exact (if_neg hspecial.1.1).trans (if_neg hspecial.1.2)

/-- **A pattern has been made of one text.** -/
theorem likePattern_injective : Function.Injective likePattern :=
  flatMap_injective rfl readLikeChar?_likeChar

/-! ## Texts of queries -/

/-- **Queries with one text are on one table, and their conditions have one reading.** -/
theorem Select.reading_of_toText {s s' : Select} (hs : s.condition.IsWritable)
    (hs' : s'.condition.IsWritable) (h : s.toText = s'.toText) :
    s.table = s'.table ∧ s.condition.reading = s'.condition.reading := by
  have htokens := lex?_toText hs
  rw [h, lex?_toText hs'] at htokens
  simp only [List.cons_append, List.nil_append, Option.some.injEq, List.cons.injEq,
    Token.name.injEq, true_and] at htokens
  obtain ⟨htable, hcondition⟩ := htokens
  have hderives := (s'.condition.derives hs').disjunction
  rw [hcondition] at hderives
  exact ⟨htable.symm, hderives.unique (s.condition.derives hs).disjunction⟩

/-! ## Comparisons with a text -/

variable {o p : Comparison} {t u : Text}

/-- **Two comparisons with a text come to the same**: their texts are the same, and so are their
operators, or the text has a star and both are inequalities or neither is. -/
def SameComparison (o p : Comparison) (t u : Text) : Prop :=
  t = u ∧ (o = p ∨ isPattern t = true ∧ (o = .notEqual ↔ p = .notEqual))

theorem isWritable_starredCondition (column : Text) (o : Comparison) (t : Text) :
    (starredCondition column o t).IsWritable := by
  unfold starredCondition
  split <;> exact trivial

/-- The condition itself keeps no more of the operator. -/
theorem SameComparison.starredCondition_eq (h : SameComparison o p t u) (column : Text) :
    starredCondition column o t = starredCondition column p u := by
  obtain ⟨rfl, rfl | ⟨hstar, hnegated⟩⟩ := h
  · rfl
  · have hsame : (o == .notEqual) = (p == .notEqual) := by
      rw [Bool.eq_iff_iff, beq_iff_eq, beq_iff_eq]
      exact hnegated
    rw [starredCondition, starredCondition, if_pos hstar, if_pos hstar, hsame]

/-- **What a comparison with a text is read as keeps all there is to tell it by.** -/
theorem sameComparison_of_reading {column : Text}
    (h : (starredCondition column o t).reading = (starredCondition column p u).reading) :
    SameComparison o p t u := by
  unfold starredCondition at h
  by_cases ht : isPattern t = true <;> by_cases hu : isPattern u = true
  · rw [if_pos ht, if_pos hu] at h
    obtain ⟨-, hnegated, hpattern⟩ := Reading.like.inj h
    refine ⟨likePattern_injective (StringToken.ofText_injective hpattern), .inr ⟨ht, ?_⟩⟩
    rwa [Bool.eq_iff_iff, beq_iff_eq, beq_iff_eq] at hnegated
  · -- a match is never read as a comparison
    rw [if_pos ht, if_neg hu] at h
    cases h
  · rw [if_neg ht, if_pos hu] at h
    cases h
  · rw [if_neg ht, if_neg hu] at h
    obtain ⟨-, hoperator, hvalue⟩ := Reading.compare.inj h
    exact ⟨StringToken.ofText_injective (Operand.string.inj hvalue), .inl hoperator⟩

namespace Compiler

variable {compiler : Compiler} {field : Text}

/-- **The SQL of a comparison** of a field with a text. -/
def leafSql (compiler : Compiler) (now : Moment) (table field : Text) (o : Comparison) (t : Text) :
    Except CompileError Text :=
  (compiler.compile now table ⟨some (.plain field o (.text t))⟩).map fun (select, _) => select.toText

theorem leafSql_of_column {column : Text} (now : Moment) (table : Text) (o : Comparison) (t : Text)
    (h : compiler.column field = .ok column) :
    compiler.leafSql now table field o t =
      .ok (Select.toText ⟨table, starredCondition column o t⟩) := by
  rw [leafSql, Node.plain, compile_leaf now table (predicate_text now o t h)]
  rfl

theorem leafSql_of_column_error {e : CompileError} (now : Moment) (table : Text) (o : Comparison)
    (t : Text) (h : compiler.column field = .error e) :
    compiler.leafSql now table field o t = .error e := by
  have hpredicate : compiler.predicate now { field, operator := o, value := .text t } = .error e := by
    rw [predicate, h]
    rfl
  rw [leafSql, compile, Node.plain]
  show (compiler.node now (.leaf _) >>= _).map _ = _
  rw [node, hpredicate]
  rfl

/-! ## Main result -/

/-- **When two comparisons of a field have the same SQL.** A comparison of a field with a text has
SQL exactly if the field has a column. Where it has, two comparisons have the same SQL exactly if
they compare with the same text, and with the same operator or, the text having a star, with two
operators of which both or neither is `!=`. So for a text without a star the six operators have six
different texts, and for one with a star they have two. -/
theorem leafSql_eq_iff (compiler : Compiler) (now : Moment) (table field : Text) :
    (∀ o t, (compiler.leafSql now table field o t).isOk = (compiler.column field).isOk) ∧
      ((compiler.column field).isOk = true → ∀ o p t u,
        compiler.leafSql now table field o t = compiler.leafSql now table field p u ↔
          SameComparison o p t u) := by
  cases hcolumn : compiler.column field with
  | error e =>
    refine ⟨fun o t => ?_, fun hok => ?_⟩
    · rw [leafSql_of_column_error now table o t hcolumn]
    · cases hok
  | ok column =>
    refine ⟨fun o t => ?_, fun _ o p t u => ?_⟩
    · rw [leafSql_of_column now table o t hcolumn]
      rfl
    · rw [leafSql_of_column now table o t hcolumn, leafSql_of_column now table p u hcolumn,
        Except.ok.injEq]
      constructor
      · intro htext
        exact sameComparison_of_reading (Select.reading_of_toText
          (isWritable_starredCondition column o t) (isWritable_starredCondition column p u) htext).2
      · intro hsame
        rw [hsame.starredCondition_eq column]

/-- A field with a column in strict mode: the six operators are told apart for a name, and a pattern
is told from an inequality with it alone. -/
theorem leafSql_eq_iff_hostName :
    let compiler : Compiler := { columns := [("host_name", "name")], strict := true }
    let sql := compiler.leafSql ⟨20000, 12, 0, 0⟩ "hosts" "host_name"
    (compiler.column "host_name").isOk = true ∧
      (∀ o p, sql o "web1" = sql p "web1" → o = p) ∧
      sql .greater "web*" ≠ sql .notEqual "web*" ∧
      sql .lessEqual "web*" = sql .equal "web*" := by
  intro compiler sql
  have hcolumn : (compiler.column "host_name").isOk = true := rfl
  have hsql := (leafSql_eq_iff compiler ⟨20000, 12, 0, 0⟩ "hosts" "host_name").2 hcolumn
  refine ⟨hcolumn, fun o p h => ?_, ?_, ?_⟩
  · obtain ⟨-, rfl | ⟨hstar, -⟩⟩ := (hsql o p "web1" "web1").1 h
    · rfl
    · exact absurd hstar (by decide)
  · rw [Ne, hsql]
    rintro ⟨-, hoperator | ⟨-, hnegated⟩⟩
    · cases hoperator
    · cases hnegated.2 rfl
  · exact (hsql .lessEqual .equal "web*" "web*").2 ⟨rfl, .inr ⟨by decide, by decide⟩⟩

/-- **Before a star every operator but `!=` is lost**: what is to be greater than the text is only
looked for as a pattern, and so is what is to be equal to it. -/
theorem leafSql_greater_starred :
    let sql := ({} : Compiler).leafSql ⟨20000, 12, 0, 0⟩ "objects" "host_name"
    sql .greater "web*" = sql .equal "web*" ∧
      sql .greater "web*" =
        .ok "SELECT * FROM \"objects\" WHERE \"host_name\" LIKE 'web%'".toList := by
  decide +kernel

end Compiler

end MonitorControl.Sql
