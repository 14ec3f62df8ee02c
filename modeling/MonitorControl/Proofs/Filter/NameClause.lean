/-
Clauses about a name, written out and read back.

A clause such as `Service Name Contains 'web'` names a domain, an attribute, an
operator and a value in single quotes. Every step of reading takes one of these off
the front and trims what is left, and the value is only ever at the end; so nothing
in it is looked at before its quotes come off, and it may be any text without the
quote itself: keywords, operators, double quotes, white space, or nothing.

That a query of several clauses is cut between them and nowhere else is a matter of
the scan alone: up to its value a clause is quiet, and the value is quoted.
-/
import MonitorControl.Filter.Monitoring
import MonitorControl.Proofs.Filter.Condition.Text
import MonitorControl.Proofs.Filter.Reading
import MonitorControl.Proofs.Query.Quiet

set_option autoImplicit false

namespace MonitorControl

open Text

/-! ## Clauses -/

/-- Whose name a clause is about. -/
inductive NameOwner where
  | host
  | service
  deriving DecidableEq, Repr

namespace NameOwner

/-- The word for the owner in a query. -/
def label : NameOwner → Text
  | .host => "Host"
  | .service => "Service"

/-- The column that holds the name. -/
def field : NameOwner → Text
  | .host => "host_name"
  | .service => "service_description"

/-- The domain of the owner. -/
def domain : NameOwner → Domain
  | .host => .host
  | .service => .service

end NameOwner

/-- **A clause about a name.** The value is quoted, so it may hold anything but the quotation
mark. -/
structure NameClause where
  owner : NameOwner
  operator : TextOperator
  value : Text
  unmarked : '\'' ∉ value
  deriving DecidableEq, Repr

namespace NameClause

/-- The operator and the value. -/
def condition (x : NameClause) : Text := x.operator.token ++ ' ' :: x.value.inSingleQuotes

/-- The clause without its label. -/
def body (x : NameClause) : Text := "Name" ++ ' ' :: x.condition

/-- **The text of a clause.** -/
def text (x : NameClause) : Text := x.owner.label ++ ' ' :: x.body

/-- What a clause compares with: a star stands on each side of the value on which the operator lets
more text stand. -/
def pattern (x : NameClause) : Text :=
  (if x.operator ∈ [.endsWith, .contains, .matching] then ['*'] else []) ++ x.value ++
    (if x.operator ∈ [.startsWith, .contains, .matching] then ['*'] else [])

/-- How a clause compares. -/
def comparison (x : NameClause) : Comparison :=
  if x.operator ∈ [.isNot, .notEqual] then .notEqual else .equal

/-- **The leaf that a clause means.** -/
def leaf (x : NameClause) : Node := .plain x.owner.field x.comparison (.text x.pattern)

/-! ## Reading a condition -/

theorem decorate_eq (x : NameClause) : x.operator.decorate x.value = x.pattern := by
  obtain ⟨owner, operator, value, -⟩ := x
  cases operator <;> simp [TextOperator.decorate, pattern]

theorem comparison_eq (x : NameClause) : x.operator.comparison = x.comparison := by
  obtain ⟨owner, operator, value, -⟩ := x
  cases operator <;> rfl

/-- What follows an operator is a space and a quote, so no longer operator is read. -/
theorem readToken?_condition (x : NameClause) :
    readToken? TextOperator.table x.condition = some (x.operator, x.value.inSingleQuotes) := by
  have hquote : startsWith x.value.inSingleQuotes "Not" = false := by
    rw [← Bool.not_eq_true, startsWith_iff]
    intro h
    exact absurd (List.cons_prefix_cons.1 h).1 (by decide)
  have hsame : sameLetters x.operator.token x.operator.token = true := beq_self_eq_true _
  rw [condition, TextOperator.readToken?_table hsame fun _ => hquote,
    (isTrimmed_inSingleQuotes x.value).trim_eq]

theorem read?_condition (x : NameClause) :
    TextCondition.read? x.condition = some (x.operator, some x.pattern) := by
  have hne : ¬ x.value.inSingleQuotes.isEmpty = true := by
    rw [List.isEmpty_iff]
    exact inSingleQuotes_ne_nil x.value
  rw [TextCondition.read?, readToken?_condition, Option.map_some]
  show some (x.operator, if x.value.inSingleQuotes.isEmpty = true then none
    else some (x.operator.decorate x.value.inSingleQuotes.unquote)) =
      some (x.operator, some x.pattern)
  rw [if_neg hne, unquote_inSingleQuotes, decorate_eq]

/-! ## Reading a clause -/

theorem isTrimmed_condition (x : NameClause) : IsTrimmed x.condition := by
  obtain ⟨c, hfirst, hc⟩ : ∃ c ∈ x.operator.token.head?, isBlank c = false := by
    cases x.operator <;> exact ⟨_, rfl, rfl⟩
  exact .spaced hfirst hc (inSingleQuotes_ne_nil _) (isTrimmed_inSingleQuotes x.value)

theorem condition_ne_nil (x : NameClause) : x.condition ≠ [] :=
  List.append_ne_nil_of_right_ne_nil _ (List.cons_ne_nil _ _)

theorem isTrimmed_body (x : NameClause) : IsTrimmed x.body :=
  .spaced rfl rfl x.condition_ne_nil x.isTrimmed_condition

theorem body_ne_nil (x : NameClause) : x.body ≠ [] := List.cons_ne_nil _ _

theorem isTrimmed_text (x : NameClause) : IsTrimmed x.text := by
  obtain ⟨c, hfirst, hc⟩ : ∃ c ∈ x.owner.label.head?, isBlank c = false := by
    cases x.owner <;> exact ⟨_, rfl, rfl⟩
  exact .spaced hfirst hc x.body_ne_nil x.isTrimmed_body

theorem label_domain (owner : NameOwner) : owner.domain.label = owner.label := by
  cases owner <;> rfl

theorem startsWith_label (x : NameClause) : x.text.trim.startsWith x.owner.label = true := by
  rw [x.isTrimmed_text.trim_eq]
  exact startsWith_append _ _

/-- **A clause goes to the domain that it names.** -/
theorem resolves (x : NameClause) : Filter.monitoring.Resolves x.text x.owner.domain := by
  have hhandles : x.owner.domain.handles x.text = true := by
    rw [Domain.handles, label_domain]
    exact x.startsWith_label
  obtain ⟨owner, operator, value, unmarked⟩ := x
  cases owner with
  | host => exact .named (List.nil_append _).symm hhandles (fun d hd => absurd hd List.not_mem_nil)
  | service =>
    -- hosts are tried before services
    have hdomains : Filter.monitoring.domains = [.host] ++ .service :: [] := rfl
    refine .named hdomains hhandles fun earlier hearlier => ?_
    obtain rfl := List.mem_singleton.1 hearlier
    rw [Domain.handles, (isTrimmed_text _).trim_eq]
    rfl

theorem withoutLabel_text (x : NameClause) : x.owner.domain.withoutLabel x.text = x.body := by
  rw [Domain.withoutLabel, x.isTrimmed_text.trim_eq, label_domain, text, afterHead?_append,
    trim_cons_of_blank rfl, x.isTrimmed_body.trim_eq, Option.getD_some]

/-- The attribute that is tried first is the name, and of its words only `Name` begins a clause. -/
theorem exists_attribute (owner : NameOwner) :
    ∃ attr others, owner.domain.attributes = attr :: others ∧ attr.condition = .text ∧
      attr.field = owner.field ∧
      ∀ rest, attr.words.find? (Text.startsWith ("Name" ++ ' ' :: rest)) = some "Name".toList := by
  cases owner <;> exact ⟨_, _, rfl, rfl, rfl, fun _ => rfl⟩

/-- **The domain of a clause reads it to its leaf.** -/
theorem node?_text (now : Moment) (x : NameClause) :
    x.owner.domain.node? now x.text = some x.leaf := by
  obtain ⟨attr, others, hattributes, hcondition, hfield, hword⟩ := exists_attribute x.owner
  have hpart : attr.conditionPart? x.body = some x.condition := by
    rw [Attribute.conditionPart?, Attribute.matchingWord?, x.isTrimmed_body.trim_eq, body, hword]
    show afterHead? ("Name" ++ ' ' :: x.condition) "Name" = some x.condition
    rw [afterHead?_append, trim_cons_of_blank rfl, x.isTrimmed_condition.trim_eq]
  have haccepts : attr.accepts now x.body = true := by
    rw [Attribute.accepts, hpart, hcondition, Option.any_some]
    show TextCondition.accepts x.condition = true
    rw [TextCondition.accepts, read?_condition]
  have hnode : attr.node? now x.body = some x.leaf := by
    rw [Attribute.node?, if_pos haccepts, hpart, hcondition, hfield, Option.bind_some]
    show TextCondition.node? x.condition x.owner.field = some x.leaf
    rw [TextCondition.node?, read?_condition, leaf, ← comparison_eq]
    rfl
  -- the first attribute accepts, so the others are not asked
  have hfind : (attr :: others).find? (·.accepts now x.body) = some attr :=
    List.find?_cons_of_pos haccepts
  rw [Domain.node?, withoutLabel_text, hattributes]
  show ((attr :: others).find? (·.accepts now x.body)).bind (·.node? now x.body) = some x.leaf
  rw [hfind, Option.bind_some, hnode]

/-! ## Cutting a query of clauses -/

/-- The clauses from `x` on. -/
def queryFrom (x : NameClause) : List (Conjunction × NameClause) → Text
  | [] => x.text
  | (k, y) :: rest => x.text ++ ' ' :: (k.keyword ++ ' ' :: queryFrom y rest)

/-- **The query of a list of clauses**: their texts, with the conjunctions between them. -/
def query (list : Conjoined NameClause) : Text := queryFrom list.first list.rest

/-- The division of `queryFrom`: a space goes to the clause it stands beside. -/
def divisionFrom (x : NameClause) : List (Conjunction × NameClause) → Division
  | [] => .last x.text
  | (k, y) :: rest =>
    .cut (x.text ++ [' ']) k.keyword k k.spells_keyword ((divisionFrom y rest).grow ' ')

/-- What stands before the quoted value. -/
def lead (x : NameClause) : Text :=
  x.owner.label ++ ' ' :: ("Name" ++ ' ' :: (x.operator.token ++ [' ']))

theorem text_eq (x : NameClause) : x.text = x.lead ++ '\'' :: (x.value ++ ['\'']) := by
  simp only [text, body, condition, inSingleQuotes, lead, List.append_assoc, List.cons_append,
    List.nil_append]

/-- Every `a` and `o` before the value of a clause stands inside a word. -/
theorem isQuiet_lead (x : NameClause) : isQuiet false x.lead = true := by
  obtain ⟨owner, operator, value, -⟩ := x
  cases owner <;> cases operator <;> rfl

/-- **A clause is scanned as it is.** -/
theorem scans_text (x : NameClause) {t : Text} {d : Division} (h : Scans none false t d) :
    Scans none false (x.text ++ t) (d.prepend x.text) := by
  have hscan := Scans.quoted (q := '\'') rfl x.isQuiet_lead x.unmarked h
  rw [x.text_eq, List.append_assoc, List.cons_append, List.append_assoc, List.singleton_append]
  exact hscan

theorem scans_queryFrom (x : NameClause) (rest : List (Conjunction × NameClause)) :
    Scans none false (queryFrom x rest) (divisionFrom x rest) := by
  induction rest generalizing x with
  | nil =>
    have hscan := x.scans_text (.nil none false)
    rw [List.append_nil, Division.prepend, List.append_nil] at hscan
    exact hscan
  | cons entry rest ih =>
    obtain ⟨k, y⟩ := entry
    exact x.scans_text (.conjunction k (ih y))

/-- The pieces of a query of clauses are the clauses, up to the spaces beside the keywords. -/
theorem map_trim_pieces (x : NameClause) (rest : List (Conjunction × NameClause)) :
    (divisionFrom x rest).pieces.map (fun p => (p.raw.trim, p.conjunction)) =
      (Conjoined.followedFrom none x rest).map fun (y, k) => (y.text, k) := by
  induction rest generalizing x with
  | nil =>
    show [(x.text.trim, none)] = [(x.text, none)]
    rw [x.isTrimmed_text.trim_eq]
  | cons entry rest ih =>
    obtain ⟨k, y⟩ := entry
    have htrim : trim (x.text ++ [' ']) = x.text :=
      trim_padded (fun c hc => absurd hc List.not_mem_nil)
        (fun c hc => List.mem_singleton.1 hc ▸ rfl) x.isTrimmed_text
    rw [divisionFrom, Division.pieces, List.map_cons, htrim, Division.pieces_grow,
      Piece.map_trim_grow rfl, ih, Conjoined.followedFrom, List.map_cons]

/-- **The segments of a query of clauses are the clauses.** -/
theorem map_segments_query (list : Conjoined NameClause) :
    (segments (query list)).map (fun s => (s.text, s.conjunction)) =
      (list.followed none).map fun (x, k) => (x.text, k) := by
  rw [segments, map_segmentsFrom, pieces, query, ← (scans_queryFrom list.first list.rest).pieces_eq]
  exact map_trim_pieces list.first list.rest

theorem text_ne_nil (x : NameClause) : x.text ≠ [] :=
  List.append_ne_nil_of_right_ne_nil _ (List.cons_ne_nil _ _)

/-! ## Main result -/

/-- **Clauses about names are read back exactly**, whatever their values hold: the query of a list
of clauses reads to the comb of their leaves, and nothing is left out. -/
theorem parse_query (now : Moment) (list : Conjoined NameClause) :
    Filter.monitoring.parse now (query list) = ⟨⟨some (Node.comb (list.map leaf))⟩, []⟩ := by
  have hreads : Filter.monitoring.Reads now (segments (query list))
      ((list.followed none).map fun (x, k) => (x.leaf, k)) [] :=
    Filter.reads_of_map_eq text_ne_nil (fun x => ⟨x.owner.domain, x.resolves, x.node?_text now⟩)
      (map_segments_query list)
  rw [hreads.parse_eq, ← Conjoined.followed_map, foldl_attach]

/-- The text of such a query. -/
example :
    query ⟨⟨.host, .is, "a OR b", by decide⟩, [(.and, ⟨.service, .isNot, "\"", by decide⟩)]⟩ =
      "Host Name Is 'a OR b' AND Service Name Is Not '\"'" := by
  decide

end NameClause

end MonitorControl
