/-
What leaves a filter can emit.

A leaf comes from one attribute of one domain, and the kind of the attribute's
condition decides what it can be, whatever the query says. `Condition.Emits` lists
the leaves of every kind, and `Filter.parse_emits` says that a tree has no others,
for any filter. The filter for a monitoring system has a dozen attributes; going
through them gives its leaves in full (`Emitted`).

Every one of these leaves is fit for the backends: its field is one of a known few,
and a time names a moment. So a compiler that knows the fields never fails on one,
and never has to fall back to the text of a time.
-/
import MonitorControl.Filter.Monitoring
import MonitorControl.Proofs.Filter.Reading
import MonitorControl.Proofs.Sql.Meaning
import MonitorControl.Proofs.Time.Stamp

set_option autoImplicit false

namespace MonitorControl

open Text

/-! ## Heads -/

theorem mem_of_readToken?_eq_some {α : Type} {table : List (Text × α)} {query rest : Text}
    {meaning : α} (h : readToken? table query = some (meaning, rest)) :
    meaning ∈ table.map Prod.snd := by
  simp only [readToken?, Option.bind_eq_bind, Option.bind_eq_some_iff, Option.pure_def,
    Option.some.injEq, Prod.mk.injEq] at h
  obtain ⟨token, -, entry, hentry, rest', -, rfl, -⟩ := h
  exact List.mem_map_of_mem (List.mem_of_find?_eq_some hentry)

theorem mem_of_readFirst?_eq_some {α : Type} {table : List (Text × α)} {t rest : Text}
    {meaning : α} (h : readFirst? table t = some (meaning, rest)) :
    meaning ∈ table.map Prod.snd := by
  rw [readFirst?] at h
  obtain ⟨entry, hentry, hread⟩ := List.exists_of_findSome?_eq_some h
  obtain ⟨rest', -, hmeaning⟩ := Option.map_eq_some_iff.1 hread
  rw [Prod.mk.injEq] at hmeaning
  rw [← hmeaning.1]
  exact List.mem_map_of_mem hentry

/-! ## Kinds of condition -/

/-- **A leaf of a range of time** on a field: a comparison that the range knows, with a phrase that
names a moment. -/
structure TimeRange.Emits (range : TimeRange) (now : Moment) (field : Text) (p : Predicate) :
    Prop where
  field_eq : p.field = field
  operator_mem : p.operator ∈ range.table.map Prod.snd
  context_eq : p.context = .time
  resolves : ∃ phrase m, p.value = .text phrase ∧ resolvePhrase phrase now = .moment m

/-- **The leaves of a kind of condition** on a field. -/
inductive Condition.Emits (now : Moment) (field : Text) : Condition → Predicate → Prop where
  | text (operator : TextOperator) (value : Text) :
    Emits now field .text { field, operator := operator.comparison, value := .text value }
  | number {operator : Comparison} (value : Value)
    (hoperator : operator ∈ NumberCondition.table.map Prod.snd) :
    Emits now field .number { field, operator, value }
  | state {kind : StateKind} {operator : Comparison} {code : Int}
    (hoperator : operator ∈ StateCondition.table.map Prod.snd)
    (hcode : code ∈ kind.states.map Prod.snd) :
    Emits now field (.state kind) { field, operator, value := .integer code }
  | change {kind : StateKind} {p : Predicate}
    (htime : TimeRange.standard.Emits now kind.changeColumn p) : Emits now field (.state kind) p
  | flag {table : FlagTable} {column : Text} {value : Int}
    (hcolumn : column ∈ table.flags.map Prod.fst) (hvalue : value = 0 ∨ value = 1) :
    Emits now field (.flag table) { field := column, operator := .equal, value := .integer value }
  | flagTime {table : FlagTable} {column : Text} {p : Predicate}
    (hcolumn : table.timeColumn = some column)
    (htime : TimeRange.standard.Emits now column p) : Emits now field (.flag table) p
  | time {range : TimeRange} {p : Predicate} (htime : range.Emits now field p) :
    Emits now field (.time range) p

section

variable {now : Moment} {query field : Text} {node : Node}

theorem TimeRange.emits_of_node? {range : TimeRange} (h : range.node? now query field = some node) :
    ∀ p ∈ node.predicates, range.Emits now field p := by
  obtain ⟨⟨comparison, phrase⟩, hread, rfl⟩ := Option.map_eq_some_iff.1 h
  rw [read?, Option.filter_eq_some_iff] at hread
  obtain ⟨hphrase, htime⟩ := hread
  intro p hp
  obtain rfl := List.mem_singleton.1 hp
  refine ⟨rfl, ?_, rfl, phrase, ?_⟩
  · -- the comparison was read from the table of the range
    simp only [phrase?, Option.bind_eq_bind, Option.bind_eq_some_iff] at hphrase
    obtain ⟨⟨comparison', rest⟩, htoken, hvalue⟩ := hphrase
    split at hvalue
    · cases hvalue
    · rw [Option.some.injEq, Prod.mk.injEq] at hvalue
      rw [← hvalue.1]
      exact mem_of_readToken?_eq_some htoken
  · obtain ⟨m, hm⟩ := isTimePhrase_iff.1 htime
    exact ⟨m, rfl, hm⟩

theorem StateCondition.emits_of_node? {kind : StateKind}
    (h : StateCondition.node? kind now query field = some node) :
    ∀ p ∈ node.predicates, Condition.Emits now field (.state kind) p := by
  simp only [node?, Option.bind_eq_bind, Option.bind_eq_some_iff] at h
  obtain ⟨⟨comparison, code, range⟩, hread, hnode⟩ := h
  rw [read?, Option.filter_eq_some_iff] at hread
  have hsplit := hread.1
  simp only [split?, Option.bind_eq_bind, Option.bind_eq_some_iff, Option.pure_def,
    Option.some.injEq, Prod.mk.injEq] at hsplit
  obtain ⟨⟨comparison', rest⟩, htoken, ⟨code', range'⟩, hstate, rfl, rfl, rfl⟩ := hsplit
  have hleaf : Condition.Emits now field (.state kind)
      { field, operator := comparison', value := .integer code' } :=
    .state (mem_of_readToken?_eq_some htoken) (mem_of_readFirst?_eq_some hstate)
  intro p hp
  -- without a text behind the state there is one leaf, and else a second one for the time
  split at hnode
  · obtain rfl := Option.some.inj hnode
    obtain rfl := List.mem_singleton.1 hp
    exact hleaf
  · simp only [Option.bind_eq_some_iff, Option.pure_def, Option.some.injEq] at hnode
    obtain ⟨change, hchange, rfl⟩ := hnode
    rcases List.mem_append.1 hp with hp | hp
    · obtain rfl := List.mem_singleton.1 hp
      exact hleaf
    · exact .change (TimeRange.emits_of_node? hchange p hp)

theorem FlagTable.split?_eq_some {table : FlagTable} {column range : Text} {value : Int}
    (h : table.split? query = some (column, value, range)) :
    column ∈ table.flags.map Prod.fst ∧ (value = 0 ∨ value = 1) := by
  simp only [split?, Option.bind_eq_bind, Option.bind_eq_some_iff, Option.pure_def,
    Option.some.injEq, Prod.mk.injEq] at h
  obtain ⟨token, -, rest, -, ⟨column', range'⟩, hlabel, rfl, hvalue, -⟩ := h
  constructor
  · have hmem := mem_of_readFirst?_eq_some hlabel
    rwa [columns, List.map_map] at hmem
  · rw [← hvalue]
    by_cases htoken : (token == table.negative) = true
    · exact .inl (if_pos htoken)
    · exact .inr (if_neg htoken)

theorem FlagTable.emits_of_node? {table : FlagTable} (h : table.node? now query = some node) :
    ∀ p ∈ node.predicates, Condition.Emits now field (.flag table) p := by
  simp only [node?, Option.bind_eq_bind, Option.bind_eq_some_iff] at h
  obtain ⟨⟨column, value, range⟩, hsplit, hnode⟩ := h
  obtain ⟨hcolumn, hvalue⟩ := split?_eq_some hsplit
  intro p hp
  split at hnode
  · obtain rfl := Option.some.inj hnode
    obtain rfl := List.mem_singleton.1 hp
    exact .flag hcolumn hvalue
  · simp only [Option.bind_eq_some_iff, Option.pure_def, Option.some.injEq] at hnode
    obtain ⟨timeColumn, htimeColumn, time, htime, rfl⟩ := hnode
    rcases List.mem_append.1 hp with hp | hp
    · exact .flagTime htimeColumn (TimeRange.emits_of_node? htime p hp)
    · obtain rfl := List.mem_singleton.1 hp
      exact .flag hcolumn hvalue

/-- **A condition gives the leaves of its kind and no others.** -/
theorem Condition.emits_of_node? {condition : Condition}
    (h : condition.node? now query field = some node) :
    ∀ p ∈ node.predicates, condition.Emits now field p := by
  cases condition with
  | text =>
    simp only [Condition.node?, TextCondition.node?, Option.bind_eq_bind, Option.bind_eq_some_iff,
      Option.pure_def, Option.some.injEq] at h
    obtain ⟨⟨operator, value⟩, -, value, -, rfl⟩ := h
    intro p hp
    obtain rfl := List.mem_singleton.1 hp
    exact .text operator value
  | number =>
    obtain ⟨⟨comparison, value⟩, hread, rfl⟩ := Option.map_eq_some_iff.1 h
    simp only [NumberCondition.read?, Option.bind_eq_bind, Option.bind_eq_some_iff,
      Option.pure_def, Option.some.injEq, Prod.mk.injEq] at hread
    obtain ⟨⟨comparison', rest⟩, htoken, value', -, rfl, rfl⟩ := hread
    intro p hp
    obtain rfl := List.mem_singleton.1 hp
    exact .number value' (mem_of_readToken?_eq_some htoken)
  | state kind => exact StateCondition.emits_of_node? h
  | flag table => exact FlagTable.emits_of_node? h
  | time range =>
    intro p hp
    exact .time (TimeRange.emits_of_node? h p hp)

end

/-! ## Filters -/

/-- A leaf of a domain comes from one of its attributes. -/
theorem Domain.emits_of_node? {domain : Domain} {now : Moment} {query : Text} {node : Node}
    (h : domain.node? now query = some node) :
    ∀ p ∈ node.predicates, ∃ attr ∈ domain.attributes, attr.condition.Emits now attr.field p := by
  obtain ⟨attr, hattr, hnode⟩ := Option.bind_eq_some_iff.1 h
  intro p hp
  refine ⟨attr, List.mem_of_find?_eq_some hattr, ?_⟩
  rw [Attribute.node?] at hnode
  split at hnode
  · obtain ⟨part, -, hpart⟩ := Option.bind_eq_some_iff.1 hnode
    exact Condition.emits_of_node? hpart p hp
  · cases hnode

namespace Filter

variable {filter : Filter} {now : Moment}

theorem Resolves.mem {text : Text} {domain : Domain} (h : filter.Resolves text domain) :
    domain ∈ filter.domains := by
  cases h with
  | named hdomains =>
    rw [hdomains]
    exact List.mem_append_right _ List.mem_cons_self
  | byDefault hnone hdefault =>
    rw [defaultDomain?] at hdefault
    split at hdefault
    · exact List.mem_of_getElem? hdefault
    · exact List.mem_of_mem_head? hdefault

/-- Every leaf that a reading hands out comes from an attribute of a domain. -/
theorem Reads.emits {segs : List Segment} {accepted : List (Node × Option Conjunction)}
    {ignored : List Text} (h : filter.Reads now segs accepted ignored) :
    ∀ entry ∈ accepted, ∀ p ∈ entry.1.predicates, ∃ domain ∈ filter.domains,
      ∃ attr ∈ domain.attributes, attr.condition.Emits now attr.field p := by
  induction h with
  | nil => exact fun entry hentry => absurd hentry List.not_mem_nil
  | empty _ _ ih => exact ih
  | accepted _ hdomain hnode _ ih =>
    intro entry hentry p hp
    rcases List.mem_cons.1 hentry with rfl | hrest
    · exact ⟨_, hdomain.mem, Domain.emits_of_node? hnode p hp⟩
    · exact ih entry hrest p hp
  | ignored _ _ _ ih => exact ih

/-- **Every leaf of a tree comes from an attribute of a domain**, for any filter and any query. -/
theorem parse_emits (filter : Filter) (now : Moment) (query : Text) :
    ∀ p ∈ (filter.parse now query).tree.predicates, ∃ domain ∈ filter.domains,
      ∃ attr ∈ domain.attributes, attr.condition.Emits now attr.field p := by
  obtain ⟨accepted, ignored, hreads⟩ := exists_reads filter now (segments query)
  rw [hreads.parse_eq]
  intro p hp
  rw [Tree.predicates_foldl_attach] at hp
  rcases List.mem_append.1 hp with hempty | hp
  · exact absurd hempty List.not_mem_nil
  · obtain ⟨entry, hentry, hp⟩ := List.mem_flatMap.1 hp
    exact hreads.emits entry hentry p hp

end Filter

/-! ## The filter for a monitoring system -/

/-- The column with a state. -/
def StateKind.column : StateKind → Text
  | .host => "host_state"
  | .service => "service_state"

namespace Emitted

/-- The columns with names. -/
def nameColumns : List Text := ["host_name", "service_description"]

/-- The columns with flags, as the tables of flags register them. -/
def flagColumns : List Text :=
  Domain.hostFlags.flags.map Prod.fst ++ Domain.serviceFlags.flags.map Prod.fst

/-- The columns with times. -/
def timeColumns : List Text :=
  ["host_last_check", "host_next_check", "host_last_state_change", "service_last_check",
    "service_next_check", "service_last_state_change"]

/-- The columns that a leaf can be on. -/
def columns : List Text :=
  nameColumns ++ [StateKind.host.column, StateKind.service.column] ++ flagColumns ++ timeColumns

end Emitted

open Emitted in
/-- **The leaves of the monitoring filter**: the name of a host or a service, a state with a code of
its own kind, a flag that is set or not, and a time that names a moment at present. -/
inductive Emitted (now : Moment) : Predicate → Prop where
  | name {field : Text} {operator : Comparison} (value : Text) (hfield : field ∈ nameColumns)
    (hoperator : operator = .equal ∨ operator = .notEqual) :
    Emitted now { field, operator, value := .text value, context := .plain }
  | state (kind : StateKind) {operator : Comparison} {code : Int}
    (hoperator : operator = .equal ∨ operator = .notEqual)
    (hcode : code ∈ kind.states.map Prod.snd) :
    Emitted now { field := kind.column, operator, value := .integer code, context := .plain }
  | flag {field : Text} {value : Int} (hfield : field ∈ flagColumns)
    (hvalue : value = 0 ∨ value = 1) :
    Emitted now { field, operator := .equal, value := .integer value, context := .plain }
  | time {field : Text} {operator : Comparison} {phrase : Text} {m : Moment}
    (hfield : field ∈ timeColumns) (hoperator : operator = .greaterEqual ∨ operator = .lessEqual)
    (hresolves : resolvePhrase phrase now = .moment m) :
    Emitted now { field, operator, value := .text phrase, context := .time }

namespace Emitted

variable {now : Moment} {p : Predicate}

theorem of_text {field : Text} (hfield : field ∈ nameColumns)
    (h : Condition.Emits now field .text p) : Emitted now p := by
  cases h with
  | text operator value =>
    refine .name value hfield ?_
    cases operator <;> simp [TextOperator.comparison]

theorem of_time {field : Text} {range : TimeRange} (hfield : field ∈ timeColumns)
    (hrange : ∀ operator ∈ range.table.map Prod.snd, operator = .greaterEqual ∨ operator = .lessEqual)
    (h : range.Emits now field p) : Emitted now p := by
  obtain ⟨field', operator, value, context⟩ := p
  obtain ⟨rfl, hoperator, rfl, phrase, m, rfl, hresolves⟩ := h
  exact .time hfield (hrange operator hoperator) hresolves

/-- The time after a state or a flag is compared by `Since` and `Before`. -/
theorem of_standard {field : Text} (hfield : field ∈ timeColumns)
    (h : TimeRange.standard.Emits now field p) : Emitted now p :=
  of_time hfield (by decide) h

theorem of_state (kind : StateKind) (h : Condition.Emits now kind.column (.state kind) p) :
    Emitted now p := by
  cases h with
  | state hoperator hcode =>
    refine .state kind ?_ hcode
    simpa [StateCondition.table] using hoperator
  | change htime =>
    refine of_standard ?_ htime
    cases kind <;> decide

theorem of_flag {field : Text} {table : FlagTable}
    (hflags : ∀ column ∈ table.flags.map Prod.fst, column ∈ flagColumns)
    (htimes : table.timeColumn = none) (h : Condition.Emits now field (.flag table) p) :
    Emitted now p := by
  cases h with
  | flag hcolumn hvalue => exact .flag (hflags _ hcolumn) hvalue
  | flagTime hcolumn =>
    -- no table of the filter has a column for the time of its flags
    rw [htimes] at hcolumn
    cases hcolumn

theorem of_range {field : Text} {range : TimeRange} (hfield : field ∈ timeColumns)
    (hrange : ∀ operator ∈ range.table.map Prod.snd, operator = .greaterEqual ∨ operator = .lessEqual)
    (h : Condition.Emits now field (.time range) p) : Emitted now p := by
  cases h with
  | time htime => exact of_time hfield hrange htime

/-- **Every attribute of the monitoring filter emits such leaves.** -/
theorem of_attribute {domain : Domain} (hdomain : domain ∈ Filter.monitoring.domains)
    {attr : Attribute} (hattr : attr ∈ domain.attributes)
    (h : attr.condition.Emits now attr.field p) : Emitted now p := by
  simp only [Filter.monitoring, List.mem_cons, List.not_mem_nil, or_false] at hdomain
  rcases hdomain with rfl | rfl
  · -- of a host: the name, the state, the flags, the last and the next check
    simp only [Domain.host, Domain.make, List.mem_cons, List.not_mem_nil, or_false] at hattr
    rcases hattr with rfl | rfl | rfl | rfl | rfl
    · exact of_text (by decide) h
    · exact of_state .host h
    · exact of_flag (fun column hcolumn => List.mem_append_left _ hcolumn) rfl h
    · exact of_range (by decide) (by decide) h
    · exact of_range (by decide) (by decide) h
  · -- the same of a service, with the state of its host before the flags and its name at the end
    simp only [Domain.service, Domain.make, List.mem_cons, List.not_mem_nil, or_false] at hattr
    rcases hattr with rfl | rfl | rfl | rfl | rfl | rfl | rfl
    · exact of_text (by decide) h
    · exact of_state .service h
    · exact of_state .host h
    · exact of_flag (fun column hcolumn => List.mem_append_right _ hcolumn) rfl h
    · exact of_range (by decide) (by decide) h
    · exact of_range (by decide) (by decide) h
    · exact of_text (by decide) h

theorem of_mem_parse {query : Text}
    (hp : p ∈ (Filter.monitoring.parse now query).tree.predicates) : Emitted now p := by
  obtain ⟨domain, hdomain, attr, hattr, h⟩ := Filter.parse_emits Filter.monitoring now query p hp
  exact of_attribute hdomain hattr h

/-! ## Backends -/

theorem field_mem (h : Emitted now p) : p.field ∈ columns := by
  rw [columns, List.mem_append, List.mem_append, List.mem_append]
  cases h with
  | name value hfield => exact .inl (.inl (.inl hfield))
  | state kind =>
    refine .inl (.inl (.inr ?_))
    cases kind with
    | host => exact List.mem_cons_self
    | service => exact List.mem_cons_of_mem _ List.mem_cons_self
  | flag hfield => exact .inl (.inr hfield)
  | time hfield => exact .inr hfield

/-- **A time leaf is compiled to the moment it names**, in the spelling of the database. -/
theorem predicate_of_time (h : Emitted now p) (htime : p.context = .time) {compiler : Sql.Compiler}
    {column : Text} (hcolumn : compiler.columns.lookup p.field = some column) :
    ∃ phrase m, p.value = .text phrase ∧ resolvePhrase phrase now = .moment m ∧
      compiler.predicate now p = .ok (.compare column p.operator (.text m.display)) := by
  cases h with
  | @time field operator phrase m hfield hoperator hresolves =>
    refine ⟨phrase, m, rfl, hresolves, ?_⟩
    have hmoment : (resolvePhrase phrase now).moment? = some m := by
      rw [hresolves]
      rfl
    have hfound : compiler.column field = .ok column := by
      rw [Sql.Compiler.column, hcolumn]
    rw [Sql.Compiler.predicate, hfound]
    show Except.ok (Sql.Condition.compare column operator (Sql.Compiler.literal now _)) = _
    rw [Sql.Compiler.literal]
    simp only [hmoment]
  | name => cases htime
  | state => cases htime
  | flag => cases htime

end Emitted

/-! ## Main result -/

/-- **Everything the monitoring filter emits is fit for the backends.** At any moment, every leaf of
the tree of any query is one of the four kinds of `Emitted`. So a compiler with an entry for each of
their columns never finds a field without one, strict or not. It compiles the tree, unless it is
empty, to a condition that follows the tree leaf by leaf, where only plain equalities go into lists;
and the condition of a time leaf compares its column with the moment that its phrase names. -/
theorem Filter.monitoring_emits (now : Moment) (query : Text) :
    (∀ p ∈ (monitoring.parse now query).tree.predicates, Emitted now p) ∧
    ∀ (compiler : Sql.Compiler) (table : Text),
      (∀ field ∈ Emitted.columns, (compiler.columns.lookup field).isSome = true) →
      (∀ field, compiler.compile now table (monitoring.parse now query).tree ≠
        .error (.unknownField field)) ∧
      (∀ root, (monitoring.parse now query).tree.root = some root → ∃ condition lists,
        compiler.compile now table (monitoring.parse now query).tree =
          .ok (⟨table, condition⟩, lists) ∧ compiler.Compiles now root condition) ∧
      ∀ p ∈ (monitoring.parse now query).tree.predicates, p.context = .time →
        ∃ phrase m column, p.value = .text phrase ∧ resolvePhrase phrase now = .moment m ∧
          compiler.columns.lookup p.field = some column ∧
          compiler.predicate now p = .ok (.compare column p.operator (.text m.display)) := by
  refine ⟨fun p hp => Emitted.of_mem_parse hp, fun compiler table hcovers => ?_⟩
  have hmapped : (monitoring.parse now query).tree.predicates.find? compiler.isUnmapped = none := by
    rw [List.find?_eq_none]
    intro p hp hunmapped
    have hsome := hcovers p.field (Emitted.of_mem_parse hp).field_mem
    rw [Sql.Compiler.isUnmapped, ← Option.not_isSome, hsome] at hunmapped
    cases hunmapped
  refine ⟨?_, ?_, ?_⟩
  · intro field herror
    rw [Sql.Compiler.compile_eq_error_iff, hmapped] at herror
    rcases herror with ⟨-, he⟩ | ⟨-, p, hp, -⟩
    · cases he
    · cases hp
  · intro root hroot
    rw [Tree.predicates, hroot] at hmapped
    exact compiler.exists_compile now table hroot fun _ => hmapped
  · intro p hp htime
    have hemitted := Emitted.of_mem_parse hp
    obtain ⟨column, hcolumn⟩ := Option.isSome_iff_exists.1 (hcovers p.field hemitted.field_mem)
    obtain ⟨phrase, m, hvalue, hresolves, hcondition⟩ := hemitted.predicate_of_time htime hcolumn
    exact ⟨phrase, m, column, hvalue, hresolves, hcolumn, hcondition⟩

/-- A strict compiler in which every column is its own. -/
def Emitted.ownColumns : Sql.Compiler :=
  { columns := columns.map fun column => (column, column), strict := true }

/-- At noon of 2024-10-04, hosts checked within the last day are those checked since noon of
2024-10-03. -/
theorem Filter.monitoring_emits_lastDay :
    (∀ field ∈ Emitted.columns, (Emitted.ownColumns.columns.lookup field).isSome = true) ∧
    ∃ condition lists, Emitted.ownColumns.compile ⟨20000, 12, 0, 0⟩ "hosts"
        (monitoring.parse ⟨20000, 12, 0, 0⟩ "Host Check Newer Than '1 day'").tree =
          .ok (⟨"hosts", condition⟩, lists) ∧
      Emitted.ownColumns.predicate ⟨20000, 12, 0, 0⟩
          ⟨"host_last_check", .greaterEqual, .text "-1 day", .time⟩ =
        .ok (.compare "host_last_check" .greaterEqual (.text "2024-10-03 12:00:00")) := by
  have htree : (monitoring.parse ⟨20000, 12, 0, 0⟩ "Host Check Newer Than '1 day'").tree =
      ⟨some (.time "host_last_check" .greaterEqual "-1 day")⟩ := rfl
  have hcovers : ∀ field ∈ Emitted.columns,
      (Emitted.ownColumns.columns.lookup field).isSome = true := by decide
  -- of the query only its tree is computed; what it is compiled to follows from the theorem
  obtain ⟨-, hbackend⟩ := monitoring_emits ⟨20000, 12, 0, 0⟩ "Host Check Newer Than '1 day'"
  obtain ⟨-, hcompiles, htimes⟩ := hbackend Emitted.ownColumns "hosts" hcovers
  rw [htree] at hcompiles htimes
  obtain ⟨condition, lists, hcompiled, -⟩ := hcompiles _ rfl
  obtain ⟨phrase, m, column, hvalue, hresolves, hcolumn, hcondition⟩ :=
    htimes _ (List.mem_singleton_self _) rfl
  refine ⟨hcovers, condition, lists, ?_, ?_⟩
  · rw [htree]
    exact hcompiled
  · obtain rfl : "-1 day".toList = phrase := by simpa using hvalue
    obtain rfl : (⟨19999, 12, 0, 0⟩ : Moment) = m := Resolution.moment.inj hresolves
    obtain rfl : "host_last_check".toList = column := Option.some.inj hcolumn
    exact hcondition

end MonitorControl
