/-
Acceptance and conversion are one answer.

An attribute is chosen by whether its condition accepts a query, and the query is then
converted by the node of that condition. The two are functions of their own, and each
kind of condition comes to them in its own way: a state or a flag may be followed by a
range of time, which is accepted before the node is made and read again while it is
made. They agree nevertheless, for every query and at every moment
(`Condition.isSome_node?`), and so an attribute that is chosen never fails afterwards.

With this the choice among attributes can be told by acceptance alone: a domain converts
a query if one of its attributes accepts it, and the first of them does it
(`Domain.node?_eq_some_iff`); and a query leaves a segment out only if every attribute of
the domain of that segment refuses it (`Filter.mem_ignored_iff`).
-/
import MonitorControl.Proofs.Filter.Reading

set_option autoImplicit false

namespace MonitorControl

variable {now : Moment}

/-! ## Conditions -/

/-- A value is what a condition on text is accepted for, and what its leaf is made of. -/
theorem TextCondition.isSome_node? (query field : Text) :
    (TextCondition.node? query field).isSome = TextCondition.accepts query := by
  rw [TextCondition.node?, TextCondition.accepts]
  cases TextCondition.read? query with
  | none => rfl
  | some found =>
    obtain ⟨operator, value⟩ := found
    cases value with
    | none => rfl
    | some value => rfl

theorem NumberCondition.isSome_node? (query field : Text) :
    (NumberCondition.node? query field).isSome = NumberCondition.accepts query := by
  rw [NumberCondition.node?, Option.isSome_map, NumberCondition.accepts]

theorem TimeRange.isSome_node? (range : TimeRange) (query field : Text) :
    (range.node? now query field).isSome = range.accepts now query := by
  rw [TimeRange.node?, Option.isSome_map, TimeRange.accepts]

/-- **A state has a node as soon as it is read**: a range of time after it was accepted then, and is
read again to the same end. -/
theorem StateCondition.isSome_node? (kind : StateKind) (query field : Text) :
    (StateCondition.node? kind now query field).isSome = StateCondition.accepts kind now query := by
  rw [StateCondition.node?, StateCondition.accepts]
  cases hread : StateCondition.read? kind now query with
  | none => rfl
  | some found =>
    obtain ⟨comparison, code, range⟩ := found
    cases range with
    | nil => rfl
    | cons c rest =>
      have haccepts : TimeRange.standard.accepts now (c :: rest) = true :=
        (Option.filter_eq_some_iff.1 hread).2
      rw [← TimeRange.isSome_node? _ _ kind.changeColumn, Option.isSome_iff_exists] at haccepts
      obtain ⟨change, hchange⟩ := haccepts
      simp [hchange]

/-- **A flag has a node exactly if its label is followed by nothing**, or by a range of time that the
table has a column for. -/
theorem FlagTable.isSome_node? (table : FlagTable) (query : Text) :
    (table.node? now query).isSome = table.accepts now query := by
  rw [FlagTable.node?, FlagTable.accepts]
  cases table.split? query with
  | none => rfl
  | some found =>
    obtain ⟨column, value, range⟩ := found
    cases range with
    | nil => rfl
    | cons c rest =>
      cases hcolumn : table.timeColumn with
      | none => simp
      | some timeColumn =>
        have htime : (TimeRange.standard.node? now (c :: rest) timeColumn).isSome =
            TimeRange.standard.accepts now (c :: rest) := TimeRange.isSome_node? _ _ timeColumn
        cases hnode : TimeRange.standard.node? now (c :: rest) timeColumn with
        | none => simp [hnode, ← htime]
        | some time => simp [hnode, ← htime]

/-- **A condition has a node for the queries that it accepts**, whatever its kind. -/
theorem Condition.isSome_node? (condition : Condition) (query field : Text) :
    (condition.node? now query field).isSome = condition.accepts now query := by
  cases condition with
  | text => exact TextCondition.isSome_node? query field
  | number => exact NumberCondition.isSome_node? query field
  | state kind => exact StateCondition.isSome_node? kind query field
  | flag table => exact FlagTable.isSome_node? table query
  | time range => exact TimeRange.isSome_node? range query field

/-! ## Attributes and domains -/

/-- An attribute that accepts a query converts it: the condition accepted the part that it is then
given. -/
theorem Attribute.isSome_node? (attr : Attribute) (query : Text) :
    (attr.node? now query).isSome = attr.accepts now query := by
  rw [Attribute.node?]
  by_cases haccepts : attr.accepts now query = true
  · rw [if_pos haccepts, haccepts]
    rw [Attribute.accepts, Option.any_eq_true] at haccepts
    obtain ⟨part, hpart, hcondition⟩ := haccepts
    rw [hpart, Option.bind_some, Condition.isSome_node?, hcondition]
  · rw [if_neg haccepts]
    rw [Bool.not_eq_true] at haccepts
    rw [haccepts]
    rfl

namespace Domain

variable {domain : Domain} {query : Text}

/-- **The node of a query is that of the first attribute that accepts it.** -/
theorem node?_eq_some_iff {node : Node} :
    domain.node? now query = some node ↔
      ∃ before attr after, domain.attributes = before ++ attr :: after ∧
        (∀ earlier ∈ before, earlier.accepts now (domain.withoutLabel query) = false) ∧
        attr.accepts now (domain.withoutLabel query) = true ∧
        attr.node? now (domain.withoutLabel query) = some node := by
  simp only [node?, Option.bind_eq_some_iff, List.find?_eq_some_iff_append, Bool.not_eq_true']
  constructor
  · rintro ⟨attr, ⟨haccepts, before, after, hattributes, hbefore⟩, hnode⟩
    exact ⟨before, attr, after, hattributes, hbefore, haccepts, hnode⟩
  · rintro ⟨before, attr, after, hattributes, hbefore, haccepts, hnode⟩
    exact ⟨attr, ⟨haccepts, before, after, hattributes, hbefore⟩, hnode⟩

/-- **A domain fails to convert a query only if each of its attributes refuses it.** -/
theorem node?_eq_none_iff :
    domain.node? now query = none ↔
      ∀ attr ∈ domain.attributes, attr.accepts now (domain.withoutLabel query) = false := by
  have hfind : domain.attributes.find? (·.accepts now (domain.withoutLabel query)) = none ↔
      ∀ attr ∈ domain.attributes, attr.accepts now (domain.withoutLabel query) = false := by
    simp only [List.find?_eq_none, Bool.not_eq_true]
  rw [← hfind, node?]
  cases hfirst : domain.attributes.find? (·.accepts now (domain.withoutLabel query)) with
  | none => exact iff_of_true rfl rfl
  | some attr =>
    -- the attribute that was found accepts the query, and so it has a node
    have hsome : (attr.node? now (domain.withoutLabel query)).isSome = true := by
      rw [Attribute.isSome_node?]
      exact List.find?_some (p := fun attr : Attribute => attr.accepts now _) hfirst
    rw [Option.bind_some]
    exact iff_of_false (Option.isSome_iff_ne_none.1 hsome) (Option.some_ne_none attr)

theorem isSome_node?_iff :
    (domain.node? now query).isSome = true ↔
      ∃ attr ∈ domain.attributes, attr.accepts now (domain.withoutLabel query) = true := by
  rw [Option.isSome_iff_ne_none, Ne, node?_eq_none_iff]
  simp

end Domain

/-! ## Segments -/

namespace Filter

variable {filter : Filter} {query text : Text}

/-- A reading leaves out the segments that have a text and no node. -/
theorem Reads.mem_ignored_iff {segs : List Segment} {accepted : List (Node × Option Conjunction)}
    {ignored : List Text} (h : filter.Reads now segs accepted ignored) :
    text ∈ ignored ↔ text ≠ [] ∧ text ∈ segs.map Segment.text ∧
      ∀ domain, filter.Resolves text domain → domain.node? now text = none := by
  induction h with
  | nil => simp
  | empty hempty _ ih =>
    rw [ih, List.map_cons, List.mem_cons, hempty]
    constructor
    · rintro ⟨htext, hmem, hnone⟩
      exact ⟨htext, .inr hmem, hnone⟩
    · rintro ⟨htext, hmem, hnone⟩
      exact ⟨htext, hmem.resolve_left htext, hnone⟩
  | @accepted s segs accepted ignored domain node _ hdomain hnode _ ih =>
    rw [ih, List.map_cons, List.mem_cons]
    constructor
    · rintro ⟨htext, hmem, hnone⟩
      exact ⟨htext, .inr hmem, hnone⟩
    · rintro ⟨htext, hmem, hnone⟩
      refine ⟨htext, hmem.resolve_left ?_, hnone⟩
      rintro rfl
      rw [hnone domain hdomain] at hnode
      exact absurd hnode (Option.some_ne_none _).symm
  | @ignored s segs accepted ignored htext hnone _ ih =>
    rw [List.mem_cons, ih, List.map_cons, List.mem_cons]
    constructor
    · rintro (rfl | ⟨htext', hmem, hnone'⟩)
      · exact ⟨htext, .inl rfl, hnone⟩
      · exact ⟨htext', .inr hmem, hnone'⟩
    · rintro ⟨htext', hmem, hnone'⟩
      rcases hmem with rfl | hmem
      · exact .inl rfl
      · exact .inr ⟨htext', hmem, hnone'⟩

/-- **A segment is left out only if nothing in its domain accepts it.** -/
theorem mem_ignored_iff :
    text ∈ (filter.parse now query).ignored ↔
      text ≠ [] ∧ text ∈ (segments query).map Segment.text ∧
        ∀ domain, filter.Resolves text domain →
          ∀ attr ∈ domain.attributes, attr.accepts now (domain.withoutLabel text) = false := by
  obtain ⟨accepted, ignored, hreads⟩ := exists_reads filter now (segments query)
  rw [hreads.parse_eq]
  simp only [hreads.mem_ignored_iff, Domain.node?_eq_none_iff]

/-! ## Main result -/

/-- **Acceptance and conversion coincide** at every level: a condition of any kind has a node for
exactly the queries that it accepts, and so has an attribute; a domain has one if some attribute
accepts what follows its label, and then it is the node of the first that does; and the segments
that a filter leaves out are those that every attribute of their domain refuses. -/
theorem accepts_converts (now : Moment) (query : Text) :
    (∀ (condition : Condition) (field : Text),
        condition.accepts now query = true ↔ (condition.node? now query field).isSome = true) ∧
      (∀ attr : Attribute, attr.accepts now query = true ↔ (attr.node? now query).isSome = true) ∧
      (∀ domain : Domain,
        ((domain.node? now query).isSome = true ↔
          ∃ attr ∈ domain.attributes, attr.accepts now (domain.withoutLabel query) = true) ∧
        ∀ node, domain.node? now query = some node ↔
          ∃ before attr after, domain.attributes = before ++ attr :: after ∧
            (∀ earlier ∈ before, earlier.accepts now (domain.withoutLabel query) = false) ∧
            attr.accepts now (domain.withoutLabel query) = true ∧
            attr.node? now (domain.withoutLabel query) = some node) ∧
      ∀ (filter : Filter) (text : Text),
        text ∈ (filter.parse now query).ignored ↔
          text ≠ [] ∧ text ∈ (segments query).map Segment.text ∧
            ∀ domain, filter.Resolves text domain →
              ∀ attr ∈ domain.attributes,
                attr.accepts now (domain.withoutLabel text) = false := by
  refine ⟨fun condition field => ?_, fun attr => ?_,
    fun domain => ⟨Domain.isSome_node?_iff, fun node => Domain.node?_eq_some_iff⟩,
    fun filter text => mem_ignored_iff⟩
  · rw [Condition.isSome_node?]
  · rw [Attribute.isSome_node?]

end Filter

end MonitorControl
