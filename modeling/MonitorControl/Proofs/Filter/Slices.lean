/-
The filter language by byte offsets.

A query is cut into segments at offsets, a segment loses the label of its domain and a word of
an attribute, and a condition takes the rest apart; completions are marked in the same way.
All of this is written out here with every slice checked, from the segments down to the time
phrases, for any filter whatever: labels, words and tokens may be texts in any script.

The equations of the parts say that none has a fault, so the engine has none either, and that
its results are those of the filter as it is defined on characters.
-/
import MonitorControl.Filter
import MonitorControl.Proofs.Filter.Condition.Slices
import MonitorControl.Proofs.Query.ByteScan

set_option autoImplicit false

namespace MonitorControl

open Text

/-! ## Attributes -/

namespace Attribute

variable (attr : Attribute)

/-- `matchingWord?` by offsets. -/
def slicedMatchingWord? (attr : Attribute) (query : Text) : Sliced (Option Text) :=
  attr.words.findM? (slicedStartsWith query.trim)

/-- `conditionPart?` by offsets. -/
def slicedConditionPart? (attr : Attribute) (query : Text) : Sliced (Option Text) := do
  match ← attr.slicedMatchingWord? query with
  | some word => slicedAfterHead? query.trim word
  | none => return if attr.words.isEmpty then some query.trim else none

/-- `wordProposals` by offsets. -/
def slicedWordProposals (attr : Attribute) (query : Text) : Sliced (List Text) := do
  if query.isEmpty then
    match attr.words with
    | first :: _ => return [first]
    | [] => attr.condition.slicedProposals query
  else
    match ← attr.words.findM? (slicedStartsWith · query) with
    | some word => return [← slicedMark word query]
    | none => return []

/-- `proposals` by offsets. -/
def slicedProposals (attr : Attribute) (query : Text) : Sliced (List Text) := do
  match ← attr.slicedConditionPart? query with
  | some part => attr.condition.slicedProposals part
  | none => attr.slicedWordProposals query.trim

/-- `accepts` by offsets. -/
def slicedAccepts (attr : Attribute) (now : Moment) (query : Text) : Sliced Bool := do
  match ← attr.slicedConditionPart? query with
  | some part => attr.condition.slicedAccepts now part
  | none => return false

/-- `node?` by offsets. -/
def slicedNode? (attr : Attribute) (now : Moment) (query : Text) : Sliced (Option Node) := do
  if ← attr.slicedAccepts now query then
    match ← attr.slicedConditionPart? query with
    | some part => attr.condition.slicedNode? now part attr.field
    | none => return none
  else return none

@[simp] theorem slicedMatchingWord?_eq (query : Text) :
    attr.slicedMatchingWord? query = pure (attr.matchingWord? query) := by
  simp only [slicedMatchingWord?, funext (slicedStartsWith_eq query.trim), List.findM?_pure,
    matchingWord?]

@[simp] theorem slicedConditionPart?_eq (query : Text) :
    attr.slicedConditionPart? query = pure (attr.conditionPart? query) := by
  rw [slicedConditionPart?, slicedMatchingWord?_eq, pure_bind, conditionPart?]
  cases attr.matchingWord? query with
  | none => rfl
  | some word => exact slicedAfterHead?_eq query.trim word

@[simp] theorem slicedWordProposals_eq (query : Text) :
    attr.slicedWordProposals query = pure (attr.wordProposals query) := by
  simp only [slicedWordProposals, wordProposals, slicedStartsWith_eq, List.findM?_pure, pure_bind,
    slicedMark_eq, Condition.slicedProposals_eq]
  cases query.isEmpty with
  | true => cases attr.words <;> rfl
  | false => cases attr.words.find? (·.startsWith query) <;> rfl

@[simp] theorem slicedProposals_eq (query : Text) :
    attr.slicedProposals query = pure (attr.proposals query) := by
  rw [slicedProposals, slicedConditionPart?_eq, pure_bind, proposals]
  cases attr.conditionPart? query with
  | none => exact attr.slicedWordProposals_eq query.trim
  | some part => exact attr.condition.slicedProposals_eq part

@[simp] theorem slicedAccepts_eq (now : Moment) (query : Text) :
    attr.slicedAccepts now query = pure (attr.accepts now query) := by
  rw [slicedAccepts, slicedConditionPart?_eq, pure_bind, accepts]
  cases attr.conditionPart? query with
  | none => rfl
  | some part => exact attr.condition.slicedAccepts_eq now part

@[simp] theorem slicedNode?_eq (now : Moment) (query : Text) :
    attr.slicedNode? now query = pure (attr.node? now query) := by
  rw [slicedNode?, slicedAccepts_eq, pure_bind, slicedConditionPart?_eq, pure_bind, node?]
  cases attr.accepts now query with
  | false => rfl
  | true =>
    cases attr.conditionPart? query with
    | none => rfl
    | some part => exact attr.condition.slicedNode?_eq now part attr.field

end Attribute

/-! ## Domains -/

namespace Domain

variable (domain : Domain)

/-- `handles` by offsets. -/
def slicedHandles (domain : Domain) (query : Text) : Sliced Bool :=
  slicedStartsWith query.trim domain.label

/-- `withoutLabel` by offsets. -/
def slicedWithoutLabel (domain : Domain) (query : Text) : Sliced Text := do
  return (← slicedAfterHead? query.trim domain.label).getD query.trim

/-- `proposals` by offsets. -/
def slicedProposals (domain : Domain) (query : Text) : Sliced (List Text) := do
  let rest ← domain.slicedWithoutLabel query
  return (← domain.attributes.mapM (·.slicedProposals rest)).flatten

/-- `node?` by offsets. -/
def slicedNode? (domain : Domain) (now : Moment) (query : Text) : Sliced (Option Node) := do
  let rest ← domain.slicedWithoutLabel query
  match ← domain.attributes.findM? (·.slicedAccepts now rest) with
  | some attr => attr.slicedNode? now rest
  | none => return none

@[simp] theorem slicedHandles_eq (query : Text) :
    domain.slicedHandles query = pure (domain.handles query) :=
  slicedStartsWith_eq query.trim domain.label

@[simp] theorem slicedWithoutLabel_eq (query : Text) :
    domain.slicedWithoutLabel query = pure (domain.withoutLabel query) := by
  rw [slicedWithoutLabel, slicedAfterHead?_eq, pure_bind, withoutLabel]

@[simp] theorem slicedProposals_eq (query : Text) :
    domain.slicedProposals query = pure (domain.proposals query) := by
  simp only [slicedProposals, slicedWithoutLabel_eq, pure_bind, Attribute.slicedProposals_eq,
    List.mapM_pure, proposals, List.flatMap_def]

@[simp] theorem slicedNode?_eq (now : Moment) (query : Text) :
    domain.slicedNode? now query = pure (domain.node? now query) := by
  simp only [slicedNode?, slicedWithoutLabel_eq, pure_bind, Attribute.slicedAccepts_eq,
    List.findM?_pure, node?]
  cases domain.attributes.find? (·.accepts now (domain.withoutLabel query)) with
  | none => rfl
  | some attr => exact attr.slicedNode?_eq now _

end Domain

/-! ## Filters -/

namespace Filter

variable (filter : Filter)

/-- `domainFor?` by offsets. -/
def slicedDomainFor? (filter : Filter) (query : Text) : Sliced (Option Domain) := do
  return (← filter.domains.findM? (·.slicedHandles query)).or filter.defaultDomain?

/-- The completions by offsets from all domains that a segment names. -/
def slicedNamedProposals (filter : Filter) (segment : Text) : Sliced (List Text) := do
  let each ← filter.domains.mapM fun domain => do
    if ← domain.slicedHandles segment then domain.slicedProposals segment else return []
  return each.flatten

/-- `labelProposals` by offsets. -/
def slicedLabelProposals (filter : Filter) (segment : Text) : Sliced (List Text) := do
  return (← filter.domains.mapM fun domain => slicedCompletion segment domain.label).flatten

/-- **The completions of a query, by offsets.** -/
def slicedProposals (filter : Filter) (query : Text) : Sliced (List Text) := do
  let segment ← slicedLastSegmentText query
  let named ← filter.slicedNamedProposals segment
  if named.isEmpty then
    match filter.defaultDomain? with
    | some domain =>
      let labels ← filter.slicedLabelProposals segment
      return withoutRepeats (labels ++ (← domain.slicedProposals segment))
    | none => return withoutRepeats []
  else return withoutRepeats named

/-- `segmentNode?` by offsets. -/
def slicedSegmentNode? (filter : Filter) (now : Moment) (text : Text) : Sliced (Option Node) := do
  match ← filter.slicedDomainFor? text with
  | some domain => domain.slicedNode? now text
  | none => return none

/-- `readSegment` by offsets. -/
def slicedReadSegment (filter : Filter) (now : Moment) (progress : Progress) (segment : Segment) :
    Sliced Progress := do
  if segment.text.isEmpty then return progress
  else
    match ← filter.slicedSegmentNode? now segment.text with
    | some node =>
      return {
        parsed :=
          { progress.parsed with
            tree := progress.parsed.tree.insert node (progress.pending.getD .and) }
        pending := segment.conjunction }
    | none =>
      return { progress with
        parsed :=
          { progress.parsed with ignored := progress.parsed.ignored ++ [segment.text] } }

/-- **Reading a query, by offsets.** -/
def slicedParse (filter : Filter) (now : Moment) (query : Text) : Sliced ParsedQuery := do
  let progress ← (← slicedSegments query).foldlM (filter.slicedReadSegment now) .start
  return progress.parsed

@[simp] theorem slicedDomainFor?_eq (query : Text) :
    filter.slicedDomainFor? query = pure (filter.domainFor? query) := by
  simp only [slicedDomainFor?, Domain.slicedHandles_eq, List.findM?_pure, pure_bind, domainFor?]

@[simp] theorem slicedNamedProposals_eq (segment : Text) :
    filter.slicedNamedProposals segment =
      pure ((filter.domainsFor segment).flatMap (·.proposals segment)) := by
  have heach : ∀ domain : Domain,
      (if domain.handles segment then pure (domain.proposals segment) else pure [] :
        Sliced (List Text)) =
      pure (if domain.handles segment then domain.proposals segment else []) := by
    intro domain
    split <;> rfl
  simp only [slicedNamedProposals, Domain.slicedHandles_eq, Domain.slicedProposals_eq, pure_bind,
    heach, List.mapM_pure, domainsFor]
  congr 1
  induction filter.domains with
  | nil => rfl
  | cons domain domains ih =>
    rw [List.map_cons, List.flatten_cons, ih, List.filter_cons]
    split
    · rw [List.flatMap_cons]
    · rw [List.nil_append]

@[simp] theorem slicedLabelProposals_eq (segment : Text) :
    filter.slicedLabelProposals segment = pure (filter.labelProposals segment) := by
  simp only [slicedLabelProposals, slicedCompletion_eq, List.mapM_pure, pure_bind, labelProposals,
    List.flatMap_def]

theorem slicedProposals_eq (query : Text) :
    filter.slicedProposals query = pure (filter.proposals query) := by
  simp only [slicedProposals, slicedLastSegmentText_eq, slicedNamedProposals_eq,
    slicedLabelProposals_eq, Domain.slicedProposals_eq, pure_bind, proposals]
  split
  · cases filter.defaultDomain? <;> rfl
  · rfl

@[simp] theorem slicedSegmentNode?_eq (now : Moment) (text : Text) :
    filter.slicedSegmentNode? now text = pure (filter.segmentNode? now text) := by
  rw [slicedSegmentNode?, slicedDomainFor?_eq, pure_bind, segmentNode?]
  cases filter.domainFor? text with
  | none => rfl
  | some domain => exact domain.slicedNode?_eq now text

theorem slicedReadSegment_eq (now : Moment) (progress : Progress) (segment : Segment) :
    filter.slicedReadSegment now progress segment =
      pure (filter.readSegment now progress segment) := by
  simp only [slicedReadSegment, slicedSegmentNode?_eq, pure_bind, readSegment]
  split
  · rfl
  · cases filter.segmentNode? now segment.text <;> rfl

theorem slicedParse_eq (now : Moment) (query : Text) :
    filter.slicedParse now query = pure (filter.parse now query) := by
  have hstep : filter.slicedReadSegment now =
      fun progress segment => pure (filter.readSegment now progress segment) :=
    funext fun progress => funext (filter.slicedReadSegment_eq now progress)
  simp only [slicedParse, slicedSegments_eq, hstep, List.foldlM_pure, pure_bind, parse]

/-! ## Main result -/

/-- **No slice of the filter language splits a character**, in any script. A slice has a fault unless
it begins and ends between characters. A head that is found by comparing bytes up to the case of
ASCII letters ends at a boundary of the text, so neither cutting it off nor marking it has a fault.
Where a query is cut, every segment begins and ends at a boundary, and so does every keyword; every
span is a slice. So whatever a filter's labels, words and tokens are, reading a query and completing
one take no slice that has a fault, and what they give is what is defined on characters. -/
theorem slices_between_characters :
    (∀ (t core : Text) (start stop : Nat), sliceText t start stop = .ok core ↔
      ∃ lead trail, t = lead ++ core ++ trail ∧ byteLength lead = start ∧
        byteLength lead + byteLength core = stop) ∧
    (∀ t head : Text,
      slicedStartsWith t head = .ok (t.startsWith head) ∧
      (slicedStartsWith t head = .ok true →
        isBoundary (bytes t) (bytes head).length = true) ∧
      slicedAfterHead? t head = .ok (t.afterHead? head) ∧
      slicedMark t head = .ok (markTyped t head)) ∧
    (∀ query : Text,
      (∃ ranges, rangesFrom (bytes query) 0 = .ok ranges ∧
        ∀ range ∈ ranges, range.Bounded (bytes query)) ∧
      (∀ s ∈ segments query, sliceText query s.span.start s.span.stop = .ok s.text) ∧
      slicedSegments query = .ok (segments query) ∧
      slicedSplitAtConjunction query = .ok (splitAtConjunction query)) ∧
    ∀ (filter : Filter) (now : Moment) (query : Text),
      filter.slicedParse now query = .ok (filter.parse now query) ∧
      filter.slicedProposals query = .ok (filter.proposals query) := by
  refine ⟨fun t core start stop => sliceText_eq_ok_iff,
    fun t head => ⟨slicedStartsWith_eq t head, fun h => ?_, slicedAfterHead?_eq t head,
      slicedMark_eq t head⟩,
    fun query => ⟨exists_bounded_ranges query, fun _ => sliceText_span, slicedSegments_eq query,
      slicedSplitAtConjunction_eq query⟩,
    fun filter now query => ⟨filter.slicedParse_eq now query, filter.slicedProposals_eq query⟩⟩
  rw [slicedStartsWith_eq] at h
  exact isBoundary_of_startsWith (Except.ok.inj h)

/-- A slice in the middle of `Ä` has a fault, and behind a head that ends in ASCII none. -/
theorem slices_between_characters_umlauts :
    let t : Text := "ÄßHost AND ü"
    sliceText t 1 2 = .error ⟨bytes t, 1, 2⟩ ∧ slicedStartsWith t "ÄßhO" = .ok true ∧
      isBoundary (bytes t) 6 = true ∧ slicedAfterHead? t "ÄßhO" = .ok (some "st AND ü".toList) ∧
      slicedMark t "ÄßhO" = .ok "\x7bÄßHo\x7dst AND ü".toList ∧
      ⟨"ü", none, ⟨13, 15⟩⟩ ∈ segments t ∧ sliceText t 13 15 = .ok "ü".toList := by
  intro t
  obtain ⟨-, hheads, hqueries, -⟩ := slices_between_characters
  obtain ⟨hstarts, hboundary, hafter, hmark⟩ := hheads t "ÄßhO"
  obtain ⟨-, hspans, -, -⟩ := hqueries t
  have hmem : (⟨"ü", none, ⟨13, 15⟩⟩ : Segment) ∈ segments t := by decide
  have hstarts' : slicedStartsWith t "ÄßhO" = .ok true := hstarts.trans (by decide)
  exact ⟨by decide, hstarts', hboundary hstarts', hafter.trans (by decide), hmark.trans (by decide),
    hmem, hspans _ hmem⟩

end Filter

end MonitorControl
