/-
The filter language: a query such as `host name = "web*" AND service state != ok`
becomes a tree of comparisons, and an unfinished query gets completions.

Every segment of a query goes to the first domain whose label it begins with, or
else to the default domain. Segments that no attribute of that domain accepts are
left out of the tree and reported. Two accepted segments are joined by the
conjunction that stands right after the first of them, whatever is left out in
between.
-/
import MonitorControl.Filter.Domain
import MonitorControl.Query.Segment

set_option autoImplicit false

namespace MonitorControl

open Text

/-- **A filter**: domains in the order in which they are tried, and the place of the default one. -/
structure Filter where
  domains : List Domain
  defaultIndex : Option Nat := none
  deriving DecidableEq, Repr

/-- **A query that has been read**: its tree, and the segments left out, in order. -/
structure ParsedQuery where
  tree : Tree
  ignored : List Text
  deriving DecidableEq, Repr

namespace Filter

/-! ## Choosing a domain -/

/-- The default domain: the one chosen as such, else the first. -/
def defaultDomain? (filter : Filter) : Option Domain :=
  match filter.defaultIndex with
  | some index => filter.domains[index]?
  | none => filter.domains.head?

/-- All domains whose label the query begins with. -/
def domainsFor (filter : Filter) (query : Text) : List Domain :=
  filter.domains.filter (·.handles query)

/-- **The domain of a segment**: the first whose label it begins with, else the default. -/
def domainFor? (filter : Filter) (query : Text) : Option Domain :=
  (filter.domains.find? (·.handles query)).or filter.defaultDomain?

/-! ## Completions -/

/-- The labels that an unfinished segment may be the beginning of. -/
def labelProposals (filter : Filter) (query : Text) : List Text :=
  filter.domains.flatMap fun domain => completionOf query domain.label

/-- **The completions of a query** complete its last segment: from the domains it names, or, if they
have none, the labels and the default domain. -/
def proposals (filter : Filter) (query : Text) : List Text :=
  let segment := lastSegmentText query
  let named := (filter.domainsFor segment).flatMap (·.proposals segment)
  let all :=
    if named.isEmpty then
      match filter.defaultDomain? with
      | some domain => filter.labelProposals segment ++ domain.proposals segment
      | none => []
    else named
  withoutRepeats all

/-! ## Reading a query -/

/-- The node of a segment, if its domain accepts it. -/
def segmentNode? (filter : Filter) (now : Moment) (text : Text) : Option Node :=
  (filter.domainFor? text).bind (·.node? now text)

/-- How far a query has been read. -/
structure Progress where
  parsed : ParsedQuery
  /-- The conjunction after the last accepted segment. -/
  pending : Option Conjunction
  deriving DecidableEq, Repr

/-- Nothing has been read. -/
def Progress.start : Progress := ⟨⟨.empty, []⟩, none⟩

/-- **One segment is read**: passed over if it is empty, joined to the tree if it is accepted, and
reported if not. -/
def readSegment (filter : Filter) (now : Moment) (progress : Progress) (segment : Segment) :
    Progress :=
  if segment.text.isEmpty then progress
  else
    match filter.segmentNode? now segment.text with
    | some node =>
      { parsed :=
          { progress.parsed with
            tree := progress.parsed.tree.insert node (progress.pending.getD .and) }
        pending := segment.conjunction }
    | none =>
      { progress with
        parsed :=
          { progress.parsed with ignored := progress.parsed.ignored ++ [segment.text] } }

/-- **Reading a query** at the present moment. -/
def parse (filter : Filter) (now : Moment) (query : Text) : ParsedQuery :=
  ((segments query).foldl (filter.readSegment now) .start).parsed

/-- The time phrases that are resolved while a query is read. -/
def phrases (filter : Filter) (now : Moment) (query : Text) : List Text :=
  (segments query).flatMap fun segment =>
    if segment.text.isEmpty then []
    else ((filter.domainFor? segment.text).map (·.phrases now segment.text)).getD []

end Filter

end MonitorControl
