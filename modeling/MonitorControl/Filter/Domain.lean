/-
Domains: what can be asked about one kind of object.

A domain has a label, which may stand at the head of a query, and a list of
attributes. The first attribute that accepts what follows the label converts it.
-/
import MonitorControl.Filter.Attribute

set_option autoImplicit false

namespace MonitorControl

open Text

/-- **A domain**: a label and attributes, in the order in which they are tried. -/
structure Domain where
  label : Text
  attributes : List Attribute
  deriving DecidableEq, Repr

namespace Domain

/-- The domain with a trimmed label. -/
def make (label : Text) (attributes : List Attribute) : Domain := ⟨label.trim, attributes⟩

/-- The query begins with the label. -/
def handles (domain : Domain) (query : Text) : Bool := query.trim.startsWith domain.label

/-- The query without the label at its head, if it has one. -/
def withoutLabel (domain : Domain) (query : Text) : Text :=
  (query.trim.afterHead? domain.label).getD query.trim

/-- **The completions of a query**, from every attribute in order. -/
def proposals (domain : Domain) (query : Text) : List Text :=
  domain.attributes.flatMap (·.proposals (domain.withoutLabel query))

/-- **The node of a query**, from the first attribute that accepts it. -/
def node? (domain : Domain) (now : Moment) (query : Text) : Option Node :=
  let rest := domain.withoutLabel query
  (domain.attributes.find? (·.accepts now rest)).bind (·.node? now rest)

/-- The time phrases that are resolved while attributes are tried, up to the first that accepts. -/
def phrases (domain : Domain) (now : Moment) (query : Text) : List Text :=
  let rest := domain.withoutLabel query
  let refused := domain.attributes.takeWhile fun attr => !attr.accepts now rest
  let accepted := (domain.attributes.find? (·.accepts now rest)).toList
  (refused ++ accepted).filterMap (·.phrase? rest)

end Domain

end MonitorControl
