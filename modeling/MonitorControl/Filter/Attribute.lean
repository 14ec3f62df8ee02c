/-
Attributes: the words that lead to a condition on a column.

A query for an attribute begins with one of its words and goes on with a
condition. An attribute without words takes every query and leaves it to its
condition to refuse.
-/
import MonitorControl.Filter.Condition

set_option autoImplicit false

namespace MonitorControl

open Text

/-- **An attribute**: words, a column and a condition on it. -/
structure Attribute where
  words : List Text
  field : Text
  condition : Condition
  deriving DecidableEq, Repr

namespace Attribute

/-- The attribute with the given words, which are trimmed. Without a column of its own it takes the
first word for its column. -/
def make (condition : Condition) (words : List Text) (field : Option Text) : Attribute :=
  let words := words.map Text.trim
  { words, field := field.getD (words.head?.getD []), condition }

/-- The first word that the query begins with. -/
def matchingWord? (attr : Attribute) (query : Text) : Option Text :=
  attr.words.find? query.trim.startsWith

/-- The query begins with a word of the attr. -/
def supports (attr : Attribute) (query : Text) : Bool := (attr.matchingWord? query).isSome

/-- **The condition part of a query**: what follows the word. The whole query, if the attribute has
no words; nothing, if it has words and the query begins with none. -/
def conditionPart? (attr : Attribute) (query : Text) : Option Text :=
  match attr.matchingWord? query with
  | some word => query.trim.afterHead? word
  | none => if attr.words.isEmpty then some query.trim else none

/-- The completion of the attribute's own words. -/
def wordProposals (attr : Attribute) (query : Text) : List Text :=
  if query.isEmpty then
    match attr.words with
    | first :: _ => [first]
    | [] => attr.condition.proposals query
  else
    match attr.words.find? (·.startsWith query) with
    | some word => [markTyped word query]
    | none => []

/-- **The completions of a query**: of the condition after a word, else of the words. -/
def proposals (attr : Attribute) (query : Text) : List Text :=
  match attr.conditionPart? query with
  | some part => attr.condition.proposals part
  | none => attr.wordProposals query.trim

/-- The attribute accepts a query if its condition accepts the condition part. -/
def accepts (attr : Attribute) (now : Moment) (query : Text) : Bool :=
  (attr.conditionPart? query).any (attr.condition.accepts now)

/-- **The node of a query** that the attribute accepts. -/
def node? (attr : Attribute) (now : Moment) (query : Text) : Option Node :=
  if attr.accepts now query then
    (attr.conditionPart? query).bind fun part =>
      attr.condition.node? now part attr.field
  else none

/-- The time phrase that acceptance of a query depends on, whatever it means. -/
def phrase? (attr : Attribute) (query : Text) : Option Text :=
  (attr.conditionPart? query).bind attr.condition.phrase?

end Attribute

end MonitorControl
