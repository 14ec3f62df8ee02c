/-
Heads of a query, and completions of it.

Every part of the filter language is recognised by a token at the head of what is
left of the query. Where one token begins another, the longest that matches is
meant. A completion is a token that the query begins, with the part already typed
between braces.
-/
import MonitorControl.Text.Ascii
import MonitorControl.Text.Utf8

set_option autoImplicit false

namespace MonitorControl

open Text

/-! ## Completions -/

/-- **A marked completion**: the part of `candidate` that is typed stands between braces. Nothing
is marked if nothing is typed or the candidate does not begin with it. -/
def markTyped (candidate typed : Text) : Text :=
  if typed.isEmpty || !candidate.startsWith typed then candidate
  else '{' :: candidate.take typed.length ++ '}' :: candidate.drop typed.length

/-- The list without later copies of an element. -/
def withoutRepeats (proposals : List Text) : List Text := proposals.eraseDups

/-- A candidate that the typed text begins, marked; nothing for any other. -/
def completionOf (typed candidate : Text) : List Text :=
  if candidate.startsWith typed then [markTyped candidate typed] else []

/-! ## Heads -/

/-- The longer of two tokens by bytes; of two equally long, the second. -/
def laterLonger (best : Option Text) (token : Text) : Option Text :=
  match best with
  | none => some token
  | some b => if b.byteLength ≤ token.byteLength then some token else some b

/-- **The longest token at the head of a query**; of several, the last. -/
def longestToken? (query : Text) (tokens : List Text) : Option Text :=
  (tokens.filter query.startsWith).foldl laterLonger none

/-- The meaning of the longest token at the head of a query, and the trimmed text after it. A token
that occurs twice has its first meaning. -/
def readToken? {α : Type} (table : List (Text × α)) (query : Text) : Option (α × Text) := do
  let token ← longestToken? query (table.map Prod.fst)
  let (_, meaning) ← table.find? fun (candidate, _) => candidate == token
  let rest ← query.afterHead? token
  return (meaning, rest)

/-- The meaning of the first entry of a table that the text begins with, and the trimmed text after
it. -/
def readFirst? {α : Type} (table : List (Text × α)) (t : Text) : Option (α × Text) :=
  table.findSome? fun (head, meaning) => (t.afterHead? head).map fun rest => (meaning, rest)

end MonitorControl
