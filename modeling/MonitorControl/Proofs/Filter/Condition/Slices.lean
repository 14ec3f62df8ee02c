/-
Conditions by byte offsets.

Whatever recognises a token or marks a completion is written out here with the slices that it
takes: a head is compared byte by byte, and what follows it is the query from as many bytes
on. The functions are those of the conditions, step for step, and each has one equation: it
has no fault, and its result is that of the function without offsets. The equations rest on
two facts about texts alone (`slicedAfterHead?_eq` and `slicedMark_eq`), so tables of tokens
may hold any texts whatever.
-/
import MonitorControl.Filter.Condition
import MonitorControl.Proofs.Time.Slices

set_option autoImplicit false

namespace MonitorControl

open Text

/-! ## Heads -/

/-- `markTyped` by offsets: the candidate is split behind as many bytes as are typed. -/
def slicedMark (candidate typed : Text) : Sliced Text := do
  if typed.isEmpty then return candidate
  else if ← slicedStartsWith candidate typed then
    let (marked, rest) ← splitText candidate (byteLength typed)
    return '{' :: marked ++ '}' :: rest
  else return candidate

/-- `completionOf` by offsets. -/
def slicedCompletion (typed candidate : Text) : Sliced (List Text) := do
  if ← slicedStartsWith candidate typed then return [← slicedMark candidate typed]
  else return []

/-- `longestToken?` by offsets. -/
def slicedLongestToken? (query : Text) (tokens : List Text) : Sliced (Option Text) :=
  tokens.foldlM (fun best token => do
    if ← slicedStartsWith query token then return laterLonger best token else return best) none

/-- `readToken?` by offsets. -/
def slicedReadToken? {α : Type} (table : List (Text × α)) (query : Text) :
    Sliced (Option (α × Text)) := do
  match ← slicedLongestToken? query (table.map Prod.fst) with
  | none => return none
  | some token =>
    match table.find? fun (candidate, _) => candidate == token with
    | none => return none
    | some (_, meaning) =>
      return (← slicedAfterHead? query token).map fun rest => (meaning, rest)

/-- `readFirst?` by offsets. -/
def slicedReadFirst? {α : Type} (table : List (Text × α)) (t : Text) : Sliced (Option (α × Text)) :=
  table.findSomeM? fun (head, meaning) => do
    return (← slicedAfterHead? t head).map fun rest => (meaning, rest)

@[simp] theorem slicedMark_eq (candidate typed : Text) :
    slicedMark candidate typed = pure (markTyped candidate typed) := by
  rw [slicedMark, markTyped, slicedStartsWith_eq, pure_bind]
  cases typed.isEmpty with
  | true => rfl
  | false =>
    cases hstarts : candidate.startsWith typed with
    | false => rfl
    | true =>
      obtain ⟨hsplit, hlength⟩ := exists_of_startsWith hstarts
      have hslice : splitText candidate (byteLength typed) =
          pure (candidate.take typed.length, candidate.drop typed.length) := by
        conv_lhs => rw [hsplit, ← hlength]
        exact splitText_append _ _
      rw [hslice]
      rfl

@[simp] theorem slicedCompletion_eq (typed candidate : Text) :
    slicedCompletion typed candidate = pure (completionOf typed candidate) := by
  rw [slicedCompletion, completionOf, slicedStartsWith_eq, pure_bind, slicedMark_eq, pure_bind]
  split <;> rfl

@[simp] theorem slicedLongestToken?_eq (query : Text) (tokens : List Text) :
    slicedLongestToken? query tokens = pure (longestToken? query tokens) := by
  have hstep : ∀ (best : Option Text) (token : Text),
      (if query.startsWith token then pure (laterLonger best token) else pure best :
        Sliced (Option Text)) =
      pure (if query.startsWith token then laterLonger best token else best) := by
    intro best token
    split <;> rfl
  simp only [slicedLongestToken?, slicedStartsWith_eq, pure_bind, hstep, List.foldlM_pure,
    longestToken?, List.foldl_filter]

@[simp] theorem slicedReadToken?_eq {α : Type} (table : List (Text × α)) (query : Text) :
    slicedReadToken? table query = pure (readToken? table query) := by
  rw [slicedReadToken?, slicedLongestToken?_eq, pure_bind, readToken?]
  cases longestToken? query (table.map Prod.fst) with
  | none => rfl
  | some token =>
    simp only [slicedAfterHead?_eq, pure_bind]
    cases hentry : table.find? fun (candidate, _) => candidate == token with
    | none => simp [hentry]
    | some entry =>
      cases h : query.afterHead? token <;> simp [hentry, h]

@[simp] theorem slicedReadFirst?_eq {α : Type} (table : List (Text × α)) (t : Text) :
    slicedReadFirst? table t = pure (readFirst? table t) := by
  simp only [slicedReadFirst?, slicedAfterHead?_eq, pure_bind, List.findSomeM?_pure, readFirst?]

/-! ## Text -/

namespace TextCondition

/-- `read?` by offsets. -/
def slicedRead? (query : Text) : Sliced (Option (TextOperator × Option Text)) := do
  return (← slicedReadToken? TextOperator.table query).map fun (operator, rest) =>
    (operator, if rest.isEmpty then none else some (operator.decorate rest.unquote))

/-- `accepts` by offsets. -/
def slicedAccepts (query : Text) : Sliced Bool := do
  match ← slicedRead? query with
  | some (_, some _) => return true
  | _ => return false

/-- `node?` by offsets. -/
def slicedNode? (query field : Text) : Sliced (Option Node) := do
  match ← slicedRead? query with
  | some (operator, some value) => return some (.plain field operator.comparison (.text value))
  | _ => return none

/-- `operatorProposals` by offsets. -/
def slicedOperatorProposals (query : Text) (operator : TextOperator) : Sliced (List Text) :=
  if operator.token.sameLetters query then return [operator.hint.inSingleQuotes]
  else slicedCompletion query operator.token

/-- `proposals` by offsets. -/
def slicedProposals (query : Text) : Sliced (List Text) := do
  if query.isEmpty then return operators
  else return (← TextOperator.all.mapM (slicedOperatorProposals query)).flatten

@[simp] theorem slicedRead?_eq (query : Text) : slicedRead? query = pure (read? query) := by
  rw [slicedRead?, slicedReadToken?_eq, pure_bind, read?]

@[simp] theorem slicedAccepts_eq (query : Text) : slicedAccepts query = pure (accepts query) := by
  rw [slicedAccepts, slicedRead?_eq, pure_bind, accepts]
  rcases read? query with _ | ⟨operator, _ | value⟩ <;> rfl

@[simp] theorem slicedNode?_eq (query field : Text) :
    slicedNode? query field = pure (node? query field) := by
  rw [slicedNode?, slicedRead?_eq, pure_bind, node?]
  rcases read? query with _ | ⟨operator, _ | value⟩ <;> rfl

@[simp] theorem slicedOperatorProposals_eq (query : Text) (operator : TextOperator) :
    slicedOperatorProposals query operator = pure (operatorProposals query operator) := by
  rw [slicedOperatorProposals, slicedCompletion_eq, operatorProposals]
  split <;> rfl

@[simp] theorem slicedProposals_eq (query : Text) :
    slicedProposals query = pure (proposals query) := by
  rw [slicedProposals, proposals, List.flatMap_def]
  simp only [funext (slicedOperatorProposals_eq query), List.mapM_pure, pure_bind]
  split <;> rfl

end TextCondition

/-! ## Numbers -/

namespace NumberCondition

/-- `read?` by offsets. -/
def slicedRead? (query : Text) : Sliced (Option (Comparison × Value)) := do
  match ← slicedReadToken? table query with
  | none => return none
  | some (comparison, rest) =>
    return (readValue? rest.unquote).map fun value => (comparison, value)

/-- `accepts` by offsets. -/
def slicedAccepts (query : Text) : Sliced Bool := do
  return (← slicedRead? query).isSome

/-- `node?` by offsets. -/
def slicedNode? (query field : Text) : Sliced (Option Node) := do
  return (← slicedRead? query).map fun (comparison, value) => .plain field comparison value

/-- `proposals` by offsets. -/
def slicedProposals (query : Text) : Sliced (List Text) := do
  if query.isEmpty then return operators
  else
    let each ← operators.mapM fun token =>
      if token.sameLetters query then return [] else slicedCompletion query token
    return each.flatten

@[simp] theorem slicedRead?_eq (query : Text) : slicedRead? query = pure (read? query) := by
  rw [slicedRead?, slicedReadToken?_eq, pure_bind, read?]
  cases readToken? table query with
  | none => rfl
  | some found =>
    simp only
    cases h : readValue? found.2.unquote <;> simp [h]

@[simp] theorem slicedAccepts_eq (query : Text) : slicedAccepts query = pure (accepts query) := by
  rw [slicedAccepts, slicedRead?_eq, pure_bind, accepts]

@[simp] theorem slicedNode?_eq (query field : Text) :
    slicedNode? query field = pure (node? query field) := by
  rw [slicedNode?, slicedRead?_eq, pure_bind, node?]

@[simp] theorem slicedProposals_eq (query : Text) :
    slicedProposals query = pure (proposals query) := by
  have heach : ∀ token : Text,
      (if token.sameLetters query then pure [] else slicedCompletion query token :
        Sliced (List Text)) =
      pure (if token.sameLetters query then [] else completionOf query token) := by
    intro token
    rw [slicedCompletion_eq]
    split <;> rfl
  rw [slicedProposals, proposals, List.flatMap_def]
  simp only [heach, List.mapM_pure, pure_bind]
  split <;> rfl

end NumberCondition

/-! ## Ranges of time -/

namespace TimeRange

variable {range : TimeRange}

/-- `read?` by offsets: the token is cut off, and the phrase is resolved. -/
def slicedRead? (range : TimeRange) (now : Moment) (query : Text) :
    Sliced (Option (Comparison × Text)) := do
  match ← slicedReadToken? range.table query with
  | none => return none
  | some (comparison, rest) =>
    let value := rest.trimQuotes
    if value.isEmpty then return none
    else if ← slicedIsTimePhrase (range.signed comparison value) now then
      return some (comparison, range.signed comparison value)
    else return none

/-- `accepts` by offsets. -/
def slicedAccepts (range : TimeRange) (now : Moment) (query : Text) : Sliced Bool := do
  return (← range.slicedRead? now query).isSome

/-- `node?` by offsets. -/
def slicedNode? (range : TimeRange) (now : Moment) (query field : Text) : Sliced (Option Node) := do
  return (← range.slicedRead? now query).map fun (comparison, phrase) =>
    .time field comparison phrase

/-- `operatorProposals` by offsets. -/
def slicedOperatorProposals (query token : Text) : Sliced (List Text) := do
  match ← slicedAfterHead? query token with
  | some [] => return examples
  | some (_ :: _) => return []
  | none => slicedCompletion query token

/-- `proposals` by offsets. -/
def slicedProposals (range : TimeRange) (query : Text) : Sliced (List Text) := do
  if query.isEmpty then return range.operators
  else return (← range.operators.mapM (slicedOperatorProposals query)).flatten

@[simp] theorem slicedRead?_eq (now : Moment) (query : Text) :
    range.slicedRead? now query = pure (range.read? now query) := by
  rw [slicedRead?, slicedReadToken?_eq, pure_bind, read?, phrase?]
  cases readToken? range.table query with
  | none => rfl
  | some found =>
    obtain ⟨comparison, rest⟩ := found
    simp only [slicedIsTimePhrase_eq, pure_bind, Option.bind_eq_bind, Option.bind_some]
    cases rest.trimQuotes.isEmpty with
    | true => rfl
    | false =>
      simp only [Bool.false_eq_true, if_false, Option.filter]
      split <;> rfl

@[simp] theorem slicedAccepts_eq (now : Moment) (query : Text) :
    range.slicedAccepts now query = pure (range.accepts now query) := by
  rw [slicedAccepts, slicedRead?_eq, pure_bind, accepts]

@[simp] theorem slicedNode?_eq (now : Moment) (query field : Text) :
    range.slicedNode? now query field = pure (range.node? now query field) := by
  rw [slicedNode?, slicedRead?_eq, pure_bind, node?]

@[simp] theorem slicedOperatorProposals_eq (query token : Text) :
    slicedOperatorProposals query token = pure (operatorProposals query token) := by
  rw [slicedOperatorProposals, slicedAfterHead?_eq, pure_bind, operatorProposals]
  rcases query.afterHead? token with _ | _ | ⟨c, rest⟩
  · exact slicedCompletion_eq query token
  · rfl
  · rfl

@[simp] theorem slicedProposals_eq (query : Text) :
    range.slicedProposals query = pure (range.proposals query) := by
  rw [slicedProposals, proposals, List.flatMap_def]
  simp only [funext (slicedOperatorProposals_eq query), List.mapM_pure, pure_bind]
  split <;> rfl

end TimeRange

/-! ## States -/

namespace StateCondition

/-- `split?` by offsets. -/
def slicedSplit? (kind : StateKind) (query : Text) : Sliced (Option (Comparison × Int × Text)) := do
  match ← slicedReadToken? table query with
  | none => return none
  | some (comparison, rest) =>
    return (← slicedReadFirst? kind.states rest).map fun (code, range) => (comparison, code, range)

/-- `read?` by offsets. -/
def slicedRead? (kind : StateKind) (now : Moment) (query : Text) :
    Sliced (Option (Comparison × Int × Text)) := do
  match ← slicedSplit? kind query with
  | none => return none
  | some (comparison, code, range) =>
    if range.isEmpty then return some (comparison, code, range)
    else if ← TimeRange.standard.slicedAccepts now range then
      return some (comparison, code, range)
    else return none

/-- `accepts` by offsets. -/
def slicedAccepts (kind : StateKind) (now : Moment) (query : Text) : Sliced Bool := do
  return (← slicedRead? kind now query).isSome

/-- `node?` by offsets. -/
def slicedNode? (kind : StateKind) (now : Moment) (query field : Text) :
    Sliced (Option Node) := do
  match ← slicedRead? kind now query with
  | none => return none
  | some (comparison, code, range) =>
    let state := Node.plain field comparison (.integer code)
    if range.isEmpty then return some state
    else
      return (← TimeRange.standard.slicedNode? now range kind.changeColumn).map fun change =>
        .join .and state change

/-- `stateProposals` by offsets. -/
def slicedStateProposals (query state : Text) : Sliced (List Text) := do
  match ← slicedAfterHead? query state with
  | some range => TimeRange.standard.slicedProposals range
  | none => slicedCompletion query state

/-- `valueProposals` by offsets. -/
def slicedValueProposals (kind : StateKind) (query : Text) : Sliced (List Text) := do
  let states := kind.states.map Prod.fst
  if query.isEmpty then return states
  else return (← states.mapM (slicedStateProposals query)).flatten

/-- `proposals` by offsets. -/
def slicedProposals (kind : StateKind) (query : Text) : Sliced (List Text) := do
  if query.isEmpty then return operators
  else
    let longer ← operators.mapM fun token =>
      if query.byteLength < token.byteLength then slicedCompletion query token else return []
    match ← slicedReadToken? table query with
    | some (_, rest) => return longer.flatten ++ (← slicedValueProposals kind rest)
    | none => return longer.flatten ++ []

@[simp] theorem slicedSplit?_eq (kind : StateKind) (query : Text) :
    slicedSplit? kind query = pure (split? kind query) := by
  rw [slicedSplit?, slicedReadToken?_eq, pure_bind, split?]
  cases readToken? table query with
  | none => rfl
  | some found =>
    simp only [slicedReadFirst?_eq, pure_bind]
    cases h : readFirst? kind.states found.2 <;> simp [h]

@[simp] theorem slicedRead?_eq (kind : StateKind) (now : Moment) (query : Text) :
    slicedRead? kind now query = pure (read? kind now query) := by
  rw [slicedRead?, slicedSplit?_eq, pure_bind, read?]
  rcases split? kind query with _ | ⟨comparison, code, range⟩
  · rfl
  · simp only [TimeRange.slicedAccepts_eq, pure_bind, Option.filter]
    by_cases hempty : range.isEmpty = true
    · simp [hempty]
    · by_cases hrange : TimeRange.standard.accepts now range = true <;> simp [hempty, hrange]

@[simp] theorem slicedAccepts_eq (kind : StateKind) (now : Moment) (query : Text) :
    slicedAccepts kind now query = pure (accepts kind now query) := by
  rw [slicedAccepts, slicedRead?_eq, pure_bind, accepts]

@[simp] theorem slicedNode?_eq (kind : StateKind) (now : Moment) (query field : Text) :
    slicedNode? kind now query field = pure (node? kind now query field) := by
  rw [slicedNode?, slicedRead?_eq, pure_bind, node?]
  rcases read? kind now query with _ | ⟨comparison, code, range⟩
  · rfl
  · simp only [TimeRange.slicedNode?_eq, pure_bind, Option.bind_eq_bind, Option.bind_some]
    cases range.isEmpty with
    | true => rfl
    | false => cases TimeRange.standard.node? now range kind.changeColumn <;> rfl

@[simp] theorem slicedStateProposals_eq (query state : Text) :
    slicedStateProposals query state = pure (stateProposals query state) := by
  rw [slicedStateProposals, slicedAfterHead?_eq, pure_bind, stateProposals]
  cases query.afterHead? state with
  | none => exact slicedCompletion_eq query state
  | some range => exact TimeRange.slicedProposals_eq range

@[simp] theorem slicedValueProposals_eq (kind : StateKind) (query : Text) :
    slicedValueProposals kind query = pure (valueProposals kind query) := by
  simp only [slicedValueProposals, valueProposals, List.flatMap_def, List.mapM_pure, pure_bind,
    funext (slicedStateProposals_eq query)]
  split <;> rfl

@[simp] theorem slicedProposals_eq (kind : StateKind) (query : Text) :
    slicedProposals kind query = pure (proposals kind query) := by
  have heach : ∀ token : Text,
      (if query.byteLength < token.byteLength then slicedCompletion query token else pure [] :
        Sliced (List Text)) =
      pure (if query.byteLength < token.byteLength then completionOf query token else []) := by
    intro token
    rw [slicedCompletion_eq]
    split <;> rfl
  rw [slicedProposals, proposals, List.flatMap_def]
  simp only [heach, List.mapM_pure, pure_bind, slicedReadToken?_eq, slicedValueProposals_eq]
  cases query.isEmpty with
  | true => rfl
  | false => cases readToken? table query <;> rfl

end StateCondition

/-! ## Flags -/

namespace FlagTable

variable {flags : FlagTable}

/-- `split?` by offsets. -/
def slicedSplit? (flags : FlagTable) (query : Text) : Sliced (Option (Text × Int × Text)) := do
  match ← slicedLongestToken? query flags.operators with
  | none => return none
  | some token =>
    let value := if token == flags.negative then 0 else 1
    match ← slicedAfterHead? query token with
    | none => return none
    | some rest =>
      return (← slicedReadFirst? flags.columns rest).map fun (column, range) =>
        (column, value, range)

/-- `accepts` by offsets. -/
def slicedAccepts (flags : FlagTable) (now : Moment) (query : Text) : Sliced Bool := do
  match ← flags.slicedSplit? query with
  | none => return false
  | some (_, _, range) =>
    if range.isEmpty then return true
    else if flags.timeColumn.isSome then TimeRange.standard.slicedAccepts now range
    else return false

/-- `node?` by offsets. -/
def slicedNode? (flags : FlagTable) (now : Moment) (query : Text) : Sliced (Option Node) := do
  match ← flags.slicedSplit? query with
  | none => return none
  | some (column, value, range) =>
    let flag := Node.plain column .equal (.integer value)
    if range.isEmpty then return some flag
    else
      match flags.timeColumn with
      | none => return none
      | some timeColumn =>
        return (← TimeRange.standard.slicedNode? now range timeColumn).map fun time =>
          .join .and time flag

/-- `labelProposals` by offsets. -/
def slicedLabelProposals (flags : FlagTable) (query label : Text) : Sliced (List Text) := do
  match ← slicedAfterHead? query label with
  | some range =>
    if flags.timeColumn.isSome then TimeRange.standard.slicedProposals range else return []
  | none => slicedCompletion query label

/-- `operatorProposals` by offsets. -/
def slicedOperatorProposals (flags : FlagTable) (query token : Text) : Sliced (List Text) := do
  let labels := flags.flags.map Prod.snd
  if token.sameLetters query then return labels
  else if ← slicedStartsWith token query then return [← slicedMark token query]
  else
    match ← slicedAfterHead? query token with
    | some rest => return (← labels.mapM (flags.slicedLabelProposals rest)).flatten
    | none => return []

/-- `proposals` by offsets. -/
def slicedProposals (flags : FlagTable) (query : Text) : Sliced (List Text) := do
  if query.isEmpty then return flags.operators
  else return (← flags.operators.mapM (flags.slicedOperatorProposals query)).flatten

@[simp] theorem slicedSplit?_eq (query : Text) :
    flags.slicedSplit? query = pure (flags.split? query) := by
  rw [slicedSplit?, slicedLongestToken?_eq, pure_bind, split?]
  cases longestToken? query flags.operators with
  | none => rfl
  | some token =>
    simp only [slicedAfterHead?_eq, pure_bind, Option.bind_eq_bind, Option.bind_some]
    cases query.afterHead? token with
    | none => rfl
    | some rest =>
      simp only [slicedReadFirst?_eq, pure_bind, Option.bind_some]
      cases readFirst? flags.columns rest <;> rfl

@[simp] theorem slicedAccepts_eq (now : Moment) (query : Text) :
    flags.slicedAccepts now query = pure (flags.accepts now query) := by
  rw [slicedAccepts, slicedSplit?_eq, pure_bind, accepts]
  rcases flags.split? query with _ | ⟨column, value, range⟩
  · rfl
  · simp only [TimeRange.slicedAccepts_eq]
    cases range.isEmpty <;> cases flags.timeColumn <;> rfl

@[simp] theorem slicedNode?_eq (now : Moment) (query : Text) :
    flags.slicedNode? now query = pure (flags.node? now query) := by
  rw [slicedNode?, slicedSplit?_eq, pure_bind, node?]
  rcases flags.split? query with _ | ⟨column, value, range⟩
  · rfl
  · simp only [TimeRange.slicedNode?_eq, pure_bind, Option.bind_eq_bind, Option.bind_some]
    cases range.isEmpty with
    | true => rfl
    | false =>
      cases flags.timeColumn with
      | none => rfl
      | some timeColumn =>
        simp only [Option.bind_some]
        cases TimeRange.standard.node? now range timeColumn <;> rfl

@[simp] theorem slicedLabelProposals_eq (query label : Text) :
    flags.slicedLabelProposals query label = pure (flags.labelProposals query label) := by
  rw [slicedLabelProposals, slicedAfterHead?_eq, pure_bind, labelProposals]
  cases query.afterHead? label with
  | none => exact slicedCompletion_eq query label
  | some range =>
    simp only [TimeRange.slicedProposals_eq]
    split <;> rfl

@[simp] theorem slicedOperatorProposals_eq (query token : Text) :
    flags.slicedOperatorProposals query token = pure (flags.operatorProposals query token) := by
  simp only [slicedOperatorProposals, slicedStartsWith_eq, slicedMark_eq, slicedAfterHead?_eq,
    pure_bind, operatorProposals, funext (flags.slicedLabelProposals_eq _), List.mapM_pure,
    List.flatMap_def]
  cases token.sameLetters query with
  | true => rfl
  | false =>
    cases token.startsWith query with
    | true => rfl
    | false => cases query.afterHead? token <;> rfl

@[simp] theorem slicedProposals_eq (query : Text) :
    flags.slicedProposals query = pure (flags.proposals query) := by
  rw [slicedProposals, proposals, List.flatMap_def]
  simp only [funext (slicedOperatorProposals_eq query), List.mapM_pure, pure_bind]
  split <;> rfl

end FlagTable

/-! ## All kinds -/

namespace Condition

variable (condition : Condition)

/-- `proposals` by offsets. -/
def slicedProposals : Condition → Text → Sliced (List Text)
  | .text => TextCondition.slicedProposals
  | .number => NumberCondition.slicedProposals
  | .state kind => StateCondition.slicedProposals kind
  | .flag table => table.slicedProposals
  | .time range => range.slicedProposals

/-- `accepts` by offsets. -/
def slicedAccepts (now : Moment) : Condition → Text → Sliced Bool
  | .text => TextCondition.slicedAccepts
  | .number => NumberCondition.slicedAccepts
  | .state kind => StateCondition.slicedAccepts kind now
  | .flag table => table.slicedAccepts now
  | .time range => range.slicedAccepts now

/-- `node?` by offsets. -/
def slicedNode? (now : Moment) (condition : Condition) (query field : Text) :
    Sliced (Option Node) :=
  match condition with
  | .text => TextCondition.slicedNode? query field
  | .number => NumberCondition.slicedNode? query field
  | .state kind => StateCondition.slicedNode? kind now query field
  | .flag table => table.slicedNode? now query
  | .time range => range.slicedNode? now query field

@[simp] theorem slicedProposals_eq (query : Text) :
    condition.slicedProposals query = pure (condition.proposals query) := by
  cases condition with
  | text => exact TextCondition.slicedProposals_eq query
  | number => exact NumberCondition.slicedProposals_eq query
  | state kind => exact StateCondition.slicedProposals_eq kind query
  | flag table => exact FlagTable.slicedProposals_eq query
  | time range => exact TimeRange.slicedProposals_eq query

@[simp] theorem slicedAccepts_eq (now : Moment) (query : Text) :
    condition.slicedAccepts now query = pure (condition.accepts now query) := by
  cases condition with
  | text => exact TextCondition.slicedAccepts_eq query
  | number => exact NumberCondition.slicedAccepts_eq query
  | state kind => exact StateCondition.slicedAccepts_eq kind now query
  | flag table => exact FlagTable.slicedAccepts_eq now query
  | time range => exact TimeRange.slicedAccepts_eq now query

@[simp] theorem slicedNode?_eq (now : Moment) (query field : Text) :
    condition.slicedNode? now query field = pure (condition.node? now query field) := by
  cases condition with
  | text => exact TextCondition.slicedNode?_eq query field
  | number => exact NumberCondition.slicedNode?_eq query field
  | state kind => exact StateCondition.slicedNode?_eq kind now query field
  | flag table => exact FlagTable.slicedNode?_eq now query
  | time range => exact TimeRange.slicedNode?_eq now query field

end Condition

end MonitorControl
