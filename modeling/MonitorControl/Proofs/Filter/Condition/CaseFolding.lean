/-
Conditions up to case.

Tokens are compared with the head of a query up to case, and so which token is the
longest does not change when the query is folded, and what follows it is folded
(`readToken?_fold`). Each kind of condition is tokens, then a value, then perhaps a
range of time, and its completions, its acceptance and its node follow the same
steps. Completions are made of tokens, so they stay the same to the letter; nodes
keep their numbers, and their texts are folded.

A range of time counts only if its phrase names a moment, and that is where the
condition on stamp marks comes in. Since a phrase is a part of the query, with a
sign before it at most, the condition is one on the query.
-/
import MonitorControl.Filter.Condition
import MonitorControl.Proofs.Query.CaseFolding
import MonitorControl.Proofs.Time.CaseFolding

set_option autoImplicit false

namespace MonitorControl

open Text

/-! ## Heads and completions -/

section Tokens

variable {α : Type}

@[simp] theorem markTyped_fold (candidate typed : Text) :
    markTyped candidate typed.fold = markTyped candidate typed := by
  simp only [markTyped, isEmpty_fold, startsWith_fold_right, length_fold]

@[simp] theorem completionOf_fold (typed candidate : Text) :
    completionOf typed.fold candidate = completionOf typed candidate := by
  simp only [completionOf, startsWith_fold_right, markTyped_fold]

@[simp] theorem longestToken?_fold (query : Text) (tokens : List Text) :
    longestToken? query.fold tokens = longestToken? query tokens := by
  rw [longestToken?, longestToken?, startsWith_fold_left]

/-- **A folded query has the token that the query has**, and what follows it is folded. -/
theorem readToken?_fold (table : List (Text × α)) (query : Text) :
    readToken? table query.fold = (readToken? table query).map (Prod.map id Text.fold) := by
  simp only [readToken?, longestToken?_fold, afterHead?_fold, Option.bind_eq_bind,
    Option.bind_map, Option.map_bind, Function.comp_def, Option.pure_def, Option.map_some,
    Prod.map_apply, id]

theorem readFirst?_fold (table : List (Text × α)) (t : Text) :
    readFirst? table t.fold = (readFirst? table t).map (Prod.map id Text.fold) := by
  simp only [readFirst?, afterHead?_fold, Option.map_map, List.map_findSome?, Function.comp_def,
    Prod.map_apply, id]

theorem readToken?_isInfix {table : List (Text × α)} {query rest : Text} {meaning : α}
    (h : readToken? table query = some (meaning, rest)) : rest <:+: query := by
  simp only [readToken?, Option.bind_eq_bind, Option.bind_eq_some_iff, Option.pure_def,
    Option.some_inj, Prod.mk.injEq] at h
  obtain ⟨token, -, entry, -, rest', hrest, -, rfl⟩ := h
  exact afterHead?_isInfix hrest

theorem readFirst?_isInfix {table : List (Text × α)} {t rest : Text} {meaning : α}
    (h : readFirst? table t = some (meaning, rest)) : rest <:+: t := by
  rw [readFirst?, List.findSome?_eq_some_iff] at h
  obtain ⟨-, entry, -, -, hentry, -⟩ := h
  rw [Option.map_eq_some_iff] at hentry
  obtain ⟨rest', hrest, heq⟩ := hentry
  exact (Prod.mk.inj heq).2 ▸ afterHead?_isInfix hrest

/-- A test that goes by the same things before and after a change may as well come first. -/
theorem filter_map_of_same {o : Option α} {f : α → α} {p : α → Bool}
    (h : ∀ a, o = some a → p (f a) = p a) : (o.map f).filter p = (o.filter p).map f := by
  cases o with
  | none => rfl
  | some a =>
    rw [Option.map_some, Option.filter_some, Option.filter_some, h a rfl]
    by_cases hp : p a = true
    · rw [if_pos hp, if_pos hp, Option.map_some]
    · rw [if_neg hp, if_neg hp, Option.map_none]

end Tokens

/-! ## Ranges of time -/

namespace TimeRange

theorem operatorProposals_fold (query : Text) :
    operatorProposals query.fold = operatorProposals query := by
  funext token
  rw [operatorProposals, operatorProposals, afterHead?_fold]
  cases query.afterHead? token with
  | none => exact completionOf_fold query token
  | some rest => cases rest <;> rfl

theorem proposals_fold (range : TimeRange) (query : Text) :
    range.proposals query.fold = range.proposals query := by
  simp only [proposals, isEmpty_fold, operatorProposals_fold]

/-- A sign is no letter. -/
theorem signed_fold (range : TimeRange) (comparison : Comparison) (value : Text) :
    range.signed comparison value.fold = (range.signed comparison value).fold := by
  have hsign : ∀ direction : TimeDirection, direction.sign.toLower = direction.sign := by
    intro direction
    cases direction <;> decide
  cases value with
  | nil => rfl
  | cons c value =>
    rw [fold_cons, signed, signed, ignoresCase_isDigit c]
    by_cases hc : c.isDigit = true
    · rw [if_pos hc, if_pos hc, fold_cons, fold_cons, hsign]
    · rw [if_neg hc, if_neg hc, fold_cons]

theorem phrase?_fold (range : TimeRange) (query : Text) :
    range.phrase? query.fold = (range.phrase? query).map (Prod.map id Text.fold) := by
  rw [phrase?, phrase?, readToken?_fold]
  cases readToken? range.table query with
  | none => rfl
  | some read =>
    obtain ⟨comparison, rest⟩ := read
    simp only [Option.map_some, Prod.map_apply, id, Option.bind_eq_bind, Option.bind_some,
      trimQuotes_fold, isEmpty_fold, signed_fold]
    by_cases hempty : rest.trimQuotes.isEmpty = true
    · rw [if_pos hempty, if_pos hempty, Option.map_none]
    · rw [if_neg hempty, if_neg hempty, Option.map_some, Prod.map_apply, id]

/-- A sign before a text makes no stamp mark. -/
theorem unstamped_signed {value : Text} (h : Unstamped value) (range : TimeRange)
    (comparison : Comparison) : Unstamped (range.signed comparison value) := by
  cases value with
  | nil => exact h
  | cons c value =>
    rw [signed]
    by_cases hc : c.isDigit = true
    · rw [if_pos hc]
      -- the sign is no digit
      refine List.isChain_cons_cons.2 ⟨fun hsign => absurd hsign ?_, h⟩
      cases range.forced.getD comparison.timeDirection <;> decide
    · rwa [if_neg hc]

theorem unstamped_of_phrase? {range : TimeRange} {query phrase : Text} {comparison : Comparison}
    (h : Unstamped query) (hphrase : range.phrase? query = some (comparison, phrase)) :
    Unstamped phrase := by
  simp only [phrase?, Option.bind_eq_bind, Option.bind_eq_some_iff, Option.ite_none_left_eq_some,
    Option.some_inj, Prod.mk.injEq] at hphrase
  obtain ⟨⟨comparison', rest⟩, hread, -, -, rfl⟩ := hphrase
  exact unstamped_signed
    ((h.of_isInfix (readToken?_isInfix hread)).of_isInfix (trimQuotes_isInfix rest)) range _

variable {query : Text} (h : Unstamped query) (range : TimeRange) (now : Moment)
include h

theorem read?_fold :
    range.read? now query.fold = (range.read? now query).map (Prod.map id Text.fold) := by
  rw [read?, read?, phrase?_fold]
  apply filter_map_of_same
  rintro ⟨comparison, phrase⟩ hphrase
  exact isTimePhrase_fold (unstamped_of_phrase? h hphrase) now

theorem accepts_fold : range.accepts now query.fold = range.accepts now query := by
  rw [accepts, accepts, read?_fold h, Option.isSome_map]

theorem node?_fold (field : Text) :
    range.node? now query.fold field = (range.node? now query field).map Node.fold := by
  rw [node?, node?, read?_fold h, Option.map_map, Option.map_map]
  rfl

end TimeRange

/-! ## States -/

namespace StateCondition

theorem split?_fold (kind : StateKind) (query : Text) :
    split? kind query.fold = (split? kind query).map (Prod.map id (Prod.map id Text.fold)) := by
  simp only [split?, readToken?_fold, readFirst?_fold, Option.bind_eq_bind, Option.bind_map,
    Option.map_bind, Function.comp_def, Option.pure_def, Option.map_some, Prod.map, id]

theorem split?_isInfix {kind : StateKind} {query range : Text} {comparison : Comparison}
    {code : Int} (h : split? kind query = some (comparison, code, range)) : range <:+: query := by
  simp only [split?, Option.bind_eq_bind, Option.bind_eq_some_iff, Option.pure_def,
    Option.some_inj, Prod.mk.injEq] at h
  obtain ⟨⟨comparison', rest⟩, htoken, ⟨code', range'⟩, hstate, -, -, rfl⟩ := h
  exact (readFirst?_isInfix hstate).trans (readToken?_isInfix htoken)

theorem phrase?_fold (kind : StateKind) (query : Text) :
    phrase? kind query.fold = (phrase? kind query).map Text.fold := by
  rw [phrase?, phrase?, split?_fold]
  cases split? kind query with
  | none => rfl
  | some read =>
    obtain ⟨comparison, code, range⟩ := read
    simp only [Option.map_some, Prod.map, id, Option.bind_eq_bind, Option.bind_some, isEmpty_fold,
      TimeRange.phrase?_fold, Option.map_map]
    by_cases hempty : range.isEmpty = true
    · rw [if_pos hempty, if_pos hempty, Option.map_none]
    · rw [if_neg hempty, if_neg hempty, Option.map_map]
      rfl

theorem unstamped_of_phrase? {kind : StateKind} {query phrase : Text} (h : Unstamped query)
    (hphrase : phrase? kind query = some phrase) : Unstamped phrase := by
  simp only [phrase?, Option.bind_eq_bind, Option.bind_eq_some_iff, Option.ite_none_left_eq_some,
    Option.map_eq_some_iff] at hphrase
  obtain ⟨⟨comparison, code, range⟩, hsplit, -, ⟨comparison', phrase'⟩, hrange, rfl⟩ := hphrase
  exact TimeRange.unstamped_of_phrase? (h.of_isInfix (split?_isInfix hsplit)) hrange

theorem stateProposals_fold (query : Text) : stateProposals query.fold = stateProposals query := by
  funext state
  rw [stateProposals, stateProposals, afterHead?_fold]
  cases query.afterHead? state with
  | none => exact completionOf_fold query state
  | some range => exact TimeRange.proposals_fold .standard range

theorem valueProposals_fold (kind : StateKind) (query : Text) :
    valueProposals kind query.fold = valueProposals kind query := by
  simp only [valueProposals, isEmpty_fold, stateProposals_fold]

theorem proposals_fold (kind : StateKind) (query : Text) :
    proposals kind query.fold = proposals kind query := by
  simp only [proposals, isEmpty_fold, byteLength_fold, completionOf_fold, readToken?_fold]
  cases readToken? table query with
  | none => rfl
  | some read => simp only [Option.map_some, Prod.map, valueProposals_fold]

variable (kind : StateKind) {query : Text} (h : Unstamped query) (now : Moment)
include h

theorem read?_fold : read? kind now query.fold =
    (read? kind now query).map (Prod.map id (Prod.map id Text.fold)) := by
  rw [read?, read?, split?_fold]
  apply filter_map_of_same
  rintro ⟨comparison, code, range⟩ hsplit
  -- the range is a part of the query, so it has no stamp mark either
  have hrange : Unstamped range := h.of_isInfix (split?_isInfix hsplit)
  show (range.fold.isEmpty || TimeRange.standard.accepts now range.fold) =
    (range.isEmpty || TimeRange.standard.accepts now range)
  rw [isEmpty_fold, TimeRange.accepts_fold hrange]

theorem accepts_fold : accepts kind now query.fold = accepts kind now query := by
  rw [accepts, accepts, read?_fold kind h, Option.isSome_map]

theorem node?_fold (field : Text) :
    node? kind now query.fold field = (node? kind now query field).map Node.fold := by
  rw [node?, node?, read?_fold kind h]
  cases hread : read? kind now query with
  | none => rfl
  | some read =>
    obtain ⟨comparison, code, range⟩ := read
    have hsplit : split? kind query = some (comparison, code, range) :=
      (Option.filter_eq_some_iff.1 hread).1
    have hrange : Unstamped range := h.of_isInfix (split?_isInfix hsplit)
    simp only [Option.map_some, Prod.map, id, Option.bind_eq_bind, Option.bind_some, isEmpty_fold,
      TimeRange.node?_fold hrange]
    -- the state alone holds a number and no text; a range of time has its phrase folded
    by_cases hempty : range.isEmpty = true
    · rw [if_pos hempty, if_pos hempty]
      rfl
    · rw [if_neg hempty, if_neg hempty]
      cases TimeRange.standard.node? now range kind.changeColumn <;> rfl

end StateCondition

/-! ## Flags -/

namespace FlagTable

variable (table : FlagTable)

theorem split?_fold (query : Text) : table.split? query.fold =
    (table.split? query).map (Prod.map id (Prod.map id Text.fold)) := by
  simp only [split?, longestToken?_fold, afterHead?_fold, readFirst?_fold, Option.bind_eq_bind,
    Option.bind_map, Option.map_bind, Function.comp_def, Option.pure_def, Option.map_some, Prod.map,
    id]

theorem split?_isInfix {table : FlagTable} {query column range : Text} {value : Int}
    (h : table.split? query = some (column, value, range)) : range <:+: query := by
  simp only [split?, Option.bind_eq_bind, Option.bind_eq_some_iff, Option.pure_def,
    Option.some_inj, Prod.mk.injEq] at h
  obtain ⟨token, -, rest, hrest, ⟨column', range'⟩, hlabel, -, -, rfl⟩ := h
  exact (readFirst?_isInfix hlabel).trans (afterHead?_isInfix hrest)

theorem phrase?_fold (query : Text) :
    table.phrase? query.fold = (table.phrase? query).map Text.fold := by
  rw [phrase?, phrase?, split?_fold]
  cases table.split? query with
  | none => rfl
  | some read =>
    obtain ⟨column, value, range⟩ := read
    simp only [Option.map_some, Prod.map, id, Option.bind_eq_bind, Option.bind_some, isEmpty_fold,
      TimeRange.phrase?_fold, Option.map_map]
    by_cases hnone : (range.isEmpty || table.timeColumn.isNone) = true
    · rw [if_pos hnone, if_pos hnone, Option.map_none]
    · rw [if_neg hnone, if_neg hnone, Option.map_map]
      rfl

theorem unstamped_of_phrase? {table : FlagTable} {query phrase : Text} (h : Unstamped query)
    (hphrase : table.phrase? query = some phrase) : Unstamped phrase := by
  simp only [phrase?, Option.bind_eq_bind, Option.bind_eq_some_iff, Option.ite_none_left_eq_some,
    Option.map_eq_some_iff] at hphrase
  obtain ⟨⟨column, value, range⟩, hsplit, -, ⟨comparison, phrase'⟩, hrange, rfl⟩ := hphrase
  exact TimeRange.unstamped_of_phrase? (h.of_isInfix (split?_isInfix hsplit)) hrange

theorem labelProposals_fold (query : Text) :
    table.labelProposals query.fold = table.labelProposals query := by
  funext label
  rw [labelProposals, labelProposals, afterHead?_fold]
  cases query.afterHead? label with
  | none => exact completionOf_fold query label
  | some range => simp only [Option.map_some, TimeRange.proposals_fold]

theorem operatorProposals_fold (query : Text) :
    table.operatorProposals query.fold = table.operatorProposals query := by
  funext token
  simp only [operatorProposals, sameLetters_fold_right, startsWith_fold_right, markTyped_fold,
    afterHead?_fold]
  cases query.afterHead? token with
  | none => rfl
  | some rest => simp only [Option.map_some, labelProposals_fold]

theorem proposals_fold (query : Text) : table.proposals query.fold = table.proposals query := by
  simp only [proposals, isEmpty_fold, operatorProposals_fold]

variable {query : Text} (h : Unstamped query) (now : Moment)
include h

theorem accepts_fold : table.accepts now query.fold = table.accepts now query := by
  rw [accepts, accepts, split?_fold]
  cases hsplit : table.split? query with
  | none => rfl
  | some read =>
    obtain ⟨column, value, range⟩ := read
    have hrange : Unstamped range := h.of_isInfix (split?_isInfix hsplit)
    simp only [Option.map_some, Prod.map, id, isEmpty_fold, TimeRange.accepts_fold hrange]

theorem node?_fold : table.node? now query.fold = (table.node? now query).map Node.fold := by
  rw [node?, node?, split?_fold]
  cases hsplit : table.split? query with
  | none => rfl
  | some read =>
    obtain ⟨column, value, range⟩ := read
    have hrange : Unstamped range := h.of_isInfix (split?_isInfix hsplit)
    simp only [Option.map_some, Prod.map, id, Option.bind_eq_bind, Option.bind_some, isEmpty_fold,
      TimeRange.node?_fold hrange]
    by_cases hempty : range.isEmpty = true
    · rw [if_pos hempty, if_pos hempty]
      rfl
    · rw [if_neg hempty, if_neg hempty]
      cases table.timeColumn with
      | none => rfl
      | some timeColumn =>
        simp only [Option.bind_some]
        cases TimeRange.standard.node? now range timeColumn <;> rfl

end FlagTable

/-! ## Texts and numbers -/

namespace TextCondition

theorem read?_fold (query : Text) :
    read? query.fold = (read? query).map (Prod.map id (Option.map Text.fold)) := by
  have hdecorate : ∀ (operator : TextOperator) (value : Text),
      operator.decorate value.fold = (operator.decorate value).fold := by
    intro operator value
    -- a pattern adds stars, which are no letters
    have hstar : '*'.toLower = '*' := by decide
    cases operator <;> simp [TextOperator.decorate, hstar]
  rw [read?, read?, readToken?_fold, Option.map_map, Option.map_map]
  congr 1
  funext ⟨operator, rest⟩
  simp only [Function.comp_apply, Prod.map, id, isEmpty_fold, unquote_fold, hdecorate]
  by_cases hempty : rest.isEmpty = true
  · rw [if_pos hempty, if_pos hempty, Option.map_none]
  · rw [if_neg hempty, if_neg hempty, Option.map_some]

theorem accepts_fold (query : Text) : accepts query.fold = accepts query := by
  rw [accepts, accepts, read?_fold]
  rcases read? query with _ | ⟨operator, _ | value⟩ <;> rfl

theorem node?_fold (query field : Text) :
    node? query.fold field = (node? query field).map Node.fold := by
  rw [node?, node?, read?_fold]
  rcases read? query with _ | ⟨operator, _ | value⟩ <;> rfl

theorem proposals_fold (query : Text) : proposals query.fold = proposals query := by
  have hoperator : operatorProposals query.fold = operatorProposals query := by
    funext operator
    simp only [operatorProposals, sameLetters_fold_right, completionOf_fold]
  simp only [proposals, isEmpty_fold, hoperator]

end TextCondition

namespace NumberCondition

/-- A number has the same value in any case. -/
theorem read?_fold (query : Text) : read? query.fold = read? query := by
  simp only [read?, readToken?_fold, Option.bind_eq_bind, Option.bind_map, Function.comp_def,
    Prod.map, id, readValue?, unquote_fold, readSigned64?_fold, readFinite?_fold]

/-- A number holds no text to fold. -/
theorem fold_of_readValue? {t : Text} {value : Value} (h : readValue? t = some value) :
    value.fold = value := by
  rw [readValue?] at h
  cases hinteger : t.readSigned64? with
  | some n =>
    rw [hinteger] at h
    exact Option.some.inj h ▸ rfl
  | none =>
    rw [hinteger, Option.map_eq_some_iff] at h
    obtain ⟨x, -, rfl⟩ := h
    rfl

theorem node?_fold (query field : Text) :
    node? query.fold field = (node? query field).map Node.fold := by
  rw [node?, node?, read?_fold, Option.map_map]
  cases hread : read? query with
  | none => rfl
  | some read =>
    simp only [read?, Option.bind_eq_bind, Option.bind_eq_some_iff, Option.pure_def,
      Option.some_inj] at hread
    obtain ⟨⟨comparison, rest⟩, -, value, hvalue, rfl⟩ := hread
    simp only [Option.map_some, Function.comp_apply, Node.plain, Node.fold,
      fold_of_readValue? hvalue]

theorem proposals_fold (query : Text) : proposals query.fold = proposals query := by
  simp only [proposals, isEmpty_fold, sameLetters_fold_right, completionOf_fold]

end NumberCondition

/-! ## All kinds of condition -/

namespace Condition

variable (condition : Condition)

theorem proposals_fold (query : Text) :
    condition.proposals query.fold = condition.proposals query := by
  cases condition with
  | text => exact TextCondition.proposals_fold query
  | number => exact NumberCondition.proposals_fold query
  | state kind => exact StateCondition.proposals_fold kind query
  | flag table => exact table.proposals_fold query
  | time range => exact range.proposals_fold query

theorem phrase?_fold (query : Text) :
    condition.phrase? query.fold = (condition.phrase? query).map Text.fold := by
  cases condition with
  | text => rfl
  | number => rfl
  | state kind => exact StateCondition.phrase?_fold kind query
  | flag table => exact table.phrase?_fold query
  | time range =>
    rw [phrase?, phrase?, range.phrase?_fold, Option.map_map, Option.map_map]
    rfl

theorem unstamped_of_phrase? {condition : Condition} {query phrase : Text} (h : Unstamped query)
    (hphrase : condition.phrase? query = some phrase) : Unstamped phrase := by
  cases condition with
  | text => exact absurd hphrase (Option.some_ne_none phrase).symm
  | number => exact absurd hphrase (Option.some_ne_none phrase).symm
  | state kind => exact StateCondition.unstamped_of_phrase? h hphrase
  | flag table => exact FlagTable.unstamped_of_phrase? h hphrase
  | time range =>
    obtain ⟨⟨comparison, phrase'⟩, hrange, rfl⟩ := Option.map_eq_some_iff.1 hphrase
    exact TimeRange.unstamped_of_phrase? h hrange

variable {query : Text} (h : Unstamped query) (now : Moment)
include h

theorem accepts_fold : condition.accepts now query.fold = condition.accepts now query := by
  cases condition with
  | text => exact TextCondition.accepts_fold query
  | number =>
    rw [accepts, NumberCondition.accepts, NumberCondition.accepts, NumberCondition.read?_fold]
  | state kind => exact StateCondition.accepts_fold kind h now
  | flag table => exact table.accepts_fold h now
  | time range => exact TimeRange.accepts_fold h range now

/-- **The node of a folded query** is the node of the query, with its texts folded. -/
theorem node?_fold (field : Text) :
    condition.node? now query.fold field = (condition.node? now query field).map Node.fold := by
  cases condition with
  | text => exact TextCondition.node?_fold query field
  | number => exact NumberCondition.node?_fold query field
  | state kind => exact StateCondition.node?_fold kind h now field
  | flag table => exact table.node?_fold h now
  | time range => exact TimeRange.node?_fold h range now field

end Condition

end MonitorControl
