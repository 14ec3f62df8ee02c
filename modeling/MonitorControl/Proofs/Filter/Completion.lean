/-
What is proposed for a query that is being typed.

A proposal is an item of the filter's vocabulary, or such an item with the end of
the typed text marked at its head (`Completes`). The text is cut four times before
it is compared with anything: to its last segment, behind a label, behind the word of an
attribute and behind the operator, state or flag of a condition. Each cut takes off the
head and trims what is left. A trimmed text ends with the character it ended with before,
so what is left is still an end of what was typed (`trim_isSuffix`), and a level passes the
property of the level below on by `Completes.mono`.

Below the labels nothing is proposed that is there already: an item that has been typed in
full is a head to what is looked at next, or it is passed over, and so the item that is
marked is always longer than the mark. Only a label is proposed again when nothing follows
it, and that only for a domain that has nothing to propose (`completes_of_mem_proposals`).
-/
import MonitorControl.Proofs.Filter.CaseFolding

set_option autoImplicit false

namespace MonitorControl

open Text

/-! ## Ends of a trimmed text -/

namespace Text

variable {t u : Text}

/-- **What is cut off behind a head and trimmed** is still an end of a trimmed text. -/
theorem trim_isSuffix (ht : IsTrimmed t) (h : u <:+ t) : trim u <:+ t := by
  have hstart : trimStart u <:+ t := (List.dropWhile_suffix isBlank).trans h
  obtain ⟨lead, hlead⟩ := hstart
  -- if anything is left, it ends with the last character of `t`, which is no white space
  have hend : trimEnd (trimStart u) = trimStart u := by
    apply trimEnd_of_getLast
    intro c hc
    apply ht.last c
    have hne : trimStart u ≠ [] := List.ne_nil_of_mem (List.mem_of_getLast? hc)
    rw [← hlead, List.getLast?_append_of_ne_nil _ hne]
    exact hc
  rw [trim, hend]
  exact ⟨lead, hlead⟩

theorem afterHead?_isSuffix (ht : IsTrimmed t) {head rest : Text}
    (h : t.afterHead? head = some rest) : rest <:+ t := by
  rw [afterHead?, Option.ite_none_right_eq_some, Option.some_inj] at h
  obtain ⟨-, rfl⟩ := h
  exact trim_isSuffix ht (List.drop_suffix _ t)

theorem isTrimmed_of_afterHead? {head rest : Text} (h : t.afterHead? head = some rest) :
    IsTrimmed rest := by
  rw [afterHead?, Option.ite_none_right_eq_some, Option.some_inj] at h
  obtain ⟨-, rfl⟩ := h
  exact isTrimmed_trim _

/-- Equal texts begin with each other. -/
theorem startsWith_of_sameLetters (h : t.sameLetters u = true) : t.startsWith u = true := by
  have hfold : t.fold = u.fold := beq_iff_eq.1 h
  exact (startsWith_iff t u).2 ⟨[], (List.append_nil _).trans hfold.symm⟩

theorem sameLetters_comm (t u : Text) : t.sameLetters u = u.sameLetters t :=
  Bool.beq_comm

/-- **A head that is not all of a text** is shorter. -/
theorem length_lt_of_startsWith (h : t.startsWith u = true) (hopen : t.sameLetters u = false) :
    u.length < t.length := by
  have hprefix : u.fold <+: t.fold := (startsWith_iff t u).1 h
  have hle : u.length ≤ t.length := by
    rw [← length_fold u, ← length_fold t]
    exact hprefix.length_le
  refine Nat.lt_of_le_of_ne hle ?_
  -- a head as long as the text would be all of it
  intro hlength
  have hsame : u.fold = t.fold := by
    apply hprefix.eq_of_length
    rw [length_fold, length_fold, hlength]
  rw [sameLetters, hsame, beq_self_eq_true] at hopen
  cases hopen

/-- A text that does not begin with another is not the same. -/
theorem not_sameLetters_of_afterHead? {head : Text} (h : t.afterHead? head = none) :
    head.sameLetters t = false := by
  rw [← Bool.not_eq_true, sameLetters_comm]
  intro hsame
  have hsome : (t.afterHead? head).isSome = true := by
    rw [afterHead?_isSome, startsWith_of_sameLetters hsame]
  rw [h] at hsome
  cases hsome

end Text

/-! ## Completions -/

/-- **A marked completion**: the head of `candidate` that is an end of the typed text `s`, up to
case, stands between braces. -/
structure MarksEnd (s candidate typed proposal : Text) : Prop where
  typed_ne_nil : typed ≠ []
  isSuffix : typed <:+ s
  startsWith : candidate.startsWith typed = true
  eq_markTyped : proposal = markTyped candidate typed

/-- **A completion to be trusted** of the typed text `s`: an item of the vocabulary, or one with the
end of what was typed marked at its head and something left behind the mark. -/
def Completes (vocabulary : List Text) (s proposal : Text) : Prop :=
  proposal ∈ vocabulary ∨ ∃ candidate ∈ vocabulary, ∃ typed,
    MarksEnd s candidate typed proposal ∧ typed.length < candidate.length

namespace MarksEnd

variable {s candidate typed proposal : Text}

/-- **What stands between the braces** is what was typed, up to case, and it is cut off the head of
the item. -/
theorem exists_marked (h : MarksEnd s candidate typed proposal) :
    ∃ marked rest, candidate = marked ++ rest ∧ marked.sameLetters typed = true ∧
      proposal = '{' :: marked ++ '}' :: rest ∧
      (typed.length < candidate.length → rest ≠ []) := by
  refine ⟨candidate.take typed.length, candidate.drop typed.length,
    (List.take_append_drop _ _).symm, h.startsWith, ?_, ?_⟩
  · have htyped : typed.isEmpty = false := List.isEmpty_eq_false_iff.2 h.typed_ne_nil
    rw [h.eq_markTyped, markTyped, htyped, h.startsWith]
    rfl
  · intro hlength hrest
    exact absurd (List.drop_eq_nil_iff.1 hrest) (Nat.not_le_of_lt hlength)

theorem mono {s' : Text} (h : MarksEnd s candidate typed proposal) (hs : s <:+ s') :
    MarksEnd s' candidate typed proposal :=
  { h with isSuffix := h.isSuffix.trans hs }

end MarksEnd

namespace Completes

variable {vocabulary vocabulary' : List Text} {s s' candidate proposal : Text}

/-- **A completion of an end of a text** is one of the text, and more vocabulary does no harm. -/
theorem mono (h : Completes vocabulary s proposal) (hvocabulary : vocabulary ⊆ vocabulary')
    (hs : s <:+ s') : Completes vocabulary' s' proposal := by
  rcases h with hitem | ⟨candidate, hcandidate, typed, hmarks, hlength⟩
  · exact .inl (hvocabulary hitem)
  · exact .inr ⟨candidate, hvocabulary hcandidate, typed, hmarks.mono hs, hlength⟩

/-- An item that the typed text begins and does not end. -/
theorem of_markTyped (hcandidate : candidate ∈ vocabulary) (hhead : candidate.startsWith s = true)
    (hopen : candidate.sameLetters s = false) :
    Completes vocabulary s (markTyped candidate s) := by
  by_cases hs : s = []
  · -- nothing is typed, so nothing is marked
    left
    rw [hs]
    exact hcandidate
  · right
    exact ⟨candidate, hcandidate, s, ⟨hs, List.suffix_rfl, hhead, rfl⟩,
      length_lt_of_startsWith hhead hopen⟩

theorem of_completionOf (hcandidate : candidate ∈ vocabulary)
    (hopen : candidate.sameLetters s = false) (h : proposal ∈ completionOf s candidate) :
    Completes vocabulary s proposal := by
  rw [completionOf, List.mem_ite_nil_right, List.mem_singleton] at h
  obtain ⟨hhead, rfl⟩ := h
  exact of_markTyped hcandidate hhead hopen

/-- As long as nothing is typed, items are proposed as they are. -/
theorem of_mem_start {items others : List Text} (hitems : items ⊆ vocabulary)
    (hothers : proposal ∈ others → Completes vocabulary s proposal)
    (h : proposal ∈ if s.isEmpty then items else others) : Completes vocabulary s proposal := by
  by_cases hempty : s.isEmpty = true
  · rw [if_pos hempty] at h
    exact .inl (hitems h)
  · rw [if_neg hempty] at h
    exact hothers h

end Completes

/-! ## Tokens -/

theorem readToken?_isSuffix {α : Type} {table : List (Text × α)} {query rest : Text} {meaning : α}
    (hquery : IsTrimmed query) (h : readToken? table query = some (meaning, rest)) :
    IsTrimmed rest ∧ rest <:+ query := by
  simp only [readToken?, Option.bind_eq_bind, Option.bind_eq_some_iff, Option.pure_def,
    Option.some_inj, Prod.mk.injEq] at h
  obtain ⟨token, -, entry, -, rest', hrest, -, rfl⟩ := h
  exact ⟨isTrimmed_of_afterHead? hrest, afterHead?_isSuffix hquery hrest⟩

/-! ## Ranges of time -/

namespace TimeRange

variable {range : TimeRange} {query proposal : Text}

/-- The operators, and the times that are proposed as examples. -/
def vocabulary (range : TimeRange) : List Text := range.operators ++ examples

theorem completes_of_mem_proposals (h : proposal ∈ range.proposals query) :
    Completes range.vocabulary query proposal := by
  refine .of_mem_start (List.subset_append_left _ _) (fun h => ?_) h
  obtain ⟨token, htoken, h⟩ := List.mem_flatMap.1 h
  rw [operatorProposals] at h
  cases hrest : query.afterHead? token with
  | some rest =>
    rw [hrest] at h
    cases rest with
    | nil => exact .inl (List.mem_append_right _ h)
    | cons c rest =>
      -- a time that has been begun is not completed
      cases h
  | none =>
    rw [hrest] at h
    exact .of_completionOf (List.mem_append_left _ htoken) (not_sameLetters_of_afterHead? hrest) h

end TimeRange

/-! ## Numbers and texts -/

namespace NumberCondition

theorem completes_of_mem_proposals {query proposal : Text} (h : proposal ∈ proposals query) :
    Completes operators query proposal := by
  refine .of_mem_start (List.Subset.refl _) (fun h => ?_) h
  obtain ⟨token, htoken, h⟩ := List.mem_flatMap.1 h
  rw [List.mem_ite_nil_left, Bool.not_eq_true] at h
  exact .of_completionOf htoken h.1 h.2

end NumberCondition

namespace TextCondition

/-- The operators, and the values that are proposed behind them. -/
def vocabulary : List Text :=
  operators ++ TextOperator.all.map fun operator => operator.hint.inSingleQuotes

theorem completes_of_mem_proposals {query proposal : Text} (h : proposal ∈ proposals query) :
    Completes vocabulary query proposal := by
  refine .of_mem_start (List.subset_append_left _ _) (fun h => ?_) h
  obtain ⟨operator, hoperator, h⟩ := List.mem_flatMap.1 h
  rw [operatorProposals] at h
  by_cases hsame : operator.token.sameLetters query = true
  · rw [if_pos hsame, List.mem_singleton] at h
    rw [h]
    exact .inl (List.mem_append_right _ (List.mem_map_of_mem hoperator))
  · rw [if_neg hsame] at h
    rw [Bool.not_eq_true] at hsame
    exact .of_completionOf (List.mem_append_left _ (List.mem_map_of_mem hoperator)) hsame h

end TextCondition

/-! ## States -/

namespace StateCondition

variable {kind : StateKind} {query proposal : Text}

/-- The operators, the states, and what is proposed behind a state. -/
def vocabulary (kind : StateKind) : List Text :=
  operators ++ (kind.states.map Prod.fst ++ TimeRange.standard.vocabulary)

theorem completes_of_mem_stateProposals {state : Text} (hquery : IsTrimmed query)
    (hstate : state ∈ kind.states.map Prod.fst) (h : proposal ∈ stateProposals query state) :
    Completes (vocabulary kind) query proposal := by
  rw [stateProposals] at h
  cases hrange : query.afterHead? state with
  | some range =>
    rw [hrange] at h
    have htimes : TimeRange.standard.vocabulary ⊆ vocabulary kind := by
      intro item hitem
      exact List.mem_append_right _ (List.mem_append_right _ hitem)
    exact (TimeRange.completes_of_mem_proposals h).mono htimes (afterHead?_isSuffix hquery hrange)
  | none =>
    rw [hrange] at h
    exact .of_completionOf (List.mem_append_right _ (List.mem_append_left _ hstate))
      (not_sameLetters_of_afterHead? hrange) h

theorem completes_of_mem_valueProposals (hquery : IsTrimmed query)
    (h : proposal ∈ valueProposals kind query) : Completes (vocabulary kind) query proposal := by
  have hstates : kind.states.map Prod.fst ⊆ vocabulary kind := by
    intro item hitem
    exact List.mem_append_right _ (List.mem_append_left _ hitem)
  refine .of_mem_start hstates (fun h => ?_) h
  obtain ⟨state, hstate, h⟩ := List.mem_flatMap.1 h
  exact completes_of_mem_stateProposals hquery hstate h

theorem completes_of_mem_proposals (hquery : IsTrimmed query)
    (h : proposal ∈ proposals kind query) : Completes (vocabulary kind) query proposal := by
  refine .of_mem_start (List.subset_append_left _ _) (fun h => ?_) h
  rcases List.mem_append.1 h with h | h
  · -- an operator with fewer bytes typed than it has is not there yet
    obtain ⟨token, htoken, h⟩ := List.mem_flatMap.1 h
    rw [List.mem_ite_nil_right] at h
    have hopen : token.sameLetters query = false := by
      rw [← Bool.not_eq_true]
      intro hsame
      have hbytes : token.byteLength = query.byteLength := by
        rw [← byteLength_fold token, beq_iff_eq.1 hsame, byteLength_fold]
      exact absurd h.1 (Nat.not_lt_of_le hbytes.le)
    exact .of_completionOf (List.mem_append_left _ htoken) hopen h.2
  · cases htoken : readToken? table query with
    | none =>
      rw [htoken] at h
      cases h
    | some entry =>
      rw [htoken] at h
      obtain ⟨hrest, hsuffix⟩ := readToken?_isSuffix hquery htoken
      exact (completes_of_mem_valueProposals hrest h).mono (List.Subset.refl _) hsuffix

end StateCondition

/-! ## Flags -/

namespace FlagTable

variable {table : FlagTable} {query proposal : Text}

/-- The labels of the flags. -/
def labels (table : FlagTable) : List Text := table.flags.map Prod.snd

/-- The operators, the labels, and what is proposed behind a label where a range of time can
follow it. -/
def vocabulary (table : FlagTable) : List Text :=
  table.operators ++ (table.labels ++
    if table.timeColumn.isSome then TimeRange.standard.vocabulary else [])

theorem completes_of_mem_labelProposals {label : Text} (hquery : IsTrimmed query)
    (hlabel : label ∈ table.labels) (h : proposal ∈ table.labelProposals query label) :
    Completes table.vocabulary query proposal := by
  rw [labelProposals] at h
  cases hrange : query.afterHead? label with
  | some range =>
    rw [hrange] at h
    rw [List.mem_ite_nil_right] at h
    have htimes : TimeRange.standard.vocabulary ⊆ table.vocabulary := by
      intro item hitem
      rw [vocabulary, if_pos h.1]
      exact List.mem_append_right _ (List.mem_append_right _ hitem)
    exact (TimeRange.completes_of_mem_proposals h.2).mono htimes (afterHead?_isSuffix hquery hrange)
  | none =>
    rw [hrange] at h
    exact .of_completionOf (List.mem_append_right _ (List.mem_append_left _ hlabel))
      (not_sameLetters_of_afterHead? hrange) h

theorem completes_of_mem_operatorProposals {token : Text} (hquery : IsTrimmed query)
    (htoken : token ∈ table.operators) (h : proposal ∈ table.operatorProposals query token) :
    Completes table.vocabulary query proposal := by
  simp only [operatorProposals] at h
  by_cases hsame : token.sameLetters query = true
  · rw [if_pos hsame] at h
    exact .inl (List.mem_append_right _ (List.mem_append_left _ h))
  rw [if_neg hsame] at h
  by_cases hhead : token.startsWith query = true
  · rw [if_pos hhead, List.mem_singleton] at h
    rw [h]
    rw [Bool.not_eq_true] at hsame
    exact .of_markTyped (List.mem_append_left _ htoken) hhead hsame
  rw [if_neg hhead] at h
  cases hrest : query.afterHead? token with
  | none =>
    rw [hrest] at h
    cases h
  | some rest =>
    rw [hrest] at h
    obtain ⟨label, hlabel, h⟩ := List.mem_flatMap.1 h
    have hone := completes_of_mem_labelProposals (isTrimmed_of_afterHead? hrest) hlabel h
    exact hone.mono (List.Subset.refl _) (afterHead?_isSuffix hquery hrest)

theorem completes_of_mem_proposals (hquery : IsTrimmed query)
    (h : proposal ∈ table.proposals query) : Completes table.vocabulary query proposal := by
  refine .of_mem_start (List.subset_append_left _ _) (fun h => ?_) h
  obtain ⟨token, htoken, h⟩ := List.mem_flatMap.1 h
  exact completes_of_mem_operatorProposals hquery htoken h

end FlagTable

/-! ## All kinds of condition -/

namespace Condition

/-- **All that a condition can propose**, before anything is marked. -/
def vocabulary : Condition → List Text
  | .text => TextCondition.vocabulary
  | .number => NumberCondition.operators
  | .state kind => StateCondition.vocabulary kind
  | .flag table => table.vocabulary
  | .time range => range.vocabulary

theorem completes_of_mem_proposals {condition : Condition} {query proposal : Text}
    (hquery : IsTrimmed query) (h : proposal ∈ condition.proposals query) :
    Completes condition.vocabulary query proposal := by
  cases condition with
  | text => exact TextCondition.completes_of_mem_proposals h
  | number => exact NumberCondition.completes_of_mem_proposals h
  | state kind => exact StateCondition.completes_of_mem_proposals hquery h
  | flag table => exact FlagTable.completes_of_mem_proposals hquery h
  | time range => exact TimeRange.completes_of_mem_proposals h

end Condition

/-! ## Attributes and domains -/

namespace Attribute

variable {attr : Attribute} {query proposal : Text}

/-- The words of an attribute, and all that its condition can propose. -/
def vocabulary (attr : Attribute) : List Text := attr.words ++ attr.condition.vocabulary

theorem conditionPart?_isSuffix (hquery : IsTrimmed query) {part : Text}
    (h : attr.conditionPart? query = some part) : IsTrimmed part ∧ part <:+ query := by
  rw [conditionPart?] at h
  cases hword : attr.matchingWord? query with
  | some word =>
    rw [hword, hquery.trim_eq] at h
    exact ⟨isTrimmed_of_afterHead? h, afterHead?_isSuffix hquery h⟩
  | none =>
    rw [hword, hquery.trim_eq] at h
    simp only [Option.ite_none_right_eq_some, Option.some_inj] at h
    exact ⟨h.2 ▸ hquery, h.2 ▸ List.suffix_rfl⟩

/-- **A word that has been typed in full** leads to its condition. -/
theorem not_sameLetters_of_conditionPart? (hquery : IsTrimmed query)
    (h : attr.conditionPart? query = none) :
    ∀ word ∈ attr.words, word.sameLetters query = false := by
  intro word hmem
  rw [← Bool.not_eq_true, sameLetters_comm]
  intro hsame
  have hhead : query.trim.startsWith word = true := by
    rw [hquery.trim_eq]
    exact startsWith_of_sameLetters hsame
  -- the word that is found at the head may be another one, but then there is a condition part
  obtain ⟨found, hfound⟩ := Option.isSome_iff_exists.1
    (List.find?_isSome.2 ⟨word, hmem, hhead⟩)
  have hpart : (query.trim.afterHead? found).isSome = true := by
    rw [afterHead?_isSome]
    exact List.find?_some hfound
  rw [conditionPart?, matchingWord?, hfound] at h
  simp only at h
  rw [h] at hpart
  cases hpart

theorem completes_of_mem_wordProposals (hquery : IsTrimmed query)
    (hopen : ∀ word ∈ attr.words, word.sameLetters query = false)
    (h : proposal ∈ attr.wordProposals query) : Completes attr.vocabulary query proposal := by
  rw [wordProposals] at h
  by_cases hempty : query.isEmpty = true
  · rw [if_pos hempty] at h
    cases hwords : attr.words with
    | nil =>
      rw [hwords] at h
      have hcondition := Condition.completes_of_mem_proposals hquery h
      exact hcondition.mono (List.subset_append_right _ _) List.suffix_rfl
    | cons first others =>
      rw [hwords] at h
      rw [List.mem_singleton.1 h]
      left
      rw [vocabulary, hwords]
      exact List.mem_append_left _ List.mem_cons_self
  · rw [if_neg hempty] at h
    cases hword : attr.words.find? (·.startsWith query) with
    | none =>
      rw [hword] at h
      cases h
    | some word =>
      rw [hword] at h
      rw [List.mem_singleton.1 h]
      have hmem : word ∈ attr.words := List.mem_of_find?_eq_some hword
      have hhead := List.find?_some hword
      exact .of_markTyped (List.mem_append_left _ hmem) hhead (hopen word hmem)

theorem completes_of_mem_proposals (hquery : IsTrimmed query)
    (h : proposal ∈ attr.proposals query) : Completes attr.vocabulary query proposal := by
  rw [proposals] at h
  cases hpart : attr.conditionPart? query with
  | some part =>
    rw [hpart] at h
    obtain ⟨htrimmed, hsuffix⟩ := conditionPart?_isSuffix hquery hpart
    exact (Condition.completes_of_mem_proposals htrimmed h).mono (List.subset_append_right _ _)
      hsuffix
  | none =>
    rw [hpart, hquery.trim_eq] at h
    exact completes_of_mem_wordProposals hquery (not_sameLetters_of_conditionPart? hquery hpart) h

end Attribute

namespace Domain

variable {domain : Domain} {query proposal : Text}

/-- All that the attributes of a domain can propose. -/
def vocabulary (domain : Domain) : List Text := domain.attributes.flatMap Attribute.vocabulary

theorem withoutLabel_isSuffix (domain : Domain) (hquery : IsTrimmed query) :
    IsTrimmed (domain.withoutLabel query) ∧ domain.withoutLabel query <:+ query := by
  rw [withoutLabel, hquery.trim_eq]
  cases hlabel : query.afterHead? domain.label with
  | some rest => exact ⟨isTrimmed_of_afterHead? hlabel, afterHead?_isSuffix hquery hlabel⟩
  | none => exact ⟨hquery, List.suffix_rfl⟩

/-- **A label that has been typed in full** leads to its domain, with nothing left behind it. -/
theorem proposals_of_sameLetters (hquery : IsTrimmed query)
    (h : domain.label.sameLetters query = true) :
    domain.handles query = true ∧
      domain.proposals query = domain.attributes.flatMap (·.proposals []) := by
  rw [sameLetters_comm] at h
  have hhead : query.startsWith domain.label = true := startsWith_of_sameLetters h
  have hlength : query.length = domain.label.length := by
    rw [← length_fold query, beq_iff_eq.1 h, length_fold]
  have hrest : domain.withoutLabel query = [] := by
    rw [withoutLabel, hquery.trim_eq, afterHead?, if_pos hhead, ← hlength, List.drop_length]
    rfl
  constructor
  · rw [handles, hquery.trim_eq]
    exact hhead
  · rw [proposals, hrest]

theorem completes_of_mem_proposals (hquery : IsTrimmed query)
    (h : proposal ∈ domain.proposals query) : Completes domain.vocabulary query proposal := by
  obtain ⟨attr, hattr, h⟩ := List.mem_flatMap.1 h
  obtain ⟨htrimmed, hsuffix⟩ := domain.withoutLabel_isSuffix hquery
  refine (Attribute.completes_of_mem_proposals htrimmed h).mono ?_ hsuffix
  intro item hitem
  exact List.mem_flatMap.2 ⟨attr, hattr, hitem⟩

end Domain

/-! ## Segments -/

theorem isTrimmed_of_mem_segmentsFrom {ps : List Piece} {start : Nat} {s : Segment}
    (h : s ∈ segmentsFrom start ps) : IsTrimmed s.text := by
  induction ps generalizing start with
  | nil => cases h
  | cons p ps ih =>
    rcases List.mem_cons.1 h with rfl | h
    · exact isTrimmed_trim p.raw
    · exact ih h

theorem isTrimmed_lastSegmentText (query : Text) : IsTrimmed (lastSegmentText query) := by
  rw [lastSegmentText]
  cases hlast : (segments query).getLast? with
  | none => exact isTrimmed_trim []
  | some s => exact isTrimmed_of_mem_segmentsFrom (List.mem_of_getLast? hlast)

/-! ## Filters -/

/-- What is left after the removal of repeats has none. The induction is on the length, since the
first item is removed from all of the rest. -/
theorem nodup_withoutRepeats (proposals : List Text) : (withoutRepeats proposals).Nodup := by
  unfold withoutRepeats
  induction hlength : proposals.length using Nat.strong_induction_on generalizing proposals with
  | h n ih =>
    cases proposals with
    | nil => exact List.nodup_nil
    | cons first others =>
      rw [List.eraseDups_cons, List.nodup_cons, List.mem_eraseDups]
      constructor
      · intro hfirst
        exact absurd (List.mem_filter.1 hfirst).2 (by simp)
      · refine ih _ ?_ _ rfl
        rw [← hlength, List.length_cons]
        exact Nat.lt_succ_of_le (List.length_filter_le _ _)

namespace Filter

variable {filter : Filter} {query proposal : Text}

/-- **All that a filter can propose**: the labels of its domains, the words of their attributes, and
the operators, states, labels of flags, values and times of the conditions behind them. -/
def vocabulary (filter : Filter) : List Text :=
  filter.domains.map Domain.label ++ filter.domains.flatMap Domain.vocabulary

/-- What a domain of the filter proposes for a segment. -/
theorem completes_of_mem_domain {domain : Domain} {segment : Text} (hsegment : IsTrimmed segment)
    (hdomain : domain ∈ filter.domains) (h : proposal ∈ domain.proposals segment) :
    Completes filter.vocabulary segment proposal := by
  refine (Domain.completes_of_mem_proposals hsegment h).mono ?_ List.suffix_rfl
  intro item hitem
  exact List.mem_append_right _ (List.mem_flatMap.2 ⟨domain, hdomain, hitem⟩)

theorem mem_of_defaultDomain? {domain : Domain} (h : filter.defaultDomain? = some domain) :
    domain ∈ filter.domains := by
  rw [defaultDomain?] at h
  cases hindex : filter.defaultIndex with
  | some index =>
    rw [hindex] at h
    exact List.mem_of_getElem? h
  | none =>
    rw [hindex] at h
    exact List.mem_of_head? h

/-- **A label is marked as a whole** if it has been typed in full. -/
theorem completes_of_mem_labelProposals {segment : Text}
    (h : proposal ∈ filter.labelProposals segment) :
    Completes filter.vocabulary segment proposal ∨
      ∃ domain ∈ filter.domains, domain.label.sameLetters segment = true ∧
        MarksEnd segment domain.label segment proposal := by
  obtain ⟨domain, hdomain, h⟩ := List.mem_flatMap.1 h
  have hlabel : domain.label ∈ filter.vocabulary :=
    List.mem_append_left _ (List.mem_map_of_mem hdomain)
  by_cases hsame : domain.label.sameLetters segment = true
  · rw [completionOf, List.mem_ite_nil_right, List.mem_singleton] at h
    by_cases hempty : segment = []
    · left
      left
      rw [h.2, hempty]
      exact hlabel
    · right
      exact ⟨domain, hdomain, hsame, hempty, List.suffix_rfl, h.1, h.2⟩
  · rw [Bool.not_eq_true] at hsame
    exact .inl (.of_completionOf hlabel hsame h)

/-- **The proposals of a filter** are completions, up to a label that has been typed in full and
whose domain proposes nothing behind it. -/
theorem completes_of_mem_proposals (h : proposal ∈ filter.proposals query) :
    Completes filter.vocabulary (lastSegmentText query) proposal ∨
      ∃ domain ∈ filter.domains, domain.attributes.flatMap (·.proposals []) = [] ∧
        MarksEnd (lastSegmentText query) domain.label (lastSegmentText query) proposal := by
  have hsegment := isTrimmed_lastSegmentText query
  simp only [proposals, withoutRepeats, List.mem_eraseDups] at h
  by_cases hnamed : ((filter.domainsFor (lastSegmentText query)).flatMap
      (·.proposals (lastSegmentText query))).isEmpty = true
  · rw [if_pos hnamed] at h
    cases hdefault : filter.defaultDomain? with
    | none =>
      rw [hdefault] at h
      cases h
    | some domain =>
      rw [hdefault] at h
      rcases List.mem_append.1 h with h | h
      · rcases completes_of_mem_labelProposals h with h | ⟨domain, hdomain, hsame, hmarks⟩
        · exact .inl h
        · -- the domain of the label was asked as well, and had nothing to say
          obtain ⟨hhandles, hproposals⟩ := Domain.proposals_of_sameLetters hsegment hsame
          have hasked : domain ∈ filter.domainsFor (lastSegmentText query) :=
            List.mem_filter.2 ⟨hdomain, hhandles⟩
          refine .inr ⟨domain, hdomain, ?_, hmarks⟩
          rw [← hproposals]
          exact List.flatMap_eq_nil_iff.1 (List.isEmpty_iff.1 hnamed) domain hasked
      · exact .inl (completes_of_mem_domain hsegment (mem_of_defaultDomain? hdefault) h)
  · rw [if_neg hnamed] at h
    obtain ⟨domain, hdomain, h⟩ := List.mem_flatMap.1 h
    exact .inl (completes_of_mem_domain hsegment (List.mem_of_mem_filter hdomain) h)

/-- **Nothing typed in full is marked** in a filter whose domains all have something to propose
behind their labels. -/
theorem completes_of_eager
    (heager : ∀ domain ∈ filter.domains, domain.attributes.flatMap (·.proposals []) ≠ [])
    (h : proposal ∈ filter.proposals query) :
    Completes filter.vocabulary (lastSegmentText query) proposal := by
  rcases completes_of_mem_proposals h with h | ⟨domain, hdomain, hnone, -⟩
  · exact h
  · exact absurd hnone (heager domain hdomain)

/-! ## The monitoring filter -/

theorem monitoring_eager :
    ∀ domain ∈ monitoring.domains, domain.attributes.flatMap (·.proposals []) ≠ [] := by
  decide

/-- There are no braces in the vocabulary, so those in a proposal are marks. -/
theorem not_brace_mem_vocabulary_monitoring :
    ∀ item ∈ monitoring.vocabulary, '{' ∉ item ∧ '}' ∉ item := by
  decide +kernel

/-- **Behind a mark something follows** in a proposal of the monitoring filter. -/
theorem rest_ne_nil_of_mem_monitoring {marked rest : Text}
    (h : '{' :: marked ++ '}' :: rest ∈ monitoring.proposals query) : rest ≠ [] := by
  rcases completes_of_eager monitoring_eager h with
    hitem | ⟨candidate, hcandidate, typed, hmarks, hlength⟩
  · exact absurd List.mem_cons_self (not_brace_mem_vocabulary_monitoring _ hitem).1
  · rintro rfl
    obtain ⟨marked', rest', hparts, -, hsame, hrest⟩ := hmarks.exists_marked
    -- a closing brace at the very end would be the end of the item
    have hlast : rest'.getLast? = some '}' := by
      have hends := congrArg List.getLast? hsame
      rw [List.getLast?_append_of_ne_nil _ (List.cons_ne_nil _ _),
        List.getLast?_append_of_ne_nil _ (List.cons_ne_nil _ _),
        List.getLast?_cons_of_ne_nil (hrest hlength)] at hends
      exact hends.symm
    have hbrace : '}' ∈ candidate := by
      rw [hparts]
      exact List.mem_append_right _ (List.mem_of_getLast? hlast)
    exact absurd hbrace (not_brace_mem_vocabulary_monitoring _ hcandidate).2

/-! ## Main result -/

/-- **Completions can be trusted.** Whatever the filter and the query, nothing is proposed twice,
and each proposal is an item of the filter's vocabulary or such an item with a mark: the marked head
of the item is, up to case, an end of the last segment of the query. In the monitoring filter
something always follows the mark, so nothing that has been typed in full is proposed again. -/
theorem proposals_trusted (filter : Filter) (query : Text) :
    (filter.proposals query).Nodup ∧
    (∀ proposal ∈ filter.proposals query, proposal ∈ filter.vocabulary ∨
      ∃ candidate ∈ filter.vocabulary, ∃ typed,
        MarksEnd (lastSegmentText query) candidate typed proposal ∧
        ∃ marked rest, candidate = marked ++ rest ∧ marked.sameLetters typed = true ∧
          proposal = '{' :: marked ++ '}' :: rest) ∧
    ∀ marked rest, '{' :: marked ++ '}' :: rest ∈ monitoring.proposals query → rest ≠ [] := by
  refine ⟨nodup_withoutRepeats _, ?_, fun _ _ => rest_ne_nil_of_mem_monitoring⟩
  intro proposal hproposal
  have hmarked : proposal ∈ filter.vocabulary ∨ ∃ candidate ∈ filter.vocabulary, ∃ typed,
      MarksEnd (lastSegmentText query) candidate typed proposal := by
    rcases completes_of_mem_proposals hproposal with
      (hitem | ⟨candidate, hcandidate, typed, hmarks, -⟩) | ⟨domain, hdomain, -, hmarks⟩
    · exact .inl hitem
    · exact .inr ⟨candidate, hcandidate, typed, hmarks⟩
    · exact .inr ⟨domain.label, List.mem_append_left _ (List.mem_map_of_mem hdomain), _, hmarks⟩
  -- what stands between the braces follows from how an item is marked
  rcases hmarked with hitem | ⟨candidate, hcandidate, typed, hmarks⟩
  · exact .inl hitem
  · obtain ⟨marked, rest, hparts, hsame, hshown, -⟩ := hmarks.exists_marked
    exact .inr ⟨candidate, hcandidate, typed, hmarks, marked, rest, hparts, hsame, hshown⟩

example : Filter.monitoring.proposals "name = x or hO" = ["{Ho}st", "{Ho}stname"] := by
  decide +kernel

end Filter

end MonitorControl
