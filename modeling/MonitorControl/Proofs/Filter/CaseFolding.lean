/-
Filters up to case.

The filter language has no letter that means one thing as a capital and another
thing as a small letter, with one exception in absolute times. Two queries with the
same letters therefore get the same completions, and if no letter T stands right
behind a digit in them, they read to trees of one shape with alike predicates, leave
out alike texts, and ask for the same moments on the way.

Both queries are compared with the query they fold to, so all there is to show is
that folding a query first and reading it is reading it and folding what was read
(`parse_fold`); segments, domains and attributes pass the folding on, and the
conditions end it.
-/
import MonitorControl.Filter.Monitoring
import MonitorControl.Proofs.Filter.Condition.CaseFolding

set_option autoImplicit false

namespace MonitorControl

open Text

/-! ## Attributes -/

namespace Attribute

variable (attr : Attribute)

theorem matchingWord?_fold (query : Text) :
    attr.matchingWord? query.fold = attr.matchingWord? query := by
  rw [matchingWord?, matchingWord?, trim_fold, startsWith_fold_left]

theorem conditionPart?_fold (query : Text) :
    attr.conditionPart? query.fold = (attr.conditionPart? query).map Text.fold := by
  rw [conditionPart?, conditionPart?, matchingWord?_fold, trim_fold]
  cases attr.matchingWord? query with
  | some word => exact afterHead?_fold query.trim word
  | none =>
    by_cases hwords : attr.words.isEmpty = true
    · simp only [hwords, if_true, Option.map_some]
    · simp only [hwords, if_false, Option.map_none, Bool.false_eq_true]

theorem conditionPart?_isInfix {attr : Attribute} {query part : Text}
    (h : attr.conditionPart? query = some part) : part <:+: query := by
  rw [conditionPart?] at h
  cases hword : attr.matchingWord? query with
  | some word =>
    rw [hword] at h
    exact (afterHead?_isInfix h).trans (trim_isInfix query)
  | none =>
    rw [hword] at h
    simp only [Option.ite_none_right_eq_some, Option.some_inj] at h
    exact h.2 ▸ trim_isInfix query

theorem wordProposals_fold (query : Text) :
    attr.wordProposals query.fold = attr.wordProposals query := by
  simp only [wordProposals, isEmpty_fold, attr.condition.proposals_fold, startsWith_fold_right,
    markTyped_fold]

theorem proposals_fold (query : Text) : attr.proposals query.fold = attr.proposals query := by
  rw [proposals, proposals, conditionPart?_fold, trim_fold]
  cases attr.conditionPart? query with
  | some part => exact attr.condition.proposals_fold part
  | none => exact attr.wordProposals_fold query.trim

theorem phrase?_fold (query : Text) :
    attr.phrase? query.fold = (attr.phrase? query).map Text.fold := by
  rw [phrase?, phrase?, conditionPart?_fold]
  cases attr.conditionPart? query with
  | some part => exact attr.condition.phrase?_fold part
  | none => rfl

theorem unstamped_of_phrase? {attr : Attribute} {query phrase : Text} (h : Unstamped query)
    (hphrase : attr.phrase? query = some phrase) : Unstamped phrase := by
  rw [phrase?, Option.bind_eq_some_iff] at hphrase
  obtain ⟨part, hpart, hphrase⟩ := hphrase
  exact Condition.unstamped_of_phrase? (h.of_isInfix (conditionPart?_isInfix hpart)) hphrase

variable {query : Text} (h : Unstamped query) (now : Moment)
include h

theorem accepts_fold : attr.accepts now query.fold = attr.accepts now query := by
  rw [accepts, accepts, conditionPart?_fold]
  cases hpart : attr.conditionPart? query with
  | some part =>
    exact attr.condition.accepts_fold (h.of_isInfix (conditionPart?_isInfix hpart)) now
  | none => rfl

theorem node?_fold : attr.node? now query.fold = (attr.node? now query).map Node.fold := by
  rw [node?, node?, accepts_fold attr h, conditionPart?_fold]
  by_cases haccepts : attr.accepts now query = true
  · rw [if_pos haccepts, if_pos haccepts]
    cases hpart : attr.conditionPart? query with
    | some part =>
      exact attr.condition.node?_fold (h.of_isInfix (conditionPart?_isInfix hpart)) now attr.field
    | none => rfl
  · rw [if_neg haccepts, if_neg haccepts, Option.map_none]

end Attribute

/-! ## Domains -/

namespace Domain

variable (domain : Domain)

theorem handles_fold (query : Text) : domain.handles query.fold = domain.handles query := by
  rw [handles, handles, trim_fold, startsWith_fold_left]

theorem withoutLabel_fold (query : Text) :
    domain.withoutLabel query.fold = (domain.withoutLabel query).fold := by
  rw [withoutLabel, withoutLabel, trim_fold, afterHead?_fold]
  cases query.trim.afterHead? domain.label <;> rfl

theorem withoutLabel_isInfix (query : Text) : domain.withoutLabel query <:+: query := by
  rw [withoutLabel]
  cases hlabel : query.trim.afterHead? domain.label with
  | some rest => exact (afterHead?_isInfix hlabel).trans (trim_isInfix query)
  | none => exact trim_isInfix query

theorem proposals_fold (query : Text) : domain.proposals query.fold = domain.proposals query := by
  simp only [proposals, withoutLabel_fold, Attribute.proposals_fold]

variable {query : Text} (h : Unstamped query) (now : Moment)
include h

theorem node?_fold : domain.node? now query.fold = (domain.node? now query).map Node.fold := by
  have hrest := h.of_isInfix (domain.withoutLabel_isInfix query)
  simp only [node?, withoutLabel_fold, Attribute.accepts_fold _ hrest]
  cases domain.attributes.find? (·.accepts now (domain.withoutLabel query)) with
  | some attr => exact attr.node?_fold hrest now
  | none => rfl

theorem phrases_fold :
    domain.phrases now query.fold = (domain.phrases now query).map Text.fold := by
  have hrest := h.of_isInfix (domain.withoutLabel_isInfix query)
  simp only [phrases, withoutLabel_fold, Attribute.accepts_fold _ hrest, Attribute.phrase?_fold,
    List.map_filterMap]

theorem unstamped_of_mem_phrases : ∀ phrase ∈ domain.phrases now query, Unstamped phrase := by
  intro phrase hphrase
  obtain ⟨attr, -, hattr⟩ := List.mem_filterMap.1 hphrase
  exact Attribute.unstamped_of_phrase? (h.of_isInfix (domain.withoutLabel_isInfix query)) hattr

end Domain

/-- What was read, with the texts in it folded. -/
def ParsedQuery.fold (parsed : ParsedQuery) : ParsedQuery :=
  ⟨parsed.tree.fold, parsed.ignored.map Text.fold⟩

/-! ## Completions -/

namespace Filter

variable (filter : Filter)

/-- **A folded query has the completions of the query**, to the letter. -/
theorem proposals_fold (query : Text) : filter.proposals query.fold = filter.proposals query := by
  have hnamed : ∀ segment : Text,
      (filter.domainsFor segment.fold).flatMap (·.proposals segment.fold) =
        (filter.domainsFor segment).flatMap (·.proposals segment) := by
    intro segment
    simp only [domainsFor, Domain.handles_fold, Domain.proposals_fold]
  have hlabels : ∀ segment : Text,
      filter.labelProposals segment.fold = filter.labelProposals segment := by
    intro segment
    simp only [labelProposals, completionOf_fold]
  rw [proposals, proposals, lastSegmentText_fold]
  simp only [hnamed, hlabels]
  simp only [Domain.proposals_fold]

/-! ## Reading a folded query -/

theorem domainFor?_fold (query : Text) :
    filter.domainFor? query.fold = filter.domainFor? query := by
  simp only [domainFor?, Domain.handles_fold]

/-- Progress with the texts in it folded. -/
def Progress.fold (progress : Progress) : Progress := ⟨progress.parsed.fold, progress.pending⟩

/-- **One folded segment is read as the segment is.** -/
theorem readSegment_fold {s : Segment} (h : Unstamped s.text) (now : Moment)
    (progress : Progress) :
    filter.readSegment now progress.fold s.fold = (filter.readSegment now progress s).fold := by
  have hnode : filter.segmentNode? now s.text.fold =
      (filter.segmentNode? now s.text).map Node.fold := by
    rw [segmentNode?, segmentNode?, domainFor?_fold]
    cases filter.domainFor? s.text with
    | some domain => exact domain.node?_fold h now
    | none => rfl
  simp only [readSegment, Segment.fold, isEmpty_fold, hnode]
  by_cases hempty : s.text.isEmpty = true
  · rw [if_pos hempty, if_pos hempty]
  · rw [if_neg hempty, if_neg hempty]
    cases filter.segmentNode? now s.text with
    | some node => simp only [Option.map_some, Progress.fold, ParsedQuery.fold, Tree.insert_fold]
    | none =>
      simp only [Option.map_none, Progress.fold, ParsedQuery.fold, List.map_append,
        List.map_singleton]

theorem foldl_readSegment_fold {segs : List Segment} (h : ∀ s ∈ segs, Unstamped s.text)
    (now : Moment) (progress : Progress) :
    (segs.map Segment.fold).foldl (filter.readSegment now) progress.fold =
      (segs.foldl (filter.readSegment now) progress).fold := by
  induction segs generalizing progress with
  | nil => rfl
  | cons s segs ih =>
    rw [List.map_cons, List.foldl_cons, List.foldl_cons,
      filter.readSegment_fold (h s List.mem_cons_self),
      ih fun other hother => h other (List.mem_cons_of_mem s hother)]

variable {query : Text} (h : Unstamped query) (now : Moment)
include h

/-- **A folded query reads to what the query reads to**, with the texts in it folded. -/
theorem parse_fold : filter.parse now query.fold = (filter.parse now query).fold := by
  have hfold := filter.foldl_readSegment_fold
    (fun s hs => h.of_isInfix (text_isInfix_of_mem_segments hs)) now .start
  rw [parse, segments_fold, parse]
  exact congrArg Progress.parsed hfold

/-- **The phrases of a folded query mean what those of the query mean.** -/
theorem map_resolvePhrase_phrases_fold :
    (filter.phrases now query.fold).map (resolvePhrase · now) =
      (filter.phrases now query).map (resolvePhrase · now) := by
  have hsegment : ∀ s ∈ segments query, s.fold.text = s.text.fold := fun _ _ => rfl
  simp only [phrases, segments_fold, List.flatMap_map, List.map_flatMap]
  apply List.flatMap_congr
  intro s hs
  have htext := h.of_isInfix (text_isInfix_of_mem_segments hs)
  rw [hsegment s hs, isEmpty_fold, domainFor?_fold]
  by_cases hempty : s.text.isEmpty = true
  · rw [if_pos hempty, if_pos hempty]
  · rw [if_neg hempty, if_neg hempty]
    cases filter.domainFor? s.text with
    | none => rfl
    | some domain =>
      simp only [Option.map_some, Option.getD_some, domain.phrases_fold htext now, List.map_map]
      apply List.map_congr_left
      intro phrase hphrase
      exact resolvePhrase_fold (domain.unstamped_of_mem_phrases htext now phrase hphrase) now

omit h

/-! ## Main result -/

/-- **Filters ignore case.** Queries with the same letters have the same completions. If no letter T
stands right behind a digit in them, they also read to trees of the same shape, with the same
conjunctions, fields, operators, contexts and numbers and with texts of the same letters; what is
left out of the two has the same letters, one by one; and each phrase that is resolved on the way
means the same, one outside the calendar included. -/
theorem ignores_case (filter : Filter) (now : Moment) {q₁ q₂ : Text}
    (hsame : q₁.sameLetters q₂ = true) :
    filter.proposals q₁ = filter.proposals q₂ ∧
      (Unstamped q₁ → Unstamped q₂ →
        (filter.parse now q₁).tree.Alike (filter.parse now q₂).tree ∧
        List.Forall₂ (fun a b => a.sameLetters b = true) (filter.parse now q₁).ignored
          (filter.parse now q₂).ignored ∧
        (filter.phrases now q₁).map (resolvePhrase · now) =
          (filter.phrases now q₂).map (resolvePhrase · now)) := by
  have hfold : q₁.fold = q₂.fold := beq_iff_eq.1 hsame
  -- either query is compared with the one that both fold to
  refine ⟨?_, fun h₁ h₂ => ?_⟩
  · rw [← filter.proposals_fold q₁, hfold, filter.proposals_fold]
  have hparse : (filter.parse now q₁).fold = (filter.parse now q₂).fold := by
    rw [← filter.parse_fold h₁ now, hfold, filter.parse_fold h₂ now]
  rw [ParsedQuery.fold, ParsedQuery.fold, ParsedQuery.mk.injEq] at hparse
  obtain ⟨htree, hignored⟩ := hparse
  refine ⟨Tree.alike_of_fold_eq htree, ?_, ?_⟩
  · rw [← List.forall₂_eq_eq_eq, List.forall₂_map_left_iff, List.forall₂_map_right_iff] at hignored
    exact hignored.imp fun a b hab => beq_iff_eq.2 hab
  · rw [← filter.map_resolvePhrase_phrases_fold h₁ now, hfold,
      filter.map_resolvePhrase_phrases_fold h₂ now]

/-- A query and the same query in capitals, which is read to the end. -/
theorem ignores_case_capitals :
    Text.sameLetters "host is down since 1 hour or name = x"
        "HOST IS DOWN SINCE 1 HOUR OR NAME = X" = true ∧
      Unstamped "host is down since 1 hour or name = x" ∧
      Unstamped "HOST IS DOWN SINCE 1 HOUR OR NAME = X" ∧
      Filter.monitoring.parse ⟨19790, 12, 0, 0⟩ "HOST IS DOWN SINCE 1 HOUR OR NAME = X" =
        ⟨⟨some (.join .or
            (.join .and (.plain "host_state" .equal (.integer 1))
              (.time "host_last_state_change" .greaterEqual "-1 HOUR"))
            (.plain "host_name" .equal (.text "X")))⟩, []⟩ ∧
      (Filter.monitoring.parse ⟨19790, 12, 0, 0⟩ "host is down since 1 hour or name = x").tree.Alike
        (Filter.monitoring.parse ⟨19790, 12, 0, 0⟩
          "HOST IS DOWN SINCE 1 HOUR OR NAME = X").tree := by
  have hsame : Text.sameLetters "host is down since 1 hour or name = x"
      "HOST IS DOWN SINCE 1 HOUR OR NAME = X" = true := by decide
  have hsmall : Unstamped "host is down since 1 hour or name = x" := by decide
  have hcapitals : Unstamped "HOST IS DOWN SINCE 1 HOUR OR NAME = X" := by decide
  refine ⟨hsame, hsmall, hcapitals, by decide +kernel, ?_⟩
  exact ((ignores_case .monitoring ⟨19790, 12, 0, 0⟩ hsame).2 hsmall hcapitals).1

end Filter

end MonitorControl
