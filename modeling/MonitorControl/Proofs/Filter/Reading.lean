/-
What a query reads to: nothing is lost and nothing is doubled.

Reading goes through the segments once and keeps three things: the tree so far, the
conjunction after the last segment that was accepted, and what was left out. Which
of its three ways a segment goes does not depend on any of them, so the reading of
a query is a derivation over its segments alone, one rule for each way. The
derivation hands out the accepted nodes, each with the conjunction after its own
segment, and the texts left out; the fold does the rest, and what it does is
`foldl_attach`.
-/
import MonitorControl.Filter
import MonitorControl.Proofs.Query.Comb
import MonitorControl.Proofs.Query.Segments

set_option autoImplicit false

namespace MonitorControl

namespace Filter

variable {filter : Filter} {now : Moment}

/-! ## The domain of a segment -/

/-- **The domain that a text resolves to**: the first whose label the text begins with, or, if it
begins with none, the default. -/
inductive Resolves (filter : Filter) (text : Text) : Domain → Prop where
  | named {before after : List Domain} {domain : Domain}
    (hdomains : filter.domains = before ++ domain :: after)
    (hhandles : domain.handles text = true)
    (hbefore : ∀ earlier ∈ before, earlier.handles text = false) : Resolves filter text domain
  | byDefault {domain : Domain} (hnone : ∀ other ∈ filter.domains, other.handles text = false)
    (hdefault : filter.defaultDomain? = some domain) : Resolves filter text domain

theorem domainFor?_eq_some_iff {text : Text} {domain : Domain} :
    filter.domainFor? text = some domain ↔ filter.Resolves text domain := by
  rw [domainFor?, Option.or_eq_some_iff]
  simp only [List.find?_eq_some_iff_append, List.find?_eq_none, Bool.not_eq_true',
    Bool.not_eq_true]
  constructor
  · rintro (⟨hhandles, before, after, hdomains, hbefore⟩ | ⟨hnone, hdefault⟩)
    · exact .named hdomains hhandles hbefore
    · exact .byDefault hnone hdefault
  · rintro (⟨hdomains, hhandles, hbefore⟩ | ⟨hnone, hdefault⟩)
    · exact .inl ⟨hhandles, _, _, hdomains, hbefore⟩
    · exact .inr ⟨hnone, hdefault⟩

theorem segmentNode?_eq_some_iff {text : Text} {node : Node} :
    filter.segmentNode? now text = some node ↔
      ∃ domain, filter.Resolves text domain ∧ domain.node? now text = some node := by
  rw [segmentNode?, Option.bind_eq_some_iff]
  constructor
  · rintro ⟨domain, hdomain, hnode⟩
    exact ⟨domain, domainFor?_eq_some_iff.1 hdomain, hnode⟩
  · rintro ⟨domain, hdomain, hnode⟩
    exact ⟨domain, domainFor?_eq_some_iff.2 hdomain, hnode⟩

theorem segmentNode?_eq_none_iff {text : Text} :
    filter.segmentNode? now text = none ↔
      ∀ domain, filter.Resolves text domain → domain.node? now text = none := by
  rw [segmentNode?, Option.bind_eq_none_iff]
  constructor
  · intro h domain hdomain
    exact h domain (domainFor?_eq_some_iff.2 hdomain)
  · intro h domain hdomain
    exact h domain (domainFor?_eq_some_iff.1 hdomain)

/-! ## Readings -/

/-- **A reading of segments**: the accepted nodes, each with the conjunction right after its
segment, and the texts left out. A segment is passed over, accepted or left out, and that hangs on
nothing but its text. -/
inductive Reads (filter : Filter) (now : Moment) :
    List Segment → List (Node × Option Conjunction) → List Text → Prop where
  | nil : Reads filter now [] [] []
  | empty {s : Segment} {segs : List Segment} {accepted : List (Node × Option Conjunction)}
    {ignored : List Text} (hempty : s.text = []) (hrest : Reads filter now segs accepted ignored) :
    Reads filter now (s :: segs) accepted ignored
  | accepted {s : Segment} {segs : List Segment} {accepted : List (Node × Option Conjunction)}
    {ignored : List Text} {domain : Domain} {node : Node} (htext : s.text ≠ [])
    (hdomain : filter.Resolves s.text domain) (hnode : domain.node? now s.text = some node)
    (hrest : Reads filter now segs accepted ignored) :
    Reads filter now (s :: segs) ((node, s.conjunction) :: accepted) ignored
  | ignored {s : Segment} {segs : List Segment} {accepted : List (Node × Option Conjunction)}
    {ignored : List Text} (htext : s.text ≠ [])
    (hnone : ∀ domain, filter.Resolves s.text domain → domain.node? now s.text = none)
    (hrest : Reads filter now segs accepted ignored) :
    Reads filter now (s :: segs) accepted (s.text :: ignored)

/-- **Every list of segments has a reading.** -/
theorem exists_reads (filter : Filter) (now : Moment) (segs : List Segment) :
    ∃ accepted ignored, filter.Reads now segs accepted ignored := by
  induction segs with
  | nil => exact ⟨[], [], .nil⟩
  | cons s segs ih =>
    obtain ⟨accepted, ignored, hrest⟩ := ih
    by_cases htext : s.text = []
    · exact ⟨accepted, ignored, .empty htext hrest⟩
    -- a segment that is not passed over goes the way of its node
    cases hnode : filter.segmentNode? now s.text with
    | none =>
      exact ⟨accepted, s.text :: ignored, .ignored htext (segmentNode?_eq_none_iff.1 hnode) hrest⟩
    | some node =>
      obtain ⟨domain, hdomain, hnode⟩ := segmentNode?_eq_some_iff.1 hnode
      exact ⟨(node, s.conjunction) :: accepted, ignored, .accepted htext hdomain hnode hrest⟩

/-- Segments that are all accepted hand out a node each. -/
theorem reads_of_map_eq {α : Type} {text : α → Text} {node : α → Node} (hne : ∀ a, text a ≠ [])
    (hnode : ∀ a, ∃ domain, filter.Resolves (text a) domain ∧
      domain.node? now (text a) = some (node a))
    {segs : List Segment} {entries : List (α × Option Conjunction)}
    (hsegs : segs.map (fun s => (s.text, s.conjunction)) =
      entries.map fun (a, k) => (text a, k)) :
    filter.Reads now segs (entries.map fun (a, k) => (node a, k)) [] := by
  induction entries generalizing segs with
  | nil =>
    obtain rfl := List.map_eq_nil_iff.1 hsegs
    exact .nil
  | cons entry entries ih =>
    obtain ⟨a, k⟩ := entry
    obtain ⟨s, rest, rfl, hs, hrest⟩ := List.map_eq_cons_iff.1 hsegs
    obtain ⟨htext, rfl⟩ := Prod.mk.inj hs
    obtain ⟨domain, hdomain, hread⟩ := hnode a
    rw [← htext] at hdomain hread
    exact .accepted (htext ▸ hne a) hdomain hread (ih hrest)

/-- **A list of segments has one reading.** -/
theorem Reads.unique {segs : List Segment} {accepted accepted' : List (Node × Option Conjunction)}
    {ignored ignored' : List Text} (h : filter.Reads now segs accepted ignored)
    (h' : filter.Reads now segs accepted' ignored') :
    accepted' = accepted ∧ ignored' = ignored := by
  -- the induction is on one reading; the other goes the same way at every segment, since the three
  -- ways exclude each other
  induction h generalizing accepted' ignored' with
  | nil =>
    cases h' with
    | nil => exact ⟨rfl, rfl⟩
  | empty hempty _ ih =>
    cases h' with
    | empty _ hrest' => exact ih hrest'
    | accepted htext => exact absurd hempty htext
    | ignored htext => exact absurd hempty htext
  | accepted htext hdomain hnode _ ih =>
    have hsome := segmentNode?_eq_some_iff.2 ⟨_, hdomain, hnode⟩
    cases h' with
    | empty hempty => exact absurd hempty htext
    | accepted _ hdomain' hnode' hrest' =>
      have hsome' := segmentNode?_eq_some_iff.2 ⟨_, hdomain', hnode'⟩
      obtain ⟨rfl, rfl⟩ := ih hrest'
      rw [hsome] at hsome'
      rw [Option.some.inj hsome']
      exact ⟨rfl, rfl⟩
    | ignored _ hnone =>
      rw [segmentNode?_eq_none_iff.2 hnone] at hsome
      exact absurd hsome (Option.some_ne_none _).symm
  | ignored htext hnone _ ih =>
    cases h' with
    | empty hempty => exact absurd hempty htext
    | accepted _ hdomain' hnode' =>
      rw [hnone _ hdomain'] at hnode'
      exact absurd hnode' (Option.some_ne_none _).symm
    | ignored _ _ hrest' =>
      obtain ⟨rfl, rfl⟩ := ih hrest'
      exact ⟨rfl, rfl⟩

/-- The conjunctions handed out are some of those after the segments, in order. -/
theorem Reads.conjunctions_sublist {segs : List Segment}
    {accepted : List (Node × Option Conjunction)} {ignored : List Text}
    (h : filter.Reads now segs accepted ignored) :
    (accepted.map Prod.snd).Sublist (segs.map Segment.conjunction) := by
  induction h with
  | nil => exact .slnil
  | empty _ _ ih => exact .cons _ ih
  | accepted _ _ _ _ ih => exact .cons_cons _ ih
  | ignored _ _ _ ih => exact .cons _ ih

/-- **Only after the last accepted segment of a query can a conjunction be missing.** -/
theorem Reads.linked {query : Text} {accepted : List (Node × Option Conjunction)}
    {ignored : List Text} (h : filter.Reads now (segments query) accepted ignored) :
    ∀ entry ∈ accepted.dropLast, entry.2 ≠ none := by
  obtain ⟨front, last, hsegs, -, hfront⟩ := segments_eq_append query
  -- without their last elements, the one list is still a part of the other
  have hsub := h.conjunctions_sublist.reverse.tail.reverse
  rw [List.tail_reverse, List.reverse_reverse, List.tail_reverse, List.reverse_reverse, hsegs,
    List.map_append, List.map_singleton, List.dropLast_concat, ← List.map_dropLast] at hsub
  intro entry hentry
  obtain ⟨s, hs, hconj⟩ := List.mem_map.1 (hsub.subset (List.mem_map_of_mem hentry))
  rw [← hconj]
  exact hfront s hs

/-! ## What the fold makes of a reading -/

theorem readSegment_of_empty {s : Segment} (htext : s.text = []) (progress : Progress) :
    filter.readSegment now progress s = progress := by
  rw [readSegment, htext]
  rfl

theorem readSegment_of_node {s : Segment} {node : Node} (htext : s.text ≠ [])
    (hnode : filter.segmentNode? now s.text = some node) (progress : Progress) :
    filter.readSegment now progress s =
      { parsed :=
          { progress.parsed with
            tree := progress.parsed.tree.insert node (progress.pending.getD .and) }
        pending := s.conjunction } := by
  rw [readSegment, if_neg (by rwa [List.isEmpty_iff]), hnode]

theorem readSegment_of_no_node {s : Segment} (htext : s.text ≠ [])
    (hnode : filter.segmentNode? now s.text = none) (progress : Progress) :
    filter.readSegment now progress s =
      { progress with
        parsed :=
          { progress.parsed with ignored := progress.parsed.ignored ++ [s.text] } } := by
  rw [readSegment, if_neg (by rwa [List.isEmpty_iff]), hnode]

/-- **Reading hands over the accepted entries and appends the texts left out.** -/
theorem Reads.foldl_readSegment {segs : List Segment}
    {accepted : List (Node × Option Conjunction)} {ignored : List Text}
    (h : filter.Reads now segs accepted ignored) (progress : Progress) :
    segs.foldl (filter.readSegment now) progress =
      { parsed :=
          { tree := (accepted.foldl Tree.attach (progress.parsed.tree, progress.pending)).1
            ignored := progress.parsed.ignored ++ ignored }
        pending := (accepted.foldl Tree.attach (progress.parsed.tree, progress.pending)).2 } := by
  induction h generalizing progress with
  | nil =>
    rw [List.append_nil]
    rfl
  | empty hempty _ ih => rw [List.foldl_cons, readSegment_of_empty hempty, ih]
  | accepted htext hdomain hnode _ ih =>
    have hsome := segmentNode?_eq_some_iff.2 ⟨_, hdomain, hnode⟩
    rw [List.foldl_cons, readSegment_of_node htext hsome, ih]
    rfl
  | ignored htext hnone _ ih =>
    rw [List.foldl_cons, readSegment_of_no_node htext (segmentNode?_eq_none_iff.2 hnone), ih,
      List.append_assoc, List.singleton_append]

/-- A query reads to what its reading hands out. -/
theorem Reads.parse_eq {query : Text} {accepted : List (Node × Option Conjunction)}
    {ignored : List Text} (h : filter.Reads now (segments query) accepted ignored) :
    filter.parse now query = ⟨(accepted.foldl Tree.attach (.empty, none)).1, ignored⟩ := by
  rw [parse, h.foldl_readSegment]
  rfl

/-! ## Main result -/

/-- **Reading a query loses nothing and doubles nothing.** Its segments have exactly one reading;
the texts left out are those of the reading; and the tree is empty if no segment is accepted, and
otherwise the comb of the accepted nodes, joined by the conjunctions right after their segments,
whatever stands between two of them. The conjunction after the last accepted segment joins
nothing. -/
theorem parse_reads (filter : Filter) (now : Moment) (query : Text) :
    ∃ accepted : List (Node × Option Conjunction),
      (∀ accepted' ignored', filter.Reads now (segments query) accepted' ignored' ↔
        accepted' = accepted ∧ ignored' = (filter.parse now query).ignored) ∧
      ((filter.parse now query).tree = .empty ↔ accepted = []) ∧
      (accepted = [] ∨ ∃ (list : Conjoined Node) (dangling : Option Conjunction),
        accepted = list.followed dangling ∧
          (filter.parse now query).tree = ⟨some (Node.comb list)⟩) := by
  obtain ⟨accepted, ignored, hreads⟩ := exists_reads filter now (segments query)
  rw [hreads.parse_eq]
  refine ⟨accepted, fun accepted' ignored' => ⟨hreads.unique, ?_⟩, ?_⟩
  · rintro ⟨rfl, rfl⟩
    exact hreads
  by_cases hne : accepted = []
  · rw [hne]
    exact ⟨iff_of_true rfl rfl, .inl rfl⟩
  · obtain ⟨list, dangling, hlist⟩ := Conjoined.exists_eq_followed accepted hne hreads.linked
    have htree : (accepted.foldl Tree.attach (.empty, none)).1 = ⟨some (Node.comb list)⟩ := by
      rw [hlist, foldl_attach]
    refine ⟨iff_of_false ?_ hne, .inr ⟨list, dangling, hlist, htree⟩⟩
    rw [htree]
    exact fun h => Option.some_ne_none _ (congrArg Tree.root h)

end Filter

end MonitorControl
