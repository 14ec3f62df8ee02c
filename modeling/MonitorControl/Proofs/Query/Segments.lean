/-
The segments of a query against its cuts.

A division of the query says where everything is: the raw stretches with the byte
at which each begins, and between them the keywords as they are written. The
segments are these stretches, trimmed, in the same order; each span lies inside
its stretch and holds exactly the bytes of the segment's text. So spans are
ordered and disjoint, and what is outside of them is white space and keywords.
-/
import MonitorControl.Proofs.Query.Cuts
import Mathlib.Data.List.Forall2

set_option autoImplicit false

namespace MonitorControl

open Text

/-! ## Stretches -/

/-- **A stretch**: the raw text between two cuts, the byte at which it begins, and the conjunction
after it. -/
structure Stretch where
  start : Nat
  raw : Text
  conjunction : Option Conjunction
  deriving DecidableEq, Repr

/-- The byte at which a stretch ends. -/
def Stretch.stop (x : Stretch) : Nat := x.start + byteLength x.raw

/-- The stretches of a division of which the first character stands at byte `start`. -/
def Division.stretchesFrom (start : Nat) : Division → List Stretch
  | .last raw => [⟨start, raw, none⟩]
  | .cut raw word k _ rest =>
    ⟨start, raw, some k⟩ :: rest.stretchesFrom (start + byteLength raw + byteLength word)

/-- **A segment trims a stretch**: its text is the trimmed stretch, the same conjunction follows,
and its span lies inside. -/
structure Segment.Trims (s : Segment) (x : Stretch) : Prop where
  text_eq : s.text = x.raw.trim
  conjunction_eq : s.conjunction = x.conjunction
  start_le : x.start ≤ s.span.start
  ordered : s.span.start ≤ s.span.stop
  le_stop : s.span.stop ≤ x.stop

/-! ## One piece -/

/-- A piece is what trimming takes from its start, the text of its segment, and what trimming takes
from its end; the span of the segment follows from the first two. -/
theorem Piece.exists_parts (start : Nat) (p : Piece) :
    ∃ lead trail : Text, p.raw = lead ++ p.raw.trim ++ trail ∧
      (p.toSegment start).span =
        ⟨start + byteLength lead, start + byteLength lead + byteLength p.raw.trim⟩ := by
  obtain ⟨trail, htrail⟩ := exists_trimStart_eq p.raw
  have hraw := takeWhile_append_trimStart p.raw
  have hlead : byteLength p.raw - byteLength p.raw.trimStart =
      byteLength (p.raw.takeWhile isBlank) := by
    have hsum := congrArg byteLength hraw
    rw [byteLength_append] at hsum
    omega
  refine ⟨p.raw.takeWhile isBlank, trail, ?_, ?_⟩
  · rw [List.append_assoc, ← htrail, hraw]
  · rw [toSegment, hlead]

theorem Piece.toSegment_trims (start : Nat) (p : Piece) :
    (p.toSegment start).Trims ⟨start, p.raw, p.conjunction⟩ := by
  obtain ⟨lead, trail, hraw, hspan⟩ := p.exists_parts start
  refine ⟨rfl, rfl, ?_, ?_, ?_⟩
  · rw [hspan]
    exact Nat.le_add_right _ _
  · rw [hspan]
    exact Nat.le_add_right _ _
  · have hsize := congrArg byteLength hraw
    rw [byteLength_append, byteLength_append] at hsize
    rw [hspan, Stretch.stop]
    show start + byteLength lead + byteLength p.raw.trim ≤ start + byteLength p.raw
    omega

/-- The span of a segment holds the bytes of its text. -/
theorem Piece.slice_toSegment (p : Piece) (before after : Text) :
    slice (bytes (before ++ p.raw ++ after)) (p.toSegment (byteLength before)).span.start
        (p.toSegment (byteLength before)).span.stop = bytes p.raw.trim := by
  obtain ⟨lead, trail, hraw, hspan⟩ := p.exists_parts (byteLength before)
  have hwhole : before ++ p.raw ++ after = (before ++ lead) ++ p.raw.trim ++ (trail ++ after) := by
    conv_lhs => rw [hraw]
    simp only [List.append_assoc]
  rw [hspan, hwhole, ← byteLength_append]
  exact slice_bytes (before ++ lead) p.raw.trim (trail ++ after)

/-! ## All pieces -/

/-- A keyword takes as many bytes in any case. -/
theorem byteLength_of_spells {word : Text} {k : Conjunction}
    (spells : word.sameLetters k.keyword = true) : byteLength word = byteLength k.keyword := by
  rw [byteLength_of_ascii fun c hc => (letter_of_spells spells hc).1, length_of_spells spells,
    ← length_bytes_keyword, length_bytes]

/-- Texts and conjunctions of segments do not depend on where the segments stand. -/
theorem map_segmentsFrom (start : Nat) (ps : List Piece) :
    (segmentsFrom start ps).map (fun s => (s.text, s.conjunction)) =
      ps.map fun p => (p.raw.trim, p.conjunction) := by
  induction ps generalizing start with
  | nil => rfl
  | cons p ps ih =>
    rw [segmentsFrom, List.map_cons, List.map_cons, ih]
    rfl

theorem Division.segmentsFrom_trims (start : Nat) (d : Division) :
    List.Forall₂ Segment.Trims (segmentsFrom start d.pieces) (d.stretchesFrom start) := by
  induction d generalizing start with
  | last raw => exact .cons (Piece.toSegment_trims start ⟨raw, none⟩) .nil
  | cut raw word k spells rest ih =>
    rw [pieces, segmentsFrom, stretchesFrom, Piece.width, Option.elim_some,
      ← byteLength_of_spells spells, ← Nat.add_assoc]
    exact .cons (Piece.toSegment_trims start ⟨raw, some k⟩) (ih _)

/-- Every span holds the bytes of its segment, whatever stands before the division. -/
theorem Division.slice_segmentsFrom (d : Division) (before : Text) :
    ∀ s ∈ segmentsFrom (byteLength before) d.pieces,
      slice (bytes (before ++ d.text)) s.span.start s.span.stop = bytes s.text := by
  induction d generalizing before with
  | last raw =>
    intro s hs
    obtain rfl := List.mem_singleton.1 hs
    have hslice := Piece.slice_toSegment ⟨raw, none⟩ before []
    rw [List.append_nil] at hslice
    exact hslice
  | cut raw word k spells rest ih =>
    intro s hs
    rw [text, List.append_assoc, ← List.append_assoc before]
    rw [pieces, segmentsFrom, List.mem_cons] at hs
    rcases hs with rfl | hs
    · exact Piece.slice_toSegment ⟨raw, some k⟩ before (word ++ rest.text)
    · -- what stands before the rest has grown by the raw text and its keyword
      rw [← List.append_assoc]
      apply ih (before ++ raw ++ word)
      rw [byteLength_append, byteLength_append]
      rw [Piece.width, Option.elim_some, ← byteLength_of_spells spells, ← Nat.add_assoc] at hs
      exact hs

theorem le_start_of_mem_segmentsFrom {start : Nat} {ps : List Piece} {s : Segment}
    (h : s ∈ segmentsFrom start ps) : start ≤ s.span.start := by
  induction ps generalizing start with
  | nil => exact absurd h List.not_mem_nil
  | cons p ps ih =>
    rw [segmentsFrom, List.mem_cons] at h
    rcases h with rfl | h
    · exact (p.toSegment_trims start).start_le
    · exact Nat.le_trans (Nat.le_add_right start p.width) (ih h)

/-- **Spans are ordered and disjoint.** -/
theorem pairwise_segmentsFrom (start : Nat) (ps : List Piece) :
    (segmentsFrom start ps).Pairwise fun a b => a.span.stop ≤ b.span.start := by
  induction ps generalizing start with
  | nil => exact .nil
  | cons p ps ih =>
    refine .cons (fun s hs => ?_) (ih _)
    have hstop : (p.toSegment start).span.stop ≤ start + byteLength p.raw :=
      (p.toSegment_trims start).le_stop
    have hnext := le_start_of_mem_segmentsFrom hs
    rw [Piece.width] at hnext
    omega

/-- **Only the last segment has no conjunction after it**, and there is one. -/
theorem segments_eq_append (query : Text) :
    ∃ front last, segments query = front ++ [last] ∧ last.conjunction = none ∧
      ∀ s ∈ front, s.conjunction ≠ none := by
  obtain ⟨d, hscan⟩ := exists_scans none false query
  obtain ⟨frontPieces, raw, hfront, hlinked⟩ := d.pieces_eq_append
  have hmap := map_segmentsFrom 0 (pieces query)
  rw [pieces, ← hscan.pieces_eq, hfront, List.map_append, List.map_cons, List.map_nil,
    List.map_eq_append_iff] at hmap
  obtain ⟨front, rest, hsegments, hfrontMap, hrest⟩ := hmap
  obtain ⟨last, tail, rfl, hlast, htail⟩ := List.map_eq_cons_iff.1 hrest
  obtain rfl := List.map_eq_nil_iff.1 htail
  refine ⟨front, last, ?_, (Prod.mk.inj hlast).2, ?_⟩
  · rw [segments, pieces, ← hscan.pieces_eq, hfront]
    exact hsegments
  · intro s hs
    have hmem : (s.text, s.conjunction) ∈
        frontPieces.map fun p => (p.raw.trim, p.conjunction) :=
      hfrontMap ▸ List.mem_map_of_mem hs
    obtain ⟨p, hp, heq⟩ := List.mem_map.1 hmem
    rw [← (Prod.mk.inj heq).2]
    exact hlinked p hp

/-! ## Main result -/

/-- **The segments of a query are what stands between its cuts.** Some division of the query has
its cuts exactly where the bytes of the query have them; the segments trim its stretches one by
one, every span holds the bytes of its text, spans are ordered and disjoint, and there is a last
segment, the only one without a conjunction. -/
theorem segments_between_cuts (query : Text) :
    ∃ d : Division,
      d.text = query ∧
      (∀ p k, (p, k) ∈ d.cutsFrom 0 ↔ IsCut (bytes query) p k) ∧
      List.Forall₂ Segment.Trims (segments query) (d.stretchesFrom 0) ∧
      (∀ s ∈ segments query,
        slice (bytes query) s.span.start s.span.stop = bytes s.text) ∧
      (segments query).Pairwise (fun a b => a.span.stop ≤ b.span.start) ∧
      ∃ front last, segments query = front ++ [last] ∧ last.conjunction = none ∧
        ∀ s ∈ front, s.conjunction ≠ none := by
  obtain ⟨d, hscan⟩ := exists_scans none false query
  have hsegments : segments query = segmentsFrom 0 d.pieces := by
    rw [segments, pieces, hscan.pieces_eq]
  refine ⟨d, hscan.text_eq, ?_, ?_, ?_, ?_, segments_eq_append query⟩
  · intro p k
    have hcuts := hscan.mem_cutsFrom_iff [] rfl rfl p k
    rw [byteLength_nil, List.nil_append] at hcuts
    exact hcuts.trans (and_iff_right (Nat.zero_le p))
  · rw [hsegments]
    exact d.segmentsFrom_trims 0
  · rw [hsegments]
    have hslice := d.slice_segmentsFrom []
    rw [List.nil_append, hscan.text_eq] at hslice
    exact hslice
  · rw [hsegments]
    exact pairwise_segmentsFrom 0 d.pieces

/-- A keyword in quotes or inside a word cuts nothing, and spans count bytes. -/
example : segments "ü Or 'a OR b' and Anders" =
    [⟨"ü", some .or, ⟨0, 2⟩⟩, ⟨"'a OR b'", some .and, ⟨6, 14⟩⟩, ⟨"Anders", none, ⟨19, 25⟩⟩] := by
  decide

end MonitorControl
