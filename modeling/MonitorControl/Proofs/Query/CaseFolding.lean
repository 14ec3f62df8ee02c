/-
Cutting a folded query.

Keywords are read in any case, and quotation marks and the characters of words have
none, so a folded query is cut where the query is: its segments are those of the
query with their texts folded, at the same places and with the same conjunctions
(`segments_fold`). The induction is over the derivation of the scan; the open
quotation mark is what it has to know, since a mark is the only character that a
scan compares with another.
-/
import MonitorControl.Proofs.Query.Segments
import MonitorControl.Proofs.Text.CaseFolding
import MonitorControl.Query.Tree

set_option autoImplicit false

namespace MonitorControl

open Text

/-! ## Keywords -/

theorem ignoresCase_isWordChar : IgnoresCase isWordChar := .of_codes (by decide)

theorem Conjunction.opens_fold (k : Conjunction) (t : Text) : k.opens (fold t) = k.opens t := by
  rw [opens, opens, startsWith_fold_left, drop_fold]
  cases t.drop k.keyword.length with
  | nil => rfl
  | cons c rest => simp only [fold_cons, ignoresCase_isWordChar c]

theorem conjunctionAt?_fold (afterWord : Bool) (t : Text) :
    conjunctionAt? afterWord (fold t) = conjunctionAt? afterWord t := by
  simp only [conjunctionAt?, Conjunction.opens_fold]

/-! ## Pieces -/

/-- The piece with its raw text folded. -/
def Piece.fold (p : Piece) : Piece := { p with raw := p.raw.fold }

theorem Piece.grow_fold (c : Char) (ps : List Piece) :
    Piece.grow c.toLower (ps.map Piece.fold) = (Piece.grow c ps).map Piece.fold := by
  cases ps <;> rfl

/-- A quotation mark that is open is closed by no letter. -/
theorem quoteAfter_toLower {quote : Option Char} (hquote : ∀ q ∈ quote, isQuote q = true)
    (c : Char) : quoteAfter quote c.toLower = quoteAfter quote c := by
  cases quote with
  | some q =>
    have hq : q.isAlpha = false := by
      rcases (isQuote_iff q).1 (hquote q rfl) with rfl | rfl <;> decide
    simp only [quoteAfter, beq_iff_eq, toLower_eq_iff hq]
  | none =>
    rw [quoteAfter, quoteAfter, ignoresCase_isQuote c]
    by_cases hc : isQuote c = true
    · have hmark : c.toLower = c := by
        rcases (isQuote_iff c).1 hc with rfl | rfl <;> decide
      rw [if_pos hc, if_pos hc, hmark]
    · rw [if_neg hc, if_neg hc]

/-- **A folded text is cut where the text is.** -/
theorem Scans.pieces_fold {quote : Option Char} {afterWord : Bool} {t : Text} {d : Division}
    (h : Scans quote afterWord t d) (hquote : ∀ q ∈ quote, isQuote q = true) :
    scanPieces quote afterWord 0 (fold t) = d.pieces.map Piece.fold := by
  induction h with
  | nil => rfl
  | keep quiet _ ih =>
    rw [fold_cons, scanPieces_keep, quoteAfter_toLower hquote, ignoresCase_isWordChar,
      ih (isQuote_of_mem_quoteAfter hquote _), Division.pieces_grow, Piece.grow_fold]
    -- where no keyword stood in the text, none stands in the folded one
    intro hnone
    rw [← fold_cons, conjunctionAt?_fold]
    exact quiet hnone
  | @cut afterWord word rest k _ spells found _ ih =>
    -- the folded word is another way to write the same keyword
    have hspells : word.fold.sameLetters k.keyword = true := by rwa [sameLetters_fold_left]
    have hfound : conjunctionAt? afterWord (word.fold ++ rest.fold) = some k := by
      rwa [← fold_append, conjunctionAt?_fold]
    rw [fold_append, scanPieces_cut hspells hfound, ih hquote]
    rfl

theorem pieces_fold (query : Text) : pieces query.fold = (pieces query).map Piece.fold := by
  obtain ⟨d, hscan⟩ := exists_scans none false query
  rw [pieces, hscan.pieces_fold fun q hq => absurd hq (Option.not_mem_none q), hscan.pieces_eq,
    pieces]

/-! ## Segments -/

/-- The segment with its text folded. -/
def Segment.fold (s : Segment) : Segment := { s with text := s.text.fold }

theorem Piece.toSegment_fold (start : Nat) (p : Piece) :
    p.fold.toSegment start = (p.toSegment start).fold := by
  simp only [toSegment, Piece.fold, Segment.fold, trim_fold, trimStart_fold, byteLength_fold]

theorem segmentsFrom_fold (start : Nat) (ps : List Piece) :
    segmentsFrom start (ps.map Piece.fold) = (segmentsFrom start ps).map Segment.fold := by
  induction ps generalizing start with
  | nil => rfl
  | cons p ps ih =>
    have hwidth : p.fold.width = p.width := by
      rw [Piece.width, Piece.width, Piece.fold, byteLength_fold]
    rw [List.map_cons, segmentsFrom, segmentsFrom, List.map_cons, hwidth, ih, p.toSegment_fold]

/-- **The segments of a folded query** are those of the query, at the same places, with their texts
folded. -/
theorem segments_fold (query : Text) : segments query.fold = (segments query).map Segment.fold := by
  rw [segments, pieces_fold, segmentsFrom_fold, segments]

theorem lastSegmentText_fold (query : Text) :
    lastSegmentText query.fold = fold (lastSegmentText query) := by
  rw [lastSegmentText, lastSegmentText, segments_fold, List.getLast?_map]
  cases (segments query).getLast? <;> rfl

/-! ## Segments as parts of the query -/

theorem Division.raw_isInfix {d : Division} {p : Piece} (hp : p ∈ d.pieces) :
    p.raw <:+: d.text := by
  induction d with
  | last raw =>
    obtain rfl := List.mem_singleton.1 hp
    exact List.infix_refl raw
  | cut raw word k spells rest ih =>
    -- the piece is the raw text before the keyword, or one of those behind it
    rw [text, List.append_assoc]
    rcases List.mem_cons.1 hp with rfl | hp
    · exact (List.prefix_append raw _).isInfix
    · exact ((ih hp).trans (List.suffix_append word _).isInfix).trans
        (List.suffix_append raw _).isInfix

/-- **The text of a segment is a part of the query.** -/
theorem text_isInfix_of_mem_segments {query : Text} {s : Segment} (hs : s ∈ segments query) :
    s.text <:+: query := by
  obtain ⟨d, hscan⟩ := exists_scans none false query
  have hmap := map_segmentsFrom 0 (pieces query)
  have hmem : (s.text, s.conjunction) ∈
      (pieces query).map fun p => (p.raw.trim, p.conjunction) :=
    hmap ▸ List.mem_map_of_mem hs
  obtain ⟨p, hp, heq⟩ := List.mem_map.1 hmem
  rw [pieces, ← hscan.pieces_eq] at hp
  have hraw := Division.raw_isInfix hp
  rw [hscan.text_eq] at hraw
  rw [← (Prod.mk.inj heq).1]
  exact (trim_isInfix p.raw).trans hraw

/-! ## Trees up to case -/

/-- **Values up to case**: the same number, or texts with the same letters. -/
inductive Value.Alike : Value → Value → Prop where
  | text {a b : Text} (h : a.sameLetters b = true) : Alike (.text a) (.text b)
  | integer (n : Int) : Alike (.integer n) (.integer n)
  | float (x : Float) : Alike (.float x) (.float x)

/-- Predicates that differ in the letters of their values at most. -/
structure Predicate.Alike (p q : Predicate) : Prop where
  field_eq : p.field = q.field
  operator_eq : p.operator = q.operator
  context_eq : p.context = q.context
  value : p.value.Alike q.value

/-- **Nodes of one shape** with the same conjunctions, and predicates that are alike. -/
inductive Node.Alike : Node → Node → Prop where
  | leaf {p q : Predicate} (h : p.Alike q) : Alike (.leaf p) (.leaf q)
  | join (k : Conjunction) {left right left' right' : Node} (hleft : Alike left left')
    (hright : Alike right right') : Alike (.join k left right) (.join k left' right')

/-- Two empty trees, or two trees with roots that are alike. -/
def Tree.Alike (s t : Tree) : Prop := Option.Rel Node.Alike s.root t.root

/-- The value with its text folded, if it is one. -/
def Value.fold : Value → Value
  | .text t => .text t.fold
  | .integer n => .integer n
  | .float x => .float x

/-- The node with the texts in it folded. -/
def Node.fold : Node → Node
  | .leaf p => .leaf { p with value := p.value.fold }
  | .join k left right => .join k left.fold right.fold

/-- The tree with the texts in it folded. -/
def Tree.fold (t : Tree) : Tree := ⟨t.root.map Node.fold⟩

theorem Value.alike_of_fold_eq {v w : Value} (h : v.fold = w.fold) : v.Alike w := by
  cases v <;> cases w <;>
    simp only [fold, reduceCtorEq, text.injEq, integer.injEq, float.injEq] at h
  case text.text a b => exact .text (beq_iff_eq.2 h)
  case integer.integer n m => exact h ▸ .integer n
  case float.float x y => exact h ▸ .float x

/-- **Nodes that fold to one node are alike.** -/
theorem Node.alike_of_fold_eq {n m : Node} (h : n.fold = m.fold) : n.Alike m := by
  induction n generalizing m with
  | leaf p =>
    cases m with
    | leaf q =>
      simp only [fold, leaf.injEq, Predicate.mk.injEq] at h
      obtain ⟨hfield, hoperator, hvalue, hcontext⟩ := h
      exact .leaf ⟨hfield, hoperator, hcontext, Value.alike_of_fold_eq hvalue⟩
    | join k left right => exact absurd h (by simp [fold])
  | join k left right ihleft ihright =>
    cases m with
    | leaf q => exact absurd h (by simp [fold])
    | join k' left' right' =>
      simp only [fold, join.injEq] at h
      obtain ⟨rfl, hleft, hright⟩ := h
      exact .join k (ihleft hleft) (ihright hright)

theorem Tree.alike_of_fold_eq {s t : Tree} (h : s.fold = t.fold) : s.Alike t := by
  obtain ⟨root⟩ := s
  obtain ⟨root'⟩ := t
  rw [Tree.Alike]
  cases root <;> cases root' <;>
    simp only [fold, Option.map_none, Option.map_some, mk.injEq, reduceCtorEq, Option.some_inj] at h
  · exact .none
  · exact .some (Node.alike_of_fold_eq h)

theorem Tree.insert_fold (t : Tree) (node : Node) (k : Conjunction) :
    t.fold.insert node.fold k = (t.insert node k).fold := by
  obtain ⟨root⟩ := t
  cases root <;> rfl

end MonitorControl
