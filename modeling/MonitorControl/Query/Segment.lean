/-
Cutting a query into segments.

A query is a sequence of segments with `AND` or `OR` between them. A keyword
counts only as a whole word and only outside quotes; a quote is closed by the
same character and knows no escapes. One pass over the text finds all cuts: its
state is the open quote, whether the character just read may be part of a word,
and how many letters of a keyword are still to be passed over.

The pieces of that pass are the raw text between the cuts, so they and the
keywords concatenate back to the query. Segments are the trimmed pieces together
with the place of the trimmed text, counted in bytes.
-/
import MonitorControl.Query.Conjunction
import MonitorControl.Text.Quotes
import MonitorControl.Text.Utf8

set_option autoImplicit false

namespace MonitorControl

/-! ## Keywords -/

/-- A character that may be part of a word. Every character outside ASCII is one, so `ändern` holds
no `AND` after its first letter. -/
def isWordChar (c : Char) : Bool := c.isAlphanum || c == '_' || c.toNat ≥ 0x80

/-- The text begins with the keyword, and no character of a word follows it. -/
def Conjunction.opens (conjunction : Conjunction) (t : Text) : Bool :=
  t.startsWith conjunction.keyword &&
    match t.drop conjunction.keyword.length with
    | [] => true
    | c :: _ => !isWordChar c

/-- **The keyword at the head of a text**, if the character before it (`afterWord`) and the one
after it are not part of a word. -/
def conjunctionAt? (afterWord : Bool) (t : Text) : Option Conjunction :=
  if afterWord then none else Conjunction.all.find? (·.opens t)

/-! ## Pieces -/

/-- The text between two cuts, and the conjunction that ends it. -/
structure Piece where
  raw : Text
  conjunction : Option Conjunction
  deriving DecidableEq, Repr

/-- The first piece gains a character at its head. -/
def Piece.grow (c : Char) : List Piece → List Piece
  | [] => []
  | p :: rest => { p with raw := c :: p.raw } :: rest

/-- **The scan.** `quote` is the open quotation mark, `afterWord` tells whether the last character
may be part of a word, and `skip` letters of a keyword are passed over first. -/
def scanPieces (quote : Option Char) (afterWord : Bool) : Nat → Text → List Piece
  | _, [] => [⟨[], none⟩]
  | skip + 1, _ :: rest => scanPieces none true skip rest
  | 0, c :: rest =>
    match quote with
    | some q => Piece.grow c (scanPieces (if c == q then none else some q) (isWordChar c) 0 rest)
    | none =>
      if Text.isQuote c then Piece.grow c (scanPieces (some c) false 0 rest)
      else
        match conjunctionAt? afterWord (c :: rest) with
        | some k => ⟨[], some k⟩ :: scanPieces none true (k.keyword.length - 1) rest
        | none => Piece.grow c (scanPieces none (isWordChar c) 0 rest)

/-- The pieces of a query. -/
def pieces (query : Text) : List Piece := scanPieces none false 0 query

/-! ## Segments -/

/-- The half-open range of bytes from `start` to `stop`. -/
structure Span where
  start : Nat
  stop : Nat
  deriving DecidableEq, Repr

namespace Span

/-- The number of bytes in the span. -/
def size (s : Span) : Nat := s.stop - s.start

/-- The span holds no byte. -/
def isEmpty (s : Span) : Bool := s.start == s.stop

end Span

/-- **A segment**: the trimmed text of a piece, the conjunction after it (none after the last), and
the place of the trimmed text in the query. -/
structure Segment where
  text : Text
  conjunction : Option Conjunction
  span : Span
  deriving DecidableEq, Repr

/-- The segment of a piece that begins at byte `start`. -/
def Piece.toSegment (start : Nat) (p : Piece) : Segment :=
  let text := p.raw.trim
  let first := start + (p.raw.byteLength - p.raw.trimStart.byteLength)
  { text, conjunction := p.conjunction, span := ⟨first, first + text.byteLength⟩ }

/-- The number of bytes that a piece and its keyword take up. -/
def Piece.width (p : Piece) : Nat :=
  p.raw.byteLength + (p.conjunction.elim 0 fun k => k.keyword.byteLength)

/-- The segments of pieces that follow each other from byte `start` on. -/
def segmentsFrom (start : Nat) : List Piece → List Segment
  | [] => []
  | p :: rest => p.toSegment start :: segmentsFrom (start + p.width) rest

/-- **The segments of a query**, from left to right. -/
def segments (query : Text) : List Segment := segmentsFrom 0 (pieces query)

/-! ## One cut at a time -/

/-- **The first cut**: the trimmed text before it, and, if there is a conjunction, that conjunction
with the trimmed rest of the query. -/
def splitAtConjunction (query : Text) : Text × Option (Conjunction × Text) :=
  match pieces query with
  | ⟨raw, some k⟩ :: _ => (raw.trim, some (k, Text.trim (query.drop (raw.length + k.keyword.length))))
  | ⟨raw, none⟩ :: _ => (raw.trim, none)
  | [] => (query.trim, none)

/-- The text of the last segment: the part of a query that is being typed. -/
def lastSegmentText (query : Text) : Text :=
  ((segments query).getLast?.map Segment.text).getD []

end MonitorControl
