/-
What the scan leaves whole.

Two kinds of text go through the scan uncut whatever stands around them. Between
quotation marks it is any text without the mark: the scan looks for nothing but
the mark that closes. Outside it is a quiet text, one in which no character could
begin a keyword; that can be checked one character at a time, since no keyword is
found behind a character of a word or at a letter that begins none.

The laws below are stated for a derivation that goes on behind the text, so they
chain: a quiet text, a value in quotes and a written conjunction, over and over.
-/
import MonitorControl.Proofs.Query.Scan
import MonitorControl.Proofs.Text.Blank

set_option autoImplicit false

namespace MonitorControl

open Text

/-- The first raw text gains a text at its head. -/
def Division.prepend (lead : Text) : Division → Division
  | .last raw => .last (lead ++ raw)
  | .cut raw word k spells rest => .cut (lead ++ raw) word k spells rest

theorem Division.prepend_nil (d : Division) : d.prepend [] = d := by
  cases d <;> rfl

theorem Division.prepend_cons (c : Char) (lead : Text) (d : Division) :
    d.prepend (c :: lead) = (d.prepend lead).grow c := by
  cases d <;> rfl

/-! ## Quoted text -/

theorem isWordChar_of_isQuote {q : Char} (hq : isQuote q = true) : isWordChar q = false := by
  rcases (isQuote_iff q).1 hq with rfl | rfl <;> decide

/-- A value is scanned up to the mark that closes it. -/
theorem Scans.close {q : Char} {value t : Text} {d : Division} (hq : isQuote q = true)
    (hvalue : q ∉ value) (afterWord : Bool) (h : Scans none false t d) :
    Scans (some q) afterWord (value ++ q :: t) (d.prepend (value ++ [q])) := by
  have hopen : ∀ {p : Prop}, some q = none → p := fun hnone => absurd hnone (Option.some_ne_none q)
  induction value generalizing afterWord with
  | nil =>
    rw [List.nil_append, List.nil_append, Division.prepend_cons, Division.prepend_nil]
    refine .keep hopen ?_
    rw [quoteAfter, if_pos (beq_self_eq_true q), isWordChar_of_isQuote hq]
    exact h
  | cons c value ih =>
    have hc : ¬ (c == q) = true := by
      rw [beq_iff_eq]
      rintro rfl
      exact hvalue List.mem_cons_self
    rw [List.cons_append, List.cons_append, Division.prepend_cons]
    refine .keep hopen ?_
    rw [quoteAfter, if_neg hc]
    exact ih (fun hmem => hvalue (List.mem_cons_of_mem c hmem)) (isWordChar c)

/-! ## Quiet text -/

/-- **A quiet text**: no quotation mark stands in it, and every character that could begin a keyword
stands right behind a character of a word. -/
def isQuiet (afterWord : Bool) : Text → Bool
  | [] => true
  | c :: t =>
    !isQuote c && (afterWord || Conjunction.all.all fun k => c.toLower != k.initial) &&
      isQuiet (isWordChar c) t

/-- No keyword stands at the first character of a quiet text. -/
theorem conjunctionAt?_of_isQuiet {afterWord : Bool} {c : Char} {lead : Text}
    (h : isQuiet afterWord (c :: lead) = true) (t : Text) :
    conjunctionAt? afterWord (c :: t) = none := by
  rw [isQuiet, Bool.and_eq_true, Bool.and_eq_true, Bool.or_eq_true, List.all_eq_true] at h
  -- either the character before is part of a word, or this one begins no keyword
  obtain ⟨⟨-, hword | hinitial⟩, -⟩ := h
  · rw [hword]
    rfl
  · apply conjunctionAt?_of_initial
    intro k
    exact bne_iff_ne.1 (hinitial k (by cases k <;> decide))

/-- **A quiet text and a value in quotes are scanned as they are.** -/
theorem Scans.quoted {q : Char} {lead value t : Text} {d : Division} (hq : isQuote q = true)
    {afterWord : Bool} (hquiet : isQuiet afterWord lead = true) (hvalue : q ∉ value)
    (h : Scans none false t d) :
    Scans none afterWord (lead ++ q :: (value ++ q :: t))
      (d.prepend (lead ++ q :: (value ++ [q]))) := by
  induction lead generalizing afterWord with
  | nil =>
    have hinitial : ∀ k : Conjunction, q.toLower ≠ k.initial := by
      rintro (_ | _) <;> rcases (isQuote_iff q).1 hq with rfl | rfl <;> decide
    rw [List.nil_append, List.nil_append, Division.prepend_cons]
    refine .keep (fun _ => conjunctionAt?_of_initial hinitial afterWord _) ?_
    rw [quoteAfter, if_pos hq]
    exact .close hq hvalue (isWordChar q) h
  | cons c lead ih =>
    rw [List.cons_append, List.cons_append, Division.prepend_cons]
    refine .keep (fun _ => conjunctionAt?_of_isQuiet hquiet _) ?_
    rw [isQuiet, Bool.and_eq_true, Bool.and_eq_true, Bool.not_eq_true'] at hquiet
    rw [quoteAfter, if_neg (Bool.not_eq_true _ ▸ hquiet.1.1)]
    exact ih hquiet.2

/-! ## Written conjunctions -/

/-- White space at the head of the first piece is trimmed. -/
theorem Piece.map_trim_grow {c : Char} (hc : isBlank c = true) (ps : List Piece) :
    (Piece.grow c ps).map (fun p => (p.raw.trim, p.conjunction)) =
      ps.map fun p => (p.raw.trim, p.conjunction) := by
  cases ps with
  | nil => rfl
  | cons p ps => rw [grow, List.map_cons, List.map_cons, trim_cons_of_blank hc]

theorem Conjunction.spells_keyword (k : Conjunction) : k.keyword.sameLetters k.keyword = true :=
  beq_self_eq_true _

/-- **A conjunction between two spaces is cut out**, and each space goes to its side. -/
theorem Scans.conjunction (k : Conjunction) {t : Text} {d : Division} (h : Scans none false t d) :
    Scans none false (' ' :: (k.keyword ++ ' ' :: t))
      (.cut [' '] k.keyword k k.spells_keyword (d.grow ' ')) := by
  have hblank : ∀ k : Conjunction, ' '.toLower ≠ k.initial := by
    rintro (_ | _) <;> decide
  have hfound : conjunctionAt? false (k.keyword ++ ' ' :: t) = some k := by
    rw [conjunctionAt?_eq_some_iff, Conjunction.opens, startsWith_append, List.drop_left]
    exact ⟨rfl, rfl⟩
  -- the space after the keyword follows a letter, the one before it a character of no word
  have hrest : Scans none true (' ' :: t) (d.grow ' ') :=
    .keep (fun _ => conjunctionAt?_of_initial hblank true t) h
  have hcut := Scans.cut k.spells_keyword hfound hrest
  have hkeep : Scans none false (' ' :: (k.keyword ++ ' ' :: t))
      (Division.grow ' ' (.cut [] k.keyword k k.spells_keyword (d.grow ' '))) :=
    .keep (fun _ => conjunctionAt?_of_initial hblank false _) hcut
  exact hkeep

end MonitorControl
