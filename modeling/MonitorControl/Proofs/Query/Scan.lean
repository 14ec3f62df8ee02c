/-
The scan of a query, as a derivation.

The scan is one function with a counter for the letters of a keyword that are
still to be passed over, and its state is hard to follow through an induction on
the text: what a cut means is settled at its first letter and takes effect at its
last. `Scans` has the same steps without the counter. A character is kept, under
the condition that no keyword stands at it, or a keyword as it is written is cut
out. Every text has a derivation (`exists_scans`) and the pieces of the scan are
those of its derivation (`Scans.pieces_eq`), so every law about cutting is from here
on an induction over derivations.

What a derivation yields is a division of the text: raw text and written keywords
in turn, so that nothing of the query is left out of it.
-/
import MonitorControl.Proofs.Text.Ascii
import MonitorControl.Query.Segment

set_option autoImplicit false

namespace MonitorControl

open Text

/-! ## Divisions -/

/-- **A division of a text**: raw text, a keyword as it is written, and so on up to the last raw
text. -/
inductive Division where
  | last (raw : Text)
  | cut (raw word : Text) (conjunction : Conjunction)
    (spells : word.sameLetters conjunction.keyword = true) (rest : Division)

namespace Division

/-- The first raw text gains a character at its head. -/
def grow (c : Char) : Division → Division
  | .last raw => .last (c :: raw)
  | .cut raw word k spells rest => .cut (c :: raw) word k spells rest

/-- **The text that is divided.** -/
def text : Division → Text
  | .last raw => raw
  | .cut raw word _ _ rest => raw ++ word ++ rest.text

/-- The raw texts, each with the conjunction after it. -/
def pieces : Division → List Piece
  | .last raw => [⟨raw, none⟩]
  | .cut raw _ k _ rest => ⟨raw, some k⟩ :: rest.pieces

@[simp] theorem text_grow (c : Char) (d : Division) : (d.grow c).text = c :: d.text := by
  cases d <;> rfl

@[simp] theorem pieces_grow (c : Char) (d : Division) :
    (d.grow c).pieces = Piece.grow c d.pieces := by
  cases d <;> rfl

/-- **Only the last piece has no conjunction after it.** -/
theorem pieces_eq_append (d : Division) :
    ∃ front raw, d.pieces = front ++ [⟨raw, none⟩] ∧ ∀ p ∈ front, p.conjunction ≠ none := by
  induction d with
  | last raw => exact ⟨[], raw, rfl, fun p hp => absurd hp List.not_mem_nil⟩
  | cut raw word k spells rest ih =>
    obtain ⟨front, lastRaw, hpieces, hfront⟩ := ih
    refine ⟨⟨raw, some k⟩ :: front, lastRaw, ?_, ?_⟩
    · rw [pieces, hpieces, List.cons_append]
    · intro p hp
      rcases List.mem_cons.1 hp with rfl | hp
      · exact Option.some_ne_none k
      · exact hfront p hp

end Division

/-! ## Letters of keywords -/

/-- What a letter of a written keyword is like. -/
theorem letter_of_spells {word : Text} {k : Conjunction}
    (spells : word.sameLetters k.keyword = true) {c : Char} (hc : c ∈ word) :
    c.toNat < 0x80 ∧ isWordChar c = true ∧ isQuote c = false := by
  have hkeyword : (fold k.keyword).all ['a', 'n', 'd', 'o', 'r'].contains = true := by
    cases k <;> decide
  have hmem : c.toLower ∈ ['a', 'n', 'd', 'o', 'r'] := List.contains_iff_mem.1
    (List.all_eq_true.1 hkeyword c.toLower (eq_of_beq spells ▸ List.mem_map_of_mem hc))
  rcases Nat.lt_or_ge c.toNat 0x80 with hascii | habove
  · exact ⟨hascii, ascii_cases (P := fun c => c.toLower ∈ ['a', 'n', 'd', 'o', 'r'] →
      isWordChar c = true ∧ isQuote c = false) (by decide) hascii hmem⟩
  · -- the case of such a character is not folded, so it is a letter itself
    rw [toLower_of_not_ascii habove] at hmem
    have hletters : ['a', 'n', 'd', 'o', 'r'].all (·.toNat < 0x80) = true := by decide
    exact absurd (of_decide_eq_true (List.all_eq_true.1 hletters c hmem)) (Nat.not_lt.2 habove)

theorem length_of_spells {word : Text} {k : Conjunction}
    (spells : word.sameLetters k.keyword = true) : word.length = k.keyword.length := by
  rw [← length_fold word, eq_of_beq spells, length_fold]

theorem ne_nil_of_spells {word : Text} {k : Conjunction}
    (spells : word.sameLetters k.keyword = true) : word ≠ [] := by
  rintro rfl
  have hlength := length_of_spells spells
  cases k <;> exact absurd hlength (by decide)

/-! ## Keywords at a place -/

theorem isQuote_iff (c : Char) : isQuote c = true ↔ c = '\'' ∨ c = '"' := by
  rw [isQuote, Bool.or_eq_true, beq_iff_eq, beq_iff_eq]

/-- The first letter of a keyword, in lower case. -/
def Conjunction.initial : Conjunction → Char
  | .and => 'a'
  | .or => 'o'

theorem Conjunction.toLower_of_opens {k : Conjunction} {c : Char} {t : Text}
    (h : k.opens (c :: t) = true) : c.toLower = k.initial := by
  rw [opens, Bool.and_eq_true, startsWith, sameLetters, beq_iff_eq] at h
  cases k <;> exact (List.cons.inj h.1).1

/-- No text begins with both keywords, so a keyword at a place is found whichever it is. -/
theorem conjunctionAt?_eq_some_iff (afterWord : Bool) (t : Text) (k : Conjunction) :
    conjunctionAt? afterWord t = some k ↔ afterWord = false ∧ k.opens t = true := by
  have hother : Conjunction.and.opens t = true → Conjunction.or.opens t = false := by
    intro hand
    cases t with
    | nil => rfl
    | cons c t =>
      rw [← Bool.not_eq_true]
      intro hor
      have hc := Conjunction.toLower_of_opens hand
      rw [Conjunction.toLower_of_opens hor] at hc
      exact absurd hc (by decide)
  rw [conjunctionAt?]
  cases afterWord with
  | true => simp
  | false =>
    simp only [Bool.false_eq_true, if_false, Conjunction.all, List.find?_cons, List.find?_nil]
    cases hand : Conjunction.and.opens t <;> cases hor : Conjunction.or.opens t <;>
      cases k <;> simp_all

/-- No keyword stands at a character that begins none. -/
theorem conjunctionAt?_of_initial {c : Char} (hc : ∀ k : Conjunction, c.toLower ≠ k.initial)
    (afterWord : Bool) (t : Text) : conjunctionAt? afterWord (c :: t) = none := by
  cases h : conjunctionAt? afterWord (c :: t) with
  | none => rfl
  | some k =>
    have hopens := ((conjunctionAt?_eq_some_iff afterWord (c :: t) k).1 h).2
    exact absurd (Conjunction.toLower_of_opens hopens) (hc k)

/-- A keyword at the head of a text, as it is written there. -/
theorem exists_word_of_conjunctionAt? {afterWord : Bool} {t : Text} {k : Conjunction}
    (h : conjunctionAt? afterWord t = some k) :
    ∃ word rest, t = word ++ rest ∧ word.sameLetters k.keyword = true := by
  have hopens := ((conjunctionAt?_eq_some_iff afterWord t k).1 h).2
  rw [Conjunction.opens, Bool.and_eq_true] at hopens
  exact ⟨t.take k.keyword.length, t.drop k.keyword.length, (List.take_append_drop _ t).symm,
    hopens.1⟩

/-! ## The derivations -/

/-- The open quotation mark after one more character. -/
def quoteAfter (quote : Option Char) (c : Char) : Option Char :=
  match quote with
  | some q => if c == q then none else some q
  | none => if isQuote c then some c else none

/-- **A scan**: from an open quotation mark, or none, and the kind of the character before, the text
is divided. -/
inductive Scans : Option Char → Bool → Text → Division → Prop where
  | nil (quote : Option Char) (afterWord : Bool) : Scans quote afterWord [] (.last [])
  | keep {quote : Option Char} {afterWord : Bool} {c : Char} {t : Text} {d : Division}
      (quiet : quote = none → conjunctionAt? afterWord (c :: t) = none)
      (h : Scans (quoteAfter quote c) (isWordChar c) t d) :
      Scans quote afterWord (c :: t) (d.grow c)
  | cut {afterWord : Bool} {word t : Text} {k : Conjunction} {d : Division}
      (spells : word.sameLetters k.keyword = true)
      (found : conjunctionAt? afterWord (word ++ t) = some k) (h : Scans none true t d) :
      Scans none afterWord (word ++ t) (.cut [] word k spells d)

/-- Letters that are passed over leave no trace but a word behind them. -/
theorem scanPieces_skip (letters t : Text) :
    scanPieces none true letters.length (letters ++ t) = scanPieces none true 0 t := by
  induction letters with
  | nil => rfl
  | cons c letters ih => rw [List.length_cons, List.cons_append, scanPieces, ih]

/-- A character that is kept goes to the piece that begins there. -/
theorem scanPieces_keep {quote : Option Char} {afterWord : Bool} {c : Char} {t : Text}
    (quiet : quote = none → conjunctionAt? afterWord (c :: t) = none) :
    scanPieces quote afterWord 0 (c :: t) =
      Piece.grow c (scanPieces (quoteAfter quote c) (isWordChar c) 0 t) := by
  cases quote with
  | some q => rfl
  | none =>
    rw [scanPieces, quoteAfter]
    by_cases hc : isQuote c = true
    · -- a quotation mark is no character of a word
      have hword : isWordChar c = false := by
        rcases (isQuote_iff c).1 hc with rfl | rfl <;> decide
      rw [if_pos hc, if_pos hc, hword]
    · rw [if_neg hc, if_neg hc, quiet rfl]

/-- A written keyword ends a piece. -/
theorem scanPieces_cut {afterWord : Bool} {word t : Text} {k : Conjunction}
    (spells : word.sameLetters k.keyword = true)
    (found : conjunctionAt? afterWord (word ++ t) = some k) :
    scanPieces none afterWord 0 (word ++ t) = ⟨[], some k⟩ :: scanPieces none true 0 t := by
  cases word with
  | nil => exact absurd rfl (ne_nil_of_spells spells)
  | cons c letters =>
    have hc : ¬ isQuote c = true :=
      Bool.not_eq_true _ ▸ (letter_of_spells spells List.mem_cons_self).2.2
    have hlength : k.keyword.length - 1 = letters.length := by
      rw [← length_of_spells spells, List.length_cons, Nat.add_sub_cancel]
    rw [List.cons_append] at found ⊢
    rw [scanPieces, if_neg hc, found]
    simp only
    rw [hlength, scanPieces_skip]

/-- **Every text has a derivation.** The induction is on the length of the text, since a cut passes
over more than one letter. -/
theorem exists_scans (quote : Option Char) (afterWord : Bool) (t : Text) :
    ∃ d, Scans quote afterWord t d := by
  induction hn : t.length using Nat.strongRecOn generalizing quote afterWord t with
  | ind n ih =>
    subst hn
    cases t with
    | nil => exact ⟨.last [], .nil quote afterWord⟩
    | cons c t =>
      have hkeep : (quote = none → conjunctionAt? afterWord (c :: t) = none) →
          ∃ d, Scans quote afterWord (c :: t) d := by
        intro quiet
        obtain ⟨d, hd⟩ :=
          ih t.length (Nat.lt_succ_self t.length) (quoteAfter quote c) (isWordChar c) t rfl
        exact ⟨d.grow c, .keep quiet hd⟩
      cases quote with
      | some q => exact hkeep fun h => absurd h (Option.some_ne_none q)
      | none =>
        cases found : conjunctionAt? afterWord (c :: t) with
        | none => exact hkeep fun _ => found
        | some k =>
          obtain ⟨word, rest, hword, spells⟩ := exists_word_of_conjunctionAt? found
          have hshorter : rest.length < (c :: t).length := by
            rw [hword, List.length_append, length_of_spells spells]
            cases k <;> exact Nat.lt_add_of_pos_left (by decide)
          obtain ⟨d, hd⟩ := ih rest.length hshorter none true rest rfl
          rw [hword] at found ⊢
          exact ⟨.cut [] word k spells d, .cut spells found hd⟩

/-- **The pieces of a derivation are those of the scan.** -/
theorem Scans.pieces_eq {quote : Option Char} {afterWord : Bool} {t : Text} {d : Division}
    (h : Scans quote afterWord t d) : d.pieces = scanPieces quote afterWord 0 t := by
  induction h with
  | nil => rfl
  | keep quiet _ ih => rw [Division.pieces_grow, ih, scanPieces_keep quiet]
  | cut spells found _ ih => rw [Division.pieces, ih, scanPieces_cut spells found]

/-- **A scan divides the text and loses nothing of it.** -/
theorem Scans.text_eq {quote : Option Char} {afterWord : Bool} {t : Text} {d : Division}
    (h : Scans quote afterWord t d) : d.text = t := by
  induction h with
  | nil => rfl
  | keep _ _ ih => rw [Division.text_grow, ih]
  | cut _ _ _ ih => rw [Division.text, ih, List.nil_append]

end MonitorControl
