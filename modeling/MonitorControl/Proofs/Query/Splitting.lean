/-
Cutting a query once and cutting it up over and over.

Splitting gives the text before the first conjunction and the trimmed rest, and the
rest can be split again. Compared with one scan this forgets two things: what stood
before the rest, and what stood behind its last character. Both are white space or
a letter of a keyword, and neither makes a difference, except where a character is
white space for trimming and part of a word for the scan. Those are the blanks
outside ASCII. A keyword next to one is none for the scan, and becomes one when
trimming takes the blank away: `a AND \u00a0OR b` has two segments, and is split
into three.

So the two ways agree on every query in which no keyword is set apart in this way
from a keyword before it or from the end of the query (`PlainlySpaced`), and that covers
every query whose white space is ASCII. The proof follows a scan through trimming:
leading blanks go to the first piece and trailing ones to the last, where trimming
takes them off again, and in between the scan takes the same steps.
-/
import MonitorControl.Proofs.Query.Cuts
import MonitorControl.Proofs.Query.Quiet
import MonitorControl.Proofs.Query.Segments

set_option autoImplicit false

namespace MonitorControl

open Text

/-! ## Whole keywords -/

theorem Conjunction.opens_word_append {word : Text} {k : Conjunction}
    (spells : word.sameLetters k.keyword = true) (t : Text) :
    k.opens (word ++ t) = true ↔ ∀ c ∈ t.head?, isWordChar c = false := by
  have hstarts : (word ++ t).startsWith k.keyword = true := by
    rw [Text.startsWith, ← length_of_spells spells, List.take_left]
    exact spells
  rw [opens, hstarts, Bool.true_and, ← length_of_spells spells, List.drop_left]
  cases t with
  | nil => simp
  | cons c t => simp

/-- A text that a keyword opens is that keyword as it is written, and a rest that does not go on
with a word. -/
theorem Conjunction.exists_word_of_opens {k : Conjunction} {t : Text} (h : k.opens t = true) :
    ∃ word rest, t = word ++ rest ∧ word.sameLetters k.keyword = true ∧
      ∀ c ∈ rest.head?, isWordChar c = false := by
  have hfound : conjunctionAt? false t = some k := (conjunctionAt?_eq_some_iff false t k).2 ⟨rfl, h⟩
  obtain ⟨word, rest, rfl, spells⟩ := exists_word_of_conjunctionAt? hfound
  exact ⟨word, rest, rfl, spells, (opens_word_append spells rest).1 h⟩

/-- White space of ASCII is no part of a word, and a letter of a keyword is. -/
theorem not_blank_of_spells {word : Text} {k : Conjunction}
    (spells : word.sameLetters k.keyword = true) {c : Char} (hc : c ∈ word) :
    isBlank c = false := by
  obtain ⟨hascii, hword, -⟩ := letter_of_spells spells hc
  exact ascii_cases (P := fun c => isWordChar c = true → isBlank c = false) (by decide) hascii hword

theorem conjunctionAt?_of_blank {c : Char} (hc : isBlank c = true) (afterWord : Bool) (t : Text) :
    conjunctionAt? afterWord (c :: t) = none := by
  cases hfound : conjunctionAt? afterWord (c :: t) with
  | none => rfl
  | some k =>
    obtain ⟨word, rest, hword, spells⟩ := exists_word_of_conjunctionAt? hfound
    obtain ⟨c', letters, rfl⟩ := List.exists_cons_of_ne_nil (ne_nil_of_spells spells)
    obtain ⟨rfl, -⟩ := List.cons.inj hword
    rw [not_blank_of_spells spells List.mem_cons_self] at hc
    exact absurd hc (by decide)

/-! ## White space behind a text -/

section Trailing

variable {trail : Text}

/-- White space behind a text completes no keyword in it. -/
theorem Conjunction.opens_of_append_blank (htrail : ∀ c ∈ trail, isBlank c = true)
    {k : Conjunction} {t : Text} (h : k.opens (t ++ trail) = true) : k.opens t = true := by
  obtain ⟨word, rest, htext, spells, hrest⟩ := exists_word_of_opens h
  rcases List.append_eq_append_iff.1 htext with ⟨extra, rfl, hextra⟩ | ⟨extra, rfl, rfl⟩
  · -- the keyword reaches into the white space, so not by a letter
    cases extra with
    | nil =>
      rw [List.append_nil] at spells
      have hwhole := (opens_word_append spells []).2 (by simp)
      rwa [List.append_nil] at hwhole
    | cons c extra =>
      have hblank : isBlank c = true := htrail c (hextra ▸ List.mem_cons_self)
      rw [not_blank_of_spells spells (List.mem_append_right t List.mem_cons_self)] at hblank
      exact absurd hblank (by decide)
  · rw [opens_word_append spells]
    intro c hc
    apply hrest c
    rw [List.head?_append_of_ne_nil _ (by rintro rfl; simp at hc)]
    exact hc

/-- The last raw text gains a text at its end. -/
def Division.append (trail : Text) : Division → Division
  | .last raw => .last (raw ++ trail)
  | .cut raw word k spells rest => .cut raw word k spells (rest.append trail)

theorem Division.append_grow (trail : Text) (c : Char) (d : Division) :
    (d.grow c).append trail = (d.append trail).grow c := by
  cases d <;> rfl

theorem Division.map_trim_append (htrail : ∀ c ∈ trail, isBlank c = true) (d : Division) :
    (d.append trail).pieces.map (fun p => (p.raw.trim, p.conjunction)) =
      d.pieces.map fun p => (p.raw.trim, p.conjunction) := by
  induction d with
  | last raw =>
    rw [append, pieces, pieces, List.map_singleton, List.map_singleton, trim_append_of_blank htrail]
  | cut raw word k spells rest ih => rw [append, pieces, pieces, List.map_cons, List.map_cons, ih]

/-- White space alone holds no cut. -/
theorem Scans.blanks {t : Text} (ht : ∀ c ∈ t, isBlank c = true) (quote : Option Char)
    (afterWord : Bool) : Scans quote afterWord t (.last t) := by
  induction t generalizing quote afterWord with
  | nil => exact .nil quote afterWord
  | cons c t ih =>
    have hquiet := conjunctionAt?_of_blank (ht c List.mem_cons_self) afterWord t
    exact .keep (fun _ => hquiet)
      (ih (fun d hd => ht d (List.mem_cons_of_mem c hd)) (quoteAfter quote c) (isWordChar c))

/-- **White space behind a text goes to the last piece**, unless a keyword stands right before it
that it makes a part of a longer word. `before` is what was scanned before the text. -/
theorem Scans.append_blank {quote : Option Char} {afterWord : Bool} {t : Text} {d : Division}
    (h : Scans quote afterWord t d) (before : Text) (hword : endsInWord before = afterWord)
    (htrail : ∀ c ∈ trail, isBlank c = true)
    (hend : ∀ (front word : Text) (k : Conjunction), before ++ t = front ++ word →
      word.sameLetters k.keyword = true → endsInWord front = false →
      ∀ c ∈ trail.head?, isWordChar c = false) :
    Scans quote afterWord (t ++ trail) (d.append trail) := by
  induction h generalizing before with
  | nil quote afterWord => exact .blanks htrail quote afterWord
  | @keep quote afterWord c t d quiet _ ih =>
    rw [Division.append_grow]
    refine .keep (fun hquote => ?_) ?_
    · cases hfound : conjunctionAt? afterWord (c :: (t ++ trail)) with
      | none => rfl
      | some k =>
        -- what is a keyword with the white space behind it is one without
        obtain ⟨hafter, hopens⟩ := (conjunctionAt?_eq_some_iff afterWord _ k).1 hfound
        have hfound' := (conjunctionAt?_eq_some_iff afterWord (c :: t) k).2
          ⟨hafter, Conjunction.opens_of_append_blank htrail hopens⟩
        rw [quiet hquote] at hfound'
        exact absurd hfound' (by simp)
    · apply ih (before ++ [c]) (endsInWord_append_singleton before c)
      rw [List.append_assoc, List.singleton_append]
      exact hend
  | @cut afterWord word t k d spells found _ ih =>
    obtain ⟨hafter, hopens⟩ := (conjunctionAt?_eq_some_iff afterWord (word ++ t) k).1 found
    have hnext : ∀ c ∈ (t ++ trail).head?, isWordChar c = false := by
      cases t with
      | nil =>
        rw [List.append_nil] at hend
        exact hend before word k rfl spells (hword.trans hafter)
      | cons c t => exact (Conjunction.opens_word_append spells (c :: t)).1 hopens
    have found' : conjunctionAt? afterWord (word ++ (t ++ trail)) = some k :=
      (conjunctionAt?_eq_some_iff afterWord _ k).2
        ⟨hafter, (Conjunction.opens_word_append spells (t ++ trail)).2 hnext⟩
    rw [List.append_assoc]
    refine .cut spells found' (ih (before ++ word) (endsInWord_append_word spells) ?_)
    rw [List.append_assoc]
    exact hend

end Trailing

/-! ## White space before a text -/

/-- White space in front goes to the first piece, and the scan goes on behind its last character.
`before` is what was scanned before it. -/
theorem Scans.exists_of_blank {lead t before : Text} (hlead : ∀ c ∈ lead, isBlank c = true)
    {d : Division} (h : Scans none (endsInWord before) (lead ++ t) d) :
    ∃ d', d = d'.prepend lead ∧ Scans none (endsInWord (before ++ lead)) t d' := by
  induction lead generalizing before d with
  | nil =>
    rw [List.append_nil]
    exact ⟨d, (Division.prepend_nil d).symm, h⟩
  | cons c lead ih =>
    have hc := hlead c List.mem_cons_self
    have hquote : isQuote c = false := by
      rw [← Bool.not_eq_true, isQuote_iff]
      rintro (rfl | rfl) <;> exact absurd hc (by decide)
    obtain ⟨s, hs⟩ : ∃ s, s = c :: lead ++ t := ⟨_, rfl⟩
    rw [← hs] at h
    cases h with
    | nil => exact absurd hs (by simp)
    | @keep _ _ c' t' d _ hrest =>
      obtain ⟨rfl, rfl⟩ := List.cons.inj hs
      rw [quoteAfter, hquote, ← endsInWord_append_singleton before c'] at hrest
      obtain ⟨d', rfl, hd'⟩ := ih (fun b hb => hlead b (List.mem_cons_of_mem c' hb)) hrest
      rw [List.append_assoc, List.singleton_append] at hd'
      exact ⟨d', (Division.prepend_cons c' lead d').symm, hd'⟩
    | @cut _ word t' k d spells found hrest =>
      rw [hs, List.cons_append, conjunctionAt?_of_blank hc] at found
      exact absurd found (by simp)

/-- Where no keyword stands, it makes no difference what stood before. -/
theorem Scans.forget_word {afterWord : Bool} {t : Text} {d : Division}
    (h : Scans none afterWord t d)
    (hnone : afterWord = true → conjunctionAt? false t = none) : Scans none false t d := by
  cases afterWord with
  | false => exact h
  | true =>
    cases h with
    | nil => exact .nil none false
    | keep _ hrest => exact .keep (fun _ => hnone rfl) hrest
    | cut _ found _ => exact absurd found (by simp [conjunctionAt?])

theorem Division.map_trim_prepend {lead : Text} (hlead : ∀ c ∈ lead, isBlank c = true)
    (d : Division) :
    (d.prepend lead).pieces.map (fun p => (p.raw.trim, p.conjunction)) =
      d.pieces.map fun p => (p.raw.trim, p.conjunction) := by
  induction lead with
  | nil => rw [prepend_nil]
  | cons c lead ih =>
    rw [prepend_cons, pieces_grow, Piece.map_trim_grow (hlead c List.mem_cons_self),
      ih fun b hb => hlead b (List.mem_cons_of_mem c hb)]

/-! ## One split -/

/-- Behind a cut, the scan goes on after a letter, and what follows does not begin with one. -/
theorem Scans.behind_cut {quote : Option Char} {afterWord : Bool} {t : Text} {d : Division}
    (h : Scans quote afterWord t d) {raw word : Text} {k : Conjunction}
    {spells : word.sameLetters k.keyword = true} {rest : Division}
    (hd : d = .cut raw word k spells rest) :
    Scans none true rest.text rest ∧ ∀ c ∈ rest.text.head?, isWordChar c = false := by
  induction h generalizing raw with
  | nil => exact absurd hd (by simp)
  | @keep quote afterWord c t d quiet _ ih =>
    cases d with
    | last raw' => exact absurd hd (by simp [Division.grow])
    | cut raw' word' k' spells' rest' =>
      rw [Division.grow, Division.cut.injEq] at hd
      obtain ⟨-, rfl, rfl, rfl⟩ := hd
      exact ih rfl
  | @cut afterWord word' t k' d spells' found hrest ih =>
    rw [Division.cut.injEq] at hd
    obtain ⟨-, rfl, rfl, rfl⟩ := hd
    rw [hrest.text_eq]
    refine ⟨hrest, ?_⟩
    -- the keyword is found as a whole word
    have hopens := ((conjunctionAt?_eq_some_iff afterWord (word' ++ t) k').1 found).2
    exact (Conjunction.opens_word_append spells' t).1 hopens

/-- **What a split gives**, read off the division of the query. -/
theorem splitAtConjunction_of_cut {query raw word : Text} {k : Conjunction}
    {spells : word.sameLetters k.keyword = true} {rest : Division}
    (h : Scans none false query (.cut raw word k spells rest)) :
    splitAtConjunction query = (raw.trim, some (k, rest.text.trim)) := by
  have hpieces : pieces query = ⟨raw, some k⟩ :: rest.pieces := by
    rw [pieces, ← h.pieces_eq, Division.pieces]
  have hdrop : query.drop (raw.length + k.keyword.length) = rest.text := by
    rw [← h.text_eq, Division.text, ← length_of_spells spells, ← List.length_append, List.drop_left]
  rw [splitAtConjunction, hpieces]
  simp only [hdrop]

theorem splitAtConjunction_of_last {query raw : Text} (h : Scans none false query (.last raw)) :
    splitAtConjunction query = (raw.trim, none) := by
  have hpieces : pieces query = [⟨raw, none⟩] := by rw [pieces, ← h.pieces_eq, Division.pieces]
  rw [splitAtConjunction, hpieces]

theorem length_trim_le (t : Text) : t.trim.length ≤ t.length := by
  have hraw := congrArg List.length (takeWhile_append_trimStart t)
  obtain ⟨trail, htrail⟩ := exists_trimStart_eq t
  rw [htrail, List.length_append, List.length_append] at hraw
  omega

/-- The rest of a split is shorter than the query. -/
theorem length_lt_of_splitAtConjunction {query left right : Text} {k : Conjunction}
    (h : splitAtConjunction query = (left, some (k, right))) : right.length < query.length := by
  obtain ⟨d, hscan⟩ := exists_scans none false query
  cases d with
  | last raw => rw [splitAtConjunction_of_last hscan] at h; exact absurd h (by simp)
  | cut raw word k' spells rest =>
    rw [splitAtConjunction_of_cut hscan] at h
    obtain ⟨-, hright⟩ := Prod.mk.inj h
    obtain ⟨-, rfl⟩ := Prod.mk.inj (Option.some.inj hright)
    have hword := List.length_pos_of_ne_nil (ne_nil_of_spells spells)
    have htrim := length_trim_le rest.text
    rw [← hscan.text_eq, Division.text, List.length_append, List.length_append]
    omega

/-- **Splitting over and over**: the text before the first conjunction with that conjunction, then
the same for the rest, until no conjunction is left. -/
def splitRepeatedly (query : Text) : List (Text × Option Conjunction) :=
  match _ : splitAtConjunction query with
  | (left, none) => [(left, none)]
  | (left, some (k, right)) => (left, some k) :: splitRepeatedly right
termination_by query.length
decreasing_by exact length_lt_of_splitAtConjunction ‹_›

/-! ## Keywords set apart -/

/-- **Only white space that is no part of a word sets a keyword apart** from a keyword before it or
from the end of the query. -/
structure PlainlySpaced (query : Text) : Prop where
  /-- White space between two keywords ends with such a character. -/
  between : ∀ {before word blanks t : Text} {c : Char} {k k' : Conjunction},
    query = before ++ word ++ (blanks ++ c :: t) → word.sameLetters k.keyword = true →
    (∀ b ∈ blanks, isBlank b = true) → isBlank c = true → k'.opens t.trimEnd = true →
    isWordChar c = false
  /-- White space between a keyword and the end begins with such a character. -/
  atEnd : ∀ {before word blanks : Text} {c : Char} {k : Conjunction},
    query = before ++ word ++ c :: blanks → word.sameLetters k.keyword = true →
    endsInWord before = false → isBlank c = true → (∀ b ∈ blanks, isBlank b = true) →
    isWordChar c = false

/-- A query whose white space is no part of a word, as that of ASCII is, is plainly spaced. -/
theorem plainlySpaced_of_blanks {query : Text}
    (h : ∀ c ∈ query, isBlank c = true → isWordChar c = false) : PlainlySpaced query := by
  refine ⟨?_, ?_⟩
  · rintro before word blanks t c k k' rfl - - hc -
    exact h c (by simp) hc
  · rintro before word blanks c k rfl - - hc -
    exact h c (by simp) hc

/-- **What is left of a plainly spaced query is plainly spaced.** -/
theorem PlainlySpaced.rest {front t : Text} (h : PlainlySpaced (front ++ t)) :
    PlainlySpaced t.trim := by
  obtain ⟨lead, trail, hparts, -, htrail⟩ := exists_trim_parts t
  have htrimmed := isTrimmed_trim t
  obtain ⟨core, hcore⟩ : ∃ core, core = t.trim := ⟨_, rfl⟩
  rw [← hcore] at hparts htrimmed ⊢
  refine ⟨?_, ?_⟩
  · rintro before word blanks t' c k k' rfl spells hblanks hc hopens
    have hquery : front ++ t = front ++ lead ++ before ++ word ++ (blanks ++ c :: (t' ++ trail)) := by
      rw [hparts]
      simp only [List.append_assoc, List.cons_append]
    have hopens' : k'.opens (t' ++ trail).trimEnd = true := by
      rwa [trimEnd_append_of_blank htrail]
    exact h.between hquery spells hblanks hc hopens'
  · -- the rest is trimmed, so it does not end in white space
    rintro before word blanks c k rfl - - hc hblanks
    have hlast : isBlank ((c :: blanks).getLast (List.cons_ne_nil c blanks)) = true := by
      rcases List.mem_cons.1 (List.getLast_mem (List.cons_ne_nil c blanks)) with heq | hmem
      · rw [heq]; exact hc
      · exact hblanks _ hmem
    rw [htrimmed.last _ (by rw [List.getLast?_append_of_ne_nil _ (List.cons_ne_nil c blanks),
      List.getLast?_eq_some_getLast (List.cons_ne_nil c blanks)]; rfl)] at hlast
    exact absurd hlast (by decide)

section Remainder

/-! A query is cut behind `word`, and the rest is `core` between white space. -/

variable {front word lead core trail : Text} {k : Conjunction}

/-- A keyword at the head of the trimmed rest is a whole word before trimming too. -/
theorem PlainlySpaced.endsInWord_lead
    (hspaced : PlainlySpaced (front ++ word ++ (lead ++ core ++ trail)))
    (spells : word.sameLetters k.keyword = true) (hlead : ∀ c ∈ lead, isBlank c = true)
    (htrail : ∀ c ∈ trail, isBlank c = true) (hcore : core.trimEnd = core)
    (hfirst : ∀ c ∈ (lead ++ core ++ trail).head?, isWordChar c = false) {k' : Conjunction}
    (hopens : k'.opens core = true) : endsInWord (front ++ word ++ lead) = false := by
  rcases List.eq_nil_or_concat' lead with rfl | ⟨blanks, c, rfl⟩
  · -- right behind a keyword stands no letter
    obtain ⟨word', rest, rfl, spells', -⟩ := Conjunction.exists_word_of_opens hopens
    obtain ⟨c, letters, rfl⟩ := List.exists_cons_of_ne_nil (ne_nil_of_spells spells')
    have hc := (letter_of_spells spells' List.mem_cons_self).2.1
    rw [hfirst c rfl] at hc
    exact absurd hc (by decide)
  · rw [← List.append_assoc, endsInWord_append_singleton]
    have hquery : front ++ word ++ (blanks ++ [c] ++ core ++ trail) =
        front ++ word ++ (blanks ++ c :: (core ++ trail)) := by
      simp only [List.append_assoc, List.cons_append, List.nil_append]
    have hopens' : k'.opens (core ++ trail).trimEnd = true := by
      rwa [trimEnd_append_of_blank htrail, hcore]
    exact hspaced.between hquery spells (fun b hb => hlead b (List.mem_append_left _ hb))
      (hlead c (by simp)) hopens'

/-- A keyword at the end of the trimmed rest is a whole word before trimming too. -/
theorem PlainlySpaced.not_isWordChar_trail
    (hspaced : PlainlySpaced (front ++ word ++ (lead ++ core ++ trail)))
    (spells : word.sameLetters k.keyword = true) (hlead : ∀ c ∈ lead, isBlank c = true)
    (htrail : ∀ c ∈ trail, isBlank c = true) (hcore : core.trimEnd = core)
    (hfirst : ∀ c ∈ (lead ++ core ++ trail).head?, isWordChar c = false)
    {start last : Text} {k' : Conjunction} (hsplit : core = start ++ last)
    (spells' : last.sameLetters k'.keyword = true) (hstart : endsInWord start = false) :
    ∀ c ∈ trail.head?, isWordChar c = false := by
  intro c hc
  cases trail with
  | nil => exact absurd hc (by simp)
  | cons c' blanks =>
    obtain rfl : c' = c := by simpa using hc
    have hquery : front ++ word ++ (lead ++ core ++ c' :: blanks) =
        front ++ word ++ (lead ++ start) ++ last ++ c' :: blanks := by
      rw [hsplit]
      simp only [List.append_assoc]
    have hbefore : endsInWord (front ++ word ++ (lead ++ start)) = false := by
      cases start with
      | nil =>
        -- the keyword is all of the rest, so it stands at its head as well
        have hopens := (Conjunction.opens_word_append spells' []).2 (by simp)
        rw [List.append_nil] at hopens
        rw [List.nil_append] at hsplit
        rw [List.append_nil]
        exact hspaced.endsInWord_lead spells hlead htrail hcore hfirst (hsplit ▸ hopens)
      | cons b start =>
        rw [← List.append_assoc, endsInWord,
          List.getLast?_append_of_ne_nil _ (List.cons_ne_nil b start)]
        exact hstart
    exact hspaced.atEnd hquery spells' hbefore (htrail c' List.mem_cons_self)
      fun b hb => htrail b (List.mem_cons_of_mem c' hb)

end Remainder

/-- **Trimming the rest of a query leaves its pieces as they are**, up to trimming. `front` and
`word` are what stands before the rest, up to and with the keyword that was cut out. -/
theorem map_trim_pieces_trim {front word t : Text} {k : Conjunction} {d : Division}
    (spells : word.sameLetters k.keyword = true) (hspaced : PlainlySpaced (front ++ word ++ t))
    (h : Scans none true t d) (hfirst : ∀ c ∈ t.head?, isWordChar c = false) :
    (pieces t.trim).map (fun p => (p.raw.trim, p.conjunction)) =
      d.pieces.map fun p => (p.raw.trim, p.conjunction) := by
  obtain ⟨lead, trail, hparts, hlead, htrail⟩ := exists_trim_parts t
  have hcore : t.trim.trimEnd = t.trim := trimEnd_of_getLast (isTrimmed_trim t).last
  generalize t.trim = core at hparts hcore ⊢
  subst hparts
  have hafter : endsInWord (front ++ word) = true := endsInWord_append_word spells
  rw [← hafter, List.append_assoc lead] at h
  obtain ⟨d', rfl, hd'⟩ := h.exists_of_blank hlead
  -- without the leading white space the scan starts afresh
  have hscan : Scans none false (core ++ trail) d' := by
    refine hd'.forget_word fun hword => ?_
    cases hfound : conjunctionAt? false (core ++ trail) with
    | none => rfl
    | some k' =>
      have hopens := ((conjunctionAt?_eq_some_iff false _ k').1 hfound).2
      rw [hspaced.endsInWord_lead spells hlead htrail hcore hfirst
        (Conjunction.opens_of_append_blank htrail hopens)] at hword
      exact absurd hword (by decide)
  -- and the trailing white space goes to the last piece
  obtain ⟨d'', hd''⟩ := exists_scans none false core
  have hwhole : Scans none false (core ++ trail) (d''.append trail) :=
    hd''.append_blank [] rfl htrail fun start last k' hsplit spells' hstart =>
      hspaced.not_isWordChar_trail spells hlead htrail hcore hfirst hsplit spells' hstart
  have hpieces : d'.pieces = (d''.append trail).pieces := by
    rw [hscan.pieces_eq, hwhole.pieces_eq]
  rw [Division.map_trim_prepend hlead, hpieces, Division.map_trim_append htrail, pieces,
    ← hd''.pieces_eq]

/-- **Splitting over and over gives the trimmed pieces.** -/
theorem splitRepeatedly_eq_pieces {query : Text} (hspaced : PlainlySpaced query) :
    splitRepeatedly query = (pieces query).map fun p => (p.raw.trim, p.conjunction) := by
  induction hn : query.length using Nat.strongRecOn generalizing query with
  | ind n ih =>
    subst hn
    obtain ⟨d, hscan⟩ := exists_scans none false query
    rw [pieces, ← hscan.pieces_eq]
    cases d with
    | last raw =>
      rw [splitRepeatedly, splitAtConjunction_of_last hscan]
      rfl
    | cut raw word k spells rest =>
      -- the trimmed rest is split by induction, and its pieces are those behind the cut
      obtain ⟨hrest, hfirst⟩ := hscan.behind_cut rfl
      have hsplit := splitAtConjunction_of_cut hscan
      have hquery : query = raw ++ word ++ rest.text := hscan.text_eq.symm
      have hstep := ih _ (length_lt_of_splitAtConjunction hsplit) (hquery ▸ hspaced).rest rfl
      rw [splitRepeatedly, hsplit]
      simp only [hstep]
      rw [map_trim_pieces_trim spells (hquery ▸ hspaced) hrest hfirst, Division.pieces,
        List.map_cons]

/-! ## Main result -/

/-- **Splitting over and over gives the segments**, in a query in which only white space that is no
part of a word sets keywords apart; and what is split off last is the last segment. -/
theorem splitRepeatedly_eq_segments (query : Text) (hspaced : PlainlySpaced query) :
    splitRepeatedly query = (segments query).map (fun s => (s.text, s.conjunction)) ∧
      (splitRepeatedly query).getLast?.map Prod.fst = some (lastSegmentText query) := by
  have heq : splitRepeatedly query = (segments query).map fun s => (s.text, s.conjunction) := by
    rw [splitRepeatedly_eq_pieces hspaced, segments, map_segmentsFrom]
  refine ⟨heq, ?_⟩
  obtain ⟨front, last, hsegments, -, -⟩ := segments_eq_append query
  rw [heq, lastSegmentText, hsegments, List.map_append, List.map_singleton, List.getLast?_concat,
    List.getLast?_concat]
  rfl

/-- White space of ASCII sets the keywords apart, and an empty segment is split off like any other. -/
theorem splitRepeatedly_ascii :
    splitRepeatedly "'a OR b' and\t \n or ü AND" =
        (segments "'a OR b' and\t \n or ü AND").map (fun s => (s.text, s.conjunction)) ∧
      (splitRepeatedly "'a OR b' and\t \n or ü AND").getLast?.map Prod.fst =
        some (lastSegmentText "'a OR b' and\t \n or ü AND") := by
  refine splitRepeatedly_eq_segments _ (plainlySpaced_of_blanks ?_)
  have hblanks : "'a OR b' and\t \n or ü AND".toList.all (fun c => !isBlank c || !isWordChar c) =
      true := rfl
  intro c hc hblank
  simpa [hblank] using List.all_eq_true.1 hblanks c hc

/-- **Behind a no-break space, splitting over and over finds a keyword that the scan does not.** To
the scan the space is part of a word; to the split it is white space in front of the rest. -/
theorem splitRepeatedly_noBreakSpace :
    splitRepeatedly "a AND \u00a0OR b" =
        [("a".toList, some .and), ([], some .or), ("b".toList, none)] ∧
      (segments "a AND \u00a0OR b").map (fun s => (s.text, s.conjunction)) =
        [("a".toList, some .and), ("OR b".toList, none)] ∧
      lastSegmentText "a AND \u00a0OR b" = "OR b".toList := by
  refine ⟨?_, by decide, by decide⟩
  have hfirst : splitAtConjunction "a AND \u00a0OR b" =
      ("a".toList, some (.and, "OR b".toList)) := by decide
  have hsecond : splitAtConjunction "OR b" = ([], some (.or, "b".toList)) := by decide
  have hthird : splitAtConjunction "b" = ("b".toList, none) := by decide
  rw [splitRepeatedly, hfirst]
  show _ :: splitRepeatedly "OR b" = _
  rw [splitRepeatedly, hsecond]
  show _ :: _ :: splitRepeatedly "b" = _
  rw [splitRepeatedly, hthird]

end MonitorControl
