/-
Where a query is cut.

The scan works on characters and starts afresh after every keyword. What it finds
is said here in bytes and once for the whole query: a place is a cut when one scan
of all bytes before it leaves no quotation mark open, the bytes at it spell a
keyword, and neither neighbour of the keyword can be part of a word (`IsCut`).

The two meet in one invariant of the derivation of a scan. Before every step the
open quotation mark is the one that the bytes so far leave open, and the kind of
the character before is the kind of the last byte. A character that is kept holds
no cut, neither at its first byte, since the scan would have seen it, nor at a
later one, since the bytes inside a character spell nothing; and no cut lies
inside a keyword that was cut out, since a letter stands before it.
-/
import MonitorControl.Proofs.Query.Scan
import MonitorControl.Proofs.Text.Blank
import Mathlib.Data.List.Induction

set_option autoImplicit false

namespace MonitorControl

open Text

/-! ## The cuts of a string of bytes -/

/-- A byte that may be part of a word: a letter, a digit, `_`, or any byte outside ASCII. -/
def isWordByte (b : UInt8) : Bool :=
  (0x30 ≤ b && b ≤ 0x39) || (0x41 ≤ b && b ≤ 0x5A) || (0x61 ≤ b && b ≤ 0x7A) || b == 0x5F ||
    0x80 ≤ b

/-- The open quotation mark after one more byte: outside quotes either mark opens, and inside only
the same mark closes. -/
def quoteStep (quote : Option UInt8) (b : UInt8) : Option UInt8 :=
  match quote with
  | some q => if b == q then none else some q
  | none => if b == 0x27 || b == 0x22 then some b else none

/-- The quotation mark that one scan from the first byte on leaves open before byte `p`. -/
def openQuote (bs : List UInt8) (p : Nat) : Option UInt8 := (bs.take p).foldl quoteStep none

/-- **A cut**: at byte `p`, outside quotes, stands a keyword in any case, and neither the byte
before it nor the one after it, where there is one, is part of a word. -/
structure IsCut (bs : List UInt8) (p : Nat) (k : Conjunction) : Prop where
  outside : openQuote bs p = none
  spelled : ((bs.drop p).take k.keyword.length).map lowerByte = (bytes k.keyword).map lowerByte
  before : ∀ b ∈ (bs.take p).getLast?, isWordByte b = false
  after : ∀ b ∈ (bs.drop (p + k.keyword.length)).head?, isWordByte b = false

/-! ## Characters and their bytes -/

/-- Every byte of a character is of the kind of the character. -/
theorem isWordByte_of_mem_charBytes {c : Char} {b : UInt8} (hb : b ∈ charBytes c) :
    isWordByte b = isWordChar c := by
  rcases Nat.lt_or_ge c.toNat 0x80 with hascii | habove
  · rw [charBytes_of_ascii hascii, List.mem_singleton] at hb
    subst hb
    exact ascii_cases (P := fun c => isWordByte c.toNat.toUInt8 = isWordChar c) (by decide) hascii
  · have hbyte : 0x80 ≤ b := UInt8.le_iff_toNat_le.2 (le_of_mem_charBytes habove hb)
    rw [isWordByte, isWordChar, decide_eq_true hbyte, decide_eq_true habove, Bool.or_true,
      Bool.or_true]

/-- An open quotation mark as a byte. -/
def quoteByte (quote : Option Char) : Option UInt8 := quote.map fun q => q.toNat.toUInt8

theorem isQuote_of_mem_quoteAfter {quote : Option Char} (hquote : ∀ q ∈ quote, isQuote q = true)
    (c : Char) : ∀ q ∈ quoteAfter quote c, isQuote q = true := by
  intro q hq
  cases quote with
  | some q' =>
    rw [quoteAfter] at hq
    split at hq
    · exact absurd hq (by simp)
    · exact hquote q hq
  | none =>
    rw [quoteAfter] at hq
    split at hq
    · next hc =>
      obtain rfl : c = q := Option.some.inj hq
      exact hc
    · exact absurd hq (by simp)

/-- Bytes outside ASCII neither open nor close a quotation. -/
theorem foldl_quoteStep_above {quote : Option Char} (hquote : ∀ q ∈ quote, isQuote q = true)
    {bs : List UInt8} (hbs : ∀ b ∈ bs, 0x80 ≤ b.toNat) :
    bs.foldl quoteStep (quoteByte quote) = quoteByte quote := by
  induction bs with
  | nil => rfl
  | cons b bs ih =>
    have hb : 0x80 ≤ b.toNat := hbs b List.mem_cons_self
    have hmark : ∀ m : UInt8, m.toNat < 0x80 → (b == m) = false := by
      intro m hm
      rw [beq_eq_false_iff_ne]
      rintro rfl
      omega
    have hstep : quoteStep (quoteByte quote) b = quoteByte quote := by
      cases quote with
      | none =>
        show (if b == 0x27 || b == 0x22 then some b else none) = none
        rw [hmark 0x27 (by decide), hmark 0x22 (by decide)]
        rfl
      | some q =>
        have hq : q.toNat.toUInt8.toNat < 0x80 := by
          rcases (isQuote_iff q).1 (hquote q rfl) with rfl | rfl <;> decide
        show (if b == q.toNat.toUInt8 then none else some q.toNat.toUInt8) = some q.toNat.toUInt8
        rw [hmark _ hq]
        rfl
    rw [List.foldl_cons, hstep, ih fun b hb => hbs b (List.mem_cons_of_mem _ hb)]

theorem foldl_quoteStep_charBytes {quote : Option Char} (hquote : ∀ q ∈ quote, isQuote q = true)
    (c : Char) :
    (charBytes c).foldl quoteStep (quoteByte quote) = quoteByte (quoteAfter quote c) := by
  rcases Nat.lt_or_ge c.toNat 0x80 with hascii | habove
  · rw [charBytes_of_ascii hascii, List.foldl_cons, List.foldl_nil]
    cases quote with
    | none =>
      exact ascii_cases (P := fun c =>
        quoteStep (quoteByte none) c.toNat.toUInt8 = quoteByte (quoteAfter none c))
        (by decide) hascii
    | some q =>
      rcases (isQuote_iff q).1 (hquote q rfl) with rfl | rfl
      · exact ascii_cases (P := fun c =>
          quoteStep (quoteByte (some '\'')) c.toNat.toUInt8 = quoteByte (quoteAfter (some '\'') c))
          (by decide) hascii
      · exact ascii_cases (P := fun c =>
          quoteStep (quoteByte (some '"')) c.toNat.toUInt8 = quoteByte (quoteAfter (some '"') c))
          (by decide) hascii
  · have hmark : ∀ q : Char, isQuote q = true → (c == q) = false := by
      intro q hq
      rw [beq_eq_false_iff_ne]
      rintro rfl
      rcases (isQuote_iff c).1 hq with rfl | rfl <;> exact absurd habove (by decide)
    have hkeep : quoteAfter quote c = quote := by
      cases quote with
      | none =>
        have hc : isQuote c = false := by
          rw [isQuote, hmark '\'' (by decide), hmark '"' (by decide), Bool.or_false]
        rw [quoteAfter, hc]
        rfl
      | some q =>
        rw [quoteAfter, hmark q (hquote q rfl)]
        rfl
    rw [hkeep]
    exact foldl_quoteStep_above hquote fun b hb => le_of_mem_charBytes habove hb

/-! ## The state of a scan, on characters and on bytes -/

/-- The quotation mark that a text leaves open. -/
def quoteAt (before : Text) : Option Char := before.foldl quoteAfter none

/-- The last character of a text may be part of a word. -/
def endsInWord (before : Text) : Bool := before.getLast?.any isWordChar

theorem quoteAt_append_singleton (before : Text) (c : Char) :
    quoteAt (before ++ [c]) = quoteAfter (quoteAt before) c := by
  rw [quoteAt, List.foldl_append]
  rfl

theorem endsInWord_append_singleton (before : Text) (c : Char) :
    endsInWord (before ++ [c]) = isWordChar c := by
  rw [endsInWord, List.getLast?_concat]
  rfl

theorem isQuote_of_mem_quoteAt (before : Text) : ∀ q ∈ quoteAt before, isQuote q = true := by
  induction before using List.reverseRecOn with
  | nil => exact fun q hq => absurd hq (by simp [quoteAt])
  | append_singleton before c ih =>
    rw [quoteAt_append_singleton]
    exact isQuote_of_mem_quoteAfter ih c

theorem foldl_quoteStep_bytes (before : Text) :
    (bytes before).foldl quoteStep none = quoteByte (quoteAt before) := by
  induction before using List.reverseRecOn with
  | nil => rfl
  | append_singleton before c ih =>
    rw [bytes_append, List.foldl_append, ih, quoteAt_append_singleton, bytes_cons, bytes_nil,
      List.append_nil, foldl_quoteStep_charBytes (isQuote_of_mem_quoteAt before)]

/-- No written keyword opens a quotation. -/
theorem quoteAt_append_word {before word : Text} {k : Conjunction}
    (spells : word.sameLetters k.keyword = true) (hbefore : quoteAt before = none) :
    quoteAt (before ++ word) = none := by
  have hletters : ∀ c ∈ word, isQuote c = false := fun c hc => (letter_of_spells spells hc).2.2
  rw [quoteAt, List.foldl_append]
  show word.foldl quoteAfter (quoteAt before) = none
  rw [hbefore]
  clear hbefore spells
  induction word with
  | nil => rfl
  | cons c word ih =>
    rw [List.foldl_cons, quoteAfter, if_neg (by rw [hletters c List.mem_cons_self]; decide)]
    exact ih fun d hd => hletters d (List.mem_cons_of_mem c hd)

theorem endsInWord_append_word {before word : Text} {k : Conjunction}
    (spells : word.sameLetters k.keyword = true) : endsInWord (before ++ word) = true := by
  have hne := ne_nil_of_spells spells
  rw [endsInWord, List.getLast?_append_of_ne_nil before hne, List.getLast?_eq_some_getLast hne]
  exact (letter_of_spells spells (List.getLast_mem hne)).2.1

/-! ## One place -/

/-- The last byte is part of a word exactly if the last character is. -/
theorem getLast_bytes_iff (before : Text) :
    (∀ b ∈ (bytes before).getLast?, isWordByte b = false) ↔ endsInWord before = false := by
  rcases List.eq_nil_or_concat' before with rfl | ⟨before, c, rfl⟩
  · exact ⟨fun _ => rfl, fun _ b hb => absurd hb (by simp)⟩
  · have hne := charBytes_ne_nil c
    rw [endsInWord_append_singleton, bytes_append, bytes_cons, bytes_nil, List.append_nil,
      List.getLast?_append_of_ne_nil _ hne, List.getLast?_eq_some_getLast hne]
    have hlast := isWordByte_of_mem_charBytes (List.getLast_mem hne)
    constructor
    · intro h
      rw [← hlast]
      exact h _ rfl
    · rintro h b ⟨⟩
      rw [hlast, h]

/-- The first byte is part of a word exactly if the first character is. -/
theorem head_bytes_iff (t : Text) :
    (∀ b ∈ (bytes t).head?, isWordByte b = false) ↔
      (match t with
        | [] => true
        | c :: _ => !isWordChar c) = true := by
  cases t with
  | nil => exact ⟨fun _ => rfl, fun _ b hb => absurd hb (by simp)⟩
  | cons c t =>
    obtain ⟨b, bs, hbytes⟩ := List.exists_cons_of_ne_nil (charBytes_ne_nil c)
    have hfirst : isWordByte b = isWordChar c :=
      isWordByte_of_mem_charBytes (hbytes ▸ List.mem_cons_self)
    simp only [bytes_cons, hbytes, List.cons_append, List.head?_cons, Option.mem_some_iff,
      Bool.not_eq_true', forall_eq', hfirst]

theorem length_bytes_keyword (k : Conjunction) :
    (bytes k.keyword).length = k.keyword.length := by
  cases k <;> rfl

/-- A keyword opens a text exactly if the bytes of the text spell it and no byte of a word
follows. -/
theorem opens_iff (t : Text) (k : Conjunction) :
    k.opens t = true ↔
      ((bytes t).take k.keyword.length).map lowerByte = (bytes k.keyword).map lowerByte ∧
        ∀ b ∈ ((bytes t).drop k.keyword.length).head?, isWordByte b = false := by
  rw [Conjunction.opens, Bool.and_eq_true, startsWith_iff_bytes, length_bytes_keyword]
  refine and_congr_right fun hspelled => ?_
  -- the keyword is as long in bytes as in characters, so both drops leave the same text
  have hstarts : t.startsWith k.keyword = true := by
    rw [startsWith_iff_bytes, length_bytes_keyword, hspelled]
  have hbytes : (bytes t).drop k.keyword.length = bytes (t.drop k.keyword.length) := by
    have hword : (bytes (t.take k.keyword.length)).length = k.keyword.length := by
      rw [length_bytes, byteLength_of_ascii fun c hc => (letter_of_spells hstarts hc).1,
        length_of_spells hstarts]
    conv_lhs => rw [← List.take_append_drop k.keyword.length t, bytes_append]
    exact List.drop_left' hword
  rw [hbytes]
  exact (head_bytes_iff _).symm

/-- **At the beginning of a character, a cut is what the scan finds there.** -/
theorem isCut_iff (before t : Text) (k : Conjunction) :
    IsCut (bytes (before ++ t)) (byteLength before) k ↔
      quoteAt before = none ∧ conjunctionAt? (endsInWord before) t = some k := by
  have htake : (bytes (before ++ t)).take (byteLength before) = bytes before := by
    rw [bytes_append, ← length_bytes before, List.take_left]
  have hdrop : (bytes (before ++ t)).drop (byteLength before) = bytes t := by
    rw [bytes_append, ← length_bytes before, List.drop_left]
  have hquote : openQuote (bytes (before ++ t)) (byteLength before) = none ↔
      quoteAt before = none := by
    rw [openQuote, htake, foldl_quoteStep_bytes, quoteByte, Option.map_eq_none_iff]
  rw [conjunctionAt?_eq_some_iff, ← getLast_bytes_iff, opens_iff, ← hquote, ← htake, ← hdrop,
    List.drop_drop]
  constructor
  · rintro ⟨houtside, hspelled, hbefore, hafter⟩
    exact ⟨houtside, hbefore, hspelled, hafter⟩
  · rintro ⟨houtside, hbefore, hspelled, hafter⟩
    exact ⟨houtside, hspelled, hbefore, hafter⟩

/-- A cut stands at a byte of ASCII. -/
theorem IsCut.exists_head {bs : List UInt8} {p : Nat} {k : Conjunction} (h : IsCut bs p k) :
    ∃ b rest, bs.drop p = b :: rest ∧ b.toNat < 0x80 := by
  have hspelled := h.spelled
  cases hbs : bs.drop p with
  | nil =>
    rw [hbs] at hspelled
    cases k <;> exact absurd hspelled (by decide)
  | cons b rest =>
    refine ⟨b, rest, rfl, Nat.lt_of_not_le fun habove => ?_⟩
    have hfirst : lowerByte b ∈ (bytes k.keyword).map lowerByte := by
      rw [← hspelled, hbs]
      cases k <;> exact List.mem_cons_self
    rw [lowerByte_of_not_ascii habove] at hfirst
    have hascii : ((bytes k.keyword).map lowerByte).all (·.toNat < 0x80) = true := by
      cases k <;> decide
    exact absurd (of_decide_eq_true (List.all_eq_true.1 hascii b hfirst)) (Nat.not_lt.2 habove)

/-- **No cut lies inside a character.** -/
theorem not_isCut_within (before : Text) (c : Char) (t : Text) {p : Nat} (k : Conjunction)
    (hlow : byteLength before < p) (hhigh : p < byteLength before + c.utf8Size) :
    ¬ IsCut (bytes (before ++ c :: t)) p k := by
  intro h
  obtain ⟨b, rest, hdrop, hb⟩ := h.exists_head
  have hsplit : (bytes (before ++ c :: t)).drop p =
      (charBytes c).drop (p - byteLength before) ++ bytes t := by
    rw [bytes_append, bytes_cons, List.drop_append, length_bytes,
      List.drop_eq_nil_of_le (by rw [length_bytes]; omega), List.nil_append,
      List.drop_append_of_le_length (by rw [length_charBytes]; omega)]
  have hmem : b ∈ charBytes c := by
    have hne : (charBytes c).drop (p - byteLength before) ≠ [] := by
      rw [ne_eq, List.drop_eq_nil_iff, length_charBytes]
      omega
    obtain ⟨b', rest', hcons⟩ := List.exists_cons_of_ne_nil hne
    rw [hsplit, hcons, List.cons_append] at hdrop
    obtain ⟨rfl, -⟩ := List.cons.inj hdrop
    exact List.mem_of_mem_drop (hcons ▸ List.mem_cons_self)
  rcases Nat.lt_or_ge c.toNat 0x80 with hascii | habove
  · rw [utf8Size_of_ascii hascii] at hhigh
    omega
  · exact absurd hb (Nat.not_lt.2 (le_of_mem_charBytes habove hmem))

/-- **No cut lies inside a keyword.** A letter of it stands before every such place. -/
theorem not_isCut_within_word (before : Text) {word : Text} (t : Text) {p : Nat}
    {k : Conjunction} (spells : word.sameLetters k.keyword = true) (k' : Conjunction)
    (hlow : byteLength before < p) (hhigh : p < byteLength before + byteLength word) :
    ¬ IsCut (bytes (before ++ (word ++ t))) p k' := by
  intro h
  have hsplit : (bytes (before ++ (word ++ t))).take p =
      bytes before ++ (bytes word).take (p - byteLength before) := by
    rw [bytes_append, bytes_append, List.take_append, length_bytes,
      List.take_of_length_le (by rw [length_bytes]; omega),
      List.take_append_of_le_length (by rw [length_bytes]; omega)]
  have hne : (bytes word).take (p - byteLength before) ≠ [] := by
    rw [← List.length_pos_iff, List.length_take, length_bytes]
    omega
  have hlast := h.before ((bytes word).take (p - byteLength before) |>.getLast hne) (by
    rw [hsplit, List.getLast?_append_of_ne_nil _ hne, List.getLast?_eq_some_getLast hne]
    exact rfl)
  obtain ⟨c, hc, hb⟩ := List.mem_flatMap.1 (List.mem_of_mem_take (List.getLast_mem hne))
  rw [isWordByte_of_mem_charBytes hb, (letter_of_spells spells hc).2.1] at hlast
  exact absurd hlast (by decide)

/-! ## All cuts -/

/-- The cuts of a division of which the first character stands at byte `start`. -/
def Division.cutsFrom (start : Nat) : Division → List (Nat × Conjunction)
  | .last _ => []
  | .cut raw word k _ rest =>
    (start + byteLength raw, k) ::
      rest.cutsFrom (start + byteLength raw + byteLength word)

theorem Division.cutsFrom_grow (start : Nat) (c : Char) (d : Division) :
    (d.grow c).cutsFrom start = d.cutsFrom (start + c.utf8Size) := by
  cases d with
  | last raw => rfl
  | cut raw word k spells rest =>
    rw [grow, cutsFrom, cutsFrom, byteLength_cons, ← Nat.add_assoc start c.utf8Size]

/-- **The cuts of a scan are the cuts of the bytes**, from the place on at which the scan begins. -/
theorem Scans.mem_cutsFrom_iff {quote : Option Char} {afterWord : Bool} {t : Text} {d : Division}
    (h : Scans quote afterWord t d) (before : Text) (hquote : quoteAt before = quote)
    (hword : endsInWord before = afterWord) (p : Nat) (k : Conjunction) :
    (p, k) ∈ d.cutsFrom (byteLength before) ↔
      byteLength before ≤ p ∧ IsCut (bytes (before ++ t)) p k := by
  induction h generalizing before with
  | nil quote afterWord =>
    constructor
    · intro hmem
      exact absurd hmem List.not_mem_nil
    · rintro ⟨hle, hcut⟩
      obtain ⟨b, rest, hdrop, -⟩ := hcut.exists_head
      rw [List.append_nil, List.drop_eq_nil_of_le (by rw [length_bytes]; exact hle)] at hdrop
      exact absurd hdrop.symm (List.cons_ne_nil b rest)
  | @keep quote afterWord c t d quiet _ ih =>
    have hstep := ih (before ++ [c]) (by rw [quoteAt_append_singleton, hquote])
      (endsInWord_append_singleton before c)
    rw [byteLength_append, byteLength_cons, byteLength_nil, Nat.add_zero, List.append_assoc,
      List.singleton_append] at hstep
    rw [Division.cutsFrom_grow, hstep]
    refine ⟨fun ⟨hle, hcut⟩ => ⟨by omega, hcut⟩, fun ⟨hle, hcut⟩ => ⟨?_, hcut⟩⟩
    -- a cut before the next character would be at this one or inside it
    by_contra hlt
    rcases Nat.eq_or_lt_of_le hle with rfl | hlow
    · obtain ⟨houtside, hfound⟩ := (isCut_iff before (c :: t) k).1 hcut
      rw [hword, quiet (hquote ▸ houtside)] at hfound
      exact absurd hfound.symm (Option.some_ne_none k)
    · exact not_isCut_within before c t k hlow (Nat.lt_of_not_le hlt) hcut
  | @cut afterWord word t k' d spells found _ ih =>
    have hstep := ih (before ++ word) (quoteAt_append_word spells hquote)
      (endsInWord_append_word spells)
    rw [byteLength_append, List.append_assoc] at hstep
    rw [Division.cutsFrom, byteLength_nil, Nat.add_zero, List.mem_cons, hstep, Prod.mk.injEq]
    have hhere : ∀ k, IsCut (bytes (before ++ (word ++ t))) (byteLength before) k ↔ k = k' := by
      intro k
      rw [isCut_iff, hword, found, Option.some.injEq, eq_comm (a := k')]
      exact and_iff_right hquote
    constructor
    · rintro (⟨rfl, rfl⟩ | ⟨hle, hcut⟩)
      · exact ⟨Nat.le_refl _, (hhere k).2 rfl⟩
      · exact ⟨by omega, hcut⟩
    · rintro ⟨hle, hcut⟩
      rcases Nat.eq_or_lt_of_le hle with rfl | hlow
      · exact .inl ⟨rfl, (hhere k).1 hcut⟩
      · refine .inr ⟨Nat.le_of_not_lt fun hhigh => ?_, hcut⟩
        exact not_isCut_within_word before t spells k hlow hhigh hcut

end MonitorControl
