/-
The tokens of a query, by the lexical rules of PostgreSQL.

A name in double quotes ends at the first double quote that is not doubled, and a
string at the first single quote that is neither doubled nor, in a string marked
with `E`, escaped by a backslash. Words, numbers and runs of operator characters
are as long as they can be, and white space separates.

Of the rest of the rules only this much is kept: a text is refused where they would
do anything else, as with comments, other kinds of strings, operators that no query
here has, and a number that runs into a word. So the tokens of an accepted text are
those that PostgreSQL finds, and the rules above are the ones that decide. What a
server asks of a token on top of that (a name must not be empty, no character has
the code 0) is not asked here.

For writing, what counts is that every piece of a query ends where it should,
whatever stands in it: a quoted name and a quoted text are one token each, and what
comes after them is read as if nothing had come before.
-/
import MonitorControl.Proofs.Text.Blank
import MonitorControl.Proofs.Text.Utf8
import MonitorControl.Sql.Text

set_option autoImplicit false

namespace MonitorControl.Sql

/-! ## Tokens -/

/-- **A string constant.** -/
inductive StringToken where
  /-- Between single quotes, with doubled quotes undone. -/
  | plain (value : Text)
  /-- Marked with `E`, as it stands between the quotes. -/
  | escaped (body : Text)
  deriving DecidableEq, Repr

/-- **A token.** -/
inductive Token where
  /-- A word without quotes, in lower case. -/
  | word (letters : Text)
  /-- A name in double quotes, with doubled quotes undone. -/
  | name (name : Text)
  | string (s : StringToken)
  | number (numeral : Text)
  | operator (symbol : Text)
  | mark (c : Char)
  deriving DecidableEq, Repr

/-! ## Characters -/

/-- White space. -/
def isSpace (c : Char) : Bool :=
  c == ' ' || c == '\t' || c == '\n' || c == '\r' || c == '\x0b' || c == '\x0c'

/-- A word can begin with the character. -/
def opensWord (c : Char) : Bool := c.isAlpha || c == '_' || 0x80 ≤ c.toNat

/-- A word can go on with the character. -/
def isWordPart (c : Char) : Bool := opensWord c || c.isDigit || c == '$'

/-- An operator can hold the character. -/
def isOperatorChar (c : Char) : Bool := "~!@#^&|`?+-*/%<>=".toList.contains c

/-- The character is a token of its own. -/
def isMark (c : Char) : Bool := c == '(' || c == ')' || c == ',' || c == ';'

/-- What a token can be, as its first character tells. -/
inductive TokenKind where
  | name
  | string
  | word
  | number
  | mark
  | operator
  deriving DecidableEq, Repr

/-- The kind of the token that begins with a character. -/
def TokenKind.of? (c : Char) : Option TokenKind :=
  if c == '"' then some .name
  else if c == '\'' then some .string
  else if opensWord c then some .word
  else if c.isDigit then some .number
  else if isMark c then some .mark
  else if isOperatorChar c then some .operator
  else none

/-- The operators that are read. -/
def operatorSymbols : List Text := ["=", "<>", "!=", "<", ">", "<=", ">=", "*", "-"]

/-! ## Reading one token -/

/-- **The text up to a closing quote**, with doubled quotes undone, and what follows. -/
def readDoubled? (quote : Char) : Text → Option (Text × Text)
  | [] => none
  | c :: rest =>
    if c == quote then
      match rest with
      | [] => some ([], [])
      | d :: rest' =>
        if d == quote then
          (readDoubled? quote rest').map fun (value, after) => (quote :: value, after)
        else some ([], d :: rest')
    else (readDoubled? quote rest).map fun (value, after) => (c :: value, after)

/-- **The text up to a closing single quote** that no backslash escapes, as it stands, and what
follows. -/
def readEscaped? : Text → Option (Text × Text)
  | [] => none
  | c :: rest =>
    if c == '\\' then
      match rest with
      | [] => none
      | d :: rest' => (readEscaped? rest').map fun (body, after) => (c :: d :: body, after)
    else if c == '\'' then
      match rest with
      | [] => some ([], [])
      | d :: rest' =>
        if d == '\'' then (readEscaped? rest').map fun (body, after) => (c :: d :: body, after)
        else some ([], d :: rest')
    else (readEscaped? rest).map fun (body, after) => (c :: body, after)

/-- A string goes on after a line break if another one stands there. -/
def continues (after : Text) : Bool :=
  let space := after.takeWhile isSpace
  (space.contains '\n' || space.contains '\r') && (after.dropWhile isSpace).head? == some '\''

/-- A string token, if the string ends there. -/
def endString? (string : StringToken) (after : Text) : Option (Token × Text) :=
  if continues after then none else some (.string string, after)

/-- The word that begins with `c`, or the string that it marks. -/
def readWord? (c : Char) (rest : Text) : Option (Token × Text) :=
  let word := Text.fold (c :: rest.takeWhile isWordPart)
  match rest.dropWhile isWordPart with
  | [] => some (.word word, [])
  | d :: after =>
    -- right before a quote a word marks a string, and only the mark of escapes is read
    if d == '\'' then
      if word == "e".toList then (readEscaped? after).bind fun (body, after) =>
        endString? (.escaped body) after
      else none
    else if d == '"' || d == '&' then none
    else some (.word word, d :: after)

/-- The digits that begin with `c`, with a fraction if one follows. -/
def readNumeral (c : Char) (rest : Text) : Text × Text :=
  let whole := c :: rest.takeWhile Char.isDigit
  match rest.dropWhile Char.isDigit with
  | [] => (whole, [])
  | d :: more =>
    if d == '.' then (whole ++ d :: more.takeWhile Char.isDigit, more.dropWhile Char.isDigit)
    else (whole, d :: more)

/-- The number that begins with `c`, which must not run into a word or another point. -/
def readNumber? (c : Char) (rest : Text) : Option (Token × Text) :=
  let read := readNumeral c rest
  if read.2.head?.any fun d => isWordPart d || d == '.' then none
  else some (.number read.1, read.2)

/-- The run of operator characters that begins with `c`. -/
def readOperator? (c : Char) (rest : Text) : Option (Token × Text) :=
  let symbol := c :: rest.takeWhile isOperatorChar
  if operatorSymbols.contains symbol then some (.operator symbol, rest.dropWhile isOperatorChar)
  else none

/-- **The token that begins with `c`**, and what follows it. -/
def nextToken? (c : Char) (rest : Text) : Option (Token × Text) :=
  match TokenKind.of? c with
  | none => none
  | some .name => (readDoubled? '"' rest).map fun (name, after) => (.name name, after)
  | some .string =>
    (readDoubled? '\'' rest).bind fun (value, after) => endString? (.plain value) after
  | some .word => readWord? c rest
  | some .number => readNumber? c rest
  | some .mark => some (.mark c, rest)
  | some .operator => readOperator? c rest

/-! ## What follows a token is a part of the text -/

theorem suffix_of_readDoubled? {quote : Char} {t value after : Text}
    (h : readDoubled? quote t = some (value, after)) : after <:+ t := by
  fun_induction readDoubled? quote t generalizing value after with
  | case1 => cases h
  | case2 c hc =>
    cases h
    exact List.nil_suffix
  | case3 c hc d rest' hd ih =>
    obtain ⟨⟨value', after'⟩, hread, heq⟩ := Option.map_eq_some_iff.1 h
    cases heq
    exact ((ih hread).trans (List.suffix_cons d rest')).trans (List.suffix_cons c _)
  | case4 c hc d rest' hd =>
    cases h
    exact List.suffix_cons c _
  | case5 c rest hc ih =>
    obtain ⟨⟨value', after'⟩, hread, heq⟩ := Option.map_eq_some_iff.1 h
    cases heq
    exact (ih hread).trans (List.suffix_cons c rest)

theorem suffix_of_readEscaped? {t body after : Text} (h : readEscaped? t = some (body, after)) :
    after <:+ t := by
  fun_induction readEscaped? t generalizing body after with
  | case1 => cases h
  | case2 c hc => cases h
  | case3 c hc d rest' ih =>
    obtain ⟨⟨body', after'⟩, hread, heq⟩ := Option.map_eq_some_iff.1 h
    cases heq
    exact ((ih hread).trans (List.suffix_cons d rest')).trans (List.suffix_cons c _)
  | case4 c hc hquote =>
    cases h
    exact List.nil_suffix
  | case5 c hc hquote d rest' hd ih =>
    obtain ⟨⟨body', after'⟩, hread, heq⟩ := Option.map_eq_some_iff.1 h
    cases heq
    exact ((ih hread).trans (List.suffix_cons d rest')).trans (List.suffix_cons c _)
  | case6 c hc hquote d rest' hd =>
    cases h
    exact List.suffix_cons c _
  | case7 c rest hc hquote ih =>
    obtain ⟨⟨body', after'⟩, hread, heq⟩ := Option.map_eq_some_iff.1 h
    cases heq
    exact (ih hread).trans (List.suffix_cons c rest)

theorem endString?_eq_some {string : StringToken} {after after' : Text} {token : Token}
    (h : endString? string after = some (token, after')) : after' = after := by
  rw [endString?] at h
  split at h
  · cases h
  · cases h
    rfl

theorem suffix_of_readWord? {c : Char} {rest after : Text} {token : Token}
    (h : readWord? c rest = some (token, after)) : after <:+ rest := by
  have hdrop : rest.dropWhile isWordPart <:+ rest := List.dropWhile_suffix _
  rw [readWord?] at h
  split at h
  case h_1 =>
    cases h
    exact List.nil_suffix
  case h_2 d more hmore =>
    rw [hmore] at hdrop
    split at h
    case isTrue =>
      split at h
      case isTrue =>
        obtain ⟨⟨body, after'⟩, hread, hend⟩ := Option.bind_eq_some_iff.1 h
        rw [endString?_eq_some hend]
        exact ((suffix_of_readEscaped? hread).trans (List.suffix_cons d more)).trans hdrop
      case isFalse => cases h
    case isFalse =>
      split at h
      case isTrue => cases h
      case isFalse =>
        cases h
        exact hdrop

theorem suffix_of_readNumeral (c : Char) (rest : Text) : (readNumeral c rest).2 <:+ rest := by
  have hdrop : rest.dropWhile Char.isDigit <:+ rest := List.dropWhile_suffix _
  rw [readNumeral]
  split
  case h_1 => exact List.nil_suffix
  case h_2 d more hmore =>
    rw [hmore] at hdrop
    split
    case isTrue => exact ((List.dropWhile_suffix _).trans (List.suffix_cons d more)).trans hdrop
    case isFalse => exact hdrop

theorem suffix_of_nextToken? {c : Char} {rest after : Text} {token : Token}
    (h : nextToken? c rest = some (token, after)) : after <:+ rest := by
  rw [nextToken?] at h
  split at h
  case h_1 => cases h
  case h_2 =>
    obtain ⟨⟨name, after'⟩, hread, heq⟩ := Option.map_eq_some_iff.1 h
    cases heq
    exact suffix_of_readDoubled? hread
  case h_3 =>
    obtain ⟨⟨value, after'⟩, hread, hend⟩ := Option.bind_eq_some_iff.1 h
    rw [endString?_eq_some hend]
    exact suffix_of_readDoubled? hread
  case h_4 => exact suffix_of_readWord? h
  case h_5 =>
    rw [readNumber?] at h
    split at h
    · cases h
    · cases h
      exact suffix_of_readNumeral c rest
  case h_6 =>
    cases h
    exact List.suffix_rfl
  case h_7 =>
    rw [readOperator?] at h
    split at h
    · cases h
      exact List.dropWhile_suffix _
    · cases h

/-! ## Reading all tokens -/

/-- **The tokens of a text**, if it holds nothing but tokens and white space. -/
def lex? (t : Text) : Option (List Token) :=
  match t with
  | [] => some []
  | c :: rest =>
    if isSpace c then lex? rest
    else
      match _h : nextToken? c rest with
      | none => none
      | some (token, after) => (lex? after).map (token :: ·)
termination_by t.length
decreasing_by
  -- a token takes its first character at least
  · exact Nat.lt_succ_self _
  · exact Nat.lt_succ_of_le (suffix_of_nextToken? _h).length_le

theorem lex?_nil : lex? [] = some [] := by
  rw [lex?]

theorem lex?_space {c : Char} (hc : isSpace c = true) (rest : Text) : lex? (c :: rest) = lex? rest := by
  rw [lex?, if_pos hc]

theorem lex?_blank (rest : Text) : lex? (' ' :: rest) = lex? rest := lex?_space rfl rest

theorem lex?_token {c : Char} {rest after : Text} {token : Token} (hc : isSpace c = false)
    (h : nextToken? c rest = some (token, after)) :
    lex? (c :: rest) = (lex? after).map (token :: ·) := by
  rw [lex?, if_neg (by rw [hc]; exact Bool.false_ne_true)]
  split
  · rename_i hnone
    rw [hnone] at h
    cases h
  · rename_i token' after' hsome
    rw [hsome] at h
    cases h
    rfl

/-- **A mark is one token**, whatever follows it. -/
theorem lex?_mark {c : Char} (hspace : isSpace c = false) (hc : TokenKind.of? c = some .mark)
    (rest : Text) : lex? (c :: rest) = (lex? rest).map (.mark c :: ·) := by
  refine lex?_token hspace ?_
  rw [nextToken?, hc]

/-! ## Names -/

theorem readDoubled?_close {quote : Char} {rest : Text} (hrest : ∀ c ∈ rest.head?, c ≠ quote) :
    readDoubled? quote (quote :: rest) = some ([], rest) := by
  cases rest with
  | nil => simp [readDoubled?]
  | cons d rest =>
    have hd : d ≠ quote := hrest d rfl
    simp [readDoubled?, hd]

theorem readDoubled?_twice (quote : Char) (rest : Text) :
    readDoubled? quote (quote :: quote :: rest) =
      (readDoubled? quote rest).map fun (value, after) => (quote :: value, after) := by
  simp [readDoubled?]

theorem readDoubled?_other {quote c : Char} (hc : c ≠ quote) (rest : Text) :
    readDoubled? quote (c :: rest) =
      (readDoubled? quote rest).map fun (value, after) => (c :: value, after) := by
  cases rest <;> simp [readDoubled?, hc]

/-- **A text with its quotes doubled is read back up to the closing quote.** -/
theorem readDoubled?_doubled (quote : Char) (t : Text) {rest : Text}
    (hrest : ∀ c ∈ rest.head?, c ≠ quote) :
    readDoubled? quote (t.flatMap (fun c => if c == quote then [quote, quote] else [c]) ++
      quote :: rest) = some (t, rest) := by
  induction t with
  | nil => exact readDoubled?_close hrest
  | cons c t ih =>
    rw [List.flatMap_cons, List.append_assoc]
    by_cases hc : c = quote
    · subst hc
      rw [if_pos (beq_self_eq_true c), List.cons_append, List.singleton_append,
        readDoubled?_twice, ih]
      rfl
    · rw [if_neg (by rwa [beq_iff_eq]), List.singleton_append, readDoubled?_other hc, ih]
      rfl

/-- **A name in double quotes is one token**, whatever is in it. -/
theorem lex?_quoteName (name : Text) {rest : Text} (hrest : ∀ c ∈ rest.head?, c ≠ '"') :
    lex? (quoteName name ++ rest) = (lex? rest).map (.name name :: ·) := by
  rw [quoteName, List.cons_append, List.cons_append, List.append_assoc, List.singleton_append]
  refine lex?_token rfl ?_
  show (readDoubled? '"' _).map _ = _
  rw [readDoubled?_doubled '"' name hrest]
  rfl

/-! ## Strings -/

theorem readEscaped?_close {rest : Text} (hrest : ∀ c ∈ rest.head?, c ≠ '\'') :
    readEscaped? ('\'' :: rest) = some ([], rest) := by
  cases rest with
  | nil => simp [readEscaped?]
  | cons d rest =>
    have hd : d ≠ '\'' := hrest d rfl
    simp [readEscaped?, hd]

theorem readEscaped?_escape (d : Char) (rest : Text) :
    readEscaped? ('\\' :: d :: rest) =
      (readEscaped? rest).map fun (body, after) => ('\\' :: d :: body, after) := by
  simp [readEscaped?]

theorem readEscaped?_other {c : Char} (hslash : c ≠ '\\') (hquote : c ≠ '\'') (rest : Text) :
    readEscaped? (c :: rest) = (readEscaped? rest).map fun (body, after) => (c :: body, after) := by
  cases rest <;> simp [readEscaped?, hslash, hquote]

/-- A character is written as it is, unless it is a quote or a backslash or one of a few others;
then as a backslash and a letter. -/
theorem escapeChar_cases (c : Char) :
    (∃ d, escapeChar c = ['\\', d]) ∨ (escapeChar c = [c] ∧ c ≠ '\\' ∧ c ≠ '\'') := by
  unfold escapeChar
  split
  case h_10 hslash _ hquote _ _ _ _ _ _ => exact .inr ⟨rfl, hslash, hquote⟩
  all_goals exact .inl ⟨_, rfl⟩

/-- A text without a backslash, once escaped, had nothing to escape. -/
theorem flatMap_escapeChar {t : Text} (h : '\\' ∉ t.flatMap escapeChar) :
    t.flatMap escapeChar = t ∧ '\'' ∉ t := by
  induction t with
  | nil => exact ⟨rfl, List.not_mem_nil⟩
  | cons c t ih =>
    rw [List.flatMap_cons, List.mem_append, not_or] at h
    obtain ⟨ht, hquotes⟩ := ih h.2
    rcases escapeChar_cases c with ⟨d, hd⟩ | ⟨hc, -, hquote⟩
    · rw [hd] at h
      exact absurd List.mem_cons_self h.1
    · rw [List.flatMap_cons, hc, ht, List.mem_cons, not_or]
      exact ⟨rfl, hquote.symm, hquotes⟩

/-- **An escaped text is read back up to the closing quote.** -/
theorem readEscaped?_escaped (t : Text) {rest : Text} (hrest : ∀ c ∈ rest.head?, c ≠ '\'') :
    readEscaped? (t.flatMap escapeChar ++ '\'' :: rest) = some (t.flatMap escapeChar, rest) := by
  induction t with
  | nil => exact readEscaped?_close hrest
  | cons c t ih =>
    rw [List.flatMap_cons, List.append_assoc]
    rcases escapeChar_cases c with ⟨d, hd⟩ | ⟨hc, hslash, hquote⟩
    · rw [hd, List.cons_append, List.singleton_append, readEscaped?_escape, ih]
      rfl
    · rw [hc, List.singleton_append, readEscaped?_other hslash hquote, ih]
      rfl

/-- **The string that a text is written as.** -/
def StringToken.ofText (t : Text) : StringToken :=
  let escaped := t.flatMap escapeChar
  if escaped.contains '\\' then .escaped escaped else .plain escaped

theorem endString?_of_ends {after : Text} (h : continues after = false) (string : StringToken) :
    endString? string after = some (.string string, after) := by
  rw [endString?, if_neg (by rw [h]; exact Bool.false_ne_true)]

/-- A text without quotes has none to double. -/
theorem flatMap_doubled {quote : Char} {t : Text} (h : quote ∉ t) :
    t.flatMap (fun c => if c == quote then [quote, quote] else [c]) = t := by
  induction t with
  | nil => rfl
  | cons c t ih =>
    rw [List.mem_cons, not_or] at h
    have hc : ¬ (c == quote) = true := by
      rw [beq_iff_eq]
      exact fun heq => h.1 heq.symm
    rw [List.flatMap_cons, if_neg hc, ih h.2, List.singleton_append]

/-- **A text in single quotes is one token**, whatever is in it. -/
theorem lex?_quoteText (t : Text) {rest : Text} (hrest : ∀ c ∈ rest.head?, c ≠ '\'')
    (hends : continues rest = false) :
    lex? (quoteText t ++ rest) = (lex? rest).map (.string (.ofText t) :: ·) := by
  rw [quoteText, StringToken.ofText]
  by_cases hescaped : (t.flatMap escapeChar).contains '\\' = true
  · rw [if_pos hescaped, if_pos hescaped, List.cons_append, List.cons_append, List.cons_append,
      List.cons_append, List.append_assoc, List.singleton_append]
    refine lex?_token rfl ?_
    show (readEscaped? _).bind _ = _
    rw [readEscaped?_escaped t hrest, Option.bind_some]
    exact endString?_of_ends hends _
  · rw [if_neg hescaped, if_neg hescaped, List.cons_append, List.cons_append, List.append_assoc,
      List.singleton_append]
    rw [List.contains_iff_mem] at hescaped
    obtain ⟨hplain, hquotes⟩ := flatMap_escapeChar hescaped
    -- no quote is in the text, so it is as it would be with its quotes doubled
    have hread := readDoubled?_doubled '\'' t hrest
    rw [flatMap_doubled hquotes] at hread
    refine lex?_token rfl ?_
    show (readDoubled? '\'' _).bind _ = _
    rw [hplain, hread, Option.bind_some]
    exact endString?_of_ends hends _

/-! ## Values of strings -/

/-- The character that a letter after a backslash stands for. Codes, which begin with a digit or
with `x` or `u`, are not read; any other character stands for itself. -/
def unescapeLetter? (c : Char) : Option Char :=
  if c == 'b' then some '\x08'
  else if c == 'f' then some '\x0c'
  else if c == 'n' then some '\n'
  else if c == 'r' then some '\r'
  else if c == 't' then some '\t'
  else if c.isDigit || c == 'x' || c == 'u' || c == 'U' then none
  else some c

/-- The text that the body of an escaped string stands for. -/
def unescape? : Text → Option Text
  | [] => some []
  | c :: rest =>
    if c == '\\' then
      match rest with
      | [] => none
      | d :: rest' => (unescapeLetter? d).bind fun e => (unescape? rest').map (e :: ·)
    else if c == '\'' then
      match rest with
      | [] => none
      | d :: rest' => if d == '\'' then (unescape? rest').map (c :: ·) else none
    else (unescape? rest).map (c :: ·)

/-- **The value of a string.** -/
def StringToken.value? : StringToken → Option Text
  | .plain value => some value
  | .escaped body => unescape? body

/-- **A string stands for a text**: that is its value. Nothing is said of a text with one of the two
characters that have no escape, which are those of the codes 0 and 26. -/
def StringToken.StandsFor (string : StringToken) (t : Text) : Prop :=
  '\x00' ∉ t → '\x1a' ∉ t → string.value? = some t

theorem unescape?_other {c : Char} (hslash : c ≠ '\\') (hquote : c ≠ '\'') (rest : Text) :
    unescape? (c :: rest) = (unescape? rest).map (c :: ·) := by
  cases rest <;> simp [unescape?, hslash, hquote]

/-- Every character is read back, but for two that have no escape. -/
theorem unescape?_escapeChar {c : Char} (hnul : c ≠ '\x00') (hsub : c ≠ '\x1a') (rest : Text) :
    unescape? (escapeChar c ++ rest) = (unescape? rest).map (c :: ·) := by
  unfold escapeChar
  split
  case h_4 => exact absurd rfl hnul
  case h_7 => exact absurd rfl hsub
  case h_10 hslash _ hquote _ _ _ _ _ _ => exact unescape?_other hslash hquote rest
  all_goals rfl

/-- **A string stands for the text it was written for.** -/
theorem StringToken.standsFor_ofText (t : Text) : (ofText t).StandsFor t := by
  intro hnul hsub
  have hread : unescape? (t.flatMap escapeChar) = some t := by
    induction t with
    | nil => rfl
    | cons c t ih =>
      rw [List.mem_cons, not_or] at hnul hsub
      rw [List.flatMap_cons, unescape?_escapeChar (Ne.symm hnul.1) (Ne.symm hsub.1),
        ih hnul.2 hsub.2]
      rfl
  rw [ofText]
  by_cases hescaped : (t.flatMap escapeChar).contains '\\' = true
  · rw [if_pos hescaped]
    exact hread
  · rw [if_neg hescaped]
    rw [List.contains_iff_mem] at hescaped
    exact congrArg some (flatMap_escapeChar hescaped).1

/-- The character of code 26 is written as a letter that is no escape, and comes back as that
letter. -/
example : (StringToken.ofText ['\x1a']).value? = some ['z'] := rfl

/-- The string that a token is, if it is one. -/
def Token.string? : Token → Option StringToken
  | .string s => some s
  | _ => none

/-- **The strings among tokens**, in order. -/
def strings (tokens : List Token) : List StringToken := tokens.filterMap Token.string?

theorem strings_append (tokens tokens' : List Token) :
    strings (tokens ++ tokens') = strings tokens ++ strings tokens' := List.filterMap_append

/-! ## Words, operators and numbers -/

/-- **A word before a space is one token.** -/
theorem lex?_word {c : Char} {t : Text} (hspace : isSpace c = false)
    (hc : TokenKind.of? c = some .word) (ht : t.all isWordPart = true) (rest : Text) :
    lex? (c :: (t ++ ' ' :: rest)) = (lex? rest).map (.word (Text.fold (c :: t)) :: ·) := by
  have hstop : ∀ d ∈ (' ' :: rest).head?, isWordPart d = false := by
    intro d hd
    obtain rfl := Option.some.inj hd
    rfl
  obtain ⟨htake, hdrop⟩ := Text.span_append (List.all_eq_true.1 ht) hstop
  rw [← lex?_blank rest]
  refine lex?_token hspace ?_
  rw [nextToken?, hc]
  show readWord? c (t ++ ' ' :: rest) = _
  rw [readWord?, htake, hdrop]
  rfl

/-- **A comparison before a space is one token.** -/
theorem lex?_comparison (operator : Comparison) (rest : Text) :
    lex? (comparisonSymbol operator ++ ' ' :: rest) =
      (lex? rest).map (.operator (comparisonSymbol operator) :: ·) := by
  rw [← lex?_blank rest]
  cases operator <;> exact lex?_token rfl rfl

/-- **A numeral**: digits, perhaps with a fraction. -/
inductive IsNumeral : Text → Prop where
  | whole {c : Char} {t : Text} (hc : c.isDigit = true) (ht : ∀ d ∈ t, d.isDigit = true) :
    IsNumeral (c :: t)
  | fraction {c : Char} {t u : Text} (hc : c.isDigit = true) (ht : ∀ d ∈ t, d.isDigit = true)
    (hu : ∀ d ∈ u, d.isDigit = true) : IsNumeral (c :: (t ++ '.' :: u))

theorem IsNumeral.head {t : Text} (ht : IsNumeral t) : ∃ c t', t = c :: t' ∧ c.isDigit = true := by
  cases ht with
  | whole hc => exact ⟨_, _, rfl, hc⟩
  | fraction hc => exact ⟨_, _, rfl, hc⟩

theorem lt_of_isDigit {c : Char} (h : c.isDigit = true) : c.toNat < 0x80 := by
  rw [Char.isDigit, Bool.and_eq_true, decide_eq_true_eq, decide_eq_true_eq] at h
  have hnat : c.toNat ≤ '9'.toNat := UInt32.le_iff_toNat_le.1 h.2
  have hnine : '9'.toNat < 0x80 := by decide
  omega

theorem of?_of_isDigit {c : Char} (h : c.isDigit = true) :
    isSpace c = false ∧ TokenKind.of? c = some .number :=
  Text.ascii_cases
    (P := fun c => c.isDigit = true → isSpace c = false ∧ TokenKind.of? c = some .number)
    (by decide) (lt_of_isDigit h) h

theorem isOperatorChar_of_isDigit {c : Char} (h : c.isDigit = true) : isOperatorChar c = false :=
  Text.ascii_cases (P := fun c => c.isDigit = true → isOperatorChar c = false) (by decide)
    (lt_of_isDigit h) h

theorem isDigit_of_not_isWordPart {c : Char} (h : isWordPart c = false) : c.isDigit = false := by
  rw [isWordPart, Bool.or_eq_false_iff, Bool.or_eq_false_iff] at h
  exact h.1.2

theorem readNumeral_of_isNumeral {c : Char} {t rest : Text} (h : IsNumeral (c :: t))
    (hrest : ∀ d ∈ rest.head?, isWordPart d = false ∧ d ≠ '.') :
    readNumeral c (t ++ rest) = (c :: t, rest) := by
  have hstop : ∀ d ∈ rest.head?, d.isDigit = false := fun d hd =>
    isDigit_of_not_isWordPart (hrest d hd).1
  cases h with
  | whole hc ht =>
    -- without a fraction the numeral ends at a character that is no point either
    obtain ⟨htake, hdrop⟩ := Text.span_append ht hstop
    rw [readNumeral, htake, hdrop]
    cases rest with
    | nil => rfl
    | cons d more =>
      have hd : ¬ (d == '.') = true := by
        rw [beq_iff_eq]
        exact (hrest d rfl).2
      exact if_neg hd
  | @fraction _ t u hc ht hu =>
    have hpoint : ∀ d ∈ ('.' :: (u ++ rest)).head?, d.isDigit = false := by
      intro d hd
      obtain rfl := Option.some.inj hd
      rfl
    obtain ⟨htake, hdrop⟩ := Text.span_append ht hpoint
    obtain ⟨htake', hdrop'⟩ := Text.span_append hu hstop
    rw [List.append_assoc, List.cons_append, readNumeral, htake, hdrop]
    show (c :: t ++ '.' :: (u ++ rest).takeWhile Char.isDigit, (u ++ rest).dropWhile Char.isDigit) = _
    rw [htake', hdrop']
    rfl

/-- **A number is one token** if no word and no point follows it. -/
theorem lex?_numeral {t rest : Text} (ht : IsNumeral t)
    (hrest : ∀ d ∈ rest.head?, isWordPart d = false ∧ d ≠ '.') :
    lex? (t ++ rest) = (lex? rest).map (.number t :: ·) := by
  obtain ⟨c, t', rfl, hc⟩ := ht.head
  obtain ⟨hspace, hkind⟩ := of?_of_isDigit hc
  refine lex?_token hspace ?_
  rw [nextToken?, hkind]
  show readNumber? c (t' ++ rest) = _
  rw [readNumber?, readNumeral_of_isNumeral ht hrest]
  refine if_neg ?_
  cases rest with
  | nil => exact Bool.false_ne_true
  | cons d more =>
    have hd := hrest d rfl
    simp [hd.1, hd.2]

end MonitorControl.Sql
