/-
Reading JSON.

The text is cut into tokens, and a stack of the arrays and objects that are still
open takes them one by one. The grammar is the strict one: no comments, no commas
before a closing bracket, nothing after the value but blanks.
-/
import MonitorControl.Json.Syntax
import MonitorControl.Text.Hex

set_option autoImplicit false

namespace MonitorControl

/-! ## Tokens -/

/-- **A token.** -/
inductive JsonToken where
  | openArray
  | closeArray
  | openObject
  | closeObject
  | comma
  | colon
  | null
  | bool (b : Bool)
  | number (literal : NumberLiteral)
  | string (parts : List StringPart)
  deriving DecidableEq, Repr

/-- Blanks between tokens. -/
def isJsonBlank (c : Char) : Bool := c == ' ' || c == '\t' || c == '\n' || c == '\r'

/-- The character that a backslash and a letter or mark stand for. -/
def escapedChar? : Char → Option Char
  | '"' => some '"'
  | '\\' => some '\\'
  | '/' => some '/'
  | 'b' => some '\x08'
  | 'f' => some '\x0c'
  | 'n' => some '\n'
  | 'r' => some '\r'
  | 't' => some '\t'
  | _ => none

/-- The parts of a string up to its closing quote, and what follows that. -/
def scanString? : Text → Option (List StringPart × Text)
  | [] => none
  | '"' :: rest => some ([], rest)
  | '\\' :: 'u' :: a :: b :: c :: d :: rest => do
    let unit ← Text.readHex? [a, b, c, d]
    let (parts, after) ← scanString? rest
    return (.codeUnit unit :: parts, after)
  | '\\' :: c :: rest => do
    let escaped ← escapedChar? c
    let (parts, after) ← scanString? rest
    return (.character escaped :: parts, after)
  | c :: rest =>
    if c.toNat < 0x20 then none
    else do
      let (parts, after) ← scanString? rest
      return (.character c :: parts, after)

/-- The digits at the start of a text, and what follows them. -/
def scanDigits (t : Text) : Text × Text := (t.takeWhile Char.isDigit, t.dropWhile Char.isDigit)

/-- The whole part of a number: a zero, or digits that start with another. -/
def scanWhole? : Text → Option (Text × Text)
  | '0' :: rest => some (['0'], rest)
  | c :: rest => if c.isDigit then some (scanDigits (c :: rest)) else none
  | [] => none

/-- The digits after a point, if there is one. -/
def scanFraction? : Text → Option (Text × Text)
  | '.' :: rest =>
    let (digits, after) := scanDigits rest
    if digits.isEmpty then none else some (digits, after)
  | t => some ([], t)

/-- A sign, and whether it is a minus. -/
def scanSign : Text → Bool × Text
  | '-' :: rest => (true, rest)
  | '+' :: rest => (false, rest)
  | t => (false, t)

/-- The exponent, if there is one. -/
def scanExponent? : Text → Option (Option (Bool × Text) × Text)
  | [] => some (none, [])
  | c :: rest =>
    if c == 'e' || c == 'E' then
      let (negative, t) := scanSign rest
      let (digits, after) := scanDigits t
      if digits.isEmpty then none else some (some (negative, digits), after)
    else some (none, c :: rest)

/-- A number without its sign. -/
def scanNumber? (negative : Bool) (t : Text) : Option (NumberLiteral × Text) := do
  let (whole, t) ← scanWhole? t
  let (fraction, t) ← scanFraction? t
  let (exponent, t) ← scanExponent? t
  return (⟨negative, whole, fraction, exponent⟩, t)

/-- **The first token** of a text that does not start with a blank, and what follows it. -/
def scanToken? : Text → Option (JsonToken × Text)
  | '[' :: rest => some (.openArray, rest)
  | ']' :: rest => some (.closeArray, rest)
  | '{' :: rest => some (.openObject, rest)
  | '}' :: rest => some (.closeObject, rest)
  | ',' :: rest => some (.comma, rest)
  | ':' :: rest => some (.colon, rest)
  | 'n' :: 'u' :: 'l' :: 'l' :: rest => some (.null, rest)
  | 't' :: 'r' :: 'u' :: 'e' :: rest => some (.bool true, rest)
  | 'f' :: 'a' :: 'l' :: 's' :: 'e' :: rest => some (.bool false, rest)
  | '"' :: rest => (scanString? rest).map fun (parts, after) => (.string parts, after)
  | '-' :: rest => (scanNumber? true rest).map fun (literal, after) => (.number literal, after)
  | t => (scanNumber? false t).map fun (literal, after) => (.number literal, after)

/-! ## Every token takes some text -/

theorem length_scanDigits_le (t : Text) : (scanDigits t).2.length ≤ t.length :=
  (List.dropWhile_suffix _).length_le

theorem length_scanSign_le (t : Text) : (scanSign t).2.length ≤ t.length := by
  unfold scanSign
  split <;> simp

theorem length_of_scanString? {t : Text} {parts : List StringPart} {after : Text}
    (h : scanString? t = some (parts, after)) : after.length < t.length := by
  fun_induction scanString? t generalizing parts after with
  | case1 => simp at h
  | case2 rest => simp_all
  | case3 a b c d rest ih =>
    simp only [Option.bind_eq_bind, Option.bind_eq_some_iff] at h
    obtain ⟨_, _, ⟨p, q⟩, hp, h⟩ := h
    have := ih hp
    cases h
    simp only [List.length_cons]
    omega
  | case4 c rest _ ih =>
    simp only [Option.bind_eq_bind, Option.bind_eq_some_iff] at h
    obtain ⟨_, _, ⟨p, q⟩, hp, h⟩ := h
    have := ih hp
    cases h
    simp only [List.length_cons]
    omega
  | case5 => simp at h
  | case6 c rest _ _ _ _ ih =>
    simp only [Option.bind_eq_bind, Option.bind_eq_some_iff] at h
    obtain ⟨⟨p, q⟩, hp, h⟩ := h
    have := ih hp
    cases h
    simp only [List.length_cons]
    omega

theorem length_of_scanWhole? {t digits after : Text} (h : scanWhole? t = some (digits, after)) :
    after.length < t.length := by
  unfold scanWhole? at h
  split at h
  · simp_all
  · next c rest _ =>
    split at h
    · next hc =>
      have := length_scanDigits_le rest
      simp only [scanDigits, List.takeWhile_cons_of_pos hc, List.dropWhile_cons_of_pos hc] at h this
      cases h
      simp only [List.length_cons]
      omega
    · simp at h
  · simp at h

theorem length_of_scanFraction? {t digits after : Text}
    (h : scanFraction? t = some (digits, after)) : after.length ≤ t.length := by
  unfold scanFraction? at h
  split at h
  · next rest =>
    have := length_scanDigits_le rest
    grind
  · simp_all

theorem length_of_scanExponent? {t : Text} {exponent : Option (Bool × Text)} {after : Text}
    (h : scanExponent? t = some (exponent, after)) : after.length ≤ t.length := by
  unfold scanExponent? at h
  split at h
  · simp_all
  · next c rest =>
    have := length_scanSign_le rest
    have := length_scanDigits_le (scanSign rest).2
    grind

theorem length_of_scanNumber? {negative : Bool} {t : Text} {literal : NumberLiteral} {after : Text}
    (h : scanNumber? negative t = some (literal, after)) : after.length < t.length := by
  simp only [scanNumber?, Option.bind_eq_bind, Option.bind_eq_some_iff] at h
  obtain ⟨⟨whole, t₁⟩, h₁, ⟨fraction, t₂⟩, h₂, ⟨exponent, t₃⟩, h₃, h⟩ := h
  cases h
  calc t₃.length ≤ t₂.length := length_of_scanExponent? h₃
    _ ≤ t₁.length := length_of_scanFraction? h₂
    _ < t.length := length_of_scanWhole? h₁

theorem length_of_scanToken? {t : Text} {token : JsonToken} {after : Text}
    (h : scanToken? t = some (token, after)) : after.length < t.length := by
  unfold scanToken? at h
  split at h
  case h_10 rest =>
    obtain ⟨⟨p, q⟩, hp, h⟩ := Option.map_eq_some_iff.1 h
    have := length_of_scanString? hp
    cases h
    simp only [List.length_cons]
    omega
  case h_11 rest =>
    obtain ⟨⟨p, q⟩, hp, h⟩ := Option.map_eq_some_iff.1 h
    have := length_of_scanNumber? hp
    cases h
    simp only [List.length_cons]
    omega
  case h_12 =>
    obtain ⟨⟨p, q⟩, hp, h⟩ := Option.map_eq_some_iff.1 h
    have := length_of_scanNumber? hp
    cases h
    omega
  all_goals grind

/-- **The tokens of a text**, with any blanks between them. -/
def tokens? (t : Text) : Option (List JsonToken) :=
  match _h : t.dropWhile isJsonBlank with
  | [] => some []
  | c :: rest =>
    match _hs : scanToken? (c :: rest) with
    | none => none
    | some (token, after) => (tokens? after).map (token :: ·)
termination_by t.length
decreasing_by
  have := length_of_scanToken? _hs
  have := (List.dropWhile_suffix (l := t) isJsonBlank).length_le
  simp_all
  omega

/-! ## Values -/

/-- **An array or an object that is still open.** What it holds so far comes latest first. -/
inductive OpenJson where
  | array (items : List JsonSyntax)
  /-- `key` waits for its value. -/
  | object (entries : List (List StringPart × JsonSyntax)) (key : List StringPart)

/-- **Where a reader stands**, with the arrays and objects around it, innermost first. -/
inductive JsonPlace where
  /-- A value must follow. -/
  | beforeValue (around : List OpenJson)
  /-- An array has begun: its first item or its end must follow. -/
  | inArray (around : List OpenJson)
  /-- A key must follow, or the end of the object if it has just begun. -/
  | beforeKey (entries : List (List StringPart × JsonSyntax)) (around : List OpenJson)
      (begun : Bool)
  /-- A colon must follow. -/
  | afterKey (entries : List (List StringPart × JsonSyntax)) (key : List StringPart)
      (around : List OpenJson)
  /-- A value has ended. -/
  | afterValue (value : JsonSyntax) (around : List OpenJson)

namespace JsonPlace

/-- A token where a value may begin. -/
def begin? (around : List OpenJson) : JsonToken → Option JsonPlace
  | .null => some (.afterValue .null around)
  | .bool b => some (.afterValue (.bool b) around)
  | .number literal => some (.afterValue (.number literal) around)
  | .string parts => some (.afterValue (.string parts) around)
  | .openArray => some (.inArray around)
  | .openObject => some (.beforeKey [] around true)
  | _ => none

/-- **The place after a token**, if the token may stand there. -/
def next? : JsonPlace → JsonToken → Option JsonPlace
  | .beforeValue around, token => begin? around token
  | .inArray around, .closeArray => some (.afterValue (.array []) around)
  | .inArray around, token => begin? (.array [] :: around) token
  | .beforeKey entries around _, .string key => some (.afterKey entries key around)
  | .beforeKey _ around true, .closeObject => some (.afterValue (.object []) around)
  | .afterKey entries key around, .colon => some (.beforeValue (.object entries key :: around))
  | .afterValue value (.array items :: around), .comma =>
    some (.beforeValue (.array (value :: items) :: around))
  | .afterValue value (.array items :: around), .closeArray =>
    some (.afterValue (.array (value :: items).reverse) around)
  | .afterValue value (.object entries key :: around), .comma =>
    some (.beforeKey ((key, value) :: entries) around false)
  | .afterValue value (.object entries key :: around), .closeObject =>
    some (.afterValue (.object ((key, value) :: entries).reverse) around)
  | _, _ => none

end JsonPlace

/-- **The value that a text is**, with nothing around it but blanks. -/
def JsonSyntax.read? (t : Text) : Option JsonSyntax := do
  match ← (← tokens? t).foldlM JsonPlace.next? (.beforeValue []) with
  | .afterValue value [] => some value
  | _ => none

/-- **The meaning of a text.** -/
def Json.read? (t : Text) : Option Json := do
  (← JsonSyntax.read? t).value? JsonSyntax.nestingLimit

end MonitorControl
