/-
White space, and the two operations that depend on it: trimming a text and
cutting it into words.

The class is the Unicode property White_Space: twenty-five characters, among
them the no-break space and the ideographic space, but neither the zero-width
space nor the byte order mark.
-/
import MonitorControl.Text.Basic

set_option autoImplicit false

namespace MonitorControl.Text

/-! ## The class -/

/-- **White space** is the Unicode property White_Space. -/
def isBlank (c : Char) : Bool :=
  ('\x09' ≤ c && c ≤ '\x0d') || c == ' ' || c == '\x85' || c == '\xa0' || c == '\u1680' ||
    ('\u2000' ≤ c && c ≤ '\u200a') || c == '\u2028' || c == '\u2029' || c == '\u202f' ||
    c == '\u205f' || c == '\u3000'

/-! ## Trimming -/

/-- The text without the white space at its start. -/
def trimStart (t : Text) : Text := t.dropWhile isBlank

/-- The text without the white space at its end. -/
def trimEnd (t : Text) : Text := (t.reverse.dropWhile isBlank).reverse

/-- **Trimming** takes the white space off both ends. -/
def trim (t : Text) : Text := trimEnd (trimStart t)

/-- The text without the characters of class `p` at both ends. -/
def trimWhile (p : Char → Bool) (t : Text) : Text :=
  ((t.dropWhile p).reverse.dropWhile p).reverse

@[simp] theorem trim_nil : trim [] = [] := rfl

/-! ## Words -/

/-- **Words** are the longest runs of characters that are not white space, in order. -/
def words : Text → List Text
  | [] => []
  | c :: rest =>
    if isBlank c then words rest
    else
      match rest, words rest with
      | d :: _, w :: ws => if isBlank d then [c] :: w :: ws else (c :: w) :: ws
      | _, ws => [c] :: ws

end MonitorControl.Text
