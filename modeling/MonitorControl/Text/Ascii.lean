/-
Comparison of texts up to the case of ASCII letters.

The filter language ignores case for the letters A to Z and for nothing else.
Folding changes single characters and keeps their number, so a match is always a
match of whole characters, and what follows a matched head is the text after as
many characters as the head has.
-/
import MonitorControl.Text.Blank

set_option autoImplicit false

namespace MonitorControl.Text

/-! ## Folding -/

/-- The text with the letters A to Z in lower case. -/
def fold (t : Text) : Text := t.map Char.toLower

/-- The text with the letters a to z in upper case. -/
def capitals (t : Text) : Text := t.map Char.toUpper

/-- Equality up to the case of ASCII letters. -/
def sameLetters (a b : Text) : Bool := fold a == fold b

@[simp] theorem length_fold (t : Text) : (fold t).length = t.length := by simp [fold]

@[simp] theorem fold_append (a b : Text) : fold (a ++ b) = fold a ++ fold b := by simp [fold]

/-! ## Heads -/

/-- **`startsWith t head`**: `t` begins with `head`, up to the case of ASCII letters. -/
def startsWith (t head : Text) : Bool := sameLetters (t.take head.length) head

/-- What follows `head` in `t`, trimmed, if `t` starts with `head`. -/
def afterHead? (t head : Text) : Option Text :=
  if startsWith t head then some (trim (t.drop head.length)) else none

@[simp] theorem startsWith_nil (t : Text) : startsWith t [] = true := by
  simp [startsWith, sameLetters]

theorem startsWith_iff (t head : Text) :
    startsWith t head = true ↔ fold head <+: fold t := by
  rw [List.prefix_iff_eq_take, length_fold, eq_comm (a := fold head)]
  simp [startsWith, sameLetters, fold, List.map_take]

theorem afterHead?_isSome (t head : Text) : (afterHead? t head).isSome = startsWith t head := by
  unfold afterHead?; split <;> simp_all

end MonitorControl.Text
