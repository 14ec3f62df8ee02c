/-
Text as the library sees it: a list of characters.

Every rule below (keywords, prefixes, trimming, quoting) is stated one character
at a time, so the list is the natural form; a `String` literal is read as the
list of its characters. Lengths that an answer shows are counted in the bytes of
the UTF-8 form (`MonitorControl.Text.Utf8`), never in characters.
-/

set_option autoImplicit false

namespace MonitorControl

/-- **Text** is a list of characters. -/
abbrev Text := List Char

/-- A literal stands for its characters. -/
instance : Coe String Text := ⟨String.toList⟩

namespace Text

/-! ## Joining and quoting -/

/-- The parts in order with `separator` between neighbours. -/
def join (separator : Text) (parts : List Text) : Text :=
  (parts.intersperse separator).flatten

/-- The text between two straight double quotes, with no escaping. -/
def inDoubleQuotes (t : Text) : Text := '"' :: t ++ ['"']

/-! ## Splitting -/

/-- The text before and after the first `separator`, if there is one. -/
def splitFirst? (separator : Char) : Text → Option (Text × Text)
  | [] => none
  | c :: rest =>
    if c == separator then some ([], rest)
    else (splitFirst? separator rest).map fun (before, after) => (c :: before, after)

/-- The pieces between separators; one piece if there is no separator. -/
def splitAll (separator : Char) : Text → List Text
  | [] => [[]]
  | c :: rest =>
    if c == separator then [] :: splitAll separator rest
    else
      match splitAll separator rest with
      | piece :: pieces => (c :: piece) :: pieces
      | [] => [[c]]

/-! ## Small facts -/

@[simp] theorem join_nil (separator : Text) : join separator [] = [] := rfl

@[simp] theorem join_singleton (separator t : Text) : join separator [t] = t := by
  simp [join]

theorem join_cons_cons (separator t u : Text) (rest : List Text) :
    join separator (t :: u :: rest) = t ++ separator ++ join separator (u :: rest) := by
  simp [join]

end Text

end MonitorControl
