/-
What a remote shell makes of the text it is told.

A shell reads its text one character at a time, and what it does with a character depends
on the quotation it is in and on the token that it is reading. The rules here are those
for tokens of a POSIX shell. Of the rest only this much is kept: a text is refused where a
shell would replace a part of it, run another command for it or read on behind it, as with
a dollar sign or a backquote that no single quotes protect and with documents that follow
a command. In a word that was read, the characters that stood in quotes are marked, since
no others can mean anything but themselves.

A quoted text that a shell comes to between two tokens or in the middle of one adds its
characters to that token, all of them marked, and leaves the shell outside quotation marks
(`run_shellQuote`). So a script has the tokens it was made of, whatever the line and the
path say, and it writes the line to the path.
-/
import MonitorControl.Delivery.CommandFile

set_option autoImplicit false

namespace MonitorControl

open Text

/-! ## Tokens -/

/-- A character of a word, and whether it stood in quotes or behind a backslash. -/
structure ShellChar where
  char : Char
  quoted : Bool
  deriving DecidableEq, Repr

/-- **A word** as it was read, without its quotation marks. -/
abbrev ShellWord := List ShellChar

/-- **A token.** -/
inductive ShellToken where
  | word (w : ShellWord)
  /-- Digits right before a redirection. -/
  | number (digits : Text)
  | operator (symbol : Text)
  deriving DecidableEq, Repr

namespace ShellWord

/-- The word for a text outside quotes. -/
def bare (t : Text) : ShellWord := t.map (⟨·, false⟩)

/-- The word for a text in quotes. -/
def quoted (t : Text) : ShellWord := t.map (⟨·, true⟩)

/-- The word without its marks. -/
def text (w : ShellWord) : Text := w.map ShellChar.char

/-- A character that means itself outside quotes too, wherever it stands in a word. All others may
stand for a home directory, for names of files, for a list or for an assignment. -/
def isPlain (c : Char) : Bool := c.isAlphanum || "_./-:,+@%".toList.contains c

/-- **The value of a word** in which nothing is expanded. -/
def value? (w : ShellWord) : Option Text :=
  if w.all fun x => x.quoted || isPlain x.char then some w.text else none

theorem quoted_append (t u : Text) : quoted (t ++ u) = quoted t ++ quoted u := List.map_append

/-- **Nothing in quotes is expanded.** -/
theorem value?_quoted (t : Text) : (quoted t).value? = some t := by
  have hall : (quoted t).all (fun x => x.quoted || isPlain x.char) = true := by
    simp [quoted]
  have htext : (quoted t).text = t := by
    simp [quoted, text, Function.comp_def]
  rw [value?, if_pos hall, htext]

end ShellWord

/-! ## Reading -/

/-- How the next character is to be taken. -/
inductive ShellQuoting where
  | bare
  /-- Behind a backslash. -/
  | escaped
  | single
  | double
  /-- Behind a backslash in double quotes. -/
  | doubleEscaped
  | comment
  deriving DecidableEq, Repr

/-- The token that is being read. -/
inductive ShellPending where
  | nothing
  /-- Digits outside quotes and nothing else, so far. -/
  | number (digits : Text)
  | word (w : ShellWord)
  | operator (symbol : Text)
  deriving DecidableEq, Repr

/-- **Where a shell is** in its text: how it takes the next character, the token that is not
finished, and the tokens before it. -/
structure ShellState where
  quoting : ShellQuoting := .bare
  pending : ShellPending := .nothing
  tokens : List ShellToken := []
  deriving DecidableEq, Repr

/-- The characters that operators are made of. -/
def isShellOperator (c : Char) : Bool := "&|;<>()".toList.contains c

/-- The operators of more than one character. -/
def longOperators : List Text := ["&&", "||", ";;", ">>", "<&", ">&", "<>", ">|"]

namespace ShellState

/-- The token that is being read ends. -/
def close (s : ShellState) : ShellState :=
  match s.pending with
  | .nothing => s
  | .number digits =>
    { s with pending := .nothing, tokens := s.tokens ++ [.word (ShellWord.bare digits)] }
  | .word w => { s with pending := .nothing, tokens := s.tokens ++ [.word w] }
  | .operator symbol => { s with pending := .nothing, tokens := s.tokens ++ [.operator symbol] }

/-- The word that is being read, or a new one, goes on with some characters. -/
def extend (s : ShellState) (w : ShellWord) : ShellState :=
  match s.pending with
  | .number digits => { s with pending := .word (ShellWord.bare digits ++ w) }
  | .word front => { s with pending := .word (front ++ w) }
  | _ => { s.close with pending := .word w }

/-- A digit outside quotes. -/
def digit (s : ShellState) (c : Char) : ShellState :=
  match s.pending with
  | .number digits => { s with pending := .number (digits ++ [c]) }
  | .word _ => s.extend [⟨c, false⟩]
  | _ => { s.close with pending := .number [c] }

/-- An operator goes on or begins. A document that follows the command is refused. -/
def operator (s : ShellState) (c : Char) : Option ShellState :=
  match s.pending with
  | .operator symbol =>
    if symbol ++ [c] = "<<".toList then none
    else if symbol ++ [c] ∈ longOperators then some { s with pending := .operator (symbol ++ [c]) }
    else some { s.close with pending := .operator [c] }
  | .number digits =>
    if c == '<' || c == '>' then
      some { s with pending := .operator [c], tokens := s.tokens ++ [.number digits] }
    else some { s.close with pending := .operator [c] }
  | _ => some { s.close with pending := .operator [c] }

/-- A word is being read. -/
def inWord (s : ShellState) : Bool :=
  match s.pending with
  | .number _ | .word _ => true
  | _ => false

/-- A character outside quotes. -/
def bareStep (s : ShellState) (c : Char) : Option ShellState :=
  if c == '$' || c == '\x60' then none
  else if c == '\'' then some { s.extend [] with quoting := .single }
  else if c == '"' then some { s.extend [] with quoting := .double }
  else if c == '\\' then some { s with quoting := .escaped }
  else if c == ' ' || c == '\t' then some s.close
  else if c == '\n' then some { s.close with tokens := s.close.tokens ++ [.operator [c]] }
  else if isShellOperator c then s.operator c
  else if c.isDigit then some (s.digit c)
  else if c == '#' && !s.inWord then some { s.close with quoting := .comment }
  else some (s.extend [⟨c, false⟩])

/-- **One character.** A line break behind a backslash is no part of the text. -/
def step (s : ShellState) (c : Char) : Option ShellState :=
  match s.quoting with
  | .bare => s.bareStep c
  | .escaped =>
    if c == '\n' then some { s with quoting := .bare }
    else some { s.extend [⟨c, true⟩] with quoting := .bare }
  | .single =>
    if c == '\'' then some { s with quoting := .bare } else some (s.extend [⟨c, true⟩])
  | .double =>
    if c == '$' || c == '\x60' then none
    else if c == '"' then some { s with quoting := .bare }
    else if c == '\\' then some { s with quoting := .doubleEscaped }
    else some (s.extend [⟨c, true⟩])
  | .doubleEscaped =>
    if c == '\n' then some { s with quoting := .double }
    else if "$\x60\"\\".toList.contains c then some { s.extend [⟨c, true⟩] with quoting := .double }
    else some { s.extend [⟨'\\', true⟩, ⟨c, true⟩] with quoting := .double }
  | .comment =>
    if c == '\n' then
      some { s with quoting := .bare, tokens := s.tokens ++ [.operator [c]] }
    else some s

/-- The characters of a text, one after the other. -/
def run (s : ShellState) (t : Text) : Option ShellState := t.foldlM step s

/-- The tokens at the end of the text; none if quotes are still open there. -/
def finish? (s : ShellState) : Option (List ShellToken) :=
  match s.quoting with
  | .bare | .comment => some s.close.tokens
  | _ => none

end ShellState

/-- **The tokens of a text.** -/
def shellTokens? (t : Text) : Option (List ShellToken) :=
  (ShellState.run {} t).bind ShellState.finish?

/-- A text in all kinds of quotes is one word, and a number belongs to the redirection behind it. -/
example : shellTokens? "a\"b 'c'\"\\ d 2>&1;e # f" =
    some [.word (ShellWord.bare "a" ++ ShellWord.quoted "b 'c' " ++ ShellWord.bare "d"),
      .number "2", .operator ">&", .word (ShellWord.bare "1"), .operator ";",
      .word (ShellWord.bare "e")] := by
  decide

/-! ## Simple commands -/

/-- **A simple command**: its words, and the file that its output goes to. -/
structure SimpleCommand where
  words : List Text := []
  output : Option Text := none
  deriving DecidableEq, Repr

namespace SimpleCommand

/-- The command that some tokens are, if they are one command with at most one redirection, and
nothing in it is expanded. -/
def ofTokens? : List ShellToken → Option SimpleCommand
  | [] => some {}
  | .word w :: rest =>
    match w.value?, ofTokens? rest with
    | some value, some command => some { command with words := value :: command.words }
    | _, _ => none
  | .operator symbol :: .word w :: rest =>
    match w.value?, ofTokens? rest with
    | some path, some { words, output := none } =>
      if symbol = ">".toList then some { words, output := some path } else none
    | _, _ => none
  | _ => none

section

variable {w : ShellWord} {value : Text} {rest : List ShellToken} {command : SimpleCommand}

theorem ofTokens?_word (hw : w.value? = some value) (hrest : ofTokens? rest = some command) :
    ofTokens? (.word w :: rest) = some { command with words := value :: command.words } := by
  rw [ofTokens?, hw, hrest]

theorem ofTokens?_output (hw : w.value? = some value) (hrest : ofTokens? rest = some command)
    (hnone : command.output = none) :
    ofTokens? (.operator ">" :: .word w :: rest) = some { command with output := some value } := by
  obtain ⟨words, output⟩ := command
  obtain rfl : output = none := hnone
  rw [ofTokens?, hw, hrest]
  exact if_pos rfl

end

/-- **What a command writes**, and to which file, if it is an `echo` with its output redirected.
What an `echo` makes of its operands is a matter of the shell. -/
def written? (echo : List Text → Text) (command : SimpleCommand) : Option (Text × Text) :=
  match command with
  | { words := word :: operands, output := some path } =>
    if word = "echo".toList then some (path, echo operands) else none
  | _ => none

end SimpleCommand

/-- What a shell with a certain `echo` writes for a text, and to which file. -/
def shellWrites? (echo : List Text → Text) (t : Text) : Option (Text × Text) :=
  (shellTokens? t).bind fun tokens =>
    (SimpleCommand.ofTokens? tokens).bind (SimpleCommand.written? echo)

/-! ## Quoted texts -/

namespace ShellState

@[simp] theorem run_nil (s : ShellState) : s.run [] = some s := rfl

theorem run_cons (s : ShellState) (c : Char) (t : Text) :
    s.run (c :: t) = (s.step c).bind (·.run t) := rfl

theorem run_append (s : ShellState) (t u : Text) : s.run (t ++ u) = (s.run t).bind (·.run u) :=
  List.foldlM_append

variable (tokens : List ShellToken) (w : ShellWord)

/-- **A character inside single quotes** adds itself to the word, marked. A quotation mark leaves
the quotes, is read behind a backslash and enters them again. -/
theorem run_shellQuoteChar (c : Char) :
    run ⟨.single, .word w, tokens⟩ (shellQuoteChar c) =
      some ⟨.single, .word (w ++ ShellWord.quoted [c]), tokens⟩ := by
  by_cases hc : (c == '\'') = true
  · rw [shellQuoteChar, if_pos hc, eq_of_beq hc]
    simp [run, step, bareStep, extend, ShellWord.quoted]
  · rw [shellQuoteChar, if_neg hc, run_cons, step, if_neg hc]
    rfl

/-- A text inside single quotes, character by character. -/
theorem run_flatMap_shellQuoteChar (t : Text) :
    run ⟨.single, .word w, tokens⟩ (t.flatMap shellQuoteChar) =
      some ⟨.single, .word (w ++ ShellWord.quoted t), tokens⟩ := by
  induction t generalizing w with
  | nil => simp [ShellWord.quoted]
  | cons c t ih =>
    have hquoted : ShellWord.quoted (c :: t) = ShellWord.quoted [c] ++ ShellWord.quoted t := rfl
    rw [List.flatMap_cons, run_append, run_shellQuoteChar, Option.bind_some, ih, hquoted,
      List.append_assoc]

/-- **A quoted text goes on with the word that is being read, or is a new one**, with all its
characters marked. -/
theorem run_shellQuote {s : ShellState} (hbare : s.quoting = .bare) (t : Text) :
    s.run (shellQuote t) = some (s.extend (ShellWord.quoted t)) := by
  obtain ⟨quoting, pending, tokens⟩ := s
  obtain rfl : quoting = .bare := hbare
  obtain ⟨tokens', w, hopen, hclose⟩ : ∃ tokens' w,
      (⟨.bare, pending, tokens⟩ : ShellState).extend [] = ⟨.bare, .word w, tokens'⟩ ∧
        (⟨.bare, pending, tokens⟩ : ShellState).extend (ShellWord.quoted t) =
          ⟨.bare, .word (w ++ ShellWord.quoted t), tokens'⟩ := by
    cases pending with
    | nothing => exact ⟨tokens, [], rfl, rfl⟩
    | number digits => exact ⟨tokens, ShellWord.bare digits, by simp [extend], rfl⟩
    | word w => exact ⟨tokens, w, by simp [extend], rfl⟩
    | operator symbol => exact ⟨tokens ++ [.operator symbol], [], rfl, rfl⟩
  have henter : (⟨.bare, pending, tokens⟩ : ShellState).step '\'' =
      some ⟨.single, .word w, tokens'⟩ := by
    simp [step, bareStep, hopen]
  rw [shellQuote, inSingleQuotes, List.cons_append, run_cons, henter, Option.bind_some, run_append,
    run_flatMap_shellQuoteChar, hclose]
  rfl

end ShellState

/-! ## Scripts -/

namespace RemoteCommandFile

/-- The tokens that a script is made of. -/
def scriptTokens (file : RemoteCommandFile) (line : Text) : List ShellToken :=
  [.word (ShellWord.bare "echo"), .word (ShellWord.quoted line), .operator ">",
    .word (ShellWord.quoted file.path)]

/-- **The tokens of a script are those that it is made of.** -/
theorem shellTokens?_script (file : RemoteCommandFile) (line : Text) :
    shellTokens? (file.script line) = some (file.scriptTokens line) := by
  have hecho : ShellState.run {} "echo ".toList =
      some ⟨.bare, .nothing, [.word (ShellWord.bare "echo")]⟩ := by
    decide
  have hquote : ∀ (tokens : List ShellToken) (t : Text),
      ShellState.run ⟨.bare, .nothing, tokens⟩ (shellQuote t) =
        some ⟨.bare, .word (ShellWord.quoted t), tokens⟩ := fun _ => ShellState.run_shellQuote rfl
  -- the space ends the word, and the space after the operator ends that
  have hredirect : ∀ (tokens : List ShellToken) (w : ShellWord),
      ShellState.run ⟨.bare, .word w, tokens⟩ " > ".toList =
        some ⟨.bare, .nothing, tokens ++ [.word w] ++ [.operator ">"]⟩ := fun _ _ => rfl
  have hline : ShellState.run {} ("echo ".toList ++ shellQuote line) =
      some ⟨.bare, .word (ShellWord.quoted line), [.word (ShellWord.bare "echo")]⟩ := by
    rw [ShellState.run_append, hecho]
    exact hquote _ line
  have harrow : ShellState.run {} ("echo ".toList ++ shellQuote line ++ " > ".toList) =
      some ⟨.bare, .nothing, [.word (ShellWord.bare "echo"), .word (ShellWord.quoted line),
        .operator ">"]⟩ := by
    rw [ShellState.run_append, hline]
    exact hredirect _ _
  have hpath : ShellState.run {} (file.script line) =
      some ⟨.bare, .word (ShellWord.quoted file.path), [.word (ShellWord.bare "echo"),
        .word (ShellWord.quoted line), .operator ">"]⟩ := by
    unfold script
    rw [ShellState.run_append, harrow]
    exact hquote _ file.path
  rw [shellTokens?, hpath]
  rfl

/-- **A script is one command**: an `echo` with one operand, whose output goes to the path. -/
theorem ofTokens?_scriptTokens (file : RemoteCommandFile) (line : Text) :
    SimpleCommand.ofTokens? (file.scriptTokens line) =
      some { words := ["echo", line], output := some file.path } := by
  have hecho : (ShellWord.bare "echo").value? = some "echo".toList := by decide
  have hend : SimpleCommand.ofTokens? [] = some {} := rfl
  have hredirect := SimpleCommand.ofTokens?_output (ShellWord.value?_quoted file.path) hend rfl
  exact SimpleCommand.ofTokens?_word hecho
    (SimpleCommand.ofTokens?_word (ShellWord.value?_quoted line) hredirect)

/-- **Nothing in a line or a path is more than text to a remote shell.** The last argument is read as
the word `echo`, one word for the line, an arrow and one word for the path, and in the two words for
the line and the path all characters stand in quotes. So the shell writes the line to the path, with
the line break that it adds, and these are the bytes that a command file on this host is given. -/
theorem shell_reads_script (file : RemoteCommandFile) (line : Text) :
    ∃ (script : Text) (echo operand path : ShellWord),
      (file.shellArguments line).getLast? = some script ∧
      shellTokens? script =
        some [.word echo, .word operand, .operator ">", .word path] ∧
      echo.value? = some "echo".toList ∧ operand.value? = some line ∧
      path.value? = some file.path ∧ (∀ x ∈ operand ++ path, x.quoted = true) ∧
      ∀ echo : List Text → Text, (∀ word, echo [word] = word ++ ['\n']) →
        shellWrites? echo script = some (file.path, line ++ ['\n']) ∧
        ∀ (message : Text) (time : Int), line = fileLine message time →
          ∀ (m : Type → Type) [Monad m] (outlets : Outlets m) (name : Text) (bound : Option Text),
            CommandFile.writeLine { name, path := file.path, bound } outlets message time = (do
              return (← outlets.append file.path (line ++ ['\n'])).mapError .unwritable) := by
  refine ⟨file.script line, ShellWord.bare "echo", ShellWord.quoted line,
    ShellWord.quoted file.path, rfl, file.shellTokens?_script line, by decide,
    ShellWord.value?_quoted line, ShellWord.value?_quoted file.path, ?_, ?_⟩
  · intro x hx
    rw [← ShellWord.quoted_append] at hx
    obtain ⟨c, -, rfl⟩ := List.mem_map.1 hx
    rfl
  · intro echo hecho
    constructor
    · simp only [shellWrites?, shellTokens?_script, Option.bind_some, ofTokens?_scriptTokens]
      rw [SimpleCommand.written?, if_pos rfl, hecho]
    · rintro message time rfl m _ outlets name bound
      rfl

/-- A comment with all that a shell knows, for a path with a quotation mark. -/
theorem shell_reads_script_comment :
    let echo := fun words : List Text => join " ".toList words ++ ['\n']
    let file : RemoteCommandFile := { name := "remote", host := "mon1", path := "/run/it's.cmd" }
    ∃ script : Text,
      (file.shellArguments "[5] it's; rm -r ~ & $HOME `x` > y # z").getLast? = some script ∧
        shellWrites? echo script =
          some ("/run/it's.cmd".toList, "[5] it's; rm -r ~ & $HOME `x` > y # z\n".toList) := by
  intro echo file
  obtain ⟨script, -, -, -, hlast, -, -, -, -, -, hwrites⟩ :=
    file.shell_reads_script "[5] it's; rm -r ~ & $HOME `x` > y # z"
  have hecho : ∀ word, echo [word] = word ++ ['\n'] := fun word => by simp [echo]
  exact ⟨script, hlast, (hwrites echo hecho).1⟩

end RemoteCommandFile

end MonitorControl
