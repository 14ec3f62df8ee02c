/-
What a run of commands leaves in a command file.

An instance takes every line of its command file for a command, so a line break that came
from a host, an author or a comment would be a command that nobody sent. Framing escapes
line breaks wherever they come from (`isLineBreak_of_mem_fileLine`), and a framed line is
written with one line break behind it. One send therefore adds one line or leaves the
file as it is (`sending_writes`), and a run adds the lines of the sends that succeeded, in
order (`run_appends_lines`). A command without a line is refused before the file is
touched.
-/
import MonitorControl.Proofs.Delivery.Appending
import MonitorControl.Delivery.CommandFile
import Mathlib.Data.List.Forall2

set_option autoImplicit false

namespace MonitorControl

/-! ## Framing -/

/-- **A character that ends a line.** -/
def isLineBreak (c : Char) : Bool := c == '\r' || c == '\n'

/-- No digit ends a line. -/
theorem isLineBreak_of_isDigit {c : Char} (h : c.isDigit = true) : isLineBreak c = false := by
  cases hbreak : isLineBreak c with
  | false => rfl
  | true =>
    rcases Bool.or_eq_true_iff.1 hbreak with hr | hn
    · rw [eq_of_beq hr] at h
      exact absurd h (by decide)
    · rw [eq_of_beq hn] at h
      exact absurd h (by decide)

/-- Numbers are written on one line. -/
theorem isLineBreak_of_mem_ofInt {c : Char} {n : Int} (h : c ∈ Text.ofInt n) :
    isLineBreak c = false := by
  have hdigits : c ∈ Text.ofNat n.natAbs → isLineBreak c = false := by
    intro hmem
    apply isLineBreak_of_isDigit
    exact Nat.isDigit_of_mem_toDigits (by decide) (by decide) hmem
  unfold Text.ofInt at h
  by_cases hneg : n < 0
  · rw [if_pos hneg] at h
    rcases List.mem_cons.1 h with hminus | hmem
    · rw [hminus]
      rfl
    · exact hdigits hmem
  · rw [if_neg hneg] at h
    exact hdigits h

/-- What a character is escaped to is on one line. -/
theorem isLineBreak_of_mem_escapeLineBreak {c d : Char} (h : c ∈ escapeLineBreak d) :
    isLineBreak c = false := by
  unfold escapeLineBreak at h
  by_cases hr : (d == '\r') = true
  · rw [if_pos hr, List.mem_pair] at h
    rcases h with hc | hc
    · rw [hc]
      rfl
    · rw [hc]
      rfl
  · rw [if_neg hr] at h
    by_cases hn : (d == '\n') = true
    · rw [if_pos hn, List.mem_pair] at h
      rcases h with hc | hc
      · rw [hc]
        rfl
      · rw [hc]
        rfl
    · -- what is left as it is was neither of the two
      rw [if_neg hn, List.mem_singleton] at h
      rw [h, isLineBreak, eq_false_of_ne_true hr, eq_false_of_ne_true hn]
      rfl

/-- **A framed line is one line**, whatever was framed. -/
theorem isLineBreak_of_mem_fileLine {c : Char} {line : Text} {now : Int}
    (h : c ∈ fileLine line now) : isLineBreak c = false := by
  unfold fileLine at h
  rw [List.cons_append, List.cons_append, List.mem_cons, List.mem_append, List.mem_append] at h
  rcases h with hopen | (htime | hclose) | hline
  · rw [hopen]
    rfl
  · exact isLineBreak_of_mem_ofInt htime
  · rcases List.mem_pair.1 hclose with hc | hc
    · rw [hc]
      rfl
    · rw [hc]
      rfl
  · obtain ⟨d, -, hd⟩ := List.mem_flatMap.1 hline
    exact isLineBreak_of_mem_escapeLineBreak hd

/-- **Written lines are counted by line breaks**, if there is none inside a line. -/
theorem count_lineBreak {lines : List Text} (h : ∀ line ∈ lines, '\n' ∉ line) :
    (lines.flatMap (· ++ ['\n'])).count '\n' = lines.length := by
  induction lines with
  | nil => rfl
  | cons line lines ih =>
    have hline : line.count '\n' = 0 := List.count_eq_zero.2 (h line List.mem_cons_self)
    have hlines : (lines.flatMap (· ++ ['\n'])).count '\n' = lines.length :=
      ih fun other hother => h other (List.mem_cons_of_mem line hother)
    rw [List.flatMap_cons, List.count_append, List.count_append, hline, hlines, List.length_cons,
      List.count_singleton_self]
    omega

/-! ## One command -/

variable {σ : Type}

/-- **What became of a command** that was to be sent at a time. -/
structure Sending where
  command : Command
  target : Target
  time : Int
  outcome : Except TransportError Unit

namespace Sending

/-- **The line of a sending** in a command file. -/
def IsLine (sending : Sending) (line : Text) : Prop :=
  ∃ rendered, sending.command.render sending.target = .ok rendered ∧
    line = fileLine rendered sending.time

/-- The command was sent. -/
def succeeded (sending : Sending) : Bool := sending.outcome.isOk

/-- No line of a sending breaks in two. -/
theorem not_mem_of_isLine {sendings : List Sending} {lines : List Text}
    (h : List.Forall₂ IsLine sendings lines) :
    ∀ line ∈ lines, '\r' ∉ line ∧ '\n' ∉ line := by
  induction h with
  | nil =>
    intro line hline
    cases hline
  | cons hfirst _ ih =>
    intro line hline
    rcases List.mem_cons.1 hline with hline | hline
    · obtain ⟨rendered, -, hframed⟩ := hfirst
      rw [hline, hframed]
      refine ⟨?_, ?_⟩
      · intro hr
        exact absurd (isLineBreak_of_mem_fileLine hr) (by decide)
      · intro hn
        exact absurd (isLineBreak_of_mem_fileLine hn) (by decide)
    · exact ih line hline

end Sending

namespace CommandFile

variable {file : CommandFile} {outlets : Outlets (StateM σ)} {content : σ → Text}
  {command : Command} {target : Target}

/-- **Sending a command**, as what became of it and the state afterwards. -/
def sending (file : CommandFile) (outlets : Outlets (StateM σ)) (command : Command)
    (target : Target) (s : σ) : Sending × σ :=
  let sent := file.send outlets command target s
  (⟨command, target, (outlets.now s).1, sent.1⟩, sent.2)

/-- **A command without a line** is refused, and nothing is touched for it. -/
theorem send_of_unrendered {cause : CommandError} (h : command.render target = .error cause)
    (s : σ) : file.send outlets command target s = (.error (.unrendered cause), s) := by
  unfold send
  rw [h]
  rfl

/-- A command with a line asks for the time and adds the line to the file. -/
theorem send_of_rendered {line : Text} (h : command.render target = .ok line) (s : σ) :
    file.send outlets command target s =
      let asked := outlets.now s
      let added := outlets.append file.path (fileLine line asked.1 ++ ['\n']) asked.2
      (added.1.mapError .unwritable, added.2) := by
  unfold send
  rw [h]
  rfl

/-- **A command with a line adds the line or nothing**; then the file could not be written. -/
theorem send_writes (h : outlets.AppendsWhole file.path content) {line : Text}
    (hrender : command.render target = .ok line) (s : σ) :
    let sent := file.send outlets command target s
    (sent.1 = .ok () ∧
      content sent.2 = content s ++ (fileLine line (outlets.now s).1 ++ ['\n'])) ∨
    ∃ reason, sent.1 = .error (.unwritable reason) ∧ content sent.2 = content s := by
  intro sent
  have htime : content (outlets.now s).2 = content s := h.now s
  have hsent : sent = _ := send_of_rendered hrender s
  rw [hsent]
  cases hadded : (outlets.append file.path (fileLine line (outlets.now s).1 ++ ['\n'])
      (outlets.now s).2).1 with
  | error reason =>
    right
    simp only [hadded]
    exact ⟨reason, rfl, (h.failed _ _ reason hadded).trans htime⟩
  | ok done =>
    left
    simp only [hadded]
    refine ⟨rfl, ?_⟩
    rw [← htime]
    exact h.written _ _ hadded

/-- **One command adds its line or nothing**, and adds it exactly if it was sent. -/
theorem sending_writes (h : outlets.AppendsWhole file.path content) (command : Command)
    (target : Target) (s : σ) :
    ((file.sending outlets command target s).1.succeeded = true ∧
      ∃ line, (file.sending outlets command target s).1.IsLine line ∧
        content (file.sending outlets command target s).2 = content s ++ (line ++ ['\n'])) ∨
    ((file.sending outlets command target s).1.succeeded = false ∧
      content (file.sending outlets command target s).2 = content s) := by
  unfold sending Sending.succeeded Sending.IsLine
  cases hrender : command.render target with
  | error cause =>
    right
    rw [send_of_unrendered hrender]
    exact ⟨rfl, rfl⟩
  | ok line =>
    rcases send_writes h hrender s with ⟨hsent, hgrown⟩ | ⟨reason, hsent, hsame⟩
    · left
      simp only [hsent]
      exact ⟨rfl, _, ⟨line, rfl, rfl⟩, hgrown⟩
    · right
      simp only [hsent]
      exact ⟨rfl, hsame⟩

/-! ## Runs -/

/-- **Sending commands one after the other**, as what became of each and the state afterwards. -/
def sendings (file : CommandFile) (outlets : Outlets (StateM σ)) :
    List (Command × Target) → σ → List Sending × σ
  | [], s => ([], s)
  | call :: calls, s =>
    let first := file.sending outlets call.1 call.2 s
    let rest := file.sendings outlets calls first.2
    (first.1 :: rest.1, rest.2)

/-- Keeping what became of the commands changes nothing about sending them. -/
theorem mapM_send (calls : List (Command × Target)) (s : σ) :
    calls.mapM (fun call => file.send outlets call.1 call.2) s =
      ((file.sendings outlets calls s).1.map Sending.outcome,
        (file.sendings outlets calls s).2) := by
  induction calls generalizing s with
  | nil => rfl
  | cons call calls ih =>
    rw [List.mapM_cons]
    show (let sent := file.send outlets call.1 call.2 s
      let others := calls.mapM (fun call => file.send outlets call.1 call.2) sent.2
      (sent.1 :: others.1, others.2)) = _
    simp only [ih]
    rfl

/-- There is one sending for each command, in order. -/
theorem map_call_sendings (calls : List (Command × Target)) (s : σ) :
    ((file.sendings outlets calls s).1.map fun sending => (sending.command, sending.target)) =
      calls := by
  induction calls generalizing s with
  | nil => rfl
  | cons call calls ih =>
    show call :: ((file.sendings outlets calls _).1.map _) = _
    rw [ih]

/-- **A run adds the lines of the commands that were sent**, in order. The induction is on the
commands; each of them adds its own line in front of what the others add. -/
theorem sendings_writes (h : outlets.AppendsWhole file.path content)
    (calls : List (Command × Target)) (s : σ) :
    ∃ lines, List.Forall₂ Sending.IsLine
        ((file.sendings outlets calls s).1.filter Sending.succeeded) lines ∧
      content (file.sendings outlets calls s).2 =
        content s ++ lines.flatMap (· ++ ['\n']) := by
  induction calls generalizing s with
  | nil => exact ⟨[], .nil, (List.append_nil _).symm⟩
  | cons call calls ih =>
    obtain ⟨lines, hlines, hrest⟩ := ih (file.sending outlets call.1 call.2 s).2
    rcases sending_writes h call.1 call.2 s with ⟨hsent, line, hline, hfirst⟩ | ⟨hfailed, hfirst⟩
    · -- the others start from what the first command has left
      refine ⟨line :: lines, ?_, ?_⟩
      · unfold sendings
        rw [List.filter_cons_of_pos hsent]
        exact .cons hline hlines
      · unfold sendings
        rw [hrest, hfirst, List.flatMap_cons, List.append_assoc]
    · refine ⟨lines, ?_, ?_⟩
      · unfold sendings
        rw [List.filter_cons_of_neg (by rw [hfailed]; exact Bool.false_ne_true)]
        exact hlines
      · unfold sendings
        rw [hrest, hfirst]

/-! ## Main result -/

/-- **One command, one line.** After commands have been sent to a file, the file holds what it held
and behind that, for exactly the commands that were sent and in order, the line of each with the
time of its turn and one line break. There is no other line break in these lines, so there are as
many of them as commands that were sent. A command that has no line for its target is refused with
the cause of that, and everything stays as it is. -/
theorem run_appends_lines (h : outlets.AppendsWhole file.path content)
    (calls : List (Command × Target)) (s : σ) :
    let run := calls.mapM (fun call => file.send outlets call.1 call.2) s
    let sendings := (file.sendings outlets calls s).1
    (sendings.map fun sending => (sending.command, sending.target)) = calls ∧
    sendings.map Sending.outcome = run.1 ∧
    (∃ lines,
      List.Forall₂ Sending.IsLine (sendings.filter Sending.succeeded) lines ∧
      content run.2 = content s ++ lines.flatMap (· ++ ['\n']) ∧
      (∀ line ∈ lines, '\r' ∉ line ∧ '\n' ∉ line) ∧
      (lines.flatMap (· ++ ['\n'])).count '\n' = (sendings.filter Sending.succeeded).length) ∧
    ∀ command target cause, command.render target = .error cause →
      ∀ s, file.send outlets command target s = (.error (.unrendered cause), s) := by
  intro run sendings
  have hrun : run = (sendings.map Sending.outcome, (file.sendings outlets calls s).2) :=
    mapM_send calls s
  obtain ⟨lines, hlines, hcontent⟩ := sendings_writes h calls s
  have hbreaks := Sending.not_mem_of_isLine hlines
  refine ⟨map_call_sendings calls s, ?_, ⟨lines, hlines, ?_, hbreaks, ?_⟩, ?_⟩
  · rw [hrun]
  · rw [hrun]
    exact hcontent
  · rw [hlines.length_eq]
    apply count_lineBreak
    intro line hline
    exact (hbreaks line hline).2
  · intro command target cause hrender s
    exact send_of_unrendered hrender s

/-- A comment with line breaks in it, a restart that is meant for a host, and a restart. -/
theorem run_appends_lines_comment :
    let file : CommandFile := { name := "local", path := "cmd" }
    let site : Site := { clock := 10, files := [("cmd", some "[9] RESTART_PROCESS\n".toList)] }
    let calls : List (Command × Target) :=
      [(.addComment ⟨"me\r\n", "a\nb", false⟩, .host "web"), (.restart, .host "web"),
        (.restart, .global none)]
    let run := calls.mapM (fun call => file.send Site.outlets call.1 call.2) site
    let sendings := (file.sendings Site.outlets calls site).1
    Site.outlets.AppendsWhole file.path (Site.contentOf file.path) ∧
      run.1 = [.ok (), .error (.unrendered (.notImplemented "RestartProcessCommand" "host")),
        .ok ()] ∧
      run.2.contentOf file.path =
        "[9] RESTART_PROCESS\n".toList ++
          "[10] ADD_HOST_COMMENT;web;0;me\\r\\n;a\\nb\n[10] RESTART_PROCESS\n".toList ∧
      ∃ lines, List.Forall₂ Sending.IsLine (sendings.filter Sending.succeeded) lines ∧
        run.2.contentOf file.path = site.contentOf file.path ++ lines.flatMap (· ++ ['\n']) ∧
        (∀ line ∈ lines, '\r' ∉ line ∧ '\n' ∉ line) ∧
        (lines.flatMap (· ++ ['\n'])).count '\n' = (sendings.filter Sending.succeeded).length := by
  intro file site calls run sendings
  have hwhole : Site.outlets.AppendsWhole file.path (Site.contentOf file.path) :=
    Site.appendsWhole (by decide)
  refine ⟨hwhole, rfl, ?_, (run_appends_lines hwhole calls site).2.2.1⟩
  decide

end CommandFile

end MonitorControl
