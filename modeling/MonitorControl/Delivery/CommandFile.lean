/-
Command files: the file, most often a pipe, that an instance reads its commands
from, on this host or behind a remote shell.

A line is written at once and never to a file that is not there. On the way to a
remote host the line and the path are quoted, so that the shell there takes each
of them as one word and reads nothing into them.
-/
import MonitorControl.Command.Line
import MonitorControl.Delivery.Outlets
import MonitorControl.Delivery.Transport
import MonitorControl.Text.Quotes

set_option autoImplicit false

namespace MonitorControl

variable {m : Type → Type}

/-! ## On this host -/

/-- **A command file on this host.** -/
structure CommandFile where
  name : Text
  path : Text
  bound : Option Text := none
  deriving DecidableEq, Repr

namespace CommandFile

/-- Write a rendered line at a time. -/
def writeLine [Monad m] (file : CommandFile) (outlets : Outlets m) (line : Text) (time : Int) :
    m (Except TransportError Unit) := do
  return (← outlets.append file.path (fileLine line time ++ ['\n'])).mapError .unwritable

/-- Render a command for a target and write it. -/
def send [Monad m] (file : CommandFile) (outlets : Outlets m) (command : Command)
    (target : Target) : m (Except TransportError Unit) :=
  match command.render target with
  | .ok line => do file.writeLine outlets line (← outlets.now)
  | .error cause => return .error (.unrendered cause)

/-- The file as a transport. It is not looked at before a command is sent. -/
def transport [Monad m] (file : CommandFile) (outlets : Outlets m) : Transport m where
  name := file.name
  bound := file.bound
  send := fun command target _ => file.send outlets command target
  probe := return .ok ()

end CommandFile

/-! ## Quoting -/

/-- A character inside single quotes. A single quote ends them, stands by itself, and starts them
again. -/
def shellQuoteChar (c : Char) : Text := if c == '\'' then "'\\''".toList else [c]

/-- **A text as one word of a shell.** -/
def shellQuote (t : Text) : Text := Text.inSingleQuotes (t.flatMap shellQuoteChar)

/-! ## Behind a remote shell -/

/-- **A command file on another host**, where a remote shell writes it. -/
structure RemoteCommandFile where
  name : Text
  host : Text
  path : Text
  port : Nat := 22
  user : Option Text := none
  bound : Option Text := none
  deriving DecidableEq, Repr

namespace RemoteCommandFile

/-- The host to log in to, and as whom. -/
def destination (file : RemoteCommandFile) : Text :=
  match file.user with
  | some user => user ++ '@' :: file.host
  | none => file.host

/-- What the remote shell is told for a line. -/
def script (file : RemoteCommandFile) (line : Text) : Text :=
  "echo ".toList ++ shellQuote line ++ " > ".toList ++ shellQuote file.path

/-- The program that starts a remote shell. -/
def program : Text := "ssh"

/-- The arguments of that program for a line. It must not ask for a password. -/
def shellArguments (file : RemoteCommandFile) (line : Text) : List Text :=
  ["-o", "BatchMode=yes", "-p", Text.ofNat file.port, file.destination, file.script line]

/-- The command line for a line, to be shown. -/
def commandLine (file : RemoteCommandFile) (line : Text) : List Text :=
  (program :: file.shellArguments line).map shownArgument

/-- Write a rendered line at a time. -/
def writeLine [Monad m] (file : RemoteCommandFile) (outlets : Outlets m) (line : Text)
    (time : Int) : m (Except TransportError Unit) := do
  match ← outlets.runShell (file.shellArguments (fileLine line time)) with
  | .error reason => return .error (.unwritable reason)
  | .ok outcome =>
    if outcome.succeeded then return .ok ()
    else return .error (.remote outcome.code outcome.errors.trim)

/-- Render a command for a target and write it. -/
def send [Monad m] (file : RemoteCommandFile) (outlets : Outlets m) (command : Command)
    (target : Target) : m (Except TransportError Unit) :=
  match command.render target with
  | .ok line => do file.writeLine outlets line (← outlets.now)
  | .error cause => return .error (.unrendered cause)

/-- The file as a transport. The host is not asked before a command is sent. -/
def transport [Monad m] (file : RemoteCommandFile) (outlets : Outlets m) : Transport m where
  name := file.name
  bound := file.bound
  send := fun command target _ => file.send outlets command target
  probe := return .ok ()

end RemoteCommandFile

end MonitorControl
