/-
The program: the console on this host's files, clock, input and output.

It reads and writes files. Remote shells and REST interfaces need other programs
and the network, which it does not reach, so it treats them as out of order.
-/
import MonitorControl.Console.Session
import Std.Time.DateTime.Timestamp

set_option autoImplicit false

namespace MonitorControl

/-- The text of an error of the operating system. -/
def systemErrorText (e : IO.Error) : Text := (toString e).toList

/-- What a file on this host reads as. -/
def readHostFile (path : Text) : IO FileReading := do
  try
    return .content (← IO.FS.readFile (String.ofList path)).toList
  catch
    | .noFileOrDirectory _ _ _ => return .missing
    | e => return .unreadable (systemErrorText e)

/-- Add text to a file on this host. It is opened for reading first, which makes no new file. -/
def appendToHostFile (path t : Text) : IO (Except Text Unit) := do
  try
    let _ ← IO.FS.Handle.mk (String.ofList path) .readWrite
    let file ← IO.FS.Handle.mk (String.ofList path) .append
    file.putStr (String.ofList t)
    file.flush
    return .ok ()
  catch e => return .error (systemErrorText e)

/-- **This host as the outside.** -/
def hostOutlets : Outlets IO where
  now := return (← Std.Time.Timestamp.now).toSecondsSinceUnixEpoch.val
  read := readHostFile
  append := appendToHostFile
  runShell := fun _ => return .error "no remote shell can be started"
  exchange := fun _ => return .error "no connection can be opened"

/-- Print some lines. -/
def printLines (output : IO.FS.Stream) (ls : List Text) : IO Unit := do
  for l in ls do output.putStrLn (String.ofList l)
  output.flush

/-- Answer lines of input until the session ends. -/
partial def converse (console : Console IO) (input output : IO.FS.Stream) :
    IO Console.ExitCode := do
  let line ← input.getLine
  if line.isEmpty then return Console.succeeded
  match ← console.reply line.toList with
  | .lines answers =>
    printLines output answers
    converse console input output
  | .quit => return Console.succeeded
  | .crash => return Console.crashed

end MonitorControl

open MonitorControl in
/-- **The program.** -/
def main (arguments : List String) : IO UInt32 := do
  let output ← IO.getStdout
  match ← Console.start hostOutlets (arguments.map String.toList) with
  | .ends ls code =>
    printLines output ls
    return code.toUInt32
  | .opens console =>
    printLines output [banner]
    return (← converse console (← IO.getStdin) output).toUInt32
