/-
Instructions: what a line that is typed at the console asks for.

A line is a filter, unless it starts with a question mark or a colon. Objects are
named as `host` or `host;service`, with commas between them.
-/
import MonitorControl.Command.Object
import MonitorControl.Command.Basic
import MonitorControl.Text.Blank

set_option autoImplicit false

namespace MonitorControl

/-! ## Objects and comments -/

/-- One object: a host, or the host and the service on both sides of the first semicolon. -/
def readObject (t : Text) : MonitoredObject :=
  match t.splitFirst? ';' with
  | some (host, service) => { host, service := some service }
  | none => { host := t }

/-- **The objects in a list.** Blanks around an object and empty places do not count. -/
def readObjects (t : Text) : List MonitoredObject :=
  (((t.splitAll ',').map Text.trim).filter fun piece => !piece.isEmpty).map readObject

/-- **Objects and a comment**: the list, the author and the text, with one space after each of the
first two. -/
def readComment? (t : Text) : Option (List MonitoredObject × Comment) :=
  match t.splitFirst? ' ' with
  | none => none
  | some (objects, rest) =>
    match rest.splitFirst? ' ' with
    | none => none
    | some (author, content) => some (readObjects objects, { author, content := content.trim })

/-! ## Instructions -/

/-- **An instruction.** -/
inductive Instruction where
  | filter (query : Text)
  | complete (typed : Text)
  | url (query : Text)
  | acknowledge (objects : List MonitoredObject) (comment : Comment)
  | comment (objects : List MonitoredObject) (comment : Comment)
  | check (objects : List MonitoredObject)
  | restart
  | probe
  | help
  | quit
  deriving DecidableEq, Repr

/-- What is wrong with a line. -/
inductive InstructionError where
  | unknown (name : Text)
  /-- Objects, an author and a text were expected. -/
  | incompleteComment
  deriving DecidableEq, Repr

/-- The text of an error. -/
def InstructionError.message : InstructionError → Text
  | .unknown name => "unknown command ".toList ++ name
  | .incompleteComment => "expected <host[;service],...> <author> <comment>"

namespace Instruction

/-- An instruction with objects and a comment. -/
def commented (make : List MonitoredObject → Comment → Instruction) (t : Text) :
    Except InstructionError Instruction :=
  match readComment? t with
  | some (objects, remark) => .ok (make objects remark)
  | none => .error .incompleteComment

/-- An instruction by its name, with the rest of its line. -/
def named (name rest : Text) : Except InstructionError Instruction :=
  if name == ":ack".toList then commented .acknowledge rest
  else if name == ":comment".toList then commented .comment rest
  else if name == ":check".toList then .ok (.check (readObjects rest))
  else if name == ":restart".toList then .ok .restart
  else if name == ":probe".toList then .ok .probe
  else if name == ":url".toList then .ok (.url rest.trim)
  else .error (.unknown name)

/-- **The instruction of a line** that is trimmed and not empty. -/
def read (line : Text) : Except InstructionError Instruction :=
  match line with
  | '?' :: typed => .ok (.complete typed)
  | ':' :: rest =>
    if rest == "quit".toList || rest == ['q'] then .ok .quit
    else if rest == "help".toList then .ok .help
    else
      let (name, rest) := (line.splitFirst? ' ').getD (line, [])
      named name rest
  | query => .ok (.filter query)

end Instruction

end MonitorControl
