/-
One operation for many objects.

Each object gets a command of its own. An object whose command cannot be made or
sent is reported and does not keep the others from theirs.
-/
import MonitorControl.Command.Object
import MonitorControl.Delivery.Transport

set_option autoImplicit false

namespace MonitorControl

/-! ## Reports -/

/-- **Why an object did not get its command.** -/
inductive DispatchError where
  | build (cause : CommandError)
  | send (cause : TransportError)
  deriving DecidableEq, Repr

/-- The text of an error. -/
def DispatchError.message : DispatchError → Text
  | .build cause => "can't build command: ".toList ++ cause.message
  | .send cause => "can't send command: ".toList ++ cause.message

/-- An object that did not get its command. -/
structure DispatchFailure where
  object : MonitoredObject
  error : DispatchError
  deriving DecidableEq, Repr

/-- **What became of an operation.** The failures are in the order of the objects. -/
structure DispatchReport where
  attempted : Nat := 0
  succeeded : Nat := 0
  failures : List DispatchFailure := []
  deriving DecidableEq, Repr

namespace DispatchReport

/-- Every object got its command. -/
def isComplete (report : DispatchReport) : Bool := report.failures.isEmpty

/-- The report with the outcome for one more object. -/
def add (report : DispatchReport) (object : MonitoredObject) :
    Except DispatchError Unit → DispatchReport
  | .ok () =>
    { report with attempted := report.attempted + 1, succeeded := report.succeeded + 1 }
  | .error error =>
    { report with
      attempted := report.attempted + 1
      failures := report.failures ++ [⟨object, error⟩] }

/-- **The message for an operation**, such as `Sent 3 checks`: how many objects were meant, with the
noun in the plural unless there is one. An operation for no object has no message. -/
def notice? (report : DispatchReport) (noun : Text) : Option Text :=
  if report.attempted == 0 then none
  else
    let noun := if report.attempted == 1 then noun else noun ++ ['s']
    some ("Sent ".toList ++ Text.ofNat report.attempted ++ ' ' :: noun)

end DispatchReport

/-! ## Dispatch -/

variable {m : Type → Type}

/-- The command of one object, made and sent. -/
def dispatchOne [Monad m] (transport : Transport m)
    (build : MonitoredObject → m (Except CommandError Command)) (object : MonitoredObject) :
    m (Except DispatchError Unit) := do
  match ← build object with
  | .error cause => return .error (.build cause)
  | .ok command =>
    match ← transport.send command object.target object.monitor with
    | .error cause => return .error (.send cause)
    | .ok () => return .ok ()

/-- **Dispatch**: a command for each object, in order, whatever becomes of the others. -/
def dispatch [Monad m] (transport : Transport m)
    (build : MonitoredObject → m (Except CommandError Command)) (objects : List MonitoredObject) :
    m DispatchReport :=
  objects.foldlM
    (fun report object => do return report.add object (← dispatchOne transport build object)) {}

end MonitorControl
