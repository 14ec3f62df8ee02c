/-
Transports: the ways by which a command reaches an instance, and chains of them.

A transport runs in some monad `m`, so that one definition serves the program,
which acts on the world, and a rehearsal, which only keeps a state. A transport
may be bound to one instance. A chain tries the transports that serve the instance
of a command, in order, until one of them succeeds.
-/
import MonitorControl.Command.Basic
import MonitorControl.Text.Ascii

set_option autoImplicit false

namespace MonitorControl

/-! ## Errors -/

/-- **Why a command did not reach an instance**, or why an instance could not be reached. -/
inductive TransportError where
  /-- A command file or a remote shell could not be used at all. -/
  | unwritable (reason : Text)
  /-- The remote shell ended with this exit code, or without one. -/
  | remote (code : Option Int) (output : Text)
  /-- The REST interface answered, and refused. -/
  | refused (code : Nat) (status : Text)
  /-- The REST interface did not answer. -/
  | unanswered (reason : Text)
  /-- The answer of the REST interface is no JSON. -/
  | unreadable
  | noTransport
  | allFailed (attempts : Nat)
  /-- The command has no form for this transport and target. -/
  | unrendered (cause : CommandError)
  deriving DecidableEq, Repr

/-- A code in messages, where it may be missing. -/
def exitCodeText : Option Int → Text
  | some code => "Some(".toList ++ Text.ofInt code ++ [')']
  | none => "None"

/-- The text of an error. -/
def TransportError.message : TransportError → Text
  | .unwritable reason => "can't write to the command file: ".toList ++ reason
  | .remote code output =>
    "remote command failed with exit code ".toList ++ exitCodeText code ++ ": ".toList ++ output
  | .refused code status =>
    "API request failed with status ".toList ++ Text.ofNat code ++ ": ".toList ++ status
  | .unanswered reason => "HTTP error: ".toList ++ reason
  | .unreadable => "invalid JSON: the answer is no JSON value"
  | .noTransport => "no command transport is configured for this instance"
  | .allFailed attempts =>
    "all ".toList ++ Text.ofNat attempts ++ " command transports failed".toList
  | .unrendered cause => cause.message

/-! ## Transports -/

/-- **A transport.** -/
structure Transport (m : Type → Type) where
  name : Text
  /-- The instance that the transport is bound to. -/
  bound : Option Text := none
  /-- Render a command for a target and send it. The instance that the target belongs to is given
  where it is known. -/
  send : Command → Target → Option Text → m (Except TransportError Unit)
  /-- Check that the instance can be reached. -/
  probe : m (Except TransportError Unit)

/-- **Routing**: a transport bound to `bound` sends commands for `monitor`. A transport that is bound
to nothing or to `none` sends all commands, and if the instance is not known every transport will
do. -/
def serves (bound monitor : Option Text) : Bool :=
  match bound, monitor with
  | some b, some m => b.sameLetters "none" || b.sameLetters m
  | _, _ => true

/-! ## Chains -/

/-- **A chain of transports**, in the order in which they are tried. -/
structure Chain (m : Type → Type) where
  transports : List (Transport m)

namespace Chain

variable {m : Type → Type}

/-- The transports that send commands for an instance. -/
def serving (chain : Chain m) (monitor : Option Text) : List (Transport m) :=
  chain.transports.filter fun t => serves t.bound monitor

/-- **Failover**: the transports in order up to the first that succeeds. `failed` of them have been
tried before. -/
def sendFirst [Monad m] (command : Command) (target : Target) (monitor : Option Text) :
    Nat → List (Transport m) → m (Except TransportError Unit)
  | 0, [] => return .error .noTransport
  | failed + 1, [] => return .error (.allFailed (failed + 1))
  | failed, t :: rest => do
    match ← t.send command target monitor with
    | .ok () => return .ok ()
    | .error _ => sendFirst command target monitor (failed + 1) rest

/-- **Sending through a chain.** -/
def send [Monad m] (chain : Chain m) (command : Command) (target : Target)
    (monitor : Option Text) : m (Except TransportError Unit) :=
  sendFirst command target monitor 0 (chain.serving monitor)

/-- The outcome of a probe of each transport, with its name. -/
def probeEach [Monad m] (chain : Chain m) : m (List (Text × Except TransportError Unit)) :=
  chain.transports.mapM fun t => do return (t.name, ← t.probe)

/-- A chain can be reached through at least one of its transports. -/
def verdict (outcomes : List (Text × Except TransportError Unit)) : Except TransportError Unit :=
  if outcomes.isEmpty then .error .noTransport
  else if outcomes.any fun o => o.2.isOk then .ok ()
  else .error (.allFailed outcomes.length)

/-- Probing a chain. -/
def probe [Monad m] (chain : Chain m) : m (Except TransportError Unit) := do
  return verdict (← chain.probeEach)

/-- The name of a chain among other transports. -/
def name : Text := "chain"

/-- **A chain as one transport**, bound to no instance. -/
def transport [Monad m] (chain : Chain m) : Transport m where
  name := name
  send := chain.send
  probe := chain.probe

end Chain

end MonitorControl
