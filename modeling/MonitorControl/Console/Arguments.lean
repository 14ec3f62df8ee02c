/-
The command line of the console.

Options may stand in any order and each at most once, but for the one that counts.
What is wrong with a command line, or asks for something else than a console, ends
the reading at once.
-/
import MonitorControl.Text.Basic

set_option autoImplicit false

namespace MonitorControl

/-! ## Arguments -/

/-- **The arguments of the console.** -/
structure Arguments where
  configPath : Text := "dispatcher.json"
  table : Text := "objects"
  /-- Send commands, and not only show them. -/
  send : Bool := false
  verbosity : Nat := 0
  deriving DecidableEq, Repr

/-- Why a command line starts no console. -/
inductive ArgumentsStop where
  | help
  | version
  | unusable
  deriving DecidableEq, Repr

/-- What the log shows at a verbosity. -/
def logLevel : Nat → Text
  | 0 => "warn"
  | 1 => "info"
  | 2 => "debug"
  | _ => "trace"

/-! ## Options -/

/-- The options that take a value. -/
inductive ValueOption where
  | config
  | table
  deriving DecidableEq, Repr

/-- The options that have been given. -/
structure GivenOptions where
  config : Option Text := none
  table : Option Text := none
  send : Bool := false
  verbosity : Nat := 0
  deriving DecidableEq, Repr

namespace GivenOptions

/-- The arguments that options stand for. -/
def arguments (given : GivenOptions) : Arguments :=
  let usual : Arguments := {}
  { configPath := given.config.getD usual.configPath, table := given.table.getD usual.table
    send := given.send, verbosity := given.verbosity }

/-- An option with its value. A path may not be empty. -/
def set (given : GivenOptions) : ValueOption → Text → Except ArgumentsStop GivenOptions
  | .config, value =>
    if given.config.isSome || value.isEmpty then .error .unusable
    else .ok { given with config := some value }
  | .table, value =>
    if given.table.isSome then .error .unusable else .ok { given with table := some value }

/-- The switch that sends commands. -/
def setSend (given : GivenOptions) : Except ArgumentsStop GivenOptions :=
  if given.send then .error .unusable else .ok { given with send := true }

/-- One more step of verbosity. -/
def moreVerbose (given : GivenOptions) : GivenOptions :=
  { given with verbosity := given.verbosity + 1 }

end GivenOptions

/-! ## Reading -/

/-- **What an argument leaves to do**: nothing, or to take the next argument as a value. -/
inductive OptionStep where
  | complete (given : GivenOptions)
  | awaits (option : ValueOption) (given : GivenOptions)
  deriving DecidableEq, Repr

/-- A value that an option takes from the same argument. -/
def inlineValue (given : GivenOptions) (option : ValueOption) (value : Text) :
    Except ArgumentsStop OptionStep :=
  (given.set option value).map .complete

/-- Options of one letter after a single dash. One that takes a value takes the rest as it, after an
equals sign or not. -/
def shortOptions (given : GivenOptions) : Text → Except ArgumentsStop OptionStep
  | [] => .ok (.complete given)
  | 'v' :: rest => shortOptions given.moreVerbose rest
  | ['c'] => .ok (.awaits .config given)
  | 'c' :: '=' :: value => inlineValue given .config value
  | 'c' :: value => inlineValue given .config value
  | 'h' :: _ => .error .help
  | 'V' :: _ => .error .version
  | _ => .error .unusable

/-- An option by its name after two dashes, and the value after an equals sign. -/
def longOption (given : GivenOptions) (name : Text) (value : Option Text) :
    Except ArgumentsStop OptionStep :=
  match String.ofList name, value with
  | "config", none => .ok (.awaits .config given)
  | "config", some value => inlineValue given .config value
  | "table", none => .ok (.awaits .table given)
  | "table", some value => inlineValue given .table value
  | "send", none => given.setSend.map .complete
  | "verbose", none => .ok (.complete given.moreVerbose)
  | "help", none => .error .help
  | "version", none => .error .version
  | _, _ => .error .unusable

/-- An argument that is no option's value. There is none that is not an option. -/
def optionStep (given : GivenOptions) : Text → Except ArgumentsStop OptionStep
  | '-' :: '-' :: option =>
    match Text.splitFirst? '=' option with
    | some (name, value) => longOption given name (some value)
    | none => longOption given option none
  | '-' :: c :: rest => shortOptions given (c :: rest)
  | _ => .error .unusable

/-- An argument that reads as options. -/
def looksLikeOption : Text → Bool
  | '-' :: _ :: _ => true
  | _ => false

/-- The options in a list of arguments. Two dashes alone end the options. -/
def readOptions (given : GivenOptions) : List Text → Except ArgumentsStop GivenOptions
  | [] => .ok given
  | [['-', '-']] => .ok given
  | argument :: rest =>
    match optionStep given argument, rest with
    | .error stop, _ => .error stop
    | .ok (.complete given), rest => readOptions given rest
    | .ok (.awaits _ _), [] => .error .unusable
    | .ok (.awaits option given), value :: rest =>
      if looksLikeOption value then .error .unusable
      else
        match given.set option value with
        | .error stop => .error stop
        | .ok given => readOptions given rest

/-- **The arguments of a command line.** -/
def Arguments.read (arguments : List Text) : Except ArgumentsStop Arguments :=
  (readOptions {} arguments).map GivenOptions.arguments

end MonitorControl
