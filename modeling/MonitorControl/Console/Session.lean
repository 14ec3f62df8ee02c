/-
The console: a session in which filters are shown and commands shown or sent.

A console without a chain is for practice: it shows each command as the line that
would be sent. Everything it says is returned as lines of text.
-/
import MonitorControl.Console.Arguments
import MonitorControl.Console.Instruction
import MonitorControl.Delivery.Dispatch
import MonitorControl.Delivery.Settings
import MonitorControl.Filter.Monitoring
import MonitorControl.Sql.Compiler
import MonitorControl.Sql.Text
import MonitorControl.Url.FilterQuery

set_option autoImplicit false

namespace MonitorControl

variable {m : Type → Type}

/-! ## Practice -/

/-- **The dry run**: for each object, in order, its target and the line of its command. -/
def renderEach (build : MonitoredObject → Except CommandError Command)
    (objects : List MonitoredObject) : List (Target × Except CommandError Text) :=
  objects.map fun object =>
    (object.target, build object >>= fun command => command.render object.target)

/-! ## Lines -/

/-- A line about success. -/
def successLine (message : Text) : Text := "✓ ".toList ++ message

/-- A line about failure. -/
def failureLine (message : Text) : Text := "✗ ".toList ++ message

/-- A message with what it is about in front. -/
def about (subject message : Text) : Text := subject ++ ": ".toList ++ message

/-- The line of the dry run for one object. -/
def rehearsedLine : Target × Except CommandError Text → Text
  | (_, .ok line) => line
  | (target, .error e) => failureLine (about target.display e.message)

/-- The lines about an operation that was sent: its failures, and what was done. -/
def reportLines (report : DispatchReport) (noun : Text) : List Text :=
  (report.failures.map fun f =>
    failureLine (about f.object.target.display f.error.message)) ++
    (report.notice? noun).toList.map successLine

/-- The line about a list that replaces a disjunction. -/
def listLine (list : Sql.InList) : Text :=
  "         • OrToIn \x7b field: ".toList ++ Text.debug list.field ++ ", value_count: ".toList ++
    Text.ofNat list.count ++ " \x7d".toList

/-- The line that opens a session. -/
def banner : Text := "--- monitoring-dispatcher: filters and external commands (:help) ---"

/-- The lines of help. -/
def helpLines : List Text :=
  ["<filter>                         parse a filter, e.g. Host Is Down AND Service Is Critical",
    "?<partial filter>                propose completions",
    ":url <query string>              parse the URL form of a filter",
    ":ack <objects> <author> <text>   acknowledge, objects as host[;service],...",
    ":comment <objects> <author> <text>",
    ":check <objects>                 schedule a check now",
    ":restart                         restart the monitoring process",
    ":probe                           check that the configured transports can be reached",
    ":quit"]

/-! ## The console -/

/-- **A console.** -/
structure Console (m : Type → Type) where
  outlets : Outlets m
  settings : Settings
  table : Text
  /-- What commands are sent through. -/
  chain : Option (Chain m)

/-- **The answer to a line.** -/
inductive Reply where
  | lines (ls : List Text)
  | quit
  /-- A weekday beyond the calendar brought the program down. -/
  | crash
  deriving DecidableEq, Repr

namespace Console

/-- The lines about a filter: its tree, what was ignored in it, its URL form and its SQL form. -/
def filterLines (console : Console m) (now : Moment) (query : Text) : List Text :=
  let parsed := Filter.monitoring.parse now query
  let compiler : Sql.Compiler := { columns := console.settings.columns }
  let treeLine := "tree:    ".toList ++ parsed.tree.display
  let ignoredLines :=
    if parsed.ignored.isEmpty then []
    else ["ignored: ".toList ++ Text.debugList parsed.ignored]
  let sqlLines :=
    match compiler.compile now console.table parsed.tree with
    | .ok (select, lists) => ("sql:     ".toList ++ select.toText) :: lists.map listLine
    | .error e => ["sql:     ".toList ++ failureLine e.message]
  let forms :=
    if parsed.tree.isEmpty then []
    else ("url:     ".toList ++ parsed.tree.toUrl) :: sqlLines
  treeLine :: ignoredLines ++ forms

/-- The lines with the proposals for a filter that is being typed. -/
def proposalLines (typed : Text) : List Text :=
  (Filter.monitoring.proposals typed).map fun proposal => ' ' :: ' ' :: proposal

/-- One command for each of some objects, sent or shown. -/
def operate [Monad m] (console : Console m) (objects : List MonitoredObject) (noun : Text)
    (command : Except CommandError Command) : m (List Text) := do
  match console.chain with
  | some chain =>
    return reportLines (← dispatch chain.transport (fun _ => return command) objects) noun
  | none => return (renderEach (fun _ => command) objects).map rehearsedLine

/-- The restart of the monitoring process. -/
def restart [Monad m] (console : Console m) : m (List Text) := do
  match console.chain with
  | some chain =>
    match ← chain.send .restart (.global none) none with
    | .ok () => return [successLine "Sent 1 restart"]
    | .error e => return [failureLine (about "restart failed" e.message)]
  | none =>
    match Command.restart.render (.global none) with
    | .ok line => return [line]
    | .error e => return [failureLine e.message]

/-- The message for settings that describe no chain. -/
def unusableSettings (fault : SettingsFault) : Text :=
  about "invalid transport configuration" (SettingsError.invalid fault).message

/-- A probe of each transport, also of a console that sends nothing. -/
def probe [Monad m] (console : Console m) : m (List Text) := do
  let chain : Except SettingsFault (Chain m) :=
    match console.chain with
    | some chain => .ok chain
    | none => console.settings.chain console.outlets
  match chain with
  | .error fault => return [failureLine (unusableSettings fault)]
  | .ok chain =>
    if chain.transports.isEmpty then return [failureLine "no transports configured"]
    else
      return (← chain.probeEach).map fun
        | (name, .ok ()) => successLine name
        | (name, .error e) => failureLine (about name e.message)

/-- **Carrying out an instruction.** -/
def carryOut [Monad m] (console : Console m) : Instruction → m Reply
  | .filter query => do
    let now := Moment.ofSeconds (← console.outlets.now)
    if (Filter.monitoring.phrases now query).any (leavesCalendar · now) then return .crash
    else return .lines (console.filterLines now query)
  | .complete typed => return .lines (proposalLines typed)
  | .url query => return .lines ["tree:    ".toList ++ (FilterQuery.parse query).display]
  | .acknowledge objects comment =>
    return .lines (← console.operate objects "acknowledgement" (.ok (.acknowledge { comment })))
  | .comment objects comment =>
    return .lines (← console.operate objects "comment" (.ok (.addComment comment)))
  | .check objects => do
    let schedule := CheckSchedule.at? (← console.outlets.now)
    return .lines (← console.operate objects "check" (schedule.map .scheduleCheck))
  | .restart => return .lines (← console.restart)
  | .probe => return .lines (← console.probe)
  | .help => return .lines helpLines
  | .quit => return .quit

/-- **The answer to a line** as it is typed. A blank line has none. -/
def reply [Monad m] (console : Console m) (typed : Text) : m Reply :=
  let line := typed.trim
  if line.isEmpty then return .lines []
  else
    match Instruction.read line with
    | .error e => return .lines [failureLine e.message]
    | .ok instruction => console.carryOut instruction

/-! ## Sessions -/

/-- **How a program ends**: its exit code. -/
abbrev ExitCode := Nat

/-- The program did what it was asked to. -/
def succeeded : ExitCode := 0

/-- The settings cannot be used. -/
def failed : ExitCode := 1

/-- The command line cannot be used. -/
def misused : ExitCode := 2

/-- The program was brought down. -/
def crashed : ExitCode := 101

/-- The answers to some lines, up to the end of the session, and the exit code. -/
def session [Monad m] (console : Console m) : List Text → m (List Text × ExitCode)
  | [] => return ([], succeeded)
  | line :: rest => do
    match ← console.reply line with
    | .lines answers =>
      let (later, code) ← console.session rest
      return (answers ++ later, code)
    | .quit => return ([], succeeded)
    | .crash => return ([], crashed)

/-- The lines about the program's version. -/
def versionLines : List Text := ["monitoring-dispatcher 0.1.0"]

/-- The lines about the program's options. -/
def usageLines : List Text :=
  ["Usage: monitoring-dispatcher [--config <CONFIG>] [--table <TABLE>] [--send] [--verbose]..."]

/-- **What a command line leads to**: an end at once, with some lines, or a console. -/
inductive Start (m : Type → Type) where
  | ends (ls : List Text) (code : ExitCode)
  | opens (console : Console m)

/-- The console for some arguments. Settings that cannot be read count as empty ones. Only a console
that sends commands needs the chain that they describe. -/
def opening [Monad m] (outlets : Outlets m) (arguments : Arguments) : m (Start m) := do
  let settings :=
    match Settings.ofFile arguments.configPath (← outlets.read arguments.configPath) with
    | .ok settings => settings
    | .error _ => {}
  let table := arguments.table
  if arguments.send then
    match settings.chain outlets with
    | .ok chain => return .opens { outlets, settings, table, chain := some chain }
    | .error _ => return .ends [] failed
  else return .opens { outlets, settings, table, chain := none }

/-- **Starting the program.** -/
def start [Monad m] (outlets : Outlets m) (arguments : List Text) : m (Start m) :=
  match Arguments.read arguments with
  | .ok arguments => opening outlets arguments
  | .error .help => return .ends usageLines succeeded
  | .error .version => return .ends versionLines succeeded
  | .error .unusable => return .ends [] misused

/-- **The whole program** on some lines of input: what it says, and how it ends. -/
def run [Monad m] (outlets : Outlets m) (arguments input : List Text) :
    m (List Text × ExitCode) := do
  match ← start outlets arguments with
  | .ends ls code => return (ls, code)
  | .opens console =>
    let (answers, code) ← console.session input
    return (banner :: answers, code)

end Console

end MonitorControl
