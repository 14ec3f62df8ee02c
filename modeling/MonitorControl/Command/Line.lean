/-
Commands as lines: `ACKNOWLEDGE_HOST_PROBLEM;web1;2;1;1;me;looking`.

A line is a command word, the names of the target and the arguments, with
semicolons between them. The word depends on the command, on its options and on
the kind of target. A command file takes one line per command, with the time in
front and with line breaks inside the line escaped.
-/
import MonitorControl.Command.Basic

set_option autoImplicit false

namespace MonitorControl

/-! ## Arguments -/

/-- A flag in a line. -/
def flagText (b : Bool) : Text := if b then ['1'] else ['0']

/-- **The arguments of a command**, in the order of the line. -/
def Command.arguments : Command → List Text
  | .acknowledge a =>
    [if a.sticky then ['2'] else ['0'], flagText a.notify, flagText a.comment.persistent] ++
      a.expire.toList.map Text.ofNat ++ [a.comment.author, a.comment.content]
  | .addComment comment => [flagText comment.persistent, comment.author, comment.content]
  | .deleteComment deletion | .deleteDowntime deletion => [Text.ofNat deletion.id]
  | .scheduleCheck schedule => [Text.ofNat schedule.time]
  | .scheduleDowntime d =>
    [Text.ofNat d.start, Text.ofNat d.stop, flagText d.fixed, Text.ofNat d.trigger,
      Text.ofNat d.duration, d.comment.author, d.comment.content]
  | .customNotification n =>
    [Text.ofNat ((if n.forced then 2 else 0) + (if n.broadcast then 1 else 0)), n.comment.author,
      n.comment.content]
  | .delayNotification seconds => [Text.ofNat seconds]
  | .passiveResult r =>
    [Text.ofNat r.state,
      if r.performanceData.isEmpty then r.output else r.output ++ '|' :: r.performanceData]
  | .disableNotifications issued expire => [Text.ofNat issued, Text.ofNat expire]
  | .removeAcknowledgement | .deleteAllComments | .switchObject _ | .switchInstance _ | .restart => []

/-! ## Command words -/

/-- The word for a kind of object in a command word. -/
def objectWord? : TargetKind → Option Text
  | .host => some "HOST"
  | .service => some "SVC"
  | _ => none

/-- The verb of a switch. -/
def enableWord (enabled : Bool) : Text := if enabled then "ENABLE" else "DISABLE"

/-- The verb of a switch for what runs or does not. -/
def startWord (enabled : Bool) : Text := if enabled then "START" else "STOP"

/-- The word that switches a feature of an object. -/
def ObjectSwitch.objectCommand (switch : ObjectSwitch) (object : Text) : Text :=
  let enable := enableWord switch.enabled ++ ['_']
  match switch.feature with
  | .activeChecks => enable ++ object ++ "_CHECK".toList
  | .passiveChecks => enable ++ "PASSIVE_".toList ++ object ++ "_CHECKS".toList
  | .obsessing => startWord switch.enabled ++ "_OBSESSING_OVER_".toList ++ object
  | .notifications => enable ++ object ++ "_NOTIFICATIONS".toList
  | .eventHandler => enable ++ object ++ "_EVENT_HANDLER".toList
  | .flapDetection => enable ++ object ++ "_FLAP_DETECTION".toList
  | .freshnessChecks => enable ++ object ++ "_FRESHNESS_CHECKS".toList

/-- The word that switches a feature of the members of a group, if the feature has one. -/
def ObjectSwitch.groupCommand? (switch : ObjectSwitch) (group : Text) (usual : GroupMembers) :
    Option Text :=
  let members : Text :=
    match switch.members.getD usual with
    | .hosts => "HOST"
    | .services => "SVC"
  let word := fun (what : Text) =>
    enableWord switch.enabled ++ '_' :: group ++ '_' :: members ++ '_' :: what
  match switch.feature with
  | .activeChecks => some (word "CHECKS")
  | .notifications => some (word "NOTIFICATIONS")
  | _ => none

/-- The word that switches a feature of an instance. -/
def InstanceSwitch.command (switch : InstanceSwitch) : Text :=
  let enable := enableWord switch.enabled
  let start := startWord switch.enabled
  match switch.feature with
  | .activeHostChecks => start ++ "_EXECUTING_HOST_CHECKS".toList
  | .activeServiceChecks => start ++ "_EXECUTING_SVC_CHECKS".toList
  | .hostObsessing => start ++ "_OBSESSING_OVER_HOST_CHECKS".toList
  | .serviceObsessing => start ++ "_OBSESSING_OVER_SVC_CHECKS".toList
  | .passiveHostChecks => start ++ "_ACCEPTING_PASSIVE_HOST_CHECKS".toList
  | .passiveServiceChecks => start ++ "_ACCEPTING_PASSIVE_SVC_CHECKS".toList
  | .eventHandlers => enable ++ "_EVENT_HANDLERS".toList
  | .flapDetection => enable ++ "_FLAP_DETECTION".toList
  | .notifications => enable ++ "_NOTIFICATIONS".toList
  | .performanceData => enable ++ "_PERFORMANCE_DATA".toList

/-- The word that schedules a downtime for a kind of target. -/
def Downtime.command? (d : Downtime) : TargetKind → Option Text
  | .host =>
    match d.children with
    | some .triggered => some "SCHEDULE_AND_PROPAGATE_TRIGGERED_HOST_DOWNTIME"
    | some .plain => some "SCHEDULE_AND_PROPAGATE_HOST_DOWNTIME"
    | none =>
      if d.excludeHost then some "SCHEDULE_HOST_SVC_DOWNTIME" else some "SCHEDULE_HOST_DOWNTIME"
  | .service => some "SCHEDULE_SVC_DOWNTIME"
  | .hostgroup =>
    if d.excludeHost then some "SCHEDULE_HOSTGROUP_SVC_DOWNTIME"
    else some "SCHEDULE_HOSTGROUP_HOST_DOWNTIME"
  | .servicegroup =>
    if d.excludeServices then some "SCHEDULE_SERVICEGROUP_HOST_DOWNTIME"
    else some "SCHEDULE_SERVICEGROUP_SVC_DOWNTIME"
  | .global => none

/-- **The command word** for a kind of target, if the command has one. -/
def Command.word? (command : Command) (kind : TargetKind) : Option Text :=
  match command with
  | .acknowledge a =>
    let ending : Text := if a.expire.isSome then "_PROBLEM_EXPIRE" else "_PROBLEM"
    (objectWord? kind).map fun object => "ACKNOWLEDGE_".toList ++ object ++ ending
  | .removeAcknowledgement =>
    (objectWord? kind).map fun object => "REMOVE_".toList ++ object ++ "_ACKNOWLEDGEMENT".toList
  | .addComment _ => (objectWord? kind).map fun object => "ADD_".toList ++ object ++ "_COMMENT".toList
  | .deleteComment _ =>
    (objectWord? kind).map fun object => "DEL_".toList ++ object ++ "_COMMENT".toList
  | .deleteAllComments =>
    (objectWord? kind).map fun object => "DEL_ALL_".toList ++ object ++ "_COMMENTS".toList
  | .scheduleCheck schedule =>
    let verb : Text := if schedule.forced then "SCHEDULE_FORCED" else "SCHEDULE"
    match kind with
    | .host =>
      some (verb ++ if schedule.excludeHost then "_HOST_SVC_CHECKS".toList else "_HOST_CHECK".toList)
    | .service => some (verb ++ "_SVC_CHECK".toList)
    | _ => none
  | .scheduleDowntime d => d.command? kind
  | .deleteDowntime _ =>
    (objectWord? kind).map fun object => "DEL_".toList ++ object ++ "_DOWNTIME".toList
  | .customNotification _ =>
    (objectWord? kind).map fun object => "SEND_CUSTOM_".toList ++ object ++ "_NOTIFICATION".toList
  | .delayNotification _ =>
    (objectWord? kind).map fun object => "DELAY_".toList ++ object ++ "_NOTIFICATION".toList
  | .passiveResult _ =>
    match kind with
    | .host => some "PROCESS_HOST_CHECK_RESULT"
    | .service => some "PROCESS_SERVICE_CHECK_RESULT"
    | _ => none
  | .switchObject switch =>
    match kind with
    | .hostgroup => switch.groupCommand? "HOSTGROUP" .hosts
    | .servicegroup => switch.groupCommand? "SERVICEGROUP" .services
    | kind => (objectWord? kind).map switch.objectCommand
  | .switchInstance switch => if kind == .global then some switch.command else none
  | .disableNotifications _ _ =>
    if kind == .global then some "DISABLE_NOTIFICATIONS_EXPIRE_TIME" else none
  | .restart => if kind == .global then some "RESTART_PROCESS" else none

/-! ## Lines -/

/-- **A line**: the word, the names and the arguments, each after a semicolon. -/
def pipeLine (word : Text) (names arguments : List Text) : Text :=
  word ++ (names ++ arguments).flatMap (';' :: ·)

/-- What a command is said not to provide for a kind that it has no word for: switches of object
features speak of groups as one kind. -/
def Command.missingForm (command : Command) (kind : TargetKind) : Text :=
  match command with
  | .switchObject _ => if kind.isGroup then "group" else kind.name
  | _ => kind.name

/-- The line of a command for a target, by the word for its kind alone. -/
def Command.lineFor (command : Command) (target : Target) : Except CommandError Text :=
  match command.word? target.kind with
  | some word => .ok (pipeLine word target.names command.arguments)
  | none => .error (.notImplemented command.name (command.missingForm target.kind))

/-- **Rendering** a command for a target that it supports. -/
def Command.render (command : Command) (target : Target) : Except CommandError Text :=
  if command.supports target.kind then command.lineFor target
  else .error (.notImplemented command.name target.kind.name)

/-! ## Framing -/

/-- What a character of a line is in a command file: line breaks are escaped. -/
def escapeLineBreak (c : Char) : Text :=
  if c == '\r' then ['\\', 'r'] else if c == '\n' then ['\\', 'n'] else [c]

/-- **A line in a command file**: `[time] line`, on one line. -/
def fileLine (line : Text) (now : Int) : Text :=
  '[' :: Text.ofInt now ++ "] ".toList ++ line.flatMap escapeLineBreak

end MonitorControl
