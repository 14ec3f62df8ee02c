/-
External commands of a monitoring instance, and how they are made.

A time, a delay or a length of time in a command is a natural number: a negative
one is refused where the command is made, and so is a downtime that ends before
it starts. What a command looks like on its way to an instance is in
`MonitorControl.Command.Line` and `MonitorControl.Command.Rest`.
-/
import MonitorControl.Command.Target
import MonitorControl.Text.Integer

set_option autoImplicit false

namespace MonitorControl

/-! ## Errors -/

/-- **What is wrong with an argument.** -/
inductive ArgumentFault where
  | negative (what : Text) (value : Int)
  | endBeforeStart (stop start : Nat)
  /-- Only the number of a comment is known, and the other side wants its name. -/
  | commentNameMissing
  /-- Only the number of a downtime is known, and the other side wants its name. -/
  | downtimeNameMissing
  /-- No attribute of the object model stands for the feature. -/
  | featureWithoutAttribute (feature : Text)
  deriving DecidableEq, Repr

/-- The text of a fault. -/
def ArgumentFault.message : ArgumentFault → Text
  | .negative what value => what ++ " must not be negative, got ".toList ++ Text.ofInt value
  | .endBeforeStart stop start =>
    "end time ".toList ++ Text.ofNat stop ++ " is before start time ".toList ++ Text.ofNat start
  | .commentNameMissing => "the API needs the comment name"
  | .downtimeNameMissing => "the API needs the downtime name"
  | .featureWithoutAttribute feature => feature ++ " has no API attribute".toList

/-- **Why a command cannot be made or written.** -/
inductive CommandError where
  | notImplemented (command target : Text)
  | invalidArgument (command : Text) (fault : ArgumentFault)
  deriving DecidableEq, Repr

/-- The text of an error. -/
def CommandError.message : CommandError → Text
  | .notImplemented command target =>
    command ++ " does not provide a ".toList ++ target ++ " command".toList
  | .invalidArgument command fault =>
    "invalid argument for ".toList ++ command ++ ": ".toList ++ fault.message

/-- **A number that must not be negative.** -/
def nonNegative (command what : Text) : Int → Except CommandError Nat
  | .ofNat n => .ok n
  | .negSucc n => .error (.invalidArgument command (.negative what (.negSucc n)))

/-! ## Comments and problems -/

/-- **A comment** with its author. A persistent comment outlives a restart of the instance. -/
structure Comment where
  author : Text
  content : Text
  persistent : Bool := false
  deriving DecidableEq, Repr

/-- **The acknowledgement of a problem.** -/
structure Acknowledgement where
  comment : Comment
  /-- It lasts until the object recovers, not only until its next change of state. -/
  sticky : Bool := false
  notify : Bool := false
  /-- It ends at this time. -/
  expire : Option Nat := none
  deriving DecidableEq, Repr

namespace Acknowledgement

/-- The name of the command in messages. -/
def commandName : Text := "AcknowledgeCommand"

/-- The acknowledgement that ends at a time. -/
def expireAt (a : Acknowledgement) (time : Int) : Except CommandError Acknowledgement := do
  return { a with expire := some (← nonNegative commandName "expire time" time) }

end Acknowledgement

/-- **What is deleted**: a comment or a downtime, by its number, and by its name if that is known. -/
structure Deletion where
  id : Nat
  apiName : Option Text := none
  deriving DecidableEq, Repr

/-! ## Checks and downtimes -/

/-- **The next check of an object.** -/
structure CheckSchedule where
  time : Nat
  /-- Check even where checks are switched off or it is not the time for them. -/
  forced : Bool := false
  /-- For a host: check its services and not the host. -/
  excludeHost : Bool := false
  deriving DecidableEq, Repr

namespace CheckSchedule

/-- The name of the command in messages. -/
def commandName : Text := "ScheduleCheckCommand"

/-- A check at a time. -/
def at? (time : Int) : Except CommandError CheckSchedule := do
  return { time := ← nonNegative commandName "check time" time }

end CheckSchedule

/-- How the downtime of a host reaches its children. -/
inductive ChildPropagation where
  /-- Every child gets a downtime of its own. -/
  | plain
  /-- The downtime of the host starts those of its children. -/
  | triggered
  deriving DecidableEq, Repr

/-- **A downtime** of an object or of the members of a group. -/
structure Downtime where
  comment : Comment
  start : Nat
  stop : Nat
  start_le_stop : start ≤ stop
  /-- It lasts from start to end; else for `duration` seconds from some point in between. -/
  fixed : Bool := true
  /-- The number of the downtime that starts this one; 0 for none. -/
  trigger : Nat := 0
  duration : Nat := 0
  excludeHost : Bool := false
  excludeServices : Bool := false
  children : Option ChildPropagation := none
  deriving DecidableEq, Repr

namespace Downtime

/-- The name of the command in messages. -/
def commandName : Text := "ScheduleDowntimeCommand"

/-- **A fixed downtime from `start` to `stop`.** -/
def between (comment : Comment) (start stop : Int) : Except CommandError Downtime := do
  let first ← nonNegative commandName "start time" start
  let last ← nonNegative commandName "end time" stop
  if h : first ≤ last then return { comment, start := first, stop := last, start_le_stop := h }
  else throw (.invalidArgument commandName (.endBeforeStart last first))

/-- The downtime that lasts for some seconds once it has begun. -/
def lasting (d : Downtime) (seconds : Int) : Except CommandError Downtime := do
  return { d with duration := ← nonNegative commandName "duration" seconds }

end Downtime

/-! ## Notifications and results -/

/-- **A notification with a text of one's own.** -/
structure CustomNotification where
  comment : Comment
  /-- Send even where notifications are switched off or it is not the time for them. -/
  forced : Bool := false
  /-- Send to all contacts and not only to those who would be notified. -/
  broadcast : Bool := false
  deriving DecidableEq, Repr

/-- **The result of a check** that the instance did not run itself. -/
structure PassiveResult where
  state : Nat
  output : Text
  performanceData : Text := []
  deriving DecidableEq, Repr

/-! ## Features -/

/-- **A feature of an object** that can be switched on and off. -/
inductive ObjectFeature where
  | activeChecks
  | passiveChecks
  | obsessing
  | notifications
  | eventHandler
  | flapDetection
  | freshnessChecks
  deriving DecidableEq, Repr

namespace ObjectFeature

/-- All features. -/
def all : List ObjectFeature :=
  [.activeChecks, .passiveChecks, .obsessing, .notifications, .eventHandler, .flapDetection,
    .freshnessChecks]

/-- The name of a feature. -/
def name : ObjectFeature → Text
  | .activeChecks => "ActiveChecks"
  | .passiveChecks => "PassiveChecks"
  | .obsessing => "Obsessing"
  | .notifications => "Notifications"
  | .eventHandler => "EventHandler"
  | .flapDetection => "FlapDetection"
  | .freshnessChecks => "FreshnessChecks"

/-- The feature can be switched for all members of a group at once. -/
def hasGroupForm : ObjectFeature → Bool
  | .activeChecks | .notifications => true
  | _ => false

end ObjectFeature

/-- The members of a group that a switch is for. -/
inductive GroupMembers where
  | hosts
  | services
  deriving DecidableEq, Repr

/-- **The switch of a feature** of an object. Without a choice, a group of hosts stands for its hosts
and a group of services for its services. -/
structure ObjectSwitch where
  feature : ObjectFeature
  enabled : Bool
  members : Option GroupMembers := none
  deriving DecidableEq, Repr

/-- **A feature of a whole instance** that can be switched on and off. -/
inductive InstanceFeature where
  | activeHostChecks
  | activeServiceChecks
  | hostObsessing
  | serviceObsessing
  | passiveHostChecks
  | passiveServiceChecks
  | eventHandlers
  | flapDetection
  | notifications
  | performanceData
  deriving DecidableEq, Repr

namespace InstanceFeature

/-- All features. -/
def all : List InstanceFeature :=
  [.activeHostChecks, .activeServiceChecks, .hostObsessing, .serviceObsessing, .passiveHostChecks,
    .passiveServiceChecks, .eventHandlers, .flapDetection, .notifications, .performanceData]

/-- The name of a feature. -/
def name : InstanceFeature → Text
  | .activeHostChecks => "ActiveHostChecks"
  | .activeServiceChecks => "ActiveServiceChecks"
  | .hostObsessing => "HostObsessing"
  | .serviceObsessing => "ServiceObsessing"
  | .passiveHostChecks => "PassiveHostChecks"
  | .passiveServiceChecks => "PassiveServiceChecks"
  | .eventHandlers => "EventHandlers"
  | .flapDetection => "FlapDetection"
  | .notifications => "Notifications"
  | .performanceData => "PerformanceData"

end InstanceFeature

/-- **The switch of a feature** of a whole instance. -/
structure InstanceSwitch where
  feature : InstanceFeature
  enabled : Bool
  deriving DecidableEq, Repr

/-! ## Commands -/

/-- **A command.** -/
inductive Command where
  | acknowledge (a : Acknowledgement)
  | removeAcknowledgement
  | addComment (comment : Comment)
  | deleteComment (deletion : Deletion)
  | deleteAllComments
  | scheduleCheck (schedule : CheckSchedule)
  | scheduleDowntime (downtime : Downtime)
  | deleteDowntime (deletion : Deletion)
  | customNotification (notification : CustomNotification)
  | delayNotification (seconds : Nat)
  | passiveResult (result : PassiveResult)
  | switchObject (switch : ObjectSwitch)
  | switchInstance (switch : InstanceSwitch)
  | disableNotifications (issued expire : Nat)
  | restart
  deriving DecidableEq, Repr

namespace Command

/-- **The name of a command** in messages. -/
def name : Command → Text
  | .acknowledge _ => Acknowledgement.commandName
  | .removeAcknowledgement => "RemoveAcknowledgementCommand"
  | .addComment _ => "AddCommentCommand"
  | .deleteComment _ => "DeleteCommentCommand"
  | .deleteAllComments => "DeleteAllCommentsCommand"
  | .scheduleCheck _ => CheckSchedule.commandName
  | .scheduleDowntime _ => Downtime.commandName
  | .deleteDowntime _ => "DeleteDowntimeCommand"
  | .customNotification _ => "CustomNotificationCommand"
  | .delayNotification _ => "DelayNotificationCommand"
  | .passiveResult _ => "SubmitPassiveCheckResultCommand"
  | .switchObject _ => "ToggleObjectFeatureCommand"
  | .switchInstance _ => "ToggleInstanceFeatureCommand"
  | .disableNotifications _ _ => "DisableNotificationsExpireCommand"
  | .restart => "RestartProcessCommand"

/-- The command that puts off the next notification. -/
def delayNotificationBy (seconds : Int) : Except CommandError Command := do
  return .delayNotification (← nonNegative "DelayNotificationCommand" "delay" seconds)

/-- The command that switches notifications off until a time. -/
def disableNotificationsUntil (issued expire : Int) : Except CommandError Command := do
  let name : Text := "DisableNotificationsExpireCommand"
  let first ← nonNegative name "issue time" issued
  let last ← nonNegative name "expire time" expire
  return .disableNotifications first last

/-- **Capabilities**: the kinds of target that a command can be given. -/
def supports : Command → TargetKind → Bool
  | .scheduleDowntime _, kind => kind.isObject || kind.isGroup
  | .switchObject switch, kind => kind.isObject || (switch.feature.hasGroupForm && kind.isGroup)
  | .switchInstance _, kind | .disableNotifications _ _, kind | .restart, kind => kind == .global
  | _, kind => kind.isObject

end Command

end MonitorControl
