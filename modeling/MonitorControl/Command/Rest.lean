/-
Commands as calls of the instance's REST interface.

A command is a short chain of calls, each with an endpoint and data. The data name
the object that is meant, or describe the services of a host. Not every command
has such a form, and some that have one need more than the line needs: a comment
or a downtime is deleted by name.
-/
import MonitorControl.Command.Basic
import MonitorControl.Json.Value

set_option autoImplicit false

namespace MonitorControl

/-! ## Calls -/

/-- **One call**: data that are posted to an endpoint. -/
structure ApiCall where
  endpoint : Text
  data : Json
  deriving BEq, Repr

/-- **A chain of calls** for one operation, at least one, in order. -/
structure ApiChain where
  first : ApiCall
  rest : List ApiCall := []
  deriving BEq, Repr

/-- The calls of a chain. -/
def ApiChain.toList (chain : ApiChain) : List ApiCall := chain.first :: chain.rest

/-! ## Data -/

/-- The entry that names a host or a service. -/
def Target.apiEntry : Target → List (Text × Json)
  | .host h => [("host", .string h)]
  | .service h s => [("service", .string (h ++ '!' :: s))]
  | _ => []

/-- The entries that describe all services of a host. -/
def servicesOfHost (host : Text) : List (Text × Json) :=
  [("type", .string "Service"), ("filter", .string "host.name == host_name"),
    ("filter_vars", .object [("host_name", .string host)])]

/-- The entries for the author and the text of a comment. -/
def Comment.apiEntries (comment : Comment) : List (Text × Json) :=
  [("author", .string comment.author), ("comment", .string comment.content)]

/-- The entries of an acknowledgement. -/
def Acknowledgement.apiEntries (a : Acknowledgement) : List (Text × Json) :=
  let options : List (Text × Json) :=
    [("expiry", a.expire.elim .null Json.natural), ("sticky", .bool a.sticky),
      ("notify", .bool a.notify)]
  a.comment.apiEntries ++ options

/-- The entries of a notification. -/
def CustomNotification.apiEntries (n : CustomNotification) : List (Text × Json) :=
  let options : List (Text × Json) := [("force", .bool n.forced)]
  n.comment.apiEntries ++ options

/-- The entries of a check. -/
def CheckSchedule.apiEntries (schedule : CheckSchedule) : List (Text × Json) :=
  [("next_check", .natural schedule.time), ("force_check", .bool schedule.forced)]

/-- The entries of a downtime. -/
def Downtime.apiEntries (d : Downtime) : List (Text × Json) :=
  let schedule : List (Text × Json) :=
    [("start_time", .natural d.start), ("end_time", .natural d.stop),
      ("duration", .natural d.duration), ("fixed", .bool d.fixed),
      ("trigger_name", .natural d.trigger)]
  d.comment.apiEntries ++ schedule

/-- The attribute that stands for a feature of an object. -/
def ObjectFeature.apiAttribute? : ObjectFeature → Option Text
  | .activeChecks => some "enable_active_checks"
  | .passiveChecks => some "enable_passive_checks"
  | .notifications => some "enable_notifications"
  | .eventHandler => some "enable_event_handler"
  | .flapDetection => some "enable_flapping"
  | .obsessing | .freshnessChecks => none

/-- The attribute that stands for a feature of an instance. -/
def InstanceFeature.apiAttribute? : InstanceFeature → Option Text
  | .activeHostChecks => some "enable_host_checks"
  | .activeServiceChecks => some "enable_service_checks"
  | .eventHandlers => some "enable_event_handlers"
  | .flapDetection => some "enable_flapping"
  | .notifications => some "enable_notifications"
  | .performanceData => some "enable_perfdata"
  | _ => none

/-! ## Chains -/

/-- The kinds of target for which a command may have a chain. -/
def Command.hasApiForm : Command → TargetKind → Bool
  | .deleteAllComments, _ | .delayNotification _, _ | .disableNotifications _ _, _ | .restart, _ =>
    false
  | .switchInstance _, kind => kind == .global
  | _, kind => kind.isObject

/-- One call for a target. -/
def callFor (endpoint : Text) (entries : List (Text × Json)) (target : Target) : ApiChain :=
  ⟨⟨endpoint, .object (entries ++ target.apiEntry)⟩, []⟩

/-- The chain of a check. -/
def CheckSchedule.apiChain (schedule : CheckSchedule) (target : Target) : ApiChain :=
  let endpoint : Text := "actions/reschedule-check"
  match target, schedule.excludeHost with
  | .host host, true => ⟨⟨endpoint, .object (schedule.apiEntries ++ servicesOfHost host)⟩, []⟩
  | _, _ => callFor endpoint schedule.apiEntries target

/-- The chain of a downtime. Without the host, its services follow in a second call. -/
def Downtime.apiChain (d : Downtime) (target : Target) : ApiChain :=
  let endpoint : Text := "actions/schedule-downtime"
  let children : List (Text × Json) :=
    match target, d.children with
    | .host _, some .triggered => [("child_options", .natural 1)]
    | .host _, some .plain => [("child_options", .natural 2)]
    | _, _ => []
  let first := (callFor endpoint (d.apiEntries ++ children) target).first
  match target, d.excludeHost with
  | .host host, true => ⟨first, [⟨endpoint, .object (d.apiEntries ++ servicesOfHost host)⟩]⟩
  | _, _ => ⟨first, []⟩

/-- The chain of a command for a target that it may have one for. `app` is the object that stands
for the whole instance. -/
def Command.apiChain (command : Command) (target : Target) (app : Text) :
    Except CommandError ApiChain :=
  let missing := CommandError.notImplemented command.name target.kind.name
  let invalid := fun fault => Except.error (CommandError.invalidArgument command.name fault)
  match command with
  | .acknowledge a => .ok (callFor "actions/acknowledge-problem" a.apiEntries target)
  | .removeAcknowledgement => .ok (callFor "actions/remove-acknowledgement" [] target)
  | .addComment comment => .ok (callFor "actions/add-comment" comment.apiEntries target)
  | .deleteComment deletion =>
    match deletion.apiName with
    | some name => .ok ⟨⟨"actions/remove-comment", .object [("comment", .string name)]⟩, []⟩
    | none => invalid .commentNameMissing
  | .scheduleCheck schedule => .ok (schedule.apiChain target)
  | .scheduleDowntime d => .ok (d.apiChain target)
  | .deleteDowntime deletion =>
    match deletion.apiName with
    | some name => .ok ⟨⟨"actions/remove-downtime", .object [("downtime", .string name)]⟩, []⟩
    | none => invalid .downtimeNameMissing
  | .customNotification n =>
    .ok (callFor "actions/send-custom-notification" n.apiEntries target)
  | .passiveResult r =>
    .ok (callFor "actions/process-check-result"
      [("exit_status", .natural r.state), ("plugin_output", .string r.output),
        ("performance_data", .string r.performanceData)] target)
  | .switchObject switch =>
    match switch.feature.apiAttribute? with
    | some attr =>
      let endpoint : Text := if target.kind == .host then "objects/hosts" else "objects/services"
      .ok (callFor endpoint [("attrs", .object [(attr, .bool switch.enabled)])] target)
    | none => invalid (.featureWithoutAttribute switch.feature.name)
  | .switchInstance switch =>
    match switch.feature.apiAttribute? with
    | some attr =>
      .ok ⟨⟨"objects/icingaapplications/".toList ++ app,
        .object [("attrs", .object [(attr, .bool switch.enabled)])]⟩, []⟩
    | none => invalid (.featureWithoutAttribute switch.feature.name)
  | .deleteAllComments | .delayNotification _ | .disableNotifications _ _ | .restart =>
    .error missing

/-- **The REST form of a command** for a target. -/
def Command.toApi (command : Command) (target : Target) (app : Text) :
    Except CommandError ApiChain :=
  if command.hasApiForm target.kind then command.apiChain target app
  else .error (.notImplemented command.name target.kind.name)

end MonitorControl
