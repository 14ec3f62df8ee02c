/-
What a command is for: a host, a service, a group of either, or a whole instance.
-/
import MonitorControl.Text.Basic

set_option autoImplicit false

namespace MonitorControl

/-! ## Kinds -/

/-- **The kind of a target.** -/
inductive TargetKind where
  | host
  | service
  | hostgroup
  | servicegroup
  | global
  deriving DecidableEq, Repr

namespace TargetKind

/-- The name of a kind in messages. -/
def name : TargetKind → Text
  | .host => "host"
  | .service => "service"
  | .hostgroup => "hostgroup"
  | .servicegroup => "servicegroup"
  | .global => "global"

/-- Hosts and services. -/
def isObject : TargetKind → Bool
  | .host | .service => true
  | _ => false

/-- Groups of hosts and groups of services. -/
def isGroup : TargetKind → Bool
  | .hostgroup | .servicegroup => true
  | _ => false

end TargetKind

/-! ## Targets -/

/-- **A target** of a command. -/
inductive Target where
  | host (host : Text)
  | service (host service : Text)
  | hostgroup (group : Text)
  | servicegroup (group : Text)
  | global (instance? : Option Text)
  deriving DecidableEq, Repr

namespace Target

/-- The kind of a target. -/
def kind : Target → TargetKind
  | .host _ => .host
  | .service _ _ => .service
  | .hostgroup _ => .hostgroup
  | .servicegroup _ => .servicegroup
  | .global _ => .global

/-- **The names that a line gives for a target**: the host, the host and the service, the group, or
none for a whole instance. -/
def names : Target → List Text
  | .host h => [h]
  | .service h s => [h, s]
  | .hostgroup g | .servicegroup g => [g]
  | .global _ => []

/-- The text of a target in messages. -/
def display : Target → Text
  | .host h => h
  | .service h s => h ++ '!' :: s
  | .hostgroup g | .servicegroup g => g
  | .global (some name) => name
  | .global none => "global"

end Target

end MonitorControl
