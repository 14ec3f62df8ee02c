/-
Monitored objects: the hosts and services that a console or a list names.
-/
import MonitorControl.Command.Target
import MonitorControl.Json.Record

set_option autoImplicit false

namespace MonitorControl

/-- **A monitored object**: a host, or a service on a host, and the instance that monitors it. -/
structure MonitoredObject where
  host : Text
  service : Option Text := none
  monitor : Option Text := none
  deriving DecidableEq, Repr

namespace MonitoredObject

/-- The object is a service. -/
def isService (object : MonitoredObject) : Bool := object.service.isSome

/-- The target of commands for an object. -/
def target (object : MonitoredObject) : Target :=
  match object.service with
  | some service => .service object.host service
  | none => .host object.host

/-! ## Reading -/

/-- The fields of an object in JSON. Each has a plain name and names with a prefix or a suffix. -/
def fieldNames : List (List Text) :=
  [["host_name", "host", "hostname"], ["service_description", "service", "service_name"],
    ["instance", "instance_name"]]

/-- An object as a JSON record. -/
def ofJson? (record : JsonSyntax) : Option MonitoredObject := do
  match ← record.fields? fieldNames with
  | [host, service, monitor] =>
    return {
      host := ← JsonSyntax.required? JsonSyntax.text? host
      service := ← JsonSyntax.optional? JsonSyntax.text? service
      monitor := ← JsonSyntax.optional? JsonSyntax.text? monitor }
  | _ => none

/-- **An object from JSON text.** -/
def read? (t : Text) : Option MonitoredObject := JsonSyntax.read? t >>= ofJson?

end MonitoredObject

end MonitorControl
