/-
The filter for a monitoring system: hosts and services, hosts by default.
-/
import MonitorControl.Filter

set_option autoImplicit false

namespace MonitorControl

open Text

namespace Domain

/-- The flags of a host. -/
def hostFlags : FlagTable :=
  { flags :=
      [("host_is_flapping", "Flapping"), ("host_problem", "In Problem State"),
        ("host_notifications_enabled", "Sending Notifications"),
        ("host_active_checks_enabled", "Active"),
        ("host_passive_checks_enabled", "Accepting Passive Checks"), ("host_handled", "Handled"),
        ("host_in_downtime", "In Downtime")] }

/-- The flags of a service, and whether its host is in downtime. -/
def serviceFlags : FlagTable :=
  { flags :=
      [("service_is_flapping", "Flapping"), ("service_problem", "In Problem State"),
        ("service_notifications_enabled", "Sending Notifications"),
        ("service_active_checks_enabled", "Active"),
        ("service_passive_checks_enabled", "Accepting Passive Checks"),
        ("service_handled", "Handled"), ("service_in_downtime", "In Downtime"),
        ("host_in_downtime", "In Host Downtime")] }

/-- **Hosts.** -/
def host : Domain :=
  .make "Host"
    [.make .text ["Hostname", "Host", "Name"] (some "host_name"),
      .make (.state .host) [] (some "host_state"),
      .make (.flag hostFlags) [] none,
      .make (.time .lastCheck) ["Last Check", "Check"] (some "host_last_check"),
      .make (.time .nextCheck) ["Next Check"] (some "host_next_check")]

/-- **Services.** -/
def service : Domain :=
  .make "Service"
    [.make .text ["Servicename", "Name"] (some "service_description"),
      .make (.state .service) [] (some "service_state"),
      .make (.state .host) ["Host"] (some "host_state"),
      .make (.flag serviceFlags) [] none,
      .make (.time .lastCheck) ["Last Check", "Check"] (some "service_last_check"),
      .make (.time .nextCheck) ["Next Check"] (some "service_next_check"),
      .make .text ["Hostname", "Host"] (some "host_name")]

end Domain

/-- **The monitoring filter**: hosts and services; a segment that names neither is about hosts. -/
def Filter.monitoring : Filter := { domains := [.host, .service] }

end MonitorControl
