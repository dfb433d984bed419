import Fleet.Call
import Fleet.Container.Pair
import Fleet.Readiness
import Fleet.View.Module

/-!
# Views of services

What a machine reader is shown of containers, tenants, applications, consumer groups and readiness.
-/

namespace Fleet

open Json

/-- A binding of a host port. -/
def PortBinding.view (b : PortBinding) : Json :=
  .object [("host_ip", .string b.hostIp), ("host_port", ofWord16 b.hostPort),
    ("container_port", ofWord16 b.containerPort)]

/-- A container to be created. -/
def ContainerSpec.view (s : ContainerSpec) : Json :=
  .object [("name", .string s.name), ("hostname", .string s.hostname), ("image", .string s.image),
    ("env", ofTexts s.env), ("network", .string s.network),
    ("restart_policy", .string s.restartPolicy), ("ports", ofList PortBinding.view s.ports),
    ("memory_mb", ofNat s.memoryMb), ("cpus", viewCpus s.cpus), ("labels", s.labels.view),
    ("exposed_ports", ofList ofWord16 s.exposedPorts)]

/-- A container as a runtime reports it, with the module that its labels name. -/
def ContainerSummary.view (c : ContainerSummary) : Json :=
  .object [("id", .string c.id), ("name", .string c.name), ("image", .string c.image),
    ("state", .string c.state), ("labels", c.labels.view), ("is_running", .bool c.isRunning),
    ("module", ofText? (c.labels.find? Label.module))]

/-- A container in a listing. -/
def ContainerSummary.viewRow (c : ContainerSummary) : Json :=
  .array [.string c.name, .string c.image, .string c.state, c.labels.view]

/-- A tenant as the management service knows it. -/
def TenantRecord.view (t : TenantRecord) : Json :=
  .object [("id", .string t.id), ("name", .string t.name), ("description", .string t.description)]

/-- The state of a consumer group. -/
def GroupState.view (s : GroupState) : Json :=
  .object [("members", ofNat s.members), ("rebalancing", .bool s.rebalancing),
    ("quiescent", .bool s.isQuiescent)]

/-- How the probing of a port ended. -/
def PortOutcome.view : PortOutcome → Json
  | .ready n => .object [("ready", ofNat n)]
  | .timedOut n e => .object [("timed_out", ofNat n), ("last_error", .string e)]

/-- A report, in one line and in full. -/
def ReadinessReport.view (r : ReadinessReport) : Json :=
  .object [("display", .string r.text), ("unready", ofTexts r.unready),
    ("records", ofNamed (ofTable toString PortOutcome.view) r.records)]

end Fleet
