import Fleet.Module.Spec
import Fleet.Text.Blank

/-!
# Containers

A `ContainerSpec` is all that a runtime needs to create and start a container, a `ContainerSummary`
is what a runtime reports of one.
-/

namespace Fleet

/-- A host port bound to a port inside a container. -/
structure PortBinding where
  hostIp : String
  hostPort : Port
  containerPort : Port
  deriving DecidableEq, Repr

/-- A container to be created. -/
structure ContainerSpec where
  name : String
  hostname : String
  image : String
  /-- The environment, one `KEY=VALUE` per entry. -/
  env : List String
  network : String
  restartPolicy : String
  ports : List PortBinding
  memoryMb : Nat
  cpus : Option Binary64
  labels : Texts
  deriving DecidableEq, Repr

namespace ContainerSpec

/-- The ports inside the container that are published. -/
def exposedPorts (s : ContainerSpec) : List Port := s.ports.map (·.containerPort)

/-- The host ports that the container publishes. -/
def hostPorts (s : ContainerSpec) : List Port := s.ports.map (·.hostPort)

open Json in
/-- Reads a binding. -/
def readBinding? (j : Json) : Option PortBinding := do
  let ms ← j.object?
  pure {
    hostIp := ← required "host_ip" text? ms
    hostPort := ← required "host_port" word16? ms
    containerPort := ← required "container_port" word16? ms }

open Json in
/-- Reads a spec. -/
def read? (j : Json) : Option ContainerSpec := do
  let ms ← j.object?
  pure {
    name := ← required "name" text? ms
    hostname := ← required "hostname" text? ms
    image := ← required "image" text? ms
    env := ← required "env" (list? text?) ms
    network := ← required "network" text? ms
    restartPolicy := ← required "restart_policy" text? ms
    ports := ← required "ports" (list? readBinding?) ms
    memoryMb := ← required "memory_mb" nat32? ms
    cpus := ← optional "cpus" fraction? ms
    labels := ← required "labels" (table? text?) ms }

end ContainerSpec

/-- A container as a runtime reports it. -/
structure ContainerSummary where
  id : String
  name : String
  image : String
  /-- The state in the runtime's words. -/
  state : String
  labels : Texts
  deriving DecidableEq, Repr

/-- Whether the container runs. -/
def ContainerSummary.isRunning (c : ContainerSummary) : Bool :=
  Text.sameIgnoringCase c.state "running"

end Fleet
