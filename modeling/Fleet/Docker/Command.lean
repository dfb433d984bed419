import Fleet.Call
import Fleet.Decimal.Shortest
import Fleet.Machine

/-!
# Docker's command line

The arguments of the docker commands in use. `runArguments` writes a whole container: labels in key
order, environment and ports in the order of the spec.
-/

namespace Fleet.Docker

/-- Docker's program, and after how many milliseconds its commands are given up. -/
structure Client where
  program : String
  patience : Nat
  deriving DecidableEq, Repr

/-- The client of a description. -/
def Client.ofConfig (r : Config.Runtime) : Client := ⟨r.dockerBinary, 1000 * r.commandTimeoutSecs⟩

/-- Logs in to a registry; the password is read from the input. -/
def loginArguments (a : Config.RegistryAuth) : List String :=
  ["login", "--username", a.username, "--password-stdin"] ++
    if a.server.isEmpty then [] else [a.server]

/-- Pulls an image. -/
def pullArguments (image : String) : List String := ["pull", "--quiet", image]

/-- Removes a container, running or not. -/
def clearArguments (name : String) : List String := ["rm", "--force", name]

/-- The share of processors. -/
def cpuArguments : Option Binary64 → List String
  | none => []
  | some c => ["--cpus", c.positional]

/-- A published port. -/
def portArguments (b : PortBinding) : List String :=
  ["--expose", toString b.containerPort, "--publish",
    b.hostIp ++ ":" ++ toString b.hostPort ++ ":" ++ toString b.containerPort]

/-- A label. -/
def labelArguments (label : String × String) : List String :=
  ["--label", label.1 ++ "=" ++ label.2]

/-- An entry of the environment. -/
def envArguments (entry : String) : List String := ["--env", entry]

/-- Creates and starts a container. -/
def runArguments (s : ContainerSpec) : List String :=
  ["run", "--detach", "--name", s.name, "--hostname", s.hostname, "--network", s.network,
    "--restart", s.restartPolicy, "--memory", toString s.memoryMb ++ "m"] ++
    cpuArguments s.cpus ++ s.ports.flatMap portArguments ++
    s.labels.entries.flatMap labelArguments ++ s.env.flatMap envArguments ++ [s.image]

/-- Stops a container. -/
def stopArguments (id : String) : List String := ["stop", id]

/-- Removes a container with its volumes. -/
def removeArguments (id : String) : List String := ["rm", "--volumes", id]

/-- Lists containers, one JSON object per line. -/
def listArguments (pattern : String) : List String :=
  ["ps", "--all", "--filter", "name=" ++ pattern, "--format", "\x7b\x7bjson .\x7d\x7d"]

/-- Shows the log of a container. -/
def logsArguments (name : String) : List String := ["logs", name]

/-- Runs a command in a container. -/
def execArguments (name : String) (command : List String) : List String :=
  ["exec", name] ++ command

end Fleet.Docker
