import Fleet.Call
import Fleet.Json.Printer

/-!
# Containers that are only kept

A `ContainerStore` answers the calls of a container runtime without running anything. It keeps the
containers by name, so a new one takes the place of an older one of its name, and numbers them as
they are created; no number is given out twice. Creation can be made to fail for chosen names, and
logs and the output of commands are whatever was laid down for a container.
-/

namespace Fleet

/-- A container that is kept. -/
structure HeldContainer where
  id : String
  spec : ContainerSpec
  running : Bool
  deriving DecidableEq, Repr

/-- What a runtime reports of a kept container. -/
def HeldContainer.summary (c : HeldContainer) : ContainerSummary where
  id := c.id
  name := c.spec.name
  image := c.spec.image
  state := if c.running then "running" else "exited"
  labels := c.spec.labels

/-- A runtime that keeps containers and runs none. -/
structure ContainerStore where
  /-- The containers, by name. -/
  containers : Table String HeldContainer := .empty
  /-- The images pulled, in order. -/
  pulls : List String := []
  /-- How many containers have been created. -/
  created : Nat := 0
  /-- The names whose creation fails. -/
  failing : List String := []
  /-- The logs, by container. -/
  logs : Table String String := .empty
  /-- What the next commands in a container answer. -/
  outputs : Table String (List (Outcome String)) := .empty

namespace ContainerStore

instance : Inhabited ContainerStore := ⟨{}⟩

/-- Hexadecimal digits of a number, at least `width` of them. -/
def hexDigits (width n : Nat) : List Char :=
  let ds := Nat.toDigits 16 n
  List.replicate (width - ds.length) '0' ++ ds

/-- The id of the container with a number. -/
def idOf (number : Nat) : String := "mem-" ++ String.ofList (hexDigits 12 number)

/-- Makes the creation of a name fail. -/
def failOn (s : ContainerStore) (name : String) : ContainerStore :=
  { s with failing := name :: s.failing }

/-- Lays down the log of a container. -/
def setLogs (s : ContainerStore) (name text : String) : ContainerStore :=
  { s with logs := s.logs.insert name text }

/-- Lays down what a command in a container answers, behind what is laid down already. -/
def pushOutput (s : ContainerStore) (name : String) (output : Outcome String) : ContainerStore :=
  { s with outputs := s.outputs.insert name ((s.outputs.find? name).getD [] ++ [output]) }

/-- Creates a container. -/
def create (s : ContainerStore) (spec : ContainerSpec) : Outcome String × ContainerStore :=
  if s.failing.contains spec.name then (.error (.runtime (.creationFailed spec.name)), s)
  else
    let id := idOf (s.created + 1)
    (.ok id,
      { s with
        created := s.created + 1
        containers := s.containers.insert spec.name ⟨id, spec, true⟩ })

/-- Whether a container with an id is kept. -/
def holds (s : ContainerStore) (id : String) : Bool := s.containers.values.any fun c => c.id == id

/-- Stops the container with an id. -/
def stop (s : ContainerStore) (id : String) : Outcome Unit × ContainerStore :=
  if s.holds id then
    (.ok (), { s with containers :=
      s.containers.mapValues fun _ c => if c.id == id then { c with running := false } else c })
  else (.error (.runtime (.noSuchContainer id)), s)

/-- Removes the container with an id. -/
def remove (s : ContainerStore) (id : String) : Outcome Unit × ContainerStore :=
  if s.holds id then
    (.ok (), { s with containers := s.containers.filter fun _ c => c.id != id })
  else (.error (.runtime (.noSuchContainer id)), s)

/-- The containers whose name contains a pattern, in name order. -/
def list (s : ContainerStore) (pattern : String) : List ContainerSummary :=
  (s.containers.values.filter fun c => Text.contains c.spec.name pattern).map HeldContainer.summary

/-- The log of a container. -/
def log (s : ContainerStore) (name : String) : Outcome String :=
  match s.logs.find? name with
  | some text => .ok text
  | none => .error (.runtime (.noSuchContainer name))

/-- Takes the next output of a container. -/
def exec (s : ContainerStore) (name : String) : Outcome String × ContainerStore :=
  match s.outputs.find? name with
  | some (output :: rest) => (output, { s with outputs := s.outputs.insert name rest })
  | _ => (.error (.runtime (.noExecOutput name)), s)

/-- Answers the calls of a container runtime. -/
def handler : Handler RuntimeCall.Answer ContainerStore
  | .pull image _, s => (.ok (), { s with pulls := s.pulls ++ [image] })
  | .create spec, s => s.create spec
  | .stop id, s => s.stop id
  | .remove id, s => s.remove id
  | .list pattern, s => (.ok (s.list pattern), s)
  | .logs name, s => (s.log name, s)
  | .exec name _, s => s.exec name

end ContainerStore

end Fleet
