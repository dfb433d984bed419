import Fleet.Call
import Fleet.Container.Pair
import Fleet.Container.Pass

/-!
# Deployment and removal of a pass

A pass starts its module containers one after another, in name order, and then the sidecars of the
modules, in the same order. The first module that fails ends the pass before any sidecar is started;
all sidecars are tried, and the first that failed is reported.

A pass is removed by what its containers carry: a name with the profile's stem, and the labels of
profile and pass.
-/

namespace Fleet.Deployment

/-- Starts the container of a module; its image is pulled first, unless it is a local one. -/
def startModule (b : Blueprint) (d : Descriptor) : Action Unit := do
  unless d.localImage do
    Action.ensureImage d.image b.auth
  let _ ← Action.createContainer (b.moduleSpec d)

/-- Starts the containers of modules in their order, and answers the sidecars that are to follow. -/
def startModules (b : Blueprint) : List Descriptor → Action (List ContainerSpec)
  | [] => pure []
  | d :: rest => do
    startModule b d
    let sidecars ← startModules b rest
    pure ((b.sidecarSpec? d).toList ++ sidecars)

/-- Starts a sidecar. -/
def startSidecar (b : Blueprint) (spec : ContainerSpec) : Action Unit := do
  Action.ensureImage spec.image b.auth
  let _ ← Action.createContainer spec

/-- Starts sidecars in their order, all of them; the first failure is the outcome. -/
def startSidecars (b : Blueprint) : List ContainerSpec → Action Unit
  | [] => pure ()
  | spec :: rest => do
    let first ← (startSidecar b spec).outcome
    let others ← (startSidecars b rest).outcome
    match first with
    | .error e => throw e
    | .ok () => liftExcept others
where
  /-- An outcome as an action. -/
  liftExcept (o : Outcome Unit) : Action Unit := ExceptT.mk (pure o)

/-- Starts the containers of modules, and then their sidecars. -/
def startAll (b : Blueprint) (modules : List Descriptor) : Action Unit := do
  let sidecars ← startModules b modules
  startSidecars b sidecars

/-- Deploys a pass, and answers the host ports of its modules. -/
def deploy (b : Blueprint) (p : Pass) : Action (Table String ModulePorts) := do
  startAll b p.deployable
  pure p.ports

/-- Whether a container carries the labels of a profile and a pass. -/
def belongsTo (n : Naming) (kind : ModuleKind) (c : ContainerSummary) : Bool :=
  c.labels.find? Label.profile == some n.profile && c.labels.find? Label.kind == some kind.text

/-- The containers of a pass. -/
def containers (n : Naming) (kind : ModuleKind) : Action (List ContainerSummary) := do
  let listed ← Action.listContainers n.stem
  pure (listed.filter (belongsTo n kind))

/-- Removes containers in their order, and answers their names. A container that does not stop is
removed all the same. -/
def removeAll : List ContainerSummary → Action (List String)
  | [] => pure []
  | c :: rest => do
    if c.isRunning then
      let _ ← (Action.stopContainer c.id).outcome
    Action.removeContainer c.id
    let names ← removeAll rest
    pure (c.name :: names)

/-- Removes every container of a pass, and answers their names. -/
def undeploy (n : Naming) (kind : ModuleKind) : Action (List String) := do
  let found ← containers n kind
  removeAll found

end Fleet.Deployment
