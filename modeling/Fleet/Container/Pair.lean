import Fleet.Container.Environment
import Fleet.Container.Spec

/-!
# Module containers and their sidecars

Container names carry the profile, so containers of several profiles live on one machine; host names
do not. Four labels say what a container belongs to, and by them a pass finds its containers again.
-/

namespace Fleet

/-- Derives names from a profile. -/
structure Naming where
  profile : String
  deriving DecidableEq, Repr

namespace Naming

/-- What is appended for sidecars. -/
def sidecarEnding : String := "-sc"

/-- What the names of a profile's containers begin with. -/
def stem (n : Naming) : String := n.profile ++ "-"

/-- The name of a module's container. -/
def moduleContainer (n : Naming) (module : String) : String := n.profile ++ "-" ++ module

/-- The name of the container of a module's sidecar. -/
def sidecarContainer (n : Naming) (module : String) : String :=
  n.profile ++ "-" ++ module ++ sidecarEnding

/-- The host name of a module. -/
def moduleHost (module : String) : String := module

/-- The host name of a module's sidecar. -/
def sidecarHost (module : String) : String := module ++ sidecarEnding

end Naming

/-! ## Labels -/

namespace Label

/-- The module that a container belongs to. -/
def module : String := "flotilla.module"

/-- The pass that deployed a container. -/
def kind : String := "flotilla.kind"

/-- The profile that a container was deployed under. -/
def profile : String := "flotilla.profile"

/-- Whether a container is a sidecar. -/
def sidecar : String := "flotilla.sidecar"

end Label

/-- The settings that all containers of a run share. -/
structure ContainerSettings where
  network : String
  restartPolicy : String
  /-- The host address on which ports are published. -/
  bindHost : String
  sidecarImage : String
  sidecarMemoryMb : Nat
  deriving DecidableEq, Repr

/-- The settings of a description. -/
def ContainerSettings.ofConfig (c : Config) : ContainerSettings where
  network := c.network.name
  restartPolicy := c.network.restartPolicy
  bindHost := c.network.bindHost
  sidecarImage := c.sidecar.imageRef
  sidecarMemoryMb := c.sidecar.memoryMb

/-- What containers are built with. -/
structure Blueprint where
  naming : Naming
  settings : ContainerSettings
  environment : EnvironmentContext
  /-- The credentials for pulling images. -/
  auth : Option Config.RegistryAuth

namespace Blueprint

/-- The blueprint of a description. -/
def ofConfig (c : Config) (token : Option Token) : Blueprint where
  naming := ⟨c.profile.name⟩
  settings := .ofConfig c
  environment := .ofConfig c token
  auth := c.registry.auth

/-- The labels of a container of a module. -/
def labels (b : Blueprint) (d : Descriptor) (sidecar : Bool) : Texts :=
  Table.ofList [(Label.module, d.name), (Label.kind, d.kind.text),
    (Label.profile, b.naming.profile), (Label.sidecar, if sidecar then "true" else "false")]

/-- The binding that publishes a container on a host port. -/
def binding (b : Blueprint) (port : Port) : PortBinding :=
  ⟨b.settings.bindHost, port, containerPort⟩

/-- The container of a module. -/
def moduleSpec (b : Blueprint) (d : Descriptor) : ContainerSpec where
  name := b.naming.moduleContainer d.name
  hostname := Naming.moduleHost d.name
  image := d.image
  env := b.environment.ofModule d
  network := b.settings.network
  restartPolicy := b.settings.restartPolicy
  ports := [b.binding d.port]
  memoryMb := d.memoryMb
  cpus := d.cpus
  labels := b.labels d false

/-- The container of a module's sidecar, published on a host port. -/
def sidecarSpec (b : Blueprint) (d : Descriptor) (port : Port) : ContainerSpec where
  name := b.naming.sidecarContainer d.name
  hostname := Naming.sidecarHost d.name
  image := b.settings.sidecarImage
  env := b.environment.ofSidecar d (Naming.moduleHost d.name) (Naming.sidecarHost d.name)
  network := b.settings.network
  restartPolicy := b.settings.restartPolicy
  ports := [b.binding port]
  memoryMb := b.settings.sidecarMemoryMb
  cpus := none
  labels := b.labels d true

/-- The container of a module's sidecar, if one is deployed. -/
def sidecarSpec? (b : Blueprint) (d : Descriptor) : Option ContainerSpec :=
  d.sidecarPort?.map (b.sidecarSpec d)

end Blueprint

end Fleet
