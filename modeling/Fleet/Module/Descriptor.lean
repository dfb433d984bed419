import Fleet.Module.Id
import Fleet.Module.Spec

/-!
# Module descriptors

A descriptor is what resolution settles for one module: its version, flags, limits, image,
environment and host ports. A sidecar is deployed next to a module when the module is deployed and
its flags ask for one.
-/

namespace Fleet

/-- The switches of a module. -/
structure Flags where
  /-- Deploy the module's container. -/
  deployModule : Bool
  /-- Pair the module with a sidecar. -/
  deploySidecar : Bool
  /-- Hand the module the secret store. -/
  useVault : Bool
  /-- Hand the module the gateway and the identity provider. -/
  useGatewayUrl : Bool
  /-- Switch the module's system user off. -/
  disableSystemUser : Bool
  deriving DecidableEq, Repr, Inhabited

/-- The switches of a module that sets none. Management and edge modules have no sidecar. -/
def Flags.ofName (name : String) : Flags where
  deployModule := true
  deploySidecar :=
    !(ModuleKind.hasStem ModuleKind.managementStem name ||
      ModuleKind.hasStem ModuleKind.edgeStem name)
  useVault := true
  useGatewayUrl := false
  disableSystemUser := false

/-- The memory limit of a module that sets none. -/
def standardMemoryMb : Nat := 768

/-- A module as it is deployed. -/
structure Descriptor where
  id : ModuleId
  flags : Flags
  memoryMb : Nat
  cpus : Option Binary64
  /-- The host port of the module. -/
  port : Port
  /-- The host port of the sidecar, if there is one. -/
  privatePort : Option Port
  image : String
  /-- The image is built on this machine and is not pulled. -/
  localImage : Bool
  localPath : Option String
  environment : Texts
  sidecarEnvironment : Texts
  deriving DecidableEq, Repr

namespace Descriptor

/-- The name of the module. -/
def name (d : Descriptor) : String := d.id.name

/-- The version of the module. -/
def version (d : Descriptor) : String := d.id.version

/-- The pass that deploys the module. -/
def kind (d : Descriptor) : ModuleKind := ModuleKind.ofName d.name

/-- Whether a sidecar is deployed next to the module. -/
def hasSidecar (d : Descriptor) : Bool := d.flags.deployModule && d.flags.deploySidecar

/-- The host port that a sidecar publishes, if one is deployed. -/
def sidecarPort? (d : Descriptor) : Option Port := if d.hasSidecar then d.privatePort else none

/-- Reads flags. -/
def readFlags? (j : Json) : Option Flags := do
  let members ← j.object?
  let deployModule ← Json.required "deploy_module" Json.bool? members
  let deploySidecar ← Json.required "deploy_sidecar" Json.bool? members
  let useVault ← Json.required "use_vault" Json.bool? members
  let useGatewayUrl ← Json.required "use_gateway_url" Json.bool? members
  let disableSystemUser ← Json.required "disable_system_user" Json.bool? members
  pure { deployModule, deploySidecar, useVault, useGatewayUrl, disableSystemUser }

/-- Reads limits. -/
def readLimits? (j : Json) : Option (Nat × Option Binary64) := do
  let members ← j.object?
  let memoryMb ← Json.required "memory_mb" Json.nat32? members
  let cpus ← Json.optional "cpus" Json.fraction? members
  pure (memoryMb, cpus)

/-- Reads a descriptor. -/
def read? (j : Json) : Option Descriptor := do
  let members ← j.object?
  let id ← Json.required "id" ModuleId.read? members
  let flags ← Json.required "flags" readFlags? members
  let (memoryMb, cpus) ← Json.required "resources" readLimits? members
  let port ← Json.required "port" Json.word16? members
  let privatePort ← Json.optional "private_port" Json.word16? members
  let image ← Json.required "image" Json.text? members
  let localImage ← Json.required "local_image" Json.bool? members
  let localPath ← Json.optional "local_path" Json.text? members
  let environment ← Json.required "environment" (Json.table? Json.text?) members
  let sidecarEnvironment ← Json.required "sidecar_environment" (Json.table? Json.text?) members
  pure { id, flags, memoryMb, cpus, port, privatePort, image, localImage, localPath, environment,
         sidecarEnvironment }

end Descriptor

/-- The host ports published for one deployed module. -/
structure ModulePorts where
  module : Port
  sidecar : Option Port
  deriving DecidableEq, Repr, Inhabited

namespace ModulePorts

/-- The ports, the module's first. -/
def toList (p : ModulePorts) : List Port := p.module :: p.sidecar.toList

/-- Reads ports. -/
def read? (j : Json) : Option ModulePorts := do
  let members ← j.object?
  let module ← Json.required "module" Json.word16? members
  let sidecar ← Json.optional "sidecar" Json.word16? members
  pure { module, sidecar }

end ModulePorts

end Fleet
