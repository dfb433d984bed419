import Fleet.Decimal.Shortest
import Fleet.Json.Encode
import Fleet.Module.Descriptor
import Fleet.Module.Listing

/-!
# Views of modules

What a machine reader is shown of module ids, specs, descriptors and listings. A view holds every
field; what is absent is null. Shares of processors are written as decimal texts, so that no reader
rounds them.
-/

namespace Fleet

open Json

/-- A table of texts. -/
def Texts.view (t : Texts) : Json := ofNamed .string t

/-- A share of processors. -/
def viewCpus (c : Option Binary64) : Json := ofOption (fun b => .string b.positional) c

/-- An id with its parts and its kind. -/
def ModuleId.view (m : ModuleId) : Json :=
  .object [("name", .string m.name), ("version", .string m.version), ("display", .string m.text),
    ("kind", .string (ModuleKind.ofName m.name).text)]

/-- The overrides of a spec, field by field. -/
def Overrides.view (o : Overrides) : Json :=
  .object [("deploy_module", ofOption .bool o.deployModule),
    ("deploy_sidecar", ofOption .bool o.deploySidecar), ("use_vault", ofOption .bool o.useVault),
    ("use_gateway_url", ofOption .bool o.useGatewayUrl),
    ("disable_system_user", ofOption .bool o.disableSystemUser), ("version", ofText? o.version),
    ("port", ofOption ofWord16 o.port), ("private_port", ofOption ofWord16 o.privatePort),
    ("memory_mb", ofOption ofNat o.memoryMb), ("cpus", viewCpus o.cpus),
    ("environment", ofOption Texts.view o.environment),
    ("sidecar_environment", ofOption Texts.view o.sidecarEnvironment),
    ("local_path", ofText? o.localPath)]

/-- A spec. -/
def ModuleSpec.view : ModuleSpec → Json
  | .standard => .string "default"
  | .explicit o => .object [("explicit", o.view), ("is_empty", .bool o.isEmpty)]

/-- The switches of a module. -/
def Flags.view (f : Flags) : Json :=
  .object [("deploy_module", .bool f.deployModule), ("deploy_sidecar", .bool f.deploySidecar),
    ("use_vault", .bool f.useVault), ("use_gateway_url", .bool f.useGatewayUrl),
    ("disable_system_user", .bool f.disableSystemUser)]

/-- A descriptor, with what follows from it. -/
def Descriptor.view (d : Descriptor) : Json :=
  .object [("id", .object [("name", .string d.name), ("version", .string d.version)]),
    ("flags", d.flags.view),
    ("resources", .object [("memory_mb", ofNat d.memoryMb), ("cpus", viewCpus d.cpus)]),
    ("port", ofWord16 d.port), ("private_port", ofOption ofWord16 d.privatePort),
    ("image", .string d.image), ("local_image", .bool d.localImage),
    ("local_path", ofText? d.localPath), ("environment", d.environment.view),
    ("sidecar_environment", d.sidecarEnvironment.view), ("kind", .string d.kind.text),
    ("has_sidecar", .bool d.hasSidecar)]

/-- An entry of a listing. -/
def ListingEntry.view (e : ListingEntry) : Json :=
  .object [("id", .string e.id), ("action", .string e.action)]

/-- The host ports of a module and of its sidecar. -/
def ModulePorts.view (p : ModulePorts) : Json :=
  .array [ofWord16 p.module, ofOption ofWord16 p.sidecar]

end Fleet
