import Fleet.Failure
import Fleet.Json.Decode

/-!
# Module specs

What a description says about one module: nothing, or a set of overrides of which each may be
absent. Specs of one module from several places merge field by field. A later field wins over an
earlier one, the two environment tables merge by key, and a spec that says nothing changes nothing.
-/

namespace Fleet

/-- A table of texts. -/
abbrev Texts := Table String String

/-- The fields that a description may set for a module. -/
structure Overrides where
  deployModule : Option Bool
  deploySidecar : Option Bool
  useVault : Option Bool
  useGatewayUrl : Option Bool
  disableSystemUser : Option Bool
  version : Option String
  port : Option Port
  privatePort : Option Port
  memoryMb : Option Nat
  cpus : Option Binary64
  environment : Option Texts
  sidecarEnvironment : Option Texts
  localPath : Option String
  deriving DecidableEq, Repr

namespace Overrides

/-- No field is set. -/
def none : Overrides :=
  ⟨.none, .none, .none, .none, .none, .none, .none, .none, .none, .none, .none, .none, .none⟩

/-- Whether no field is set. -/
def isEmpty (o : Overrides) : Bool := o = none

/-- Merges two tables that may be absent; absence erases nothing. -/
def mergeTexts : Option Texts → Option Texts → Option Texts
  | some earlier, some later => some (earlier.overlay later)
  | some earlier, .none => some earlier
  | .none, later => later

/-- Merges field by field. -/
def merge (earlier later : Overrides) : Overrides where
  deployModule := later.deployModule.or earlier.deployModule
  deploySidecar := later.deploySidecar.or earlier.deploySidecar
  useVault := later.useVault.or earlier.useVault
  useGatewayUrl := later.useGatewayUrl.or earlier.useGatewayUrl
  disableSystemUser := later.disableSystemUser.or earlier.disableSystemUser
  version := later.version.or earlier.version
  port := later.port.or earlier.port
  privatePort := later.privatePort.or earlier.privatePort
  memoryMb := later.memoryMb.or earlier.memoryMb
  cpus := later.cpus.or earlier.cpus
  environment := mergeTexts earlier.environment later.environment
  sidecarEnvironment := mergeTexts earlier.sidecarEnvironment later.sidecarEnvironment
  localPath := later.localPath.or earlier.localPath

/-- The names of the fields, and the older name of one of them. -/
def fieldNames : List String :=
  ["deploy_module", "deploy_sidecar", "use_vault", "use_gateway_url", "use_okapi_url",
    "disable_system_user", "version", "port", "private_port", "memory_mb", "cpus", "environment",
    "sidecar_environment", "local_path"]

/-- Reads overrides. A name that is no field is refused, and so are both names of one field. -/
def read? (j : Json) : Option Overrides := do
  let members ← j.object?
  guard (members.all fun m => fieldNames.contains m.1)
  let has (name : String) : Bool := (Json.lastMember name members).isSome
  guard (!(has "use_gateway_url" && has "use_okapi_url"))
  let gatewayName := if has "use_okapi_url" then "use_okapi_url" else "use_gateway_url"
  let deployModule ← Json.optional "deploy_module" Json.bool? members
  let deploySidecar ← Json.optional "deploy_sidecar" Json.bool? members
  let useVault ← Json.optional "use_vault" Json.bool? members
  let useGatewayUrl ← Json.optional gatewayName Json.bool? members
  let disableSystemUser ← Json.optional "disable_system_user" Json.bool? members
  let version ← Json.optional "version" Json.text? members
  let port ← Json.optional "port" Json.word16? members
  let privatePort ← Json.optional "private_port" Json.word16? members
  let memoryMb ← Json.optional "memory_mb" Json.nat32? members
  let cpus ← Json.optional "cpus" Json.fraction? members
  let environment ← Json.optional "environment" (Json.table? Json.text?) members
  let sidecarEnvironment ← Json.optional "sidecar_environment" (Json.table? Json.text?) members
  let localPath ← Json.optional "local_path" Json.text? members
  pure { deployModule, deploySidecar, useVault, useGatewayUrl, disableSystemUser, version, port,
         privatePort, memoryMb, cpus, environment, sidecarEnvironment, localPath }

end Overrides

/-- What a description says about a module. -/
inductive ModuleSpec
  /-- Nothing: every field takes its default. -/
  | standard
  /-- The set fields win over the defaults. -/
  | explicit (overrides : Overrides)
  deriving DecidableEq, Repr

namespace ModuleSpec

/-- The overrides; none for a spec that says nothing. -/
def overrides : ModuleSpec → Overrides
  | .standard => .none
  | .explicit o => o

/-- Merges a later spec of the same module into this one. -/
def merge : ModuleSpec → ModuleSpec → ModuleSpec
  | earlier, .standard => earlier
  | .standard, later => later
  | .explicit earlier, .explicit later => .explicit (earlier.merge later)

/-- The spec with given overrides; overrides without a set field say nothing. -/
def ofOverrides (o : Overrides) : ModuleSpec := if o.isEmpty then .standard else .explicit o

/-- Reads a spec; null says nothing. -/
def read? : Reader ModuleSpec
  | .null => some .standard
  | j => (Overrides.read? j).map ofOverrides

end ModuleSpec

end Fleet
