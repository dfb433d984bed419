import Fleet.Config.Basic
import Fleet.Module.Descriptor
import Fleet.Text.Upper
import Fleet.Token

/-!
# Container environments

The environment of a container is built from layers: lists of keys and values, of which later ones
win. Keys are written in capitals. A key stands where it was first set and has the value that was
set last, so the outcome is stable from run to run.

The layers of a module are, in order: the environment of every container; the secret store, if the
module uses it and a token is known; the identity provider and the gateway, if the module uses them;
the module's own facts; its declared environment. A sidecar gets the common environment, that of
every sidecar, the secret store, always the identity provider, the addresses of the pair, and what
is declared for it.
-/

namespace Fleet

/-- The port that every module and sidecar listens on inside its container. -/
def containerPort : Port := 8081

namespace Environment

/-- Keys and values in order. -/
abbrev Entries := List (String × String)

/-- Sets a key that is in capitals already. -/
def setUpper (key value : String) : Entries → Entries
  | [] => [(key, value)]
  | (k, v) :: rest => if k = key then (k, value) :: rest else (k, v) :: setUpper key value rest

/-- Sets a key: in its place if it is set, else behind all others. -/
def set (entries : Entries) (key value : String) : Entries :=
  setUpper (Text.upper key) value entries

/-- Sets the keys of a layer, one after another. -/
def lay (entries : Entries) (layer : Entries) : Entries :=
  layer.foldl (fun es e => set es e.1 e.2) entries

/-- Builds an environment from its layers. -/
def ofLayers (layers : List Entries) : Entries := layers.foldl lay []

/-- An environment as a runtime takes it. -/
def render (entries : Entries) : List String := entries.map fun e => e.1 ++ "=" ++ e.2

end Environment

/-- What environments depend on besides the module. -/
structure EnvironmentContext where
  /-- The environment of every container. -/
  common : Texts
  /-- The environment of every sidecar. -/
  sidecars : Texts
  vaultUrl : String
  /-- The root token of the secret store, if it is known. -/
  vaultToken : Option Token
  identity : Config.Identity
  gatewayUrl : String

namespace EnvironmentContext

/-- The context of a description. -/
def ofConfig (c : Config) (token : Option Token) : EnvironmentContext where
  common := c.environment
  sidecars := c.sidecar.environment
  vaultUrl := c.vault.url
  vaultToken := token
  identity := c.identity
  gatewayUrl := c.gateway.internalUrl

/-- The secret store, if the module uses it and a token is known. -/
def vaultLayer (x : EnvironmentContext) (d : Descriptor) : Environment.Entries :=
  if d.flags.useVault then
    match x.vaultToken with
    | none => []
    | some token =>
      [("SECRET_STORE_TYPE", "VAULT"), ("SECRET_STORE_VAULT_TOKEN", token.secret),
        ("SECRET_STORE_VAULT_ADDRESS", x.vaultUrl)]
  else []

/-- The identity provider. -/
def identityLayer (x : EnvironmentContext) : Environment.Entries :=
  [("KC_URL", x.identity.internalUrl), ("KC_ADMIN_CLIENT_ID", x.identity.adminClientId),
    ("KC_SERVICE_CLIENT_ID", x.identity.serviceClientId),
    ("KC_LOGIN_CLIENT_SUFFIX", x.identity.loginClientSuffix)]

/-- The identity provider and the gateway, if the module uses them. -/
def gatewayLayer (x : EnvironmentContext) (d : Descriptor) : Environment.Entries :=
  if d.flags.useGatewayUrl then x.identityLayer ++ [("OKAPI_URL", x.gatewayUrl)] else []

/-- The module's own facts. -/
def moduleLayer (d : Descriptor) : Environment.Entries :=
  [("SERVER_PORT", toString containerPort), ("MODULE_NAME", d.name), ("MODULE_VERSION", d.version)]

/-- The switch of the system user, if it is off. -/
def systemUserLayer (d : Descriptor) : Environment.Entries :=
  if d.flags.disableSystemUser then [("SYSTEM_USER_ENABLED", "false")] else []

/-- The address of a container on the network of the containers. -/
def addressOf (host : String) : String := "http://" ++ host ++ ":" ++ toString containerPort

/-- The addresses of a module and its sidecar. -/
def pairLayer (d : Descriptor) (moduleHost sidecarHost : String) : Environment.Entries :=
  [("MODULE_NAME", d.name), ("MODULE_VERSION", d.version), ("MODULE_URL", addressOf moduleHost),
    ("SIDECAR_URL", addressOf sidecarHost), ("SIDECAR_NAME", sidecarHost)]

/-- The layers of a module's environment. -/
def moduleLayers (x : EnvironmentContext) (d : Descriptor) : List Environment.Entries :=
  [x.common.entries, x.vaultLayer d, x.gatewayLayer d, moduleLayer d, systemUserLayer d,
    d.environment.entries]

/-- The layers of a sidecar's environment. -/
def sidecarLayers (x : EnvironmentContext) (d : Descriptor) (moduleHost sidecarHost : String) :
    List Environment.Entries :=
  [x.common.entries, x.sidecars.entries, x.vaultLayer d, x.identityLayer,
    pairLayer d moduleHost sidecarHost, d.sidecarEnvironment.entries]

/-- The environment of a module's container. -/
def ofModule (x : EnvironmentContext) (d : Descriptor) : List String :=
  Environment.render (Environment.ofLayers (x.moduleLayers d))

/-- The environment of the container of a module's sidecar. -/
def ofSidecar (x : EnvironmentContext) (d : Descriptor) (moduleHost sidecarHost : String) :
    List String :=
  Environment.render (Environment.ofLayers (x.sidecarLayers d moduleHost sidecarHost))

end EnvironmentContext

end Fleet
