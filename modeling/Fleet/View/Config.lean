import Fleet.Config.Basic
import Fleet.View.Module

/-!
# Views of descriptions

A description as it is understood: every section and field, with the defaults filled in, and two
texts that are put together from fields.
-/

namespace Fleet

open Json

namespace Config

/-- The kind of a probe. -/
def ProbeKind.view : ProbeKind → Json
  | .http => .string "http"
  | .tcp => .string "tcp"

/-- The kind of a container runtime. -/
def RuntimeKind.view : RuntimeKind → Json
  | .docker => .string "docker"
  | .memory => .string "memory"

/-- Credentials. -/
def RegistryAuth.view (a : RegistryAuth) : Json :=
  .object [("server", .string a.server), ("username", .string a.username),
    ("password", .string a.password)]

/-- The section `registry`. -/
def Registry.view (r : Registry) : Json :=
  .object [("urls", ofTexts r.urls), ("namespace", .string r.imageNamespace),
    ("auth", ofOption RegistryAuth.view r.auth)]

/-- The section `sidecar`. -/
def Sidecar.view (s : Sidecar) : Json :=
  .object [("image", .string s.image), ("version", .string s.version),
    ("memory_mb", ofNat s.memoryMb), ("environment", s.environment.view),
    ("image_ref", .string s.imageRef)]

/-- The section `network`. -/
def Network.view (n : Network) : Json :=
  .object [("name", .string n.name), ("restart_policy", .string n.restartPolicy),
    ("bind_host", .string n.bindHost)]

/-- The section `vault`. -/
def Vault.view (v : Vault) : Json :=
  .object [("url", .string v.url), ("container", .string v.container),
    ("root_token", ofText? v.rootToken)]

/-- The section `identity`. -/
def Identity.view (i : Identity) : Json :=
  .object [("url", .string i.url), ("internal_url", .string i.internalUrl),
    ("master_realm", .string i.masterRealm), ("admin_client_id", .string i.adminClientId),
    ("admin_client_secret", .string i.adminClientSecret),
    ("login_client_suffix", .string i.loginClientSuffix),
    ("service_client_id", .string i.serviceClientId),
    ("tenant_admin_username", .string i.tenantAdminUsername),
    ("tenant_admin_password", .string i.tenantAdminPassword),
    ("access_token_lifespan_secs", ofOption ofNat i.accessTokenLifespanSecs)]

/-- The section `gateway`. -/
def Gateway.view (g : Gateway) : Json :=
  .object [("internal_url", .string g.internalUrl), ("admin_url", .string g.adminUrl)]

/-- The section `broker`. -/
def Broker.view (b : Broker) : Json :=
  .object [("container", .string b.container), ("bootstrap_server", .string b.bootstrapServer),
    ("script", .string b.script)]

/-- The section `readiness`. -/
def Readiness.view (r : Readiness) : Json :=
  .object [("max_retries", ofNat r.maxRetries), ("retry_delay_millis", ofNat r.retryDelayMillis),
    ("probe", r.probe.view), ("host", .string r.host), ("health_path", .string r.healthPath)]

/-- The section `saga`. -/
def Saga.view (s : Saga) : Json :=
  .object [("consumer_group", .string s.consumerGroup),
    ("initial_delay_secs", ofNat s.initialDelaySecs),
    ("poll_interval_millis", ofNat s.pollIntervalMillis), ("timeout_secs", ofNat s.timeoutSecs)]

/-- The section `http`. -/
def Http.view (h : Http) : Json :=
  .object [("timeout_secs", ofNat h.timeoutSecs), ("attempts", ofNat h.attempts),
    ("retry_delay_millis", ofNat h.retryDelayMillis)]

/-- The section `runtime`. -/
def Runtime.view (r : Runtime) : Json :=
  .object [("kind", r.kind.view), ("docker_binary", .string r.dockerBinary),
    ("command_timeout_secs", ofNat r.commandTimeoutSecs)]

/-- The section `application`. -/
def Application.view (a : Application) : Json :=
  .object [("name", .string a.name), ("version", .string a.version),
    ("platform", .string a.platform), ("id", .string a.id)]

end Config

/-- A consortium. -/
def Consortium.view (c : Consortium) : Json := .object [("display_name", ofText? c.displayName)]

/-- A tenant. -/
def Tenant.view (t : Tenant) : Json :=
  .object [("consortium", ofText? t.consortium), ("central", .bool t.central)]

/-- A role. -/
def Role.view (r : Role) : Json :=
  .object [("description", .string r.description), ("capability_sets", ofTexts r.capabilitySets)]

/-- A user. -/
def User.view (u : User) : Json :=
  .object [("password", .string u.password), ("roles", ofTexts u.roles)]

/-- A description. -/
def Config.view (c : Config) : Json :=
  .object [("profile", .object [("name", .string c.profile.name)]),
    ("ports", .object [("start", ofWord16 c.ports.first), ("end", ofWord16 c.ports.stop)]),
    ("registry", c.registry.view), ("sidecar", c.sidecar.view), ("network", c.network.view),
    ("environment", c.environment.view), ("vault", c.vault.view), ("identity", c.identity.view),
    ("management", .object [("url", .string c.management.url)]), ("gateway", c.gateway.view),
    ("broker", c.broker.view), ("readiness", c.readiness.view), ("saga", c.saga.view),
    ("http", c.http.view), ("runtime", c.runtime.view), ("application", c.application.view),
    ("modules", ofNamed ModuleSpec.view c.modules),
    ("consortiums", ofNamed Consortium.view c.consortiums),
    ("tenants", ofNamed Tenant.view c.tenants),
    ("roles", ofNamed Role.view c.roles), ("users", ofNamed User.view c.users)]

end Fleet
