import Fleet.Config.Basic

/-!
# Reading descriptions

`Config.read?` reads a description from a JSON value. Absent sections and fields take their
defaults, unknown ones are passed over, and a field of a wrong type refuses the whole description.
-/

namespace Fleet

open Json

/-- Reads a table of texts. -/
def readTexts? : Reader Texts := table? text?

namespace Config

/-- Reads the section `profile`. -/
def Profile.read? (j : Json) : Option Profile := do
  let ms ← j.object?
  let d : Profile := {}
  pure { name := ← withDefault "name" d.name text? ms }

/-- Reads the section `ports`. -/
def PortRange.read? (j : Json) : Option PortRange := do
  let ms ← j.object?
  let d : PortRange := {}
  pure {
    first := ← withDefault "start" d.first word16? ms
    stop := ← withDefault "end" d.stop word16? ms }

/-- Reads credentials. -/
def RegistryAuth.read? (j : Json) : Option RegistryAuth := do
  let ms ← j.object?
  pure {
    server := ← withDefault "server" "" text? ms
    username := ← required "username" text? ms
    password := ← required "password" text? ms }

/-- Reads the section `registry`. -/
def Registry.read? (j : Json) : Option Registry := do
  let ms ← j.object?
  let d : Registry := {}
  pure {
    urls := ← withDefault "urls" d.urls (list? text?) ms
    imageNamespace := ← withDefault "namespace" d.imageNamespace text? ms
    auth := ← optional "auth" RegistryAuth.read? ms }

/-- Reads the section `sidecar`. -/
def Sidecar.read? (j : Json) : Option Sidecar := do
  let ms ← j.object?
  let d : Sidecar := {}
  pure {
    image := ← withDefault "image" d.image text? ms
    version := ← withDefault "version" d.version text? ms
    memoryMb := ← withDefault "memory_mb" d.memoryMb nat32? ms
    environment := ← withDefault "environment" d.environment readTexts? ms }

/-- Reads the section `network`. -/
def Network.read? (j : Json) : Option Network := do
  let ms ← j.object?
  let d : Network := {}
  pure {
    name := ← withDefault "name" d.name text? ms
    restartPolicy := ← withDefault "restart_policy" d.restartPolicy text? ms
    bindHost := ← withDefault "bind_host" d.bindHost text? ms }

/-- Reads the section `vault`. -/
def Vault.read? (j : Json) : Option Vault := do
  let ms ← j.object?
  let d : Vault := {}
  pure {
    url := ← withDefault "url" d.url text? ms
    container := ← withDefault "container" d.container text? ms
    rootToken := ← optional "root_token" text? ms }

/-- Reads the section `identity`. -/
def Identity.read? (j : Json) : Option Identity := do
  let ms ← j.object?
  let d : Identity := {}
  pure {
    url := ← withDefault "url" d.url text? ms
    internalUrl := ← withDefault "internal_url" d.internalUrl text? ms
    masterRealm := ← withDefault "master_realm" d.masterRealm text? ms
    adminClientId := ← withDefault "admin_client_id" d.adminClientId text? ms
    adminClientSecret := ← withDefault "admin_client_secret" d.adminClientSecret text? ms
    loginClientSuffix := ← withDefault "login_client_suffix" d.loginClientSuffix text? ms
    serviceClientId := ← withDefault "service_client_id" d.serviceClientId text? ms
    tenantAdminUsername := ← withDefault "tenant_admin_username" d.tenantAdminUsername text? ms
    tenantAdminPassword := ← withDefault "tenant_admin_password" d.tenantAdminPassword text? ms
    accessTokenLifespanSecs := ← optional "access_token_lifespan_secs" nat64? ms }

/-- Reads the section `management`. -/
def Management.read? (j : Json) : Option Management := do
  let ms ← j.object?
  let d : Management := {}
  pure { url := ← withDefault "url" d.url text? ms }

/-- Reads the section `gateway`. -/
def Gateway.read? (j : Json) : Option Gateway := do
  let ms ← j.object?
  let d : Gateway := {}
  pure {
    internalUrl := ← withDefault "internal_url" d.internalUrl text? ms
    adminUrl := ← withDefault "admin_url" d.adminUrl text? ms }

/-- Reads the section `broker`. -/
def Broker.read? (j : Json) : Option Broker := do
  let ms ← j.object?
  let d : Broker := {}
  pure {
    container := ← withDefault "container" d.container text? ms
    bootstrapServer := ← withDefault "bootstrap_server" d.bootstrapServer text? ms
    script := ← withDefault "script" d.script text? ms }

/-- Reads the kind of a probe. -/
def ProbeKind.read? : Reader ProbeKind := oneOf? [("http", .http), ("tcp", .tcp)]

/-- Reads the section `readiness`. -/
def Readiness.read? (j : Json) : Option Readiness := do
  let ms ← j.object?
  let d : Readiness := {}
  pure {
    maxRetries := ← withDefault "max_retries" d.maxRetries nat32? ms
    retryDelayMillis := ← withDefault "retry_delay_millis" d.retryDelayMillis nat64? ms
    probe := ← withDefault "probe" d.probe ProbeKind.read? ms
    host := ← withDefault "host" d.host text? ms
    healthPath := ← withDefault "health_path" d.healthPath text? ms }

/-- Reads the section `saga`. -/
def Saga.read? (j : Json) : Option Saga := do
  let ms ← j.object?
  let d : Saga := {}
  pure {
    consumerGroup := ← withDefault "consumer_group" d.consumerGroup text? ms
    initialDelaySecs := ← withDefault "initial_delay_secs" d.initialDelaySecs nat64? ms
    pollIntervalMillis := ← withDefault "poll_interval_millis" d.pollIntervalMillis nat64? ms
    timeoutSecs := ← withDefault "timeout_secs" d.timeoutSecs nat64? ms }

/-- Reads the section `http`. -/
def Http.read? (j : Json) : Option Http := do
  let ms ← j.object?
  let d : Http := {}
  pure {
    timeoutSecs := ← withDefault "timeout_secs" d.timeoutSecs nat64? ms
    attempts := ← withDefault "attempts" d.attempts nat32? ms
    retryDelayMillis := ← withDefault "retry_delay_millis" d.retryDelayMillis nat64? ms }

/-- Reads the kind of a container runtime. -/
def RuntimeKind.read? : Reader RuntimeKind := oneOf? [("docker", .docker), ("memory", .memory)]

/-- Reads the section `runtime`. -/
def Runtime.read? (j : Json) : Option Runtime := do
  let ms ← j.object?
  let d : Runtime := {}
  pure {
    kind := ← withDefault "kind" d.kind RuntimeKind.read? ms
    dockerBinary := ← withDefault "docker_binary" d.dockerBinary text? ms
    commandTimeoutSecs := ← withDefault "command_timeout_secs" d.commandTimeoutSecs nat64? ms }

/-- Reads the section `application`. -/
def Application.read? (j : Json) : Option Application := do
  let ms ← j.object?
  let d : Application := {}
  pure {
    name := ← withDefault "name" d.name text? ms
    version := ← withDefault "version" d.version text? ms
    platform := ← withDefault "platform" d.platform text? ms }

end Config

/-- Reads a consortium. -/
def Consortium.read? (j : Json) : Option Consortium := do
  let ms ← j.object?
  pure { displayName := ← optional "display_name" text? ms }

/-- Reads a tenant. -/
def Tenant.read? (j : Json) : Option Tenant := do
  let ms ← j.object?
  pure {
    consortium := ← optional "consortium" text? ms
    central := ← withDefault "central" false bool? ms }

/-- Reads a role. -/
def Role.read? (j : Json) : Option Role := do
  let ms ← j.object?
  pure {
    description := ← withDefault "description" "" text? ms
    capabilitySets := ← withDefault "capability_sets" [] (list? text?) ms }

/-- Reads a user. -/
def User.read? (j : Json) : Option User := do
  let ms ← j.object?
  pure {
    password := ← withDefault "password" "" text? ms
    roles := ← withDefault "roles" [] (list? text?) ms }

namespace Config

/-- Reads a description. -/
def read? (j : Json) : Option Config := do
  let ms ← j.object?
  let d : Config := {}
  pure {
    profile := ← withDefault "profile" d.profile Profile.read? ms
    ports := ← withDefault "ports" d.ports PortRange.read? ms
    registry := ← withDefault "registry" d.registry Registry.read? ms
    sidecar := ← withDefault "sidecar" d.sidecar Sidecar.read? ms
    network := ← withDefault "network" d.network Network.read? ms
    environment := ← withDefault "environment" d.environment readTexts? ms
    vault := ← withDefault "vault" d.vault Vault.read? ms
    identity := ← withDefault "identity" d.identity Identity.read? ms
    management := ← withDefault "management" d.management Management.read? ms
    gateway := ← withDefault "gateway" d.gateway Gateway.read? ms
    broker := ← withDefault "broker" d.broker Broker.read? ms
    readiness := ← withDefault "readiness" d.readiness Readiness.read? ms
    saga := ← withDefault "saga" d.saga Saga.read? ms
    http := ← withDefault "http" d.http Http.read? ms
    runtime := ← withDefault "runtime" d.runtime Runtime.read? ms
    application := ← withDefault "application" d.application Application.read? ms
    modules := ← withDefault "modules" d.modules (table? ModuleSpec.read?) ms
    consortiums := ← withDefault "consortiums" d.consortiums (table? Consortium.read?) ms
    tenants := ← withDefault "tenants" d.tenants (table? Tenant.read?) ms
    roles := ← withDefault "roles" d.roles (table? Role.read?) ms
    users := ← withDefault "users" d.users (table? User.read?) ms }

end Config

end Fleet
