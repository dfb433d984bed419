import Fleet.Deployment
import Fleet.Module.Resolve
import Fleet.Quiescence
import Fleet.Readiness
import Fleet.Tenant.Traversal

/-!
# The commands of a platform

A `Platform` is a description together with what is known of the machine it is read on. Its commands
are actions: they resolve modules, deploy and remove the two passes, and provision tenants, roles
and users.

`deployApplication` is the whole way up, in stages: the management pass, the gateway, the business
pass, the registration of the application, and then tenants, entitlements, roles, users and
capability sets. A stage begins only when the one before it has succeeded.
-/

namespace Fleet

/-- A described platform. -/
structure Platform where
  config : Config
  /-- Which paths are directories. -/
  isDirectory : String → Bool

/-- The host ports of both passes. -/
structure PlatformPorts where
  management : Table String ModulePorts
  business : Table String ModulePorts

namespace Platform

variable (p : Platform)

/-- How the platform's containers are named. -/
def naming : Naming := ⟨p.config.profile.name⟩

/-- How the platform's modules are resolved. -/
def resolver : Resolver := ⟨p.config.registry.imageNamespace, p.isDirectory⟩

/-- Resolves the described modules against a listing. Every resolution draws from the whole port
range anew. -/
def resolve (listing : List ListingEntry) : Outcome (Table String Descriptor) :=
  let fresh := PortAllocator.between p.config.ports.first p.config.ports.stop
  (p.resolver.resolve p.config.modules.entries listing fresh).1

/-- Resolves the described modules against the registry. -/
def resolveModules : Action (Table String Descriptor) := do
  let listing ← Action.listing
  ExceptT.mk (pure (p.resolve listing))

/-- What containers are built with; this asks for the root token. -/
def blueprint : Action Blueprint := do
  let token ← Action.rootToken
  pure (.ofConfig p.config (some token))

/-! ## Passes -/

/-- Deploys a pass and awaits it. A pass without modules is passed over. -/
def deployPass (b : Blueprint) (pass : Pass) : Action (Table String ModulePorts) := do
  if pass.isEmpty then pure .empty
  else
    let ports ← Deployment.deploy b pass
    let _ ← Readiness.checkAll (.ofReadiness p.config.readiness) pass.kind ports
    pure ports

/-- The application as it is registered with the modules of a pass. -/
def application (pass : Pass) : ApplicationDescriptor :=
  let a := p.config.application
  { id := a.id
    name := a.name
    version := a.version
    platform := a.platform
    modules := pass.deployable.map fun d => ⟨d.id.text, d.name, d.version⟩ }

/-- The host name under which a module is reached: that of its sidecar, if it has one. -/
def reachedAt (d : Descriptor) : String :=
  if d.hasSidecar then Naming.sidecarHost d.name else Naming.moduleHost d.name

/-- Where the modules of a pass are reached. -/
def discovery (pass : Pass) : List Discovery :=
  pass.deployable.map fun d =>
    ⟨d.id.text, d.name, d.version, EnvironmentContext.addressOf (reachedAt d)⟩

/-- Registers the application and where its modules are reached. A pass without modules is not
registered. -/
def registerApplication (pass : Pass) : Action Unit := do
  unless pass.isEmpty do
    let master ← Traversal.masterToken p.config
    Action.createApplication master (p.application pass)
    Action.registerDiscovery master (discovery pass)

/-- Deploys the management pass and awaits it. -/
def deployManagement : Action (Table String ModulePorts) := do
  let b ← p.blueprint
  let resolved ← p.resolveModules
  p.deployPass b (.ofKind .management resolved)

/-- Deploys the business pass, awaits it and registers it. -/
def deployModules : Action (Table String ModulePorts) := do
  let b ← p.blueprint
  let resolved ← p.resolveModules
  let pass := Pass.ofKind .business resolved
  let ports ← p.deployPass b pass
  p.registerApplication pass
  pure ports

/-- Removes the containers of the management pass, and answers their names. -/
def undeployManagement : Action (List String) := Deployment.undeploy p.naming .management

/-- Removes the containers of the business pass, and answers their names. -/
def undeployModules : Action (List String) := Deployment.undeploy p.naming .business

/-- The containers of one pass, or of both, those of the management pass first. -/
def listModules : Option ModuleKind → Action (List ContainerSummary)
  | some kind => Deployment.containers p.naming kind
  | none => do
    let management ← Deployment.containers p.naming .management
    let business ← Deployment.containers p.naming .business
    pure (management ++ business)

/-! ## Tenants -/

/-- The described tenants with their partitions, in the order of the plan. -/
def plannedTenants : List (Partition × String) :=
  p.config.partitions.flatMap fun q => (p.config.configured q).map fun name => (q, name)

/-- Creates tenants in their order, and answers their records. -/
def createAll (master : Token) : List (Partition × String) → Action (List TenantRecord)
  | [] => pure []
  | (q, name) :: rest => do
    let record ← Action.createTenant master name q.description
    let records ← createAll master rest
    pure (record :: records)

/-- Sets the lifespan of access tokens in the realms of tenants, in their order. -/
def setLifespans (master : Token) (seconds : Nat) : List String → Action Unit
  | [] => pure ()
  | tenant :: rest => do
    Action.setLifespan master tenant seconds
    setLifespans master seconds rest

/-- Creates the described tenants that do not exist, and answers their records. A tenant exists if
one of its name is listed. -/
def createTenants : Action (List TenantRecord) := do
  let master ← Traversal.masterToken p.config
  let live ← Action.tenants master
  let missing := p.plannedTenants.filter fun (_, name) => !live.any fun t => t.name == name
  let created ← createAll master missing
  match p.config.identity.accessTokenLifespanSecs with
  | some seconds => setLifespans master seconds p.config.tenants.keys
  | none => pure ()
  pure created

/-- Removes the described tenants. -/
def removeTenants : Action Unit :=
  Traversal.visitTenants p.config .reverse .master fun v => Action.removeTenant v.token v.tenant.id

/-- The applications that tenants are entitled to. -/
def applications : List String := [p.config.application.id]

/-- Entitles the described tenants to the application. -/
def createTenantEntitlements : Action Unit :=
  Traversal.visitTenants p.config .forward .master fun v =>
    Action.entitle v.token v.tenant.id p.applications

/-- Revokes the entitlements of the described tenants. -/
def removeTenantEntitlements : Action Unit :=
  Traversal.visitTenants p.config .reverse .master fun v =>
    Action.revoke v.token v.tenant.id p.applications

/-- Creates the described roles in every tenant. -/
def createRoles : Action Unit :=
  Traversal.visitTenants p.config .forward .tenant fun v =>
    Action.createRoles v.token v.tenant.name p.config.roles

/-- Removes the described roles from every tenant. -/
def removeRoles : Action Unit :=
  Traversal.visitTenants p.config .reverse .tenant fun v =>
    Action.removeRoles v.token v.tenant.name p.config.roles

/-- Creates the described users in every tenant. -/
def createUsers : Action Unit :=
  Traversal.visitTenants p.config .forward .tenant fun v =>
    Action.createUsers v.token v.tenant.name p.config.users

/-- Attaches capability sets in every tenant, each time after waiting for quiescence. -/
def attachCapabilitySets : Action Unit :=
  Traversal.visitTenants p.config .forward .tenant fun v =>
    (Quiescence.ofConfig p.config.saga).attach v.token v.tenant.name p.config.roles

/-- Detaches capability sets in every tenant; failures to detach do not matter. -/
def detachCapabilitySets : Action Unit :=
  Traversal.visitTenants p.config .reverse .tenant fun v =>
    Quiescence.detach v.token v.tenant.name p.config.roles

/-! ## The whole way up -/

/-- Deploys both passes and provisions the tenants. -/
def deployApplication : Action PlatformPorts := do
  let b ← p.blueprint
  let resolved ← p.resolveModules
  let management ← p.deployPass b (.ofKind .management resolved)
  Readiness.awaitGateway (.ofReadiness p.config.readiness)
  let pass := Pass.ofKind .business resolved
  let business ← p.deployPass b pass
  p.registerApplication pass
  let _ ← p.createTenants
  p.createTenantEntitlements
  p.createRoles
  p.createUsers
  p.attachCapabilitySets
  pure ⟨management, business⟩

end Platform

end Fleet
