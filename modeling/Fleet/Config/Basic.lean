import Fleet.Module.Spec

/-!
# Descriptions of a platform

A `Config` describes a platform: the profile it is deployed under, where its services are, its
modules, and its consortiums, tenants, roles and users. Every section has defaults, so the empty
description is a description.
-/

namespace Fleet

namespace Config

/-- The profile that containers are deployed under. -/
structure Profile where
  name : String := "flotilla"

/-- The half-open range that host ports are drawn from. -/
structure PortRange where
  first : Port := 30000
  stop : Port := 31000

/-- Credentials for pulling images. -/
structure RegistryAuth where
  /-- The registry's host; empty for the standard one. -/
  server : String := ""
  username : String
  password : String
  deriving DecidableEq, Repr

/-- Where modules are listed and images come from. -/
structure Registry where
  /-- The addresses of the listings, in the order in which they are fetched. -/
  urls : List String := []
  imageNamespace : String := "folioci"
  auth : Option RegistryAuth := none

/-- The containers that run next to modules. -/
structure Sidecar where
  image : String := "folioci/folio-module-sidecar"
  version : String := "latest"
  memoryMb : Nat := 400
  /-- The environment of every sidecar. -/
  environment : Texts := .empty

/-- The image with its version. -/
def Sidecar.imageRef (s : Sidecar) : String := s.image ++ ":" ++ s.version

/-- The network of the containers. -/
structure Network where
  name : String := "flotilla"
  restartPolicy : String := "unless-stopped"
  /-- The host address on which ports are published. -/
  bindHost : String := "0.0.0.0"

/-- The secret store. -/
structure Vault where
  url : String := "http://vault:8200"
  /-- The container whose log announces the root token. -/
  container : String := "vault"
  /-- The root token, if it is known beforehand. -/
  rootToken : Option String := none

/-- The identity provider. -/
structure Identity where
  url : String := "http://localhost:8080"
  /-- The address inside the container network. -/
  internalUrl : String := "http://keycloak:8080"
  masterRealm : String := "master"
  adminClientId : String := "folio-backend-admin-client"
  adminClientSecret : String := ""
  loginClientSuffix : String := "-login-app"
  serviceClientId : String := "sidecar-module-access-client"
  tenantAdminUsername : String := "admin"
  tenantAdminPassword : String := ""
  /-- The lifespan of access tokens in every tenant's realm, if it is to be set. -/
  accessTokenLifespanSecs : Option Nat := none

/-- The service that manages tenants and applications. -/
structure Management where
  url : String := "http://localhost:8000"

/-- The gateway in front of the modules. -/
structure Gateway where
  internalUrl : String := "http://api-gateway:8000"
  adminUrl : String := "http://localhost:8001"

/-- The message broker. -/
structure Broker where
  container : String := "kafka"
  bootstrapServer : String := "kafka:9092"
  script : String := "kafka-consumer-groups.sh"

/-- How a published port is probed. -/
inductive ProbeKind
  | http
  | tcp
  deriving DecidableEq, Repr

/-- How long and how modules are awaited. -/
structure Readiness where
  maxRetries : Nat := 50
  retryDelayMillis : Nat := 5000
  probe : ProbeKind := .http
  host : String := "localhost"
  healthPath : String := "/admin/health"

/-- How the consumer group of capability events is awaited. -/
structure Saga where
  consumerGroup : String := "mod-roles-keycloak-capability-group"
  initialDelaySecs : Nat := 0
  pollIntervalMillis : Nat := 10000
  timeoutSecs : Nat := 600

/-- How requests are sent. -/
structure Http where
  timeoutSecs : Nat := 30
  attempts : Nat := 3
  retryDelayMillis : Nat := 2000

/-- What runs the containers. -/
inductive RuntimeKind
  | docker
  /-- Nothing runs: a rehearsal in memory. -/
  | memory
  deriving DecidableEq, Repr

/-- The container runtime. -/
structure Runtime where
  kind : RuntimeKind := .docker
  dockerBinary : String := "docker"
  commandTimeoutSecs : Nat := 300

/-- The application that tenants are entitled to. -/
structure Application where
  name : String := "app-platform"
  version : String := "1.0.0"
  platform : String := "base"

/-- The application's id. -/
def Application.id (a : Application) : String := a.name ++ "-" ++ a.version

end Config

/-- A consortium of tenants. -/
structure Consortium where
  displayName : Option String := none
  deriving DecidableEq, Repr

/-- A tenant as it is described. -/
structure Tenant where
  /-- The consortium that the tenant belongs to. -/
  consortium : Option String := none
  /-- Whether the tenant is the central one of its consortium. -/
  central : Bool := false
  deriving DecidableEq, Repr

/-- A role as it is described. -/
structure Role where
  description : String := ""
  /-- The capability sets of the role; all of them if none is named. -/
  capabilitySets : List String := []
  deriving DecidableEq, Repr

/-- A user as it is described. -/
structure User where
  password : String := ""
  roles : List String := []
  deriving DecidableEq, Repr

/-- Roles by name. -/
abbrev Roles := Table String Role

/-- Users by name. -/
abbrev Users := Table String User

/-- The description of a platform. -/
structure Config where
  profile : Config.Profile := {}
  ports : Config.PortRange := {}
  registry : Config.Registry := {}
  sidecar : Config.Sidecar := {}
  network : Config.Network := {}
  /-- The environment of every container. -/
  environment : Texts := .empty
  vault : Config.Vault := {}
  identity : Config.Identity := {}
  management : Config.Management := {}
  gateway : Config.Gateway := {}
  broker : Config.Broker := {}
  readiness : Config.Readiness := {}
  saga : Config.Saga := {}
  http : Config.Http := {}
  runtime : Config.Runtime := {}
  application : Config.Application := {}
  modules : Table String ModuleSpec := .empty
  consortiums : Table String Consortium := .empty
  tenants : Table String Tenant := .empty
  roles : Roles := .empty
  users : Users := .empty

instance : Inhabited Config := ⟨{}⟩

end Fleet
