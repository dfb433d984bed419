import Fleet.Config.Basic
import Fleet.Container.Spec
import Fleet.Module.Listing
import Fleet.Program
import Fleet.Token

/-!
# The calls of a platform

A platform's commands reach the outside only through the calls listed here: those of the container
runtime, of the identity provider and of the management service, and the single calls of the other
services, the clock among them. Every call is answered with an outcome; only sleeping and reading the
clock cannot fail.
-/

namespace Fleet

/-- What an access token is obtained with. -/
inductive Grant
  /-- The credentials of the administration client. -/
  | clientCredentials
  /-- The password of the tenant's administrator. -/
  | password
  deriving DecidableEq, Repr

/-- Reads a grant. -/
def Grant.read? : Reader Grant :=
  Json.oneOf? [("client", .clientCredentials), ("password", .password)]

/-- A tenant as the management service knows it. -/
structure TenantRecord where
  id : String
  name : String
  /-- Free text; it says which partition the tenant belongs to. -/
  description : String
  deriving DecidableEq, Repr, Inhabited

/-- A module as an application names it. -/
structure ModuleRef where
  id : String
  name : String
  version : String
  deriving DecidableEq, Repr

/-- An application as it is registered. -/
structure ApplicationDescriptor where
  id : String
  name : String
  version : String
  platform : String
  modules : List ModuleRef
  deriving DecidableEq, Repr

/-- Where a deployed module is reached. -/
structure Discovery where
  id : String
  name : String
  version : String
  /-- The address of the sidecar, or of the module if it has none. -/
  location : String
  deriving DecidableEq, Repr

/-- The state of a consumer group. -/
structure GroupState where
  members : Nat
  rebalancing : Bool
  deriving DecidableEq, Repr

/-- Whether a group has no members and is not being rebalanced. -/
def GroupState.isQuiescent (s : GroupState) : Bool := s.members == 0 && !s.rebalancing

/-- The calls of a container runtime. -/
inductive RuntimeCall
  | pull (image : String) (auth : Option Config.RegistryAuth)
  /-- Creates and starts a container in place of one of the same name, and answers its id. -/
  | create (spec : ContainerSpec)
  | stop (id : String)
  | remove (id : String)
  /-- Lists the containers whose name contains a pattern, stopped ones included. -/
  | list (pattern : String)
  | logs (container : String)
  | exec (container : String) (arguments : List String)

/-- The answers of a container runtime. -/
abbrev RuntimeCall.Answer : RuntimeCall → Type
  | .pull _ _ => Outcome Unit
  | .create _ => Outcome String
  | .stop _ => Outcome Unit
  | .remove _ => Outcome Unit
  | .list _ => Outcome (List ContainerSummary)
  | .logs _ => Outcome String
  | .exec _ _ => Outcome String

/-- The calls of an identity provider. -/
inductive IdentityCall
  | accessToken (realm : String) (grant : Grant)
  | createRoles (token : Token) (tenant : String) (roles : Roles)
  | removeRoles (token : Token) (tenant : String) (roles : Roles)
  | createUsers (token : Token) (tenant : String) (users : Users)
  | attach (token : Token) (tenant : String) (roles : Roles)
  | detach (token : Token) (tenant : String) (roles : Roles)
  | setLifespan (token : Token) (realm : String) (seconds : Nat)

/-- The answers of an identity provider. -/
abbrev IdentityCall.Answer : IdentityCall → Type
  | .accessToken _ _ => Outcome Token
  | .createRoles _ _ _ | .removeRoles _ _ _ | .createUsers _ _ _ | .attach _ _ _
  | .detach _ _ _ | .setLifespan _ _ _ => Outcome Unit

/-- The calls of a management service. -/
inductive ManagementCall
  | tenants (token : Token)
  | createTenant (token : Token) (name description : String)
  | removeTenant (token : Token) (id : String)
  | entitle (token : Token) (id : String) (applications : List String)
  | revoke (token : Token) (id : String) (applications : List String)
  | createApplication (token : Token) (application : ApplicationDescriptor)
  | registerDiscovery (token : Token) (modules : List Discovery)

/-- The answers of a management service. -/
abbrev ManagementCall.Answer : ManagementCall → Type
  | .tenants _ => Outcome (List TenantRecord)
  | .createTenant _ _ _ => Outcome TenantRecord
  | .removeTenant _ _ | .entitle _ _ _ | .revoke _ _ _ | .createApplication _ _
  | .registerDiscovery _ _ => Outcome Unit

/-- The calls of a platform. -/
inductive Call
  /-- The root token of the secret store. -/
  | rootToken
  /-- The registry's listing. -/
  | listing
  /-- Pulls an image unless this run has pulled it. -/
  | ensureImage (image : String) (auth : Option Config.RegistryAuth)
  | createContainer (spec : ContainerSpec)
  | stopContainer (id : String)
  | removeContainer (id : String)
  | listContainers (pattern : String)
  /-- Whether a host port answers. -/
  | probe (port : Port)
  /-- Whether the gateway routes requests. -/
  | gatewayStatus
  | describeGroup (group : String)
  | identity (call : IdentityCall)
  | management (call : ManagementCall)
  /-- What the clock shows, in milliseconds. -/
  | now
  | sleep (millis : Nat)

/-- The answers to a platform. -/
abbrev Call.Answer : Call → Type
  | .rootToken => Outcome Token
  | .listing => Outcome (List ListingEntry)
  | .ensureImage _ _ => Outcome Unit
  | .createContainer _ => Outcome String
  | .stopContainer _ => Outcome Unit
  | .removeContainer _ => Outcome Unit
  | .listContainers _ => Outcome (List ContainerSummary)
  | .probe _ => Outcome Unit
  | .gatewayStatus => Outcome Bool
  | .describeGroup _ => Outcome GroupState
  | .identity call => call.Answer
  | .management call => call.Answer
  | .now => Nat
  | .sleep _ => Unit

/-- A program that may fail. -/
abbrev Attempt {Call : Type} (Answer : Call → Type) (α : Type) := ExceptT Failure (Program Answer) α

/-- What a platform does. -/
abbrev Action (α : Type) := Attempt Call.Answer α

namespace Action

variable {α : Type}

/-- The outcome of an action, whatever it is. -/
def outcome (a : Action α) : Action (Outcome α) := ExceptT.lift a.run

/-- Asking for the outcome of an action never fails. -/
theorem run_outcome {σ : Type} (handler : Handler Call.Answer σ) (a : Action α) (s : σ) :
    Program.run handler a.outcome.run s =
      (.ok (Program.run handler a.run s).1, (Program.run handler a.run s).2) := by
  show Program.run handler (Program.bind a.run fun o => .done (Except.ok o)) s = _
  rw [Program.run_bind]
  rfl

/-- The root token of the secret store. -/
def rootToken : Action Token := ExceptT.mk (Program.perform Call.rootToken)

/-- The registry's listing. -/
def listing : Action (List ListingEntry) := ExceptT.mk (Program.perform Call.listing)

/-- Pulls an image unless this run has pulled it. -/
def ensureImage (image : String) (auth : Option Config.RegistryAuth) : Action Unit :=
  ExceptT.mk (Program.perform (Call.ensureImage image auth))

/-- Creates and starts a container, and answers its id. -/
def createContainer (spec : ContainerSpec) : Action String :=
  ExceptT.mk (Program.perform (Call.createContainer spec))

/-- Stops a container. -/
def stopContainer (id : String) : Action Unit :=
  ExceptT.mk (Program.perform (Call.stopContainer id))

/-- Removes a container. -/
def removeContainer (id : String) : Action Unit :=
  ExceptT.mk (Program.perform (Call.removeContainer id))

/-- Lists the containers whose name contains a pattern. -/
def listContainers (pattern : String) : Action (List ContainerSummary) :=
  ExceptT.mk (Program.perform (Call.listContainers pattern))

/-- Describes a consumer group. -/
def describeGroup (group : String) : Action GroupState :=
  ExceptT.mk (Program.perform (Call.describeGroup group))

/-- An access token. -/
def accessToken (realm : String) (grant : Grant) : Action Token :=
  ExceptT.mk (Program.perform (Call.identity (.accessToken realm grant)))

/-- Creates roles. -/
def createRoles (token : Token) (tenant : String) (roles : Roles) : Action Unit :=
  ExceptT.mk (Program.perform (Call.identity (.createRoles token tenant roles)))

/-- Removes roles. -/
def removeRoles (token : Token) (tenant : String) (roles : Roles) : Action Unit :=
  ExceptT.mk (Program.perform (Call.identity (.removeRoles token tenant roles)))

/-- Creates users with their roles. -/
def createUsers (token : Token) (tenant : String) (users : Users) : Action Unit :=
  ExceptT.mk (Program.perform (Call.identity (.createUsers token tenant users)))

/-- Attaches capability sets to roles. -/
def attach (token : Token) (tenant : String) (roles : Roles) : Action Unit :=
  ExceptT.mk (Program.perform (Call.identity (.attach token tenant roles)))

/-- Detaches the capability sets from roles. -/
def detach (token : Token) (tenant : String) (roles : Roles) : Action Unit :=
  ExceptT.mk (Program.perform (Call.identity (.detach token tenant roles)))

/-- Sets the lifespan of a realm's access tokens. -/
def setLifespan (token : Token) (realm : String) (seconds : Nat) : Action Unit :=
  ExceptT.mk (Program.perform (Call.identity (.setLifespan token realm seconds)))

/-- Every tenant, in the order of the service. -/
def tenants (token : Token) : Action (List TenantRecord) :=
  ExceptT.mk (Program.perform (Call.management (.tenants token)))

/-- Creates a tenant. -/
def createTenant (token : Token) (name description : String) : Action TenantRecord :=
  ExceptT.mk (Program.perform (Call.management (.createTenant token name description)))

/-- Removes a tenant. -/
def removeTenant (token : Token) (id : String) : Action Unit :=
  ExceptT.mk (Program.perform (Call.management (.removeTenant token id)))

/-- Entitles a tenant to applications. -/
def entitle (token : Token) (id : String) (applications : List String) : Action Unit :=
  ExceptT.mk (Program.perform (Call.management (.entitle token id applications)))

/-- Revokes a tenant's entitlements. -/
def revoke (token : Token) (id : String) (applications : List String) : Action Unit :=
  ExceptT.mk (Program.perform (Call.management (.revoke token id applications)))

/-- Registers an application. -/
def createApplication (token : Token) (application : ApplicationDescriptor) : Action Unit :=
  ExceptT.mk (Program.perform (Call.management (.createApplication token application)))

/-- Registers where modules are reached. -/
def registerDiscovery (token : Token) (modules : List Discovery) : Action Unit :=
  ExceptT.mk (Program.perform (Call.management (.registerDiscovery token modules)))

/-- What the clock shows. -/
def now : Action Nat := ExceptT.lift (Program.perform Call.now)

/-- The time that comes some milliseconds after another, if the clock can show it. -/
def later (time millis : Nat) : Action Nat :=
  if time + millis < Duration.horizon then pure (time + millis) else throw .clockExceeded

/-- Lets time pass. -/
def sleep (millis : Nat) : Action Unit := ExceptT.lift (Program.perform (Call.sleep millis))

end Action

end Fleet
