import Fleet.Collaborators
import Fleet.Rehearsal.Containers
import Fleet.Rehearsal.Identity
import Fleet.Rehearsal.Signals
import Fleet.Rehearsal.Tenants

/-!
# Rehearsals

A rehearsal runs a platform's commands against services in memory: what would be done is kept and
noted, and nothing is touched. Its clock advances only when the platform sleeps.
-/

namespace Fleet

/-- The services of a rehearsal. -/
structure Rehearsal where
  containers : ContainerStore := {}
  identity : IdentityLog := {}
  tenants : TenantRegister := {}
  ports : PortScript := {}
  gateway : GatewayScript := {}
  group : GroupScript := .idle
  /-- How often the consumer group was described. -/
  described : Nat := 0
  /-- What the clock shows, in milliseconds. -/
  clock : Nat := 0

namespace Rehearsal

instance : Inhabited Rehearsal := ⟨{}⟩

/-- A step of the containers. -/
def onContainers {α : Type} (step : ContainerStore → α × ContainerStore) (r : Rehearsal) :
    α × Rehearsal :=
  onPart containers (fun r t => { r with containers := t }) step r

/-- Answers the calls of a container runtime. -/
def runtime : Handler RuntimeCall.Answer Rehearsal := fun call =>
  onContainers (ContainerStore.handler call)

/-- Answers the calls of an identity provider. -/
def identityHandler : Handler IdentityCall.Answer Rehearsal := fun call =>
  onPart identity (fun r t => { r with identity := t }) (IdentityLog.handler call)

/-- Answers the calls of a management service. -/
def managementHandler : Handler ManagementCall.Answer Rehearsal := fun call =>
  onPart tenants (fun r t => { r with tenants := t }) (TenantRegister.handler call)

/-- Probes a port. -/
def probe (port : Port) : Rehearsal → Outcome Unit × Rehearsal :=
  onPart ports (fun r t => { r with ports := t }) (PortScript.probe port)

/-- Asks the gateway. -/
def askGateway : Rehearsal → Outcome Bool × Rehearsal :=
  onPart gateway (fun r t => { r with gateway := t }) GatewayScript.ask

/-- Counts a look at the consumer group. -/
def countLook (r : Rehearsal) : Rehearsal := { r with described := r.described + 1 }

/-- Describes the consumer group by its script. -/
def describeGroup (name : String) (r : Rehearsal) : Outcome GroupState × Rehearsal :=
  onPart group (fun r t => { r with group := t }) (GroupScript.describe name) r.countLook

/-- Describes the consumer group by the table that a container's command line shows. -/
def describeInTable (b : Config.Broker) (name : String) (r : Rehearsal) :
    Outcome GroupState × Rehearsal :=
  Collaborators.groupInTable runtime b name r.countLook

/-- Lets time pass. -/
def sleep (millis : Nat) (r : Rehearsal) : Rehearsal := { r with clock := r.clock + millis }

/-- The services of a rehearsal with a listing and a root token. -/
def collaborators (listing : List ListingEntry) (token : Token) : Collaborators Rehearsal where
  runtime := runtime
  identity := identityHandler
  management := managementHandler
  listing r := (.ok listing, r)
  rootToken r := (.ok token, r)
  probe := probe
  gateway := askGateway
  group := describeGroup
  clock := clock
  sleep := sleep

end Rehearsal

end Fleet
