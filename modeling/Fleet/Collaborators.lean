import Fleet.Broker.GroupTable
import Fleet.ImageCache
import Fleet.RootToken

/-!
# Collaborators

The services that a platform calls, each as a step of one state. Services of different kinds can be
put together as needed: live ones, rehearsed ones, or a mixture. `Collaborators.handler` gives
meaning to a platform's calls; it is here that every image is pulled once, since images are
remembered beside the state of the services.
-/

namespace Fleet

/-- The services that a platform calls. -/
structure Collaborators (σ : Type) where
  runtime : Handler RuntimeCall.Answer σ
  identity : Handler IdentityCall.Answer σ
  management : Handler ManagementCall.Answer σ
  /-- The registry's listing. -/
  listing : σ → Outcome (List ListingEntry) × σ
  /-- The root token of the secret store. -/
  rootToken : σ → Outcome Token × σ
  /-- Whether a host port answers. -/
  probe : Port → σ → Outcome Unit × σ
  /-- Whether the gateway routes requests. -/
  gateway : σ → Outcome Bool × σ
  /-- The state of a consumer group. -/
  group : String → σ → Outcome GroupState × σ
  /-- What the clock shows, in milliseconds. -/
  clock : σ → Nat
  /-- Lets milliseconds pass. -/
  sleep : Nat → σ → σ

/-- The state of a run: the images it has pulled, and the state of the services. -/
structure RunState (σ : Type) where
  images : ImageCache
  services : σ

/-- A run that has pulled nothing. -/
def RunState.fresh {σ : Type} (services : σ) : RunState σ := ⟨.empty, services⟩

namespace Collaborators

variable {σ α : Type}

/-- A step of the services as a step of the run. -/
def onServices (step : σ → α × σ) (s : RunState σ) : α × RunState σ :=
  onPart RunState.services (fun s t => { s with services := t }) step s

/-- The root token as a container's log announces it. -/
def rootTokenInLog (runtime : Handler RuntimeCall.Answer σ) (container : String) (s : σ) :
    Outcome Token × σ :=
  Program.run runtime (RootToken.read container).run s

/-- The state of a consumer group as the broker's command line shows it. -/
def groupInTable (runtime : Handler RuntimeCall.Answer σ) (b : Config.Broker) (group : String)
    (s : σ) : Outcome GroupState × σ :=
  Program.run runtime (GroupTable.describe b group).run s

/-- Pulls an image unless the run has pulled it. -/
def ensureImage (c : Collaborators σ) (auth : Option Config.RegistryAuth) (image : String)
    (s : RunState σ) : Outcome Unit × RunState σ :=
  let pull (image : String) (t : σ) := c.runtime (.pull image auth) t
  let (outcome, images, services) := ImageCache.ensure pull image s.images s.services
  (outcome, ⟨images, services⟩)

/-- Answers the calls of a platform. -/
def handler (c : Collaborators σ) : Handler Call.Answer (RunState σ)
  | .rootToken => onServices c.rootToken
  | .listing => onServices c.listing
  | .ensureImage image auth => c.ensureImage auth image
  | .createContainer spec => onServices (c.runtime (.create spec))
  | .stopContainer id => onServices (c.runtime (.stop id))
  | .removeContainer id => onServices (c.runtime (.remove id))
  | .listContainers pattern => onServices (c.runtime (.list pattern))
  | .probe port => onServices (c.probe port)
  | .gatewayStatus => onServices c.gateway
  | .describeGroup group => onServices (c.group group)
  | .identity call => onServices (c.identity call)
  | .management call => onServices (c.management call)
  | .now => onServices fun s => (c.clock s, s)
  | .sleep millis => onServices fun s => ((), c.sleep millis s)

/-- Runs an action. -/
def run (c : Collaborators σ) (a : Action α) (s : RunState σ) : Outcome α × RunState σ :=
  Program.run c.handler a.run s

end Collaborators

end Fleet
