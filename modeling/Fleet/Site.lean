import Fleet.Docker.Client
import Fleet.Machine.Script
import Fleet.Rehearsal
import Fleet.Service.Gateway
import Fleet.Service.Identity
import Fleet.Service.Probe
import Fleet.Service.Registry
import Fleet.Service.Tenants

/-!
# Sites

A site is where the commands of a platform act: a machine from which live services are reached, and
beside it the services of a rehearsal. `Site.collaborators` picks the services as a description
asks: docker and web services, or a rehearsal that at most asks the registries for their listings.
-/

namespace Fleet

/-- Where the commands of a platform act. -/
structure Site where
  machine : ScriptedMachine
  rehearsal : Rehearsal := {}

namespace Site

variable {α : Type}

/-- A program of the machine's calls. -/
def onMachine (p : Program MachineCall.Answer α) (s : Site) : α × Site :=
  onPart machine (fun s m => { s with machine := m }) (p.run ScriptedMachine.handler) s

/-- A program runs on a site call by call. -/
theorem onMachine_eq_run (p : Program MachineCall.Answer α) :
    onMachine p = Program.run (fun call => onMachine (Program.perform call)) p := by
  induction p with
  | done value => rfl
  | ask call next ih =>
    funext s
    calc onMachine (.ask call next) s
      _ = onMachine (next (onMachine (Program.perform call) s).1)
            (onMachine (Program.perform call) s).2 := rfl
      _ = _ := congrFun (ih _) _

/-- A step of the rehearsal. -/
def onRehearsal (step : Rehearsal → α × Rehearsal) (s : Site) : α × Site :=
  onPart rehearsal (fun s r => { s with rehearsal := r }) step s

/-- The registries' listing; without registries it is empty. -/
def listing (c : Config) (s : Site) : Outcome (List ListingEntry) × Site :=
  if c.registry.urls.isEmpty then (.ok [], s)
  else onMachine (Registry.fetch (.ofConfig c.http) c.registry.urls).run s

/-- Answers the calls of docker. -/
def docker (c : Config) : Handler RuntimeCall.Answer Site := fun call =>
  onMachine ((Docker.Client.ofConfig c.runtime).serve call)

/-- The root token: the one that is known beforehand, or the one that the log announces. -/
def rootToken (c : Config) (s : Site) : Outcome Token × Site :=
  match c.vault.rootToken with
  | some secret => (.ok ⟨secret⟩, s)
  | none => Collaborators.rootTokenInLog (docker c) c.vault.container s

/-- Docker and web services. -/
def live (c : Config) : Collaborators Site where
  runtime := docker c
  identity call :=
    onMachine ((IdentityService.ofConfig (.ofConfig c.http) c.identity c.management.url).serve call)
  management call :=
    onMachine ((ManagementService.ofAddress (.ofConfig c.http) c.management.url).serve call)
  listing := listing c
  rootToken := rootToken c
  probe port := onMachine (Probe.ofConfig c.readiness port).run
  gateway := onMachine (Gateway.isReady (.ofConfig c.http) c.gateway.adminUrl).run
  group := Collaborators.groupInTable (docker c) c.broker
  clock s := s.machine.clock
  sleep millis s := (onMachine (Program.perform (MachineCall.sleep millis)) s).2

/-- The root token of a rehearsal for which none is known. -/
def rehearsalToken : String := "dry-run-root-token"

/-- The services of a rehearsal. -/
def rehearsed (c : Config) : Collaborators Site where
  runtime call := onRehearsal (Rehearsal.runtime call)
  identity call := onRehearsal (Rehearsal.identityHandler call)
  management call := onRehearsal (Rehearsal.managementHandler call)
  listing := listing c
  rootToken s := (.ok ⟨c.vault.rootToken.getD rehearsalToken⟩, s)
  probe port := onRehearsal (Rehearsal.probe port)
  gateway := onRehearsal Rehearsal.askGateway
  group name := onRehearsal (Rehearsal.describeGroup name)
  clock s := s.rehearsal.clock
  sleep millis := fun s => (onRehearsal (fun r => ((), r.sleep millis)) s).2

/-- The services that a description asks for. -/
def collaborators (c : Config) : Collaborators Site :=
  match c.runtime.kind with
  | .docker => live c
  | .memory => rehearsed c

end Site

end Fleet
