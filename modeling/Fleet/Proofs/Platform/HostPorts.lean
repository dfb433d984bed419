import Fleet.Proofs.Deployment.Creations
import Fleet.Proofs.Platform.PlannedContainers
import Fleet.Proofs.Platform.Stages
import Fleet.Proofs.Rehearsal.Containers

/-!
# Host ports over a history of commands

Every command resolves the modules anew, with an allocator of its own, and most commands deploy one
pass only. All the same, no two containers that are left by any history of commands publish the same
host port, and a module is published on the same host port by every command that creates it.

The reason is that all commands create planned containers only. `contract` says so, `Orderly` is the
invariant that follows for the containers that are kept, and `history` is any order of commands, of
passes whose tasks take turns in any order, and of changes outside the containers: which creations
fail, which ports answer, and whatever else there is. A pass may be broken off at any turn.
-/

namespace Fleet

/-! ## Noting what is created -/

/-- The containers that a call is to create. -/
def Call.creations : Call → List ContainerSpec
  | .createContainer spec => [spec]
  | _ => []

/-- A handler that notes the containers that are to be created, whether or not they are. -/
def noting {σ : Type} (handler : Handler Call.Answer σ) :
    Handler Call.Answer (σ × List ContainerSpec) := fun call s =>
  let (answer, t) := handler call s.1
  (answer, (t, s.2 ++ call.creations))

/-- What is noted in a run are the creations of its trace. -/
theorem run_noting {σ α : Type} (handler : Handler Call.Answer σ) (p : Program Call.Answer α)
    (s : σ × List ContainerSpec) :
    p.run (noting handler) s = ((p.run handler s.1).1, ((p.run handler s.1).2,
      s.2 ++ (p.trace handler s.1).flatMap fun e => e.1.creations)) := by
  induction p generalizing s with
  | done value => simp [Program.run, Program.trace]
  | ask call next ih => simp [Program.run, Program.trace, noting, ih]

namespace Platform

/-! ## Commands create planned containers -/

/-- Planned containers are created only; listing and root token stay as they are. -/
def contract (c : Config) (token : Token) (listing : List ListingEntry) :
    Contract Call.Answer where
  allows call := ∀ spec, call = .createContainer spec → Planned c token listing spec
  expects
    | .rootToken, answer => answer = .ok token
    | .listing, answer => answer = .ok listing
    | _, _ => True

variable {c : Config} {token : Token} {listing : List ListingEntry}

theorem contract_free : (contract c token listing).FreeButCreation :=
  fun _ hcall spec heq => absurd heq (hcall spec)

theorem contract_allows {spec : ContainerSpec} (h : Planned c token listing spec) :
    (contract c token listing).allows (.createContainer spec) := by
  intro spec' heq
  cases heq
  exact h

theorem contract_pulls (image : String) (auth : Option Config.RegistryAuth) :
    (contract c token listing).allows (.ensureImage image auth) :=
  contract_free _ fun _ => by simp

theorem passesWithin_contract (c : Config) (token : Token) (listing : List ListingEntry)
    (isDirectory : String → Bool) :
    PassesWithin (contract c token listing) ⟨c, isDirectory⟩ := by
  intro token' listing' resolved kind htoken hlisting hresolved
  cases htoken
  cases hlisting
  refine Deployment.within_deploy contract_pulls fun d hd spec hspec => contract_allows ?_
  exact planned_of_deployable (plan_of_resolve hresolved) d hd spec hspec

/-! ## The containers that are kept -/

/-- The state of a rehearsed run, with the containers noted so far. -/
abbrev Account := RunState Rehearsal × List ContainerSpec

/-- Containers are kept under their names, all of them were noted, and what was noted is planned. -/
structure Orderly (c : Config) (token : Token) (listing : List ListingEntry) (s : Account) :
    Prop where
  named : ∀ e ∈ s.1.services.containers.containers.entries, e.2.spec.name = e.1
  noted : ∀ e ∈ s.1.services.containers.containers.entries, e.2.spec ∈ s.2
  planned : ∀ spec ∈ s.2, Planned c token listing spec

/-- Containers are kept as before, but for some that may be gone, stopped, or put in place of
others, and these were noted. -/
theorem Orderly.step {s s' : Account} (h : Orderly c token listing s) (noted : List ContainerSpec)
    (hnoted : s'.2 = s.2 ++ noted) (hplanned : ∀ spec ∈ noted, Planned c token listing spec)
    (hkept : ∀ e ∈ s'.1.services.containers.containers.entries,
      (e.2.spec.name = e.1 ∧ e.2.spec ∈ noted) ∨
      ∃ held, (e.1, held) ∈ s.1.services.containers.containers.entries ∧ held.spec = e.2.spec) :
    Orderly c token listing s' where
  named e he := by
    rcases hkept e he with ⟨hname, _⟩ | ⟨held, hheld, hspec⟩
    · exact hname
    · exact hspec ▸ h.named (e.1, held) hheld
  noted e he := by
    rw [hnoted]
    rcases hkept e he with ⟨_, hmem⟩ | ⟨held, hheld, hspec⟩
    · exact List.mem_append_right _ hmem
    · exact List.mem_append_left _ (hspec ▸ h.noted (e.1, held) hheld)
  planned spec hspec := by
    rw [hnoted] at hspec
    rcases List.mem_append.1 hspec with hspec | hspec
    · exact h.planned spec hspec
    · exact hplanned spec hspec

/-- Calls that leave the containers alone. -/
theorem Orderly.of_containers_eq {s s' : Account} (h : Orderly c token listing s)
    (hnoted : s'.2 = s.2)
    (hkept : s'.1.services.containers.containers = s.1.services.containers.containers) :
    Orderly c token listing s' := by
  refine h.step [] (by rw [hnoted, List.append_nil])
    (fun _ hspec => absurd hspec List.not_mem_nil) fun e he => .inr ⟨e.2, ?_, rfl⟩
  rw [hkept] at he
  exact he

/-- Calls of the container runtime, of which creations are of planned containers. -/
theorem Orderly.runtime {s s' : Account} (h : Orderly c token listing s) (call : RuntimeCall)
    (noted : List ContainerSpec)
    (hkept : s'.1.services.containers =
      (ContainerStore.handler call s.1.services.containers).2)
    (hnoted : s'.2 = s.2 ++ noted)
    (hplanned : ∀ spec ∈ noted, Planned c token listing spec)
    (hcreated : ∀ spec, call = .create spec → spec ∈ noted) : Orderly c token listing s' := by
  refine h.step noted hnoted hplanned fun e he => ?_
  rw [hkept] at he
  rcases ContainerStore.mem_handler call he with ⟨spec, hcall, hname, hspec⟩ | hheld
  · exact .inl ⟨hspec ▸ hname.symm, hspec ▸ hcreated spec hcall⟩
  · exact .inr hheld

/-- The services of a rehearsal do their part. -/
theorem served_contract :
    (contract c token listing).Served (noting (Rehearsal.collaborators listing token).handler)
      (Orderly c token listing) := by
  intro call s hallows h
  cases call with
  | createContainer spec =>
    refine ⟨trivial, h.runtime (.create spec) [spec] rfl rfl ?_ ?_⟩
    · exact fun spec' hmem => List.mem_singleton.1 hmem ▸ hallows spec rfl
    · intro spec' heq
      cases heq
      exact List.mem_singleton_self spec
  | stopContainer id =>
    exact ⟨trivial, h.runtime (.stop id) [] rfl rfl (by simp) (by simp)⟩
  | removeContainer id =>
    exact ⟨trivial, h.runtime (.remove id) [] rfl rfl (by simp) (by simp)⟩
  | ensureImage image auth =>
    obtain ⟨pulls, hservices⟩ := Rehearsal.services_ensureImage listing token auth image s.1
    refine ⟨trivial, h.of_containers_eq (List.append_nil _) ?_⟩
    show ((Rehearsal.collaborators listing token).ensureImage auth image
      s.1).2.services.containers.containers = _
    rw [hservices]
  | rootToken => exact ⟨rfl, h.of_containers_eq (List.append_nil _) rfl⟩
  | listing => exact ⟨rfl, h.of_containers_eq (List.append_nil _) rfl⟩
  | listContainers pattern => exact ⟨trivial, h.of_containers_eq (List.append_nil _) rfl⟩
  | probe port => exact ⟨trivial, h.of_containers_eq (List.append_nil _) rfl⟩
  | gatewayStatus => exact ⟨trivial, h.of_containers_eq (List.append_nil _) rfl⟩
  | describeGroup group => exact ⟨trivial, h.of_containers_eq (List.append_nil _) rfl⟩
  | identity call => exact ⟨trivial, h.of_containers_eq (List.append_nil _) rfl⟩
  | management call => exact ⟨trivial, h.of_containers_eq (List.append_nil _) rfl⟩
  | now => exact ⟨trivial, h.of_containers_eq (List.append_nil _) rfl⟩
  | sleep millis => exact ⟨trivial, h.of_containers_eq (List.append_nil _) rfl⟩

/-! ## Histories -/

/-- What may happen to a platform and its services. -/
inductive Occurrence
  /-- A command is carried out, on a machine with these directories. -/
  | command (isDirectory : String → Bool) (command : Command)
  /-- The tasks of a pass take these turns. -/
  | pass (isDirectory : String → Bool) (kind : ModuleKind) (turns : List Deployment.Turn)
  /-- The services become others, and other creations fail; the containers stay. -/
  | change (services : Rehearsal) (failing : List String)

/-- The services with the containers that another rehearsal keeps, of which creations may fail. -/
def keeping (services held : Rehearsal) (failing : List String) : Rehearsal :=
  { services with containers := { held.containers with failing := failing } }

/-- Something happens. -/
def occur (c : Config) (token : Token) (listing : List ListingEntry) (s : Account) :
    Occurrence → Account
  | .command isDirectory command =>
    ((command.transcript ⟨c, isDirectory⟩).run
      (noting (Rehearsal.collaborators listing token).handler) s).2
  | .pass isDirectory kind turns =>
    match Platform.resolve ⟨c, isDirectory⟩ listing with
    | .ok resolved =>
      (Deployment.Underway.turns (noting (Rehearsal.collaborators listing token).handler) turns
        (.start (.ofConfig c (some token)) (Pass.ofKind kind resolved).deployable) s).2
    | .error _ => s
  | .change services failing =>
    ({ s.1 with services := keeping services s.1.services failing }, s.2)

/-- What is left when all this has happened to services that keep no container at first. -/
def history (c : Config) (token : Token) (listing : List ListingEntry) (services : Rehearsal)
    (occurrences : List Occurrence) : Account :=
  occurrences.foldl (occur c token listing) (.fresh (keeping services {} []), [])

/-- Whatever happens keeps the containers orderly. -/
theorem Orderly.occur {s : Account} (h : Orderly c token listing s) (o : Occurrence) :
    Orderly c token listing (occur c token listing s o) := by
  cases o with
  | command isDirectory command =>
    have hpasses := passesWithin_contract c token listing isDirectory
    have hremovals : Platform.RemovalsWithin (contract c token listing) ⟨c, isDirectory⟩ :=
      fun kind => Deployment.within_undeploy contract_free _ kind
    have hkeeps := command.keeps_transcript contract_free.butContainers hpasses hremovals
    exact (hkeeps.run served_contract h).2
  | pass isDirectory kind turns =>
    simp only [Platform.occur]
    split
    · next resolved hresolved =>
      have hallows : ∀ d ∈ (Pass.ofKind kind resolved).deployable,
          ∀ spec ∈ (Blueprint.ofConfig c (some token)).specsOf d,
            (contract c token listing).allows (.createContainer spec) := fun d hd spec hspec =>
        contract_allows (planned_of_deployable (plan_of_resolve hresolved) d hd spec hspec)
      have hstart := Deployment.Underway.within_start contract_pulls hallows
      exact (hstart.turns served_contract h turns).2
    · exact h
  | change services failing => exact h.of_containers_eq rfl rfl

/-- Whatever happens, one after another, keeps the containers orderly. -/
theorem Orderly.occurAll {s : Account} (h : Orderly c token listing s)
    (occurrences : List Occurrence) :
    Orderly c token listing (occurrences.foldl (Platform.occur c token listing) s) := by
  induction occurrences generalizing s with
  | nil => exact h
  | cons o rest ih => exact ih (h.occur o)

theorem orderly_history (c : Config) (token : Token) (listing : List ListingEntry)
    (services : Rehearsal) (occurrences : List Occurrence) :
    Orderly c token listing (history c token listing services occurrences) := by
  have hstart : Orderly c token listing (.fresh (keeping services {} []), []) :=
    ⟨fun _ he => absurd he List.not_mem_nil, fun _ he => absurd he List.not_mem_nil,
      fun _ he => absurd he List.not_mem_nil⟩
  exact hstart.occurAll occurrences

/-- The containers of an orderly state publish pairwise distinct host ports. -/
theorem Orderly.nodup_hostPorts {s : Account} (h : Orderly c token listing s) :
    (s.1.services.containers.containers.values.flatMap fun held => held.spec.hostPorts).Nodup := by
  let held := s.1.services.containers.containers
  have hplanned : ∀ e ∈ held.entries, Planned c token listing e.2.spec :=
    fun e he => h.planned _ (h.noted e he)
  rw [Table.values, List.flatMap_map, List.nodup_flatMap]
  refine ⟨fun e he => (hplanned e he).nodup_hostPorts, ?_⟩
  have hkeys : held.entries.Pairwise fun e e' => e.1 ≠ e'.1 :=
    List.pairwise_map.1 held.nodup_keys
  refine hkeys.imp_of_mem fun {e e'} he he' hne => ?_
  refine (hplanned e he).disjoint (hplanned e' he') fun heq => hne ?_
  rw [← h.named e he, ← h.named e' he', heq]

/-- After every history, no two containers publish the same host port, and the containers that were
created for one module, or for its sidecar, were all published on the same host port. -/
theorem hostPorts_of_history (c : Config) (token : Token) (listing : List ListingEntry)
    (services : Rehearsal) (occurrences : List Occurrence) :
    let account := history c token listing services occurrences
    (account.1.services.containers.containers.values.flatMap fun held =>
      held.spec.hostPorts).Nodup ∧
    ∀ spec ∈ account.2, ∀ spec' ∈ account.2,
      spec.labels.find? Label.module = spec'.labels.find? Label.module →
      spec.labels.find? Label.sidecar = spec'.labels.find? Label.sidecar →
      spec.hostPorts = spec'.hostPorts := by
  have h := orderly_history c token listing services occurrences
  refine ⟨h.nodup_hostPorts, fun spec hspec spec' hspec' hmodule hsidecar => ?_⟩
  have heq := (h.planned spec hspec).eq_of_labels (h.planned spec' hspec') hmodule hsidecar
  rw [heq]

/-- The business pass comes first here, and leaves the first port to the management pass. -/
example :
    let version := ModuleSpec.explicit { Overrides.none with version := some "1" }
    let c : Config := { modules := Table.ofList [("mgr-a", version), ("mod-b", version)] }
    let account := history c ⟨"root"⟩ [] {} [.command (fun _ => true) .deployModules,
      .command (fun _ => true) .deployManagement]
    (account.1.services.containers.containers.entries.map fun e => (e.1, e.2.spec.hostPorts)) =
      [("flotilla-mgr-a", [30000]), ("flotilla-mod-b", [30001]),
        ("flotilla-mod-b-sc", [30002])] := by
  decide +kernel

end Platform

end Fleet
