import Fleet.Proofs.Container.Environment
import Fleet.Proofs.Module.PublishedPorts
import Fleet.Proofs.Platform.PassCommands
import Fleet.Rehearsal
import Mathlib.Data.List.Flatten

/-!
# The views of a pass

Of a pass that has been deployed there are four views: the host ports that the command answers, the
containers that were created, the ports that were probed, and what was registered. Each of them
decides anew whether a module has a sidecar: by its port, by its flags, or by both.

**The law** (`deployed_agreement`): the views agree, for every description and listing that can be
resolved, for all answers of the services, and for every order in which the tasks of the pass take
turns, those that start sidecars and those that await ports. What carries it is a fact of
resolution, that exactly the modules with a sidecar have a port for one
(`Resolver.resolve_privatePort`).

**What it does not establish.** That a container is still there under the host name that is
registered for its module: a container may have been replaced by another of its name
(`Deployment.installed_iff_not_overlaid`).
-/

namespace Fleet

open Program

variable {σ : Type} {handler : Handler Call.Answer σ} {s s' : σ} {events : List Event}

/-! ## What calls are about -/

namespace Call

/-- The port that a call probes. -/
def probed : Call → List Port
  | .probe port => [port]
  | _ => []

/-- The application that a call registers. -/
def applications : Call → List ApplicationDescriptor
  | .management (.createApplication _ application) => [application]
  | _ => []

/-- The addresses that a call registers. -/
def discoveries : Call → List (List Discovery)
  | .management (.registerDiscovery _ modules) => [modules]
  | _ => []

end Call

/-- The container under whose host name a module is reached. -/
def Blueprint.front (b : Blueprint) (d : Descriptor) : ContainerSpec :=
  (b.sidecarSpec? d).getD (b.moduleSpec d)

theorem Blueprint.front_mem (b : Blueprint) (d : Descriptor) : b.front d ∈ b.specsOf d := by
  unfold front specsOf
  cases b.sidecarSpec? d with
  | none => exact List.mem_cons_self
  | some spec => exact List.mem_cons_of_mem _ (List.mem_singleton_self spec)

namespace Platform

variable {m : Manners} {p : Platform} {b : Blueprint} {token : Token}
  {resolved : Table String Descriptor} {kind : ModuleKind}

/-! ## Agreement -/

/-- What is registered of a pass names its modules, one after another and under one id, and each
with the host name of a container of its own. -/
structure Registers (b : Blueprint) (pass : Pass) (application : ApplicationDescriptor)
    (modules : List Discovery) : Prop where
  application : application.modules = pass.deployable.map fun d => ⟨d.id.text, d.name, d.version⟩
  discovery : modules = pass.deployable.map fun d =>
    ⟨d.id.text, d.name, d.version, "http://" ++ (b.front d).hostname ++ ":8081"⟩
  once : (pass.deployable.map Descriptor.name).Nodup
  /-- No location names a host without a container. -/
  reached : ∀ m ∈ modules, ∃ d ∈ pass.deployable, ∃ spec ∈ b.specsOf d,
    m.location = "http://" ++ spec.hostname ++ ":8081"

/-- The views of a deployed pass agree, the ports of which were awaited in this manner. -/
structure Agreement (manner : Readiness.Manner) (p : Platform) (b : Blueprint) (pass : Pass)
    (ports : Table String ModulePorts) (events : List Event) : Prop where
  /-- The containers of the deployed modules were created, and no others. -/
  created : ∀ spec, Deployment.Created events spec ↔ ∃ d ∈ pass.deployable, spec ∈ b.specsOf d
  /-- Ports are answered for the deployed modules. -/
  modules : ports.keys = pass.deployable.map Descriptor.name
  /-- They are the host ports of the module's containers; there is one of a sidecar exactly if there
  is a container of a sidecar. -/
  reported : ∀ d ∈ pass.deployable, ∃ q, ports.find? d.name = some q ∧
    (b.moduleSpec d).hostPorts = [q.module] ∧
    (b.sidecarSpec? d).map ContainerSpec.hostPorts = q.sidecar.map fun port => [port]
  /-- The host ports of containers were probed, and no others, and all have answered. -/
  probed : ∀ port, port ∈ events.flatMap (fun e => e.1.probed) ↔
    ∃ d ∈ pass.deployable, ∃ spec ∈ b.specsOf d, port ∈ spec.hostPorts
  answered : ∀ d ∈ pass.deployable, ∀ spec ∈ b.specsOf d, ∀ port ∈ spec.hostPorts,
    ⟨.probe port, .ok ()⟩ ∈ events
  /-- If nothing fails, every port is probed once, and in rounds in the order of the pass. -/
  probedOnce : (∀ e ∈ events, p.succeeds e.1 e.2 = true) →
    let probed := events.flatMap fun e => e.1.probed
    let published := pass.deployable.flatMap fun d => (b.specsOf d).flatMap ContainerSpec.hostPorts
    probed.Perm published ∧ probed.Nodup ∧ (manner = .inRounds → probed = published)
  /-- Exactly a pass that faces tenants and has modules is registered, once. -/
  registered : if pass.kind = .business ∧ pass.deployable ≠ [] then
      ∃ application modules, events.flatMap (fun e => e.1.applications) = [application] ∧
        events.flatMap (fun e => e.1.discoveries) = [modules] ∧
        Registers b pass application modules
    else events.flatMap (fun e => e.1.applications) = [] ∧
      events.flatMap (fun e => e.1.discoveries) = []

/-! ## One decision about sidecars -/

section Resolved

variable {d : Descriptor}

/-- Three ways to ask for a sidecar come to the same, since exactly the descriptors with a sidecar
have a port for one. -/
theorem hostname_front (hport : d.privatePort.isSome = d.hasSidecar) :
    (b.front d).hostname = reachedAt d := by
  unfold Blueprint.front Blueprint.sidecarSpec? Descriptor.sidecarPort? reachedAt
  cases hsidecar : d.hasSidecar with
  | false => rfl
  | true =>
    rw [hsidecar] at hport
    obtain ⟨port, hsome⟩ := Option.isSome_iff_exists.1 hport
    rw [if_pos rfl, if_pos rfl, hsome]
    rfl

theorem hostPorts_sidecarSpec? (b : Blueprint) (d : Descriptor) :
    (b.sidecarSpec? d).map ContainerSpec.hostPorts =
      (Pass.portsOf d).sidecar.map fun port => [port] := by
  unfold Blueprint.sidecarSpec? Pass.portsOf
  rw [Option.map_map]
  rfl

/-- The host ports of a pass are those of its containers, also one by one. -/
theorem ports_watches (hnames : resolved.entries = resolved.values.map fun d => (d.name, d))
    (b : Blueprint) :
    (Readiness.watches (Pass.ofKind kind resolved).ports).map (·.port) =
      (Pass.ofKind kind resolved).deployable.flatMap fun d =>
        (b.specsOf d).flatMap ContainerSpec.hostPorts := by
  rw [Readiness.watches, Pass.entries_ports hnames, List.flatMap_map, List.map_flatMap]
  refine List.flatMap_congr fun d hd => ?_
  have hdeploy := (Pass.mem_values_of_mem_deployable hd).2
  have hpublished : d.published = (Pass.portsOf d).toList := if_pos hdeploy
  rw [Blueprint.hostPorts_specsOf hdeploy, hpublished, List.map_map]
  exact List.map_id _

end Resolved

/-! ## The events of a pass in parts -/

/-- Stages that end well go by one after another. -/
theorem InStages.cons_ok {stage : Stage} {rest : List Stage} {segments : List (Stage × List Event)}
    (h : InStages handler m p b resolved (stage :: rest) s segments (.ok ()) s') :
    ∃ first t later, segments = (stage, first) :: later ∧
      stage.Course handler m p b resolved s first (.ok ()) t ∧
      InStages handler m p b resolved rest t later (.ok ()) s' := by
  cases h with
  | next hstage hrest => exact ⟨_, _, _, rfl, hstage, hrest⟩

theorem InStages.nil_ok {segments : List (Stage × List Event)}
    (h : InStages handler m p b resolved [] s segments (.ok ()) s') : segments = [] := by
  cases h
  rfl

/-- The parts of a pass that has been deployed: what was asked for beforehand, the containers, the
probes, and the registration if the pass faces tenants. -/
structure Parts (handler : Handler Call.Answer σ) (m : Manners) (p : Platform) (token : Token)
    (listing : List ListingEntry) (resolved : Table String Descriptor) (kind : ModuleKind)
    (events creating probing registering : List Event) : Prop where
  split : events = [⟨.rootToken, .ok token⟩, ⟨.listing, .ok listing⟩] ++
    (creating ++ (probing ++ registering))
  containers : ∃ t t', (Stage.containers kind).Course handler m p (.ofConfig p.config (some token))
    resolved t creating (.ok ()) t'
  probes : ∃ t t', (Stage.probes kind).Course handler m p (.ofConfig p.config (some token))
    resolved t probing (.ok ()) t'
  registration : match kind with
    | .management => registering = []
    | .business => ∃ t t', Course handler
        (p.registerApplication (.ofKind .business resolved)).run t registering (.ok ()) t'

theorem DeploysPass.parts {manner : Readiness.Manner} {ports : Table String ModulePorts}
    (h : DeploysPass handler p kind manner s events ports s') :
    ∃ m : Manners, m kind = manner ∧
    ∃ token listing resolved creating probing registering, p.resolve listing = .ok resolved ∧
      ports = (Pass.ofKind kind resolved).ports ∧
      Parts handler m p token listing resolved kind events creating probing registering := by
  obtain ⟨m, hmanner, first, b, resolved, t, segments, rfl, hprepare, hstages, hports⟩ :=
    h.inStages
  obtain ⟨token, listing, rfl, hresolve, rfl⟩ := course_prepare_ok hprepare
  refine ⟨m, hmanner, token, listing, resolved, ?_⟩
  cases kind with
  | management =>
    obtain ⟨creating, t₁, later, rfl, hcontainers, hlater⟩ := hstages.cons_ok
    obtain ⟨probing, t₂, last, rfl, hprobes, hlast⟩ := hlater.cons_ok
    rw [hlast.nil_ok]
    exact ⟨creating, probing, [], hresolve, hports, rfl, ⟨_, _, hcontainers⟩, ⟨_, _, hprobes⟩, rfl⟩
  | business =>
    obtain ⟨creating, t₁, later, rfl, hcontainers, hlater⟩ := hstages.cons_ok
    obtain ⟨probing, t₂, last, rfl, hprobes, hlast⟩ := hlater.cons_ok
    obtain ⟨registering, t₃, rest, rfl, hregistration, hrest⟩ := hlast.cons_ok
    rw [hrest.nil_ok]
    refine ⟨creating, probing, registering, hresolve, hports, ?_, ⟨_, _, hcontainers⟩,
      ⟨_, _, hprobes⟩, ⟨_, _, hregistration⟩⟩
    rw [List.flatMap_cons, List.flatMap_cons, List.flatMap_cons, List.flatMap_nil, List.append_nil]

/-- A registration asks for a token and makes two calls with it; a pass without modules makes none.
-/
theorem course_registerApplication {pass : Pass}
    (h : Course handler (p.registerApplication pass).run s events (.ok ()) s') :
    (pass.deployable = [] ∧ events = []) ∨ pass.deployable ≠ [] ∧ ∃ master,
      events = [⟨.identity (.accessToken p.config.identity.masterRealm .clientCredentials),
          .ok master⟩,
        ⟨.management (.createApplication master (p.application pass)), .ok ()⟩,
        ⟨.management (.registerDiscovery master (discovery pass)), .ok ()⟩] := by
  simp only [registerApplication] at h
  split at h
  · next hempty =>
    obtain ⟨_, _, rfl⟩ := Action.course_pure.1 h
    exact .inl ⟨Pass.isEmpty_iff.1 hempty, rfl⟩
  · next hsome =>
    obtain ⟨master, t, first, later, rfl, hmaster, hlater⟩ := Action.course_bind_ok h
    obtain ⟨_, rfl⟩ := course_perform.1 hmaster
    obtain ⟨_, u, middle, last, rfl, hcreate, hregister⟩ := Action.course_bind_ok hlater
    obtain ⟨_, rfl⟩ := course_perform.1 hcreate
    obtain ⟨_, rfl⟩ := course_perform.1 hregister
    exact .inr ⟨fun hnil => hsome (Pass.isEmpty_iff.2 hnil), master, rfl⟩

namespace Parts

variable {listing : List ListingEntry} {creating probing registering : List Event}

section Views

variable {α : Type} {view : Call → List α}

theorem view_creating (h : Parts handler m p token listing resolved kind events creating probing
      registering) (hnames : resolved.entries = resolved.values.map fun d => (d.name, d))
    (hpull : ∀ image auth, view (.ensureImage image auth) = [])
    (hcreate : ∀ spec, view (.createContainer spec) = []) :
    creating.flatMap (fun e => view e.1) = [] := by
  obtain ⟨t, t', hcourse⟩ := h.containers
  refine List.flatMap_eq_nil_iff.2 fun e he => ?_
  rcases hcourse.makes hnames e he with ⟨image, auth, hcall⟩ | ⟨d, _, spec, _, hcall⟩
  · rw [hcall, hpull]
  · rw [hcall, hcreate]

theorem view_probing (h : Parts handler m p token listing resolved kind events creating probing
      registering) (hnames : resolved.entries = resolved.values.map fun d => (d.name, d))
    (hprobe : ∀ port, view (.probe port) = []) (hsleep : ∀ millis, view (.sleep millis) = []) :
    probing.flatMap (fun e => view e.1) = [] := by
  obtain ⟨t, t', hcourse⟩ := h.probes
  refine List.flatMap_eq_nil_iff.2 fun e he => ?_
  rcases hcourse.makes hnames e he with ⟨millis, hcall⟩ | ⟨d, _, port, _, hcall⟩
  · rw [hcall, hsleep]
  · rw [hcall, hprobe]

/-- What is about neither containers nor probes is seen in the registration alone. -/
theorem view_eq (h : Parts handler m p token listing resolved kind events creating probing
      registering) (hnames : resolved.entries = resolved.values.map fun d => (d.name, d))
    (view : Call → List α) (hroot : view .rootToken = []) (hlisting : view .listing = [])
    (hpull : ∀ image auth, view (.ensureImage image auth) = [])
    (hcreate : ∀ spec, view (.createContainer spec) = [])
    (hprobe : ∀ port, view (.probe port) = []) (hsleep : ∀ millis, view (.sleep millis) = []) :
    events.flatMap (fun e => view e.1) = registering.flatMap fun e => view e.1 := by
  rw [h.split, List.flatMap_append, List.flatMap_append, List.flatMap_append,
    h.view_creating hnames hpull hcreate, h.view_probing hnames hprobe hsleep]
  simp [hroot, hlisting]

end Views

theorem probed_eq (h : Parts handler m p token listing resolved kind events creating probing
      registering) (hnames : resolved.entries = resolved.values.map fun d => (d.name, d)) :
    events.flatMap (fun e => e.1.probed) = probing.flatMap fun e => e.1.probed := by
  have hregistering : registering.flatMap (fun e => e.1.probed) = [] := by
    have hregistration := h.registration
    cases kind with
    | management =>
      rw [hregistration]
      rfl
    | business =>
      obtain ⟨t, t', hcourse⟩ := hregistration
      rcases course_registerApplication hcourse with ⟨_, rfl⟩ | ⟨_, master, rfl⟩ <;> rfl
  rw [h.split, List.flatMap_append, List.flatMap_append, List.flatMap_append,
    h.view_creating hnames (fun _ _ => rfl) (fun _ => rfl), hregistering, List.append_nil,
    List.nil_append]
  rfl

theorem created_iff (h : Parts handler m p token listing resolved kind events creating probing
      registering) (hnames : resolved.entries = resolved.values.map fun d => (d.name, d))
    (spec : ContainerSpec) : Deployment.Created events spec ↔
      ∃ d ∈ (Pass.ofKind kind resolved).deployable,
        spec ∈ (Blueprint.ofConfig p.config (some token)).specsOf d := by
  obtain ⟨t, t', hcontainers⟩ := h.containers
  obtain ⟨u, u', hprobes⟩ := h.probes
  constructor
  · rintro ⟨id, hid⟩
    rw [h.split] at hid
    rcases List.mem_append.1 hid with hid | hid
    · rcases List.mem_pair.1 hid with heq | heq <;> cases heq
    · rcases List.mem_append.1 hid with hid | hid
      · rcases hcontainers.makes hnames _ hid with ⟨_, _, hcall⟩ | ⟨d, hd, spec', hspec', hcall⟩
        · cases hcall
        · cases hcall
          exact ⟨d, hd, hspec'⟩
      · rcases List.mem_append.1 hid with hid | hid
        · rcases hprobes.makes hnames _ hid with ⟨_, hcall⟩ | ⟨_, _, _, _, hcall⟩ <;> cases hcall
        · have hregistration := h.registration
          cases kind with
          | management =>
            rw [hregistration] at hid
            exact absurd hid List.not_mem_nil
          | business =>
            obtain ⟨v, v', hcourse⟩ := hregistration
            rcases course_registerApplication hcourse with ⟨_, rfl⟩ | ⟨_, master, rfl⟩
            · exact absurd hid List.not_mem_nil
            · simp at hid
  · rintro ⟨d, hd, hspec⟩
    obtain ⟨id, hid⟩ := hcontainers.completed hnames d hd spec hspec
    rw [h.split]
    exact ⟨id, List.mem_append_right _ (List.mem_append_left _ hid)⟩

theorem mem_probed_iff (h : Parts handler m p token listing resolved kind events creating probing
      registering) (hnames : resolved.entries = resolved.values.map fun d => (d.name, d))
    (port : Port) : port ∈ events.flatMap (fun e => e.1.probed) ↔
      ∃ d ∈ (Pass.ofKind kind resolved).deployable, port ∈ d.published := by
  obtain ⟨t, t', hprobes⟩ := h.probes
  rw [h.probed_eq hnames, List.mem_flatMap]
  constructor
  · rintro ⟨e, he, hport⟩
    rcases hprobes.makes hnames e he with ⟨millis, hcall⟩ | ⟨d, hd, port', hport', hcall⟩
    · rw [hcall] at hport
      exact absurd hport List.not_mem_nil
    · rw [hcall] at hport
      exact ⟨d, hd, List.mem_singleton.1 hport ▸ hport'⟩
  · rintro ⟨d, hd, hport⟩
    exact ⟨_, hprobes.completed hnames d hd port hport, List.mem_singleton_self port⟩

/-- If nothing fails, every port is probed once, and in rounds in the order of the pass. -/
theorem probed_of_succeeds (h : Parts handler m p token listing resolved kind events creating
      probing registering) (hnames : resolved.entries = resolved.values.map fun d => (d.name, d))
    (hok : ∀ e ∈ events, p.succeeds e.1 e.2 = true) :
    let probed := events.flatMap fun e => e.1.probed
    let published := (Readiness.watches (Pass.ofKind kind resolved).ports).map (·.port)
    probed.Perm published ∧ (m kind = .inRounds → probed = published) := by
  dsimp only
  rw [h.probed_eq hnames]
  obtain ⟨t, t', hprobes⟩ := h.probes
  simp only [Stage.Course] at hprobes
  split at hprobes
  · next hempty =>
    obtain ⟨_, _, rfl⟩ := hprobes
    rw [Readiness.watches, Pass.entries_ports hnames, Pass.isEmpty_iff.1 hempty]
    exact ⟨.refl _, fun _ => rfl⟩
  · obtain ⟨report, _, hpassage⟩ := hprobes
    have hall : Readiness.AllAnswer probing := by
      intro port answer hmem
      have hmem' : (⟨.probe port, answer⟩ : Event) ∈ events := by
        rw [h.split]
        exact List.mem_append_right _ (List.mem_append_right _ (List.mem_append_left _ hmem))
      obtain ⟨_, hanswer, _⟩ := ok_of_toBool (hok _ hmem')
      exact hanswer
    have hports : ∀ ws : List Readiness.Watch,
        (ws.map Readiness.answeredProbe).flatMap (fun e => e.1.probed) = ws.map (·.port) :=
      fun ws => by
        rw [List.flatMap_map]
        exact List.map_eq_flatMap.symm
    refine ⟨?_, fun hrounds => ?_⟩
    · rw [← hports]
      exact (hpassage.events_perm p.attempts_pos hall).flatMap_right _
    · rw [hrounds] at hpassage
      cases hpassage with
      | inRounds hcheck =>
        rw [Readiness.course_checkAll_of_answered p.attempts_pos hcheck hall]
        exact hports _

/-- A pass that faces tenants and has modules is registered, once; no other pass is. -/
theorem registered (h : Parts handler m p token listing resolved kind events creating probing
      registering) (hnames : resolved.entries = resolved.values.map fun d => (d.name, d)) :
    let pass := Pass.ofKind kind resolved
    if pass.kind = .business ∧ pass.deployable ≠ [] then
      events.flatMap (fun e => e.1.applications) = [p.application pass] ∧
        events.flatMap (fun e => e.1.discoveries) = [discovery pass]
    else events.flatMap (fun e => e.1.applications) = [] ∧
      events.flatMap (fun e => e.1.discoveries) = [] := by
  intro pass
  rw [h.view_eq hnames Call.applications rfl rfl (fun _ _ => rfl) (fun _ => rfl) (fun _ => rfl)
      fun _ => rfl,
    h.view_eq hnames Call.discoveries rfl rfl (fun _ _ => rfl) (fun _ => rfl) (fun _ => rfl)
      fun _ => rfl]
  have hregistration := h.registration
  cases kind with
  | management =>
    have hnone : registering = [] := hregistration
    subst hnone
    rw [if_neg fun hboth => nomatch hboth.1]
    exact ⟨rfl, rfl⟩
  | business =>
    obtain ⟨t, t', hcourse⟩ := hregistration
    rcases course_registerApplication hcourse with ⟨hnone, rfl⟩ | ⟨hsome, master, rfl⟩
    · rw [if_neg fun hboth => hboth.2 hnone]
      exact ⟨rfl, rfl⟩
    · rw [if_pos ⟨rfl, hsome⟩]
      exact ⟨rfl, rfl⟩

end Parts

/-! ## The law -/

theorem discovery_eq {r : Resolver} {entries : List (String × ModuleSpec)}
    {listing : List ListingEntry} {a a' : PortAllocator}
    (hresolve : r.resolve entries listing a = (.ok resolved, a')) (b : Blueprint) :
    discovery (.ofKind kind resolved) = (Pass.ofKind kind resolved).deployable.map fun d =>
      ⟨d.id.text, d.name, d.version, "http://" ++ (b.front d).hostname ++ ":8081"⟩ := by
  refine List.map_congr_left fun d hd => ?_
  have hport := Resolver.resolve_privatePort hresolve (Pass.mem_values_of_mem_deployable hd).1
  rw [hostname_front hport, EnvironmentContext.addressOf_eq]

theorem registers {r : Resolver} {entries : List (String × ModuleSpec)}
    {listing : List ListingEntry} {a a' : PortAllocator}
    (hresolve : r.resolve entries listing a = (.ok resolved, a')) (b : Blueprint) :
    let pass := Pass.ofKind kind resolved
    Registers b pass (p.application pass) (discovery pass) where
  application := rfl
  discovery := discovery_eq hresolve b
  once := by
    obtain ⟨_, _, _, _, _, _, hnames⟩ := Resolver.resolve_ok hresolve
    have hkeys : (resolved.values.map Descriptor.name).Nodup := by
      have hnodup := resolved.nodup_keys
      rw [Table.keys, hnames, List.map_map] at hnodup
      exact hnodup
    refine hkeys.sublist (List.Sublist.map _ ?_)
    exact List.filter_sublist.trans (List.filter_sublist.map _)
  reached m hm := by
    rw [discovery_eq hresolve b] at hm
    obtain ⟨d, hd, rfl⟩ := List.mem_map.1 hm
    exact ⟨d, hd, b.front d, b.front_mem d, rfl⟩

theorem agreement {r : Resolver} {entries : List (String × ModuleSpec)}
    {listing : List ListingEntry} {a a' : PortAllocator}
    (hresolve : r.resolve entries listing a = (.ok resolved, a'))
    {creating probing registering : List Event}
    (h : Parts handler m p token listing resolved kind events creating probing registering) :
    Agreement (m kind) p (.ofConfig p.config (some token)) (.ofKind kind resolved)
      (Pass.ofKind kind resolved).ports events := by
  let pass := Pass.ofKind kind resolved
  let b := Blueprint.ofConfig p.config (some token)
  obtain ⟨_, _, _, _, _, _, hnames⟩ := Resolver.resolve_ok hresolve
  have hpublished : ∀ d ∈ pass.deployable,
      d.published = (b.specsOf d).flatMap ContainerSpec.hostPorts := fun d hd =>
    (Blueprint.hostPorts_specsOf (Pass.mem_values_of_mem_deployable hd).2).symm
  have hmem : ∀ d ∈ pass.deployable, ∀ port,
      port ∈ d.published ↔ ∃ spec ∈ b.specsOf d, port ∈ spec.hostPorts := by
    intro d hd port
    rw [hpublished d hd, List.mem_flatMap]
  have hentries : pass.ports.entries = pass.deployable.map fun d => (d.name, Pass.portsOf d) :=
    Pass.entries_ports hnames
  refine ⟨h.created_iff hnames, ?_, ?_, ?_, ?_, ?_, ?_⟩
  · rw [Table.keys, hentries, List.map_map]
    rfl
  · intro d hd
    have hentry : (d.name, Pass.portsOf d) ∈ pass.ports.entries := by
      rw [hentries]
      exact List.mem_map.2 ⟨d, hd, rfl⟩
    exact ⟨Pass.portsOf d, Table.mem_entries_iff.1 hentry, rfl, hostPorts_sidecarSpec? b d⟩
  · intro port
    rw [h.mem_probed_iff hnames]
    exact exists_congr fun d => and_congr_right fun hd => hmem d hd port
  · intro d hd spec hspec port hport
    obtain ⟨t, t', hprobes⟩ := h.probes
    rw [h.split]
    refine List.mem_append_right _ (List.mem_append_right _ (List.mem_append_left _ ?_))
    exact hprobes.completed hnames d hd port ((hmem d hd port).2 ⟨spec, hspec, hport⟩)
  · intro hok
    obtain ⟨hperm, horder⟩ := h.probed_of_succeeds hnames hok
    rw [ports_watches hnames b] at hperm horder
    refine ⟨hperm, ?_, horder⟩
    rw [hperm.nodup_iff, ← List.flatMap_congr hpublished]
    have hall := (Resolver.resolve_published hresolve).1
    refine hall.sublist (List.Sublist.flatMap ?_ Descriptor.published)
    exact List.filter_sublist.trans (List.filter_sublist.map _)
  · have hregistered := h.registered hnames
    dsimp only at hregistered
    split at hregistered
    · next hboth =>
      rw [if_pos hboth]
      exact ⟨_, _, hregistered.1, hregistered.2, registers hresolve b⟩
    · next hneither =>
      rw [if_neg hneither]
      exact hregistered

/-- The views of a pass agree. Deploying a pass ends well if none of its calls fails and the listing
can be resolved; and whenever it ends well, in whatever order the tasks take turns that start
sidecars and that await ports, then of the modules that are resolved the ports that are answered,
the containers, the probes and the registration agree. -/
theorem deployed_agreement (p : Platform) (kind : ModuleKind) (handler : Handler Call.Answer σ)
    (s : σ) :
    ((∀ e ∈ Program.trace handler (p.deployKind kind).run s, p.succeeds e.1 e.2 = true) →
      ∃ ports s', Program.run handler (p.deployKind kind).run s = (.ok ports, s')) ∧
    ∀ manner events ports s', DeploysPass handler p kind manner s events ports s' →
      ∃ token listing resolved, ⟨.rootToken, .ok token⟩ ∈ events ∧
        ⟨.listing, .ok listing⟩ ∈ events ∧ p.resolve listing = .ok resolved ∧
        Agreement manner p (.ofConfig p.config (some token)) (.ofKind kind resolved) ports
          events := by
  refine ⟨fun hok => ?_, fun manner events ports s' h => ?_⟩
  · have hcourse := course_self handler (p.deployKind kind).run s
    obtain ⟨_, ports, hports, _⟩ := (succeeds_deployKind p kind).course hcourse hok
    exact ⟨ports, _, Prod.ext hports rfl⟩
  · obtain ⟨m, rfl, token, listing, resolved, creating, probing, registering, hresolve, rfl,
      hparts⟩ := h.parts
    refine ⟨token, listing, resolved, ?_, ?_, hresolve, agreement (Prod.ext hresolve rfl) hparts⟩
    · rw [hparts.split]
      exact List.mem_cons_self
    · rw [hparts.split]
      exact List.mem_cons_of_mem _ List.mem_cons_self

/-- A platform of three modules: one with a sidecar, one without, and one that is not deployed. -/
def threeModules : Platform :=
  let version := { Overrides.none with version := some "1.0.0" }
  { config := { modules := Table.ofList [("mod-a", .explicit version),
      ("mod-b", .explicit { version with deploySidecar := some false }),
      ("mod-c", .explicit { version with deployModule := some false })] }
    isDirectory := fun _ => true }

/-- The tasks that await a pass's ports take these turns, until all its ports have answered. -/
theorem Stage.course_probes (hm : m kind = .inTurns) {ts : List Readiness.Turn}
    {probing : Readiness.Probing × σ × List Event} {report : ReadinessReport}
    (hsome : ¬ (Pass.ofKind kind resolved).isEmpty = true)
    (hturns : Readiness.Probing.turns (recording handler) ts
      (.start (.ofReadiness p.config.readiness)
        (Readiness.watches (Pass.ofKind kind resolved).ports)) (s, []) = probing)
    (hended : probing.1.tasks = [])
    (hready : Readiness.verdict kind probing.1.sent = .ok report) :
    (Stage.probes kind).Course handler m p b resolved s probing.2.2 (.ok ()) probing.2.1 := by
  have hpassage : Readiness.Passage handler (.ofReadiness p.config.readiness) kind
      (Pass.ofKind kind resolved).ports .inTurns s probing.2.2
      (Readiness.verdict kind probing.1.sent) probing.2.1 := .inTurns hturns hended
  rw [hready, ← hm] at hpassage
  simp only [Stage.Course, if_neg hsome]
  exact ⟨.ok report, rfl, hpassage⟩

/-- The task of the plain module's port goes first, then the other module's. -/
def plainFirst : List Readiness.Turn :=
  [.task 2, .task 2, .task 0, .task 1, .task 1, .task 0]

/-- The three modules can be deployed with the tasks that await their ports taking these turns. -/
theorem deploysPass_plainFirst :
    let handler := (Rehearsal.collaborators [] ⟨"root"⟩).handler
    ∃ events ports s', DeploysPass handler threeModules .business .inTurns (.fresh {}) events ports
        s' ∧ (events.flatMap fun e => e.1.probed) = [30002, 30000, 30001] := by
  intro handler
  let b := Blueprint.ofConfig threeModules.config (some ⟨"root"⟩)
  let resolved := (threeModules.resolve []).toOption.getD .empty
  let pass := Pass.ofKind .business resolved
  let s : RunState Rehearsal := .fresh {}
  have hresolve : threeModules.resolve [] = .ok resolved := by
    have hok : (threeModules.resolve []).toBool = true := by decide +kernel
    obtain ⟨r, hr, _⟩ := ok_of_toBool hok
    show _ = Except.ok ((threeModules.resolve []).toOption.getD .empty)
    rw [hr]
    rfl
  have hprepare : Course handler threeModules.prepare.run s
      [⟨.rootToken, .ok ⟨"root"⟩⟩, ⟨.listing, .ok []⟩] (.ok (b, resolved)) s := by
    have hmodules : Course handler threeModules.resolveModules.run s [⟨.listing, .ok []⟩]
        (.ok resolved) s := by
      refine Action.course_bind.2 (.inr ⟨[], s, _, [], rfl, ⟨rfl, rfl⟩, ?_⟩)
      rw [hresolve]
      exact ⟨rfl, rfl⟩
    refine Action.course_bind.2 (.inr ⟨b, s, [_], _, rfl, ⟨rfl, rfl⟩, ?_⟩)
    exact Action.course_bind.2 (.inr ⟨resolved, s, _, [], rfl, hmodules, ⟨rfl, rfl⟩⟩)
  -- the containers are started in order
  let starting := (Deployment.startAll b pass.deployable).run
  have hstarted : (Program.run handler starting s).1 = .ok () := by
    have hok : (Program.run handler starting s).1.toBool = true := by decide +kernel
    exact (ok_of_toBool hok).choose_spec.1
  let started := (Program.run handler starting s).2
  have hcontainers : (Stage.containers .business).Course handler (fun _ => .inTurns) threeModules b
      resolved s (Program.trace handler starting s) (.ok ()) started :=
    Deployment.passage_startAll ⟨Prod.ext hstarted rfl, rfl⟩
  -- the ports are awaited in turns
  let probing := Readiness.Probing.turns (recording handler) plainFirst
    (.start (.ofReadiness threeModules.config.readiness) (Readiness.watches pass.ports))
    (started, [])
  have hprobes : (Stage.probes .business).Course handler (fun _ => .inTurns) threeModules b resolved
      started probing.2.2 (.ok ()) probing.2.1 := by
    have hok : (Readiness.verdict .business probing.1.sent).toBool = true := by decide +kernel
    obtain ⟨report, hready, _⟩ := ok_of_toBool hok
    have hsome : ¬ pass.isEmpty = true := by decide +kernel
    have hended : probing.1.tasks = [] := List.length_eq_zero_iff.1 (by decide +kernel)
    have hturns : Readiness.Probing.turns (recording handler) plainFirst
        (.start (.ofReadiness threeModules.config.readiness) (Readiness.watches pass.ports))
        (started, []) = probing := rfl
    -- the turns are not run again to compare types
    clear_value probing
    exact Stage.course_probes rfl hsome hturns hended hready
  let registering := (threeModules.registerApplication pass).run
  have hregistration : Stage.registration.Course handler (fun _ => .inTurns) threeModules b resolved
      probing.2.1 (Program.trace handler registering probing.2.1) (.ok ())
      (Program.run handler registering probing.2.1).2 := by
    have hok : (Program.run handler registering probing.2.1).1.toBool = true := by decide +kernel
    obtain ⟨_, hregistered, _⟩ := ok_of_toBool hok
    exact ⟨Prod.ext hregistered rfl, rfl⟩
  have hdeploys : DeploysPass handler threeModules .business .inTurns s _ _ _ :=
    .inTurns (m := fun _ => .inTurns) hprepare
      (.next hcontainers (.next hprobes (.next hregistration .done)))
  exact ⟨_, _, _, hdeploys, by decide +kernel⟩

/-- The views of the pass that deploys the three modules, in rounds of probes and in turns that
probe the last port first. -/
theorem agreement_threeModules :
    let handler := (Rehearsal.collaborators [] ⟨"root"⟩).handler
    let events := Program.trace handler (threeModules.deployKind .business).run (.fresh {})
    (events.flatMap fun e => e.1.probed) = [30000, 30001, 30002] ∧
    (∀ e ∈ events, threeModules.succeeds e.1 e.2 = true) ∧
    ∃ ports token listing resolved, threeModules.resolve listing = .ok resolved ∧
      (ports.entries.map fun e => (e.1, e.2.toList)) =
        [("mod-a", [30000, 30001]), ("mod-b", [30002])] ∧
      Agreement .inRounds threeModules (.ofConfig threeModules.config (some token))
        (.ofKind .business resolved) ports events ∧
      ∃ later ports' token' listing' resolved', threeModules.resolve listing' = .ok resolved' ∧
        (later.flatMap fun e => e.1.probed) = [30002, 30000, 30001] ∧
        Agreement .inTurns threeModules (.ofConfig threeModules.config (some token'))
          (.ofKind .business resolved') ports' later := by
  intro handler events
  have hok : ∀ e ∈ events, threeModules.succeeds e.1 e.2 = true := by decide +kernel
  have hlaw := deployed_agreement threeModules .business handler (.fresh {})
  obtain ⟨ports, s', hrun⟩ := hlaw.1 hok
  obtain ⟨token, listing, resolved, _, _, hresolve, hagreement⟩ :=
    hlaw.2 .inRounds events ports s' (.inOrder ⟨hrun, rfl⟩)
  obtain ⟨later, ports', t, hlater, hprobed⟩ := deploysPass_plainFirst
  obtain ⟨token', listing', resolved', _, _, hresolve', hagreement'⟩ :=
    hlaw.2 .inTurns later ports' t hlater
  refine ⟨by decide +kernel, hok, ports, token, listing, resolved, hresolve, ?_, hagreement, later,
    ports', token', listing', resolved', hresolve', hprobed, hagreement'⟩
  have hports : ports = ((Program.run handler (threeModules.deployKind .business).run
      (.fresh {})).1.toOption.getD .empty) := by
    rw [hrun]
    rfl
  rw [hports]
  decide +kernel

end Platform

end Fleet
