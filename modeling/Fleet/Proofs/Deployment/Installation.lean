import Fleet.Proofs.Deployment.Progress
import Fleet.Proofs.Module.PublishedPorts

/-!
# What a deployed pass has installed

When the deployment of a pass has succeeded, in order or by tasks that take turns, a container runs
under every name that the pass derives, and nothing else has changed. Every container of the pass
runs exactly as it was described, unless a module of the pass is called what the sidecar of another
is called: then one of the two containers has taken the place of the other, although the deployment
reports the host ports of both (`installed_iff_not_overlaid`).

So the condition cannot be dropped; `module_lost_to_sidecar` is a case in which a module is lost.
-/

namespace Fleet.Deployment

variable {listing : List ListingEntry} {token : Token} {b : Blueprint} {p : Pass}
  {before after : RunState Rehearsal}

theorem runs_iff {s : RunState Rehearsal} {spec : ContainerSpec} :
    Runs s spec ↔ (held s spec.name).map (fun c => (c.spec, c.running)) = some (spec, true) := by
  rw [Option.map_eq_some_iff]
  constructor
  · rintro ⟨id, hid⟩
    exact ⟨_, hid, rfl⟩
  · rintro ⟨⟨id, spec', running⟩, hheld, heq⟩
    cases heq
    exact ⟨id, hheld⟩

instance (s : RunState Rehearsal) (spec : ContainerSpec) : Decidable (Runs s spec) :=
  decidable_of_iff _ runs_iff.symm

/-- One name, one container. -/
theorem Runs.eq {s : RunState Rehearsal} {spec spec' : ContainerSpec} (h : Runs s spec)
    (h' : Runs s spec') (hname : spec.name = spec'.name) : spec = spec' := by
  obtain ⟨id, hid⟩ := h
  obtain ⟨id', hid'⟩ := h'
  rw [hname, hid'] at hid
  cases hid
  rfl

/-- The deployment of a pass succeeds, in order or with some turns of its tasks. -/
def Deploys (handler : Handler Call.Answer (RunState Rehearsal)) (b : Blueprint) (p : Pass)
    (before after : RunState Rehearsal) : Prop :=
  (∃ ports, Program.run handler (deploy b p).run before = (.ok ports, after)) ∨
    ∃ ts u, Underway.turns handler ts (.start b p.deployable) before = (u, after) ∧
      u.outcome? = some (.ok ())

/-- A deployment in order is one with some turns of its tasks. -/
theorem Deploys.exists_turns {handler : Handler Call.Answer (RunState Rehearsal)}
    (h : Deploys handler b p before after) :
    ∃ ts u, Underway.turns handler ts (.start b p.deployable) before = (u, after) ∧
      u.outcome? = some (.ok ()) := by
  rcases h with ⟨ports, hrun⟩ | h
  · obtain ⟨ts, hstate, houtcome⟩ :=
      Underway.exists_turns_startAll handler b p.deployable before
    rw [deploy, Program.run_bind_except] at hrun
    rcases hstart : Program.run handler (startAll b p.deployable).run before with ⟨e | v, s⟩
    · rw [hstart] at hrun
      cases hrun
    · rw [hstart] at hrun hstate houtcome
      cases hrun
      exact ⟨ts, _, Prod.ext rfl hstate, houtcome⟩
  · exact h

/-- The containers of the pass are up under their names, and nothing else has changed. -/
theorem Deploys.installed
    (h : Deploys (Rehearsal.collaborators listing token).handler b p before after) :
    Grown (p.deployable.flatMap b.specsOf) before after ∧
      ∀ spec ∈ p.deployable.flatMap b.specsOf,
        ∃ spec' ∈ p.deployable.flatMap b.specsOf, spec'.name = spec.name ∧ Runs after spec' := by
  obtain ⟨ts, u, hturns, houtcome⟩ := h.exists_turns
  let specs := p.deployable.flatMap b.specsOf
  have hgrown := ((within_creating b p.deployable).turns
    (served_grown listing token specs before) (.refl specs before) ts).2
  have hupkeep := (Underway.upkeep_start b p.deployable (NameUp specs before)).turns
    (raises_nameUp listing token specs) ts
  rw [hturns] at hupkeep hgrown
  exact ⟨hgrown, hupkeep.up_of_ok houtcome⟩

/-- A module is called what the sidecar of one of the modules is called. -/
def Overlaid (ds : List Descriptor) (d : Descriptor) : Prop :=
  ∃ d' ∈ ds, d'.hasSidecar = true ∧ d.name = d'.name ++ Naming.sidecarEnding

instance (ds : List Descriptor) (d : Descriptor) : Decidable (Overlaid ds d) :=
  inferInstanceAs (Decidable (∃ d' ∈ ds, d'.hasSidecar = true ∧
    d.name = d'.name ++ Naming.sidecarEnding))

/-- Every container of the modules runs exactly as it is described. -/
def Installed (b : Blueprint) (ds : List Descriptor) (s : RunState Rehearsal) : Prop :=
  ∀ d ∈ ds, Runs s (b.moduleSpec d) ∧
    (d.hasSidecar = true → ∃ port, d.privatePort = some port ∧ Runs s (b.sidecarSpec d port))

section Resolved

variable {r : Resolver} {entries : List (String × ModuleSpec)} {offered : List ListingEntry}
  {a a' : PortAllocator} {resolved : Table String Descriptor}

theorem hasSidecar_of_sidecarPort {d : Descriptor} {port : Port} (h : d.sidecarPort? = some port) :
    d.hasSidecar = true ∧ d.privatePort = some port := by
  unfold Descriptor.sidecarPort? at h
  split at h
  · next hsidecar => exact ⟨hsidecar, h⟩
  · cases h

/-- Where a container of the modules does not run, it shares its name with one that does: one of the
two is a module's own container, and the other that of a sidecar. -/
theorem runs_or_overlaid (hresolve : r.resolve entries offered a = (.ok resolved, a'))
    {ds : List Descriptor} (hds : ∀ d ∈ ds, d ∈ resolved.values)
    (hup : ∀ spec ∈ ds.flatMap b.specsOf,
      ∃ spec' ∈ ds.flatMap b.specsOf, spec'.name = spec.name ∧ Runs after spec')
    {d : Descriptor} (hd : d ∈ ds) {spec : ContainerSpec} (hspec : spec ∈ b.specsOf d) :
    Runs after spec ∨ ∃ d' ∈ ds, Overlaid ds d' := by
  obtain ⟨spec', hspec', hname, hruns⟩ := hup spec (List.mem_flatMap.2 ⟨d, hd, hspec⟩)
  obtain ⟨d', hd', hmem'⟩ := List.mem_flatMap.1 hspec'
  rcases Blueprint.name_eq_cases hspec hmem' hname.symm with
    ⟨heq, hlabel⟩ | ⟨_, heq, port, hport, _⟩ | ⟨_, heq, port, hport, _⟩
  · cases Resolver.eq_of_name hresolve (hds d hd) (hds d' hd') heq
    exact .inl (Blueprint.eq_of_sidecar_label hspec hmem' hlabel ▸ hruns)
  · exact .inr ⟨d, hd, d', hd', (hasSidecar_of_sidecarPort hport).1, heq⟩
  · exact .inr ⟨d', hd', d, hd, (hasSidecar_of_sidecarPort hport).1, heq⟩

/-- A module's own container and that of a sidecar cannot both run under one name. -/
theorem not_overlaid_of_installed {ds : List Descriptor} (h : Installed b ds after) :
    ∀ d ∈ ds, ¬ Overlaid ds d := by
  rintro d hd ⟨d', hd', hsidecar, hname⟩
  obtain ⟨port, hport, hruns'⟩ := (h d' hd').2 hsidecar
  have heq : (b.moduleSpec d).name = (b.sidecarSpec d' port).name := by
    rw [Blueprint.moduleSpec_name, Blueprint.sidecarSpec_name, hname]
  exact Blueprint.moduleSpec_ne_sidecarSpec d d' port ((h d hd).1.eq hruns' heq)

/-- A pass that is deployed installs all its containers exactly if no module of it is called what
the sidecar of another is called. A container runs under each of its names in any case, and nothing
is changed under other names. -/
theorem installed_iff_not_overlaid (hresolve : r.resolve entries offered a = (.ok resolved, a'))
    {kind : ModuleKind} (hdeploys : Deploys (Rehearsal.collaborators listing token).handler b
      (.ofKind kind resolved) before after) :
    let ds := (Pass.ofKind kind resolved).deployable
    (Installed b ds after ↔ ∀ d ∈ ds, ¬ Overlaid ds d) ∧
    (∀ d ∈ ds, ∀ spec ∈ b.specsOf d,
      ∃ d' ∈ ds, ∃ spec' ∈ b.specsOf d', spec'.name = spec.name ∧ Runs after spec') ∧
    ∀ name, (∀ d ∈ ds, ∀ spec ∈ b.specsOf d, spec.name ≠ name) →
      held after name = held before name := by
  intro ds
  have hds : ∀ d ∈ ds, d ∈ resolved.values := fun d hd => (Pass.mem_values_of_mem_deployable hd).1
  obtain ⟨hgrown, hup⟩ := hdeploys.installed
  refine ⟨⟨not_overlaid_of_installed, fun hfree d hd => ?_⟩, fun d hd spec hspec => ?_,
    fun name hname => ?_⟩
  · have hruns : ∀ spec ∈ b.specsOf d, Runs after spec := fun spec hspec =>
      (runs_or_overlaid hresolve hds hup hd hspec).resolve_right
        fun ⟨d', hd', hoverlaid⟩ => hfree d' hd' hoverlaid
    refine ⟨hruns _ List.mem_cons_self, fun hsidecar => ?_⟩
    have hsome := Resolver.resolve_privatePort hresolve (hds d hd)
    rw [hsidecar] at hsome
    obtain ⟨port, hport⟩ := Option.isSome_iff_exists.1 hsome
    refine ⟨port, hport, hruns _ (Blueprint.mem_specsOf_iff.2 (.inr ⟨port, ?_, rfl⟩))⟩
    rw [Descriptor.sidecarPort?, if_pos hsidecar, hport]
  · obtain ⟨spec', hspec', hrest⟩ := hup spec (List.mem_flatMap.2 ⟨d, hd, hspec⟩)
    obtain ⟨d', hd', hmem'⟩ := List.mem_flatMap.1 hspec'
    exact ⟨d', hd', spec', hmem', hrest⟩
  · rcases hgrown name with heq | ⟨spec, hspec, hname', _⟩
    · exact heq
    · obtain ⟨d, hd, hmem⟩ := List.mem_flatMap.1 hspec
      exact absurd hname' (hname d hd spec hmem)

end Resolved

/-! ## A module with a sidecar, and one without -/

/-- Two modules are described, and the second has no sidecar. -/
def pairEntries (first second : String) : List (String × ModuleSpec) :=
  let version := { Overrides.none with version := some "1.0.0" }
  [(first, .explicit version), (second, .explicit { version with deploySidecar := some false })]

/-- The resolution of two described modules. -/
def pairResolution (first second : String) : Outcome (Table String Descriptor) × PortAllocator :=
  Resolver.resolve ⟨"org", fun _ => true⟩ (pairEntries first second) [] .standard

/-- The pass of two described modules. -/
def pairPass (first second : String) : Pass :=
  .ofKind .business ((pairResolution first second).1.toOption.getD .empty)

/-- What the deployment of two described modules answers and leaves, in order and from nothing. -/
def pairDeployment (first second : String) :
    Outcome (Table String ModulePorts) × RunState Rehearsal :=
  Program.run (Rehearsal.collaborators [] ⟨"root"⟩).handler
    (deploy (.ofConfig {} none) (pairPass first second)).run (.fresh {})

theorem eq_ok_of_toBool {α : Type} {o : Outcome α} (h : o.toBool = true) (standard : α) :
    o = .ok (o.toOption.getD standard) := by
  cases o with
  | ok value => rfl
  | error e => cases h

/-- Both modules and the sidecar are installed. -/
theorem installed_pair :
    (pairPass "mod-a" "mod-b").deployable.map Descriptor.name = ["mod-a", "mod-b"] ∧
    (pairResolution "mod-a" "mod-b").1 =
      .ok ((pairResolution "mod-a" "mod-b").1.toOption.getD .empty) ∧
    Deploys (Rehearsal.collaborators [] ⟨"root"⟩).handler (.ofConfig {} none)
      (pairPass "mod-a" "mod-b") (.fresh {}) (pairDeployment "mod-a" "mod-b").2 ∧
    Installed (.ofConfig {} none) (pairPass "mod-a" "mod-b").deployable
      (pairDeployment "mod-a" "mod-b").2 := by
  have hresolve : (pairResolution "mod-a" "mod-b").1 =
      .ok ((pairResolution "mod-a" "mod-b").1.toOption.getD .empty) :=
    eq_ok_of_toBool (by decide +kernel) _
  have hdeploys : Deploys (Rehearsal.collaborators [] ⟨"root"⟩).handler (.ofConfig {} none)
      (pairPass "mod-a" "mod-b") (.fresh {}) (pairDeployment "mod-a" "mod-b").2 :=
    .inl ⟨_, Prod.ext (eq_ok_of_toBool (by decide +kernel) .empty) rfl⟩
  refine ⟨by decide +kernel, hresolve, hdeploys, ?_⟩
  exact (installed_iff_not_overlaid (Prod.ext hresolve rfl) hdeploys).1.2 (by decide +kernel)

/-- The second module is called what the sidecar of the first is called. The deployment succeeds,
and the module is not there. -/
theorem module_lost_to_sidecar :
    (pairResolution "mod-a" "mod-a-sc").1.toBool = true ∧
    (pairDeployment "mod-a" "mod-a-sc").1.toBool = true ∧
    ∃ d ∈ (pairPass "mod-a" "mod-a-sc").deployable,
      ¬ Runs (pairDeployment "mod-a" "mod-a-sc").2 ((Blueprint.ofConfig {} none).moduleSpec d) := by
  decide +kernel

end Fleet.Deployment
