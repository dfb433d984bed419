import Fleet.Platform
import Fleet.Proofs.Container.Specs
import Fleet.Proofs.Module.PublishedPorts
import Mathlib.Data.List.Flatten
import Mathlib.Data.List.Pairwise

/-!
# The containers that a description plans

A description and a listing decide which containers a platform may come to create (`Planned`): a
resolution starts from the whole port range each time, and what it answers depends on the
directories of the machine only in whether it succeeds (`resolve_lenient`).

Planned containers are told apart by two of their labels, the module and whether it is the sidecar,
and different planned containers publish different host ports. Their names need not differ: a module
may be called what the sidecar of another is called.
-/

namespace Fleet

/-! ## Directories decide only whether a resolution succeeds -/

namespace Resolver

/-- The resolver for which every path is a directory. -/
def lenient (r : Resolver) : Resolver := { r with isDirectory := fun _ => true }

theorem settle_lenient {r : Resolver} {versions : Table String String} {name : String}
    {spec : ModuleSpec} {p : Pending} (h : r.settle versions name spec = .ok p) :
    r.lenient.settle versions name spec = .ok p := by
  have hpath : r.lenient.checkPath name spec.overrides.localPath = .ok () := by
    unfold checkPath
    split
    · rfl
    · exact if_pos rfl
  simp only [settle, hpath] at h ⊢
  split at h
  · cases h
  · split at h
    · cases h
    · exact h

theorem settleAll_lenient {r : Resolver} {versions : Table String String}
    {entries : List (String × ModuleSpec)} {ps : List Pending}
    (h : r.settleAll versions entries = .ok ps) :
    r.lenient.settleAll versions entries = .ok ps := by
  induction entries generalizing ps with
  | nil => exact h
  | cons e rest ih =>
    obtain ⟨name, spec⟩ := e
    simp only [settleAll] at h ⊢
    split at h
    · cases h
    · next p hp =>
      split at h
      · cases h
      · next ps' hps =>
        rw [settle_lenient hp]
        simp only [ih hps]
        exact h

/-- A resolution that succeeds does so, and with the same answer, if every path is a directory. -/
theorem resolve_lenient {r : Resolver} {entries : List (String × ModuleSpec)}
    {listing : List ListingEntry} {a : PortAllocator} {t : Table String Descriptor}
    (h : (r.resolve entries listing a).1 = .ok t) :
    (r.lenient.resolve entries listing a).1 = .ok t := by
  simp only [resolve, resolveMerged] at h ⊢
  cases hps : r.settleAll (ListingEntry.versions listing) (mergeEntries entries).entries with
  | error e =>
    rw [hps] at h
    cases h
  | ok ps =>
    rw [hps] at h
    rw [settleAll_lenient hps]
    exact h

end Resolver

/-! ## Planned containers -/

namespace Platform

/-- What the description of a platform resolves to, if every path is a directory. -/
def plan (c : Config) (listing : List ListingEntry) : Outcome (Table String Descriptor) :=
  Platform.resolve ⟨c, fun _ => true⟩ listing

/-- A container of a module that a description deploys. -/
def Planned (c : Config) (token : Token) (listing : List ListingEntry) (spec : ContainerSpec) :
    Prop :=
  ∃ resolved, plan c listing = .ok resolved ∧
    ∃ d ∈ resolved.values, d.flags.deployModule = true ∧
      spec ∈ (Blueprint.ofConfig c (some token)).specsOf d

variable {c : Config} {token : Token} {listing : List ListingEntry} {spec spec' : ContainerSpec}

/-- Whatever directories there are, a resolution that succeeds answers the plan. -/
theorem plan_of_resolve {isDirectory : String → Bool} {resolved : Table String Descriptor}
    (h : Platform.resolve ⟨c, isDirectory⟩ listing = .ok resolved) :
    plan c listing = .ok resolved :=
  Resolver.resolve_lenient (r := ⟨c.registry.imageNamespace, isDirectory⟩) h

/-- The containers of every pass are planned. -/
theorem planned_of_deployable {kind : ModuleKind} {resolved : Table String Descriptor}
    (hplan : plan c listing = .ok resolved) :
    ∀ d ∈ (Pass.ofKind kind resolved).deployable,
      ∀ spec ∈ (Blueprint.ofConfig c (some token)).specsOf d, Planned c token listing spec := by
  intro d hd spec hspec
  obtain ⟨hmem, hdeploy⟩ := Pass.mem_values_of_mem_deployable hd
  exact ⟨resolved, hplan, d, hmem, hdeploy, hspec⟩

/-- A planned container is decided by its module and whether it is the sidecar. -/
theorem Planned.eq_of_labels (h : Planned c token listing spec)
    (h' : Planned c token listing spec')
    (hmodule : spec.labels.find? Label.module = spec'.labels.find? Label.module)
    (hsidecar : spec.labels.find? Label.sidecar = spec'.labels.find? Label.sidecar) :
    spec = spec' := by
  obtain ⟨resolved, hplan, d, hd, _, hspec⟩ := h
  obtain ⟨resolved', hplan', d', hd', _, hspec'⟩ := h'
  cases Except.ok.inj (hplan.symm.trans hplan')
  rw [Blueprint.module_label hspec, Blueprint.module_label hspec'] at hmodule
  have hname : d.name = d'.name := Option.some.inj hmodule
  cases Resolver.eq_of_name (Prod.ext hplan rfl) hd hd' hname
  exact Blueprint.eq_of_sidecar_label hspec hspec' hsidecar

/-- A planned container publishes one host port. -/
theorem Planned.nodup_hostPorts (h : Planned c token listing spec) : spec.hostPorts.Nodup := by
  obtain ⟨_, _, d, _, _, hspec⟩ := h
  rcases Blueprint.mem_specsOf_iff.1 hspec with rfl | ⟨port, _, rfl⟩
  · exact List.nodup_singleton d.port
  · exact List.nodup_singleton port

/-- Different planned containers publish different host ports. -/
theorem Planned.disjoint (h : Planned c token listing spec) (h' : Planned c token listing spec')
    (hne : spec ≠ spec') : List.Disjoint spec.hostPorts spec'.hostPorts := by
  obtain ⟨resolved, hplan, d, hd, hdeploy, hspec⟩ := h
  obtain ⟨resolved', hplan', d', hd', hdeploy', hspec'⟩ := h'
  cases Except.ok.inj (hplan.symm.trans hplan')
  let deployed := resolved.values.filter fun d => d.flags.deployModule
  let specs := deployed.flatMap (Blueprint.ofConfig c (some token)).specsOf
  have hports : specs.flatMap ContainerSpec.hostPorts = deployed.flatMap Descriptor.published := by
    rw [List.flatMap_assoc]
    refine List.flatMap_congr fun x hx => ?_
    exact Blueprint.hostPorts_specsOf (List.mem_filter.1 hx).2
  have hnodup : (specs.flatMap ContainerSpec.hostPorts).Nodup := by
    rw [hports]
    have hall := (Resolver.resolve_published (Prod.ext hplan rfl)).1
    exact hall.sublist (List.filter_sublist.flatMap Descriptor.published)
  have hmem : ∀ x ∈ resolved.values, x.flags.deployModule = true →
      ∀ s ∈ (Blueprint.ofConfig c (some token)).specsOf x, s ∈ specs := fun x hx hdep s hs =>
    List.mem_flatMap.2 ⟨x, List.mem_filter.2 ⟨hx, hdep⟩, hs⟩
  have : Std.Symm (Function.onFun List.Disjoint ContainerSpec.hostPorts) :=
    ⟨fun _ _ hdisjoint => List.disjoint_symm hdisjoint⟩
  exact (List.nodup_flatMap.1 hnodup).2.forall (hmem d hd hdeploy spec hspec)
    (hmem d' hd' hdeploy' spec' hspec') hne

end Platform

end Fleet
