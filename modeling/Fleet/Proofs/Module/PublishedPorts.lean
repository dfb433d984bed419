import Fleet.Proofs.Module.Assignment

/-!
# Published ports are distinct

Resolutions that share an allocator publish no host port twice, whatever was asked of the allocator
before them, and whichever of them succeed. One resolution has its law in `resolve_published`: its
ports are new, and the allocator holds them afterwards. Since an allocator gives nothing back, also
where a resolution fails, the law carries over to every sequence of resolutions.

Ports that are drawn are in the range of the allocator. Pinned ports need not be: a pin is reserved
as it stands.
-/

namespace Fleet

namespace Resolver

open PortAllocator

/-- What a resolution publishes is pairwise distinct, new, and taken by it. -/
theorem resolve_published {r : Resolver} {entries : List (String × ModuleSpec)}
    {listing : List ListingEntry} {a b : PortAllocator} {t : Table String Descriptor}
    (h : r.resolve entries listing a = (.ok t, b)) :
    (t.values.flatMap Descriptor.published).Nodup ∧
      ∀ p ∈ t.values.flatMap Descriptor.published, p ∉ a.taken ∧ p ∈ b.taken := by
  obtain ⟨ps, a', hpins, hdraws, hassigned, hdrawn, _⟩ := resolve_ok h
  have htakes := hpins.append hdraws.toTakes
  have hperm : (t.values.flatMap Descriptor.published ++ ps.flatMap Pending.idlePins).Perm
      (pins ps ++ t.values.flatMap (drawnOf entries)) := hdrawn ▸ published_perm hassigned
  refine ⟨(List.nodup_append.1 (hperm.nodup_iff.2 htakes.nodup)).1, fun p hp => ?_⟩
  have hmem := hperm.mem_iff.1 (List.mem_append_left _ hp)
  exact ⟨htakes.fresh p hmem, (htakes.mem_taken p).2 (.inl hmem)⟩

/-- What a resolution draws is in what was left of the range. -/
theorem resolve_drawn {r : Resolver} {entries : List (String × ModuleSpec)}
    {listing : List ListingEntry} {a b : PortAllocator} {t : Table String Descriptor}
    (h : r.resolve entries listing a = (.ok t, b)) {d : Descriptor} (hd : d ∈ t.values) {p : Port}
    (hp : p ∈ drawnOf entries d) : a.next ≤ p ∧ p < a.stop := by
  obtain ⟨ps, a', hpins, hdraws, _⟩ := resolve_ok h
  have hmem : p ∈ t.values.flatMap (drawnOf entries) := List.mem_flatMap.2 ⟨d, hd, hp⟩
  exact ⟨UInt16.le_trans hpins.next (hdraws.ahead p hmem), hpins.stop ▸ hdraws.inRange p hmem⟩

/-- Exactly the descriptors with a sidecar have a port for one. -/
theorem resolve_privatePort {r : Resolver} {entries : List (String × ModuleSpec)}
    {listing : List ListingEntry} {a b : PortAllocator} {t : Table String Descriptor}
    (h : r.resolve entries listing a = (.ok t, b)) {d : Descriptor} (hd : d ∈ t.values) :
    d.privatePort.isSome = d.hasSidecar := by
  obtain ⟨ps, a', _, _, hassigned, _⟩ := resolve_ok h
  exact privatePort_of_assigned hassigned d hd

/-! ## Resolutions one after another -/

/-- What is asked of one resolution. -/
structure Inquiry where
  resolver : Resolver
  entries : List (String × ModuleSpec)
  listing : List ListingEntry

/-- A resolution that has taken place. -/
structure Resolution where
  inquiry : Inquiry
  /-- The allocator that it started from. -/
  before : PortAllocator
  outcome : Outcome (Table String Descriptor)

/-- Resolves inquiries one after another; each starts from what the one before it left. -/
def resolutions : List Inquiry → PortAllocator → List Resolution
  | [], _ => []
  | q :: rest, a =>
    let (outcome, b) := q.resolver.resolve q.entries q.listing a
    ⟨q, a, outcome⟩ :: resolutions rest b

namespace Resolution

/-- The resolved modules: none, if the resolution failed. -/
def descriptors (r : Resolution) : List Descriptor :=
  match r.outcome with
  | .ok t => t.values
  | .error _ => []

/-- The ports that the resolution publishes. -/
def published (r : Resolution) : List Port := r.descriptors.flatMap Descriptor.published

/-- No entry of a name sets the field. -/
def Unset (r : Resolution) (field : Overrides → Option Port) (name : String) : Prop :=
  ∀ e ∈ r.inquiry.entries, e.1 = name → field e.2.overrides = none

/-- A resolution publishes new ports; what no entry pins is in the range; and there is a port for a
sidecar exactly where there is a sidecar. -/
structure Sound (first stop : Port) (r : Resolution) : Prop where
  fresh : ∀ p ∈ r.published, p ∉ r.before.taken
  port : ∀ d ∈ r.descriptors, d.flags.deployModule = true → r.Unset Overrides.port d.name →
    first ≤ d.port ∧ d.port < stop
  sidecarPort : ∀ d ∈ r.descriptors, r.Unset Overrides.privatePort d.name →
    ∀ p, d.sidecarPort? = some p → first ≤ p ∧ p < stop
  privatePort : ∀ d ∈ r.descriptors, d.privatePort.isSome = d.hasSidecar

end Resolution

/-- The port of a deployed module is drawn, if no entry pins it. -/
theorem port_mem_drawnOf {entries : List (String × ModuleSpec)} {d : Descriptor}
    (hdeploy : d.flags.deployModule = true) (hopen : (overridesOf entries d.name).port = none) :
    d.port ∈ drawnOf entries d := by
  simp [drawnOf, Descriptor.drawn, unpinned, hdeploy, hopen]

/-- The port of a sidecar is drawn, if no entry pins it. -/
theorem sidecarPort_mem_drawnOf {entries : List (String × ModuleSpec)} {d : Descriptor} {p : Port}
    (hp : d.sidecarPort? = some p) (hopen : (overridesOf entries d.name).privatePort = none) :
    p ∈ drawnOf entries d := by
  have hdeploy : d.flags.deployModule = true := by
    by_contra h
    simp [Descriptor.sidecarPort?, Descriptor.hasSidecar, h] at hp
  simp [drawnOf, Descriptor.drawn, unpinned, hdeploy, hopen, hp]

/-- One resolution, by an allocator that hands out a range. -/
theorem resolve_sound {first stop : Port} {a : PortAllocator} (ha : Grows (between first stop) a)
    (q : Inquiry) :
    Resolution.Sound first stop ⟨q, a, (q.resolver.resolve q.entries q.listing a).1⟩ := by
  rcases h : q.resolver.resolve q.entries q.listing a with ⟨e | t, b⟩
  · exact ⟨by simp [Resolution.published, Resolution.descriptors],
      by simp [Resolution.descriptors], by simp [Resolution.descriptors],
      by simp [Resolution.descriptors]⟩
  · have hrange : ∀ d ∈ t.values, ∀ p ∈ drawnOf q.entries d, first ≤ p ∧ p < stop := by
      intro d hd p hp
      obtain ⟨hle, hlt⟩ := resolve_drawn h hd hp
      have hstop : a.stop = stop := ha.stop
      exact ⟨UInt16.le_trans ha.next hle, hstop ▸ hlt⟩
    refine ⟨fun p hp => ((resolve_published h).2 p hp).1, fun d hd hdeploy hopen => ?_,
      fun d hd hopen p hp => ?_, fun d hd => resolve_privatePort h hd⟩
    · have hnone := (overridesOf_eq_none_iff laterWins_port q.entries d.name).2 hopen
      exact hrange d hd d.port (port_mem_drawnOf hdeploy hnone)
    · have hnone := (overridesOf_eq_none_iff laterWins_privatePort q.entries d.name).2 hopen
      exact hrange d hd p (sidecarPort_mem_drawnOf hp hnone)

/-- Resolutions that share an allocator are sound, all of them. -/
theorem resolutions_sound {first stop : Port} (inquiries : List Inquiry) {a : PortAllocator}
    (ha : Grows (between first stop) a) :
    ∀ r ∈ resolutions inquiries a, r.Sound first stop := by
  induction inquiries generalizing a with
  | nil => exact fun r hr => absurd hr List.not_mem_nil
  | cons q rest ih =>
    have hgrows := ha.trans (resolve_grows q.resolver q.entries q.listing a)
    exact List.forall_mem_cons.2 ⟨resolve_sound ha q, ih hgrows⟩

/-- Resolutions that share an allocator publish pairwise distinct ports that were not taken. -/
theorem resolutions_published (inquiries : List Inquiry) (a : PortAllocator) :
    ((resolutions inquiries a).flatMap Resolution.published).Nodup ∧
      ∀ p ∈ (resolutions inquiries a).flatMap Resolution.published, p ∉ a.taken := by
  induction inquiries generalizing a with
  | nil => exact ⟨.nil, fun p hp => absurd hp List.not_mem_nil⟩
  | cons q rest ih =>
    have hgrows := resolve_grows q.resolver q.entries q.listing a
    rcases h : q.resolver.resolve q.entries q.listing a with ⟨e | t, b⟩
    · rw [h] at hgrows
      obtain ⟨hnodup, hfresh⟩ := ih b
      simp only [resolutions, h, List.flatMap_cons]
      exact ⟨hnodup, fun p hp ha => hfresh p hp (hgrows.taken p ha)⟩
    · rw [h] at hgrows
      obtain ⟨hnodup, hfresh⟩ := ih b
      obtain ⟨hfirst, hnew⟩ := resolve_published h
      simp only [resolutions, h, List.flatMap_cons]
      refine ⟨List.nodup_append.2 ⟨hfirst, hnodup, fun p hp p' hp' heq => ?_⟩, fun p hp => ?_⟩
      · -- what this resolution publishes it has taken, and the later ones publish what is new
        exact hfresh p' hp' (heq ▸ (hnew p hp).2)
      · rcases List.mem_append.1 hp with hp | hp
        · exact (hnew p hp).1
        · exact fun ha => hfresh p hp (hgrows.taken p ha)

/-- However an allocator was used before, the resolutions that share it publish no port twice and
none that was granted before. -/
theorem resolutions_injective (first stop : Port) (requests : List Request)
    (inquiries : List Inquiry) :
    let served := (between first stop).serve requests
    let done := resolutions inquiries served.2
    (granted served.1 ++ done.flatMap Resolution.published).Nodup ∧
      ∀ r ∈ done, r.Sound first stop := by
  have hserved := serve_takes requests (between first stop)
  obtain ⟨hnodup, hfresh⟩ := resolutions_published inquiries ((between first stop).serve requests).2
  refine ⟨List.nodup_append.2 ⟨hserved.nodup, hnodup, fun p hp p' hp' heq => ?_⟩, ?_⟩
  · exact hfresh p' hp' (heq ▸ (hserved.mem_taken p).2 (.inl hp))
  · exact resolutions_sound inquiries hserved.grows

/-- A pin counts in the first resolution; in the second there is none, and all ports are drawn. -/
example :
    let version := { Overrides.none with version := some "1" }
    let pinned : String × ModuleSpec := ("a", .explicit { version with port := some 30001 })
    let unpinned : String × ModuleSpec := ("b", .explicit version)
    let resolver : Resolver := ⟨"org", fun _ => true⟩
    (resolutions [⟨resolver, [pinned, unpinned], []⟩, ⟨resolver, [unpinned], []⟩]
      (between 30000 30010)).map Resolution.published =
        [[30001, 30000, 30002, 30003], [30004, 30005]] := by
  decide +kernel

end Resolver

end Fleet
