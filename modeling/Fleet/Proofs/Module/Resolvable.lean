import Fleet.Proofs.Module.Assignment

/-!
# When a resolution succeeds

A resolution succeeds exactly if it can: every deployed module has a version, every local path is a
directory, no port is pinned twice or taken already, and as many ports are free as are to be drawn
(`Resolvable`). What it draws then are the least free ports, in ascending order, a module's before
that of its sidecar and the modules in name order (`resolve_ok_iff`).

Pins count against the free ports wherever they stand, since they are reserved before the first
draw. Also those of sidecars that are not deployed do: they are reserved although nothing publishes
them.
-/

namespace Fleet

/-- How many ports are to be drawn for a pending module. -/
def Pending.demand (p : Pending) : Nat :=
  let flags := p.descriptor.flags
  (if flags.deployModule && p.port.isNone then 1 else 0) +
    if flags.deployModule && flags.deploySidecar && p.privatePort.isNone then 1 else 0

namespace Resolver

open PortAllocator

/-! ## What merged entries ask for -/

/-- Whether the module of a merged entry is deployed. -/
def deploys (e : String × ModuleSpec) : Bool := (flagsOf e.1 e.2.overrides).deployModule

/-- Whether a sidecar is deployed next to the module of a merged entry. -/
def pairs (e : String × ModuleSpec) : Bool :=
  deploys e && (flagsOf e.1 e.2.overrides).deploySidecar

/-- The ports that a merged entry pins, if its module is deployed. -/
def pinsIn (e : String × ModuleSpec) : List Port :=
  if deploys e then e.2.overrides.port.toList ++ e.2.overrides.privatePort.toList else []

/-- The ports that the deployed modules among entries pin. -/
def pinned (entries : List (String × ModuleSpec)) : List Port :=
  (mergeEntries entries).entries.flatMap pinsIn

/-- Whether a merged entry leaves the port of its deployed module open. -/
def leavesPort (e : String × ModuleSpec) : Bool := deploys e && e.2.overrides.port.isNone

/-- Whether a merged entry leaves the port of its deployed sidecar open. -/
def leavesPrivatePort (e : String × ModuleSpec) : Bool :=
  pairs e && e.2.overrides.privatePort.isNone

/-- How many ports are to be drawn for entries: one for each deployed module and each deployed
sidecar for which none is pinned. -/
def demand (entries : List (String × ModuleSpec)) : Nat :=
  (mergeEntries entries).entries.countP leavesPort +
    (mergeEntries entries).entries.countP leavesPrivatePort

/-- What a resolution needs in order to succeed. -/
structure Resolvable (r : Resolver) (entries : List (String × ModuleSpec))
    (listing : List ListingEntry) (a : PortAllocator) : Prop where
  /-- A deployed module has a version, its own or a listed one. -/
  versioned : ∀ e ∈ (mergeEntries entries).entries, deploys e = true →
    e.2.overrides.version.isSome ∨ ∃ id ∈ ListingEntry.offered listing, id.name = e.1
  /-- A local path is a directory, whether or not its module is deployed. -/
  located : ∀ e ∈ (mergeEntries entries).entries, ∀ path ∈ e.2.overrides.localPath,
    r.isDirectory path = true
  distinct : (pinned entries).Nodup
  fresh : ∀ p ∈ pinned entries, p ∉ a.taken
  enough : demand entries ≤ (a.freeBut (pinned entries)).length

/-! ## Settling -/

theorem isSome_versions (listing : List ListingEntry) (name : String) :
    ((ListingEntry.versions listing).find? name).isSome ↔
      ∃ id ∈ ListingEntry.offered listing, id.name = name := by
  rw [ListingEntry.versions, Table.isSome_find?_ofList]
  simp

/-- A module can be settled exactly if it has a version, or need not have one, and its local path is
a directory. -/
theorem settle_ok_iff {r : Resolver} {versions : Table String String} {e : String × ModuleSpec} :
    (∃ p, r.settle versions e.1 e.2 = .ok p) ↔
      (deploys e = true → e.2.overrides.version.isSome ∨ (versions.find? e.1).isSome) ∧
        ∀ path ∈ e.2.overrides.localPath, r.isDirectory path = true := by
  have hversion : (∃ version, versionOf e.1 e.2.overrides versions = .ok version) ↔
      (deploys e = true → e.2.overrides.version.isSome ∨ (versions.find? e.1).isSome) := by
    rw [versionOf, deploys]
    cases e.2.overrides.version with
    | some version => simp
    | none =>
      cases versions.find? e.1 with
      | some version => simp
      | none => cases (flagsOf e.1 e.2.overrides).deployModule <;> simp
  have hpath : r.checkPath e.1 e.2.overrides.localPath = .ok () ↔
      ∀ path ∈ e.2.overrides.localPath, r.isDirectory path = true := by
    cases e.2.overrides.localPath <;> simp [checkPath]
  rw [← hversion, ← hpath, settle]
  cases hv : versionOf e.1 e.2.overrides versions with
  | error err => simp
  | ok version => cases hp : r.checkPath e.1 e.2.overrides.localPath <;> simp

/-- Modules can be settled together exactly if each of them can. -/
theorem settleAll_ok_iff {r : Resolver} {versions : Table String String}
    {entries : List (String × ModuleSpec)} :
    (∃ ps, r.settleAll versions entries = .ok ps) ↔
      ∀ e ∈ entries, ∃ p, r.settle versions e.1 e.2 = .ok p := by
  induction entries with
  | nil => simp [settleAll]
  | cons e rest ih =>
    rw [List.forall_mem_cons, ← ih]
    simp only [settleAll]
    cases r.settle versions e.1 e.2 with
    | error err => simp
    | ok p => cases r.settleAll versions rest <;> simp

/-- Settled modules pin what their entries pin. -/
theorem pins_of_settled {ps : List Pending} {entries : List (String × ModuleSpec)}
    (h : List.Forall₂ Pending.Settles ps entries) : pins ps = entries.flatMap pinsIn := by
  induction h with
  | nil => rfl
  | @cons p e ps' rest hp _ ih =>
    have hfirst : pinsOf p = pinsIn e := by
      rw [pinsOf, pinsIn, deploys, hp.flags, hp.port, hp.privatePort]
    rw [List.flatMap_cons, ← hfirst, ← ih]
    rfl

/-! ## Drawing -/

/-- Where no port is obtained for a place, none is pinned there and none was left, and the failure
names the range. -/
theorem pinnedOrNext_error {pin : Option Port} {a b : PortAllocator} {e : Failure}
    (h : pinnedOrNext pin a = (.error e, b)) :
    pin = none ∧ a.left = [] ∧ e = .portsExhausted b.first b.stop ∧ b.left = [] := by
  cases pin with
  | some p => cases h
  | none => exact ⟨rfl, allocate_error h⟩

theorem length_unpinned (pin : Option Port) (p : Port) :
    (unpinned pin p).length = if pin.isNone then 1 else 0 := by
  cases pin <;> rfl

/-- As many ports are drawn for a module as it leaves open. -/
theorem length_drawn {p : Pending} {d : Descriptor} (h : p.Assigned d) :
    (p.drawn d).length = p.demand := by
  have hsome := h.privatePort
  rw [Descriptor.hasSidecar, h.flags] at hsome
  cases hdeploy : p.descriptor.flags.deployModule with
  | false => simp [Pending.drawn, Descriptor.drawn, Pending.demand, h.flags, hdeploy]
  | true =>
    cases hsidecar : p.descriptor.flags.deploySidecar with
    | false =>
      simp [Pending.drawn, Descriptor.drawn, Descriptor.sidecarPort?, Descriptor.hasSidecar,
        Pending.demand, h.flags, hdeploy, hsidecar, length_unpinned]
    | true =>
      obtain ⟨port, hport⟩ := Option.isSome_iff_exists.1
        (hsome.trans (by rw [hdeploy, hsidecar]; rfl))
      simp [Pending.drawn, Descriptor.drawn, Descriptor.sidecarPort?, Descriptor.hasSidecar,
        Pending.demand, h.flags, hdeploy, hsidecar, hport, length_unpinned]

/-- Where an assignment fails, fewer ports were left than its module leaves open. -/
theorem assign_error {p : Pending} {a b : PortAllocator} {e : Failure}
    (h : assign p a = (.error e, b)) : a.left.length < p.demand := by
  simp only [assign] at h
  split at h
  · next hdeploy =>
    split at h
    · next hport =>
      obtain ⟨hpin, hleft, _⟩ := pinnedOrNext_error hport
      simp only [Pending.demand, hdeploy, hpin, hleft]
      exact Nat.lt_add_right _ Nat.one_pos
    · next port a₁ hport =>
      split at h
      · next hsidecar =>
        split at h
        · next hprivate =>
          obtain ⟨hpin, hleft, _⟩ := pinnedOrNext_error hprivate
          rw [(pinnedOrNext_draws hport).1.left, hleft, List.append_nil, length_unpinned]
          simp [Pending.demand, hdeploy, hsidecar, hpin]
        · cases h
      · cases h
  · cases h

/-- How many ports are to be drawn for pending modules. -/
def demandOf : List Pending → Nat
  | [] => 0
  | p :: rest => p.demand + demandOf rest

theorem length_drawnFor {ps : List Pending} {ds : List Descriptor}
    (h : List.Forall₂ Pending.Assigned ps ds) : (drawnFor ps ds).length = demandOf ps := by
  induction h with
  | nil => rfl
  | @cons p d ps' ds' hassigned _ ih =>
    have hcons : drawnFor (p :: ps') (d :: ds') = p.drawn d ++ drawnFor ps' ds' := rfl
    rw [hcons, List.length_append, length_drawn hassigned, ih, demandOf]

/-- Modules can be assigned their ports exactly if as many ports are left as they leave open. -/
theorem assignAll_ok_iff {ps : List Pending} {a : PortAllocator}
    (hps : ∀ p ∈ ps, p.descriptor.privatePort = none) :
    (∃ ds, (assignAll ps a).1 = .ok ds) ↔ demandOf ps ≤ a.left.length := by
  induction ps generalizing a with
  | nil => simp [assignAll, demandOf]
  | cons p rest ih =>
    obtain ⟨hp, hrest⟩ := List.forall_mem_cons.1 hps
    rw [demandOf, assignAll]
    rcases h : assign p a with ⟨e | d, b⟩
    · have hless := assign_error h
      exact ⟨fun ⟨_, hds⟩ => (nomatch hds), fun henough => by omega⟩
    · obtain ⟨hdraws, hassigned⟩ := assign_draws hp h
      have hfirst : (∃ ds, (assignAll rest b).1 = .ok ds) ↔
          p.demand + demandOf rest ≤ a.left.length := by
        rw [ih hrest, hdraws.left, List.length_append, length_drawn hassigned]
        exact (Nat.add_le_add_iff_left).symm
      rw [← hfirst]
      rcases hds : assignAll rest b with ⟨e | ds, c⟩ <;> simp [hds]

/-- Settled modules leave open what their entries leave open. -/
theorem demandOf_settled {ps : List Pending} {entries : List (String × ModuleSpec)}
    (h : List.Forall₂ Pending.Settles ps entries) :
    demandOf ps = entries.countP leavesPort + entries.countP leavesPrivatePort := by
  induction h with
  | nil => rfl
  | @cons p e _ _ hp _ ih =>
    have hfirst : p.demand =
        (if leavesPort e then 1 else 0) + if leavesPrivatePort e then 1 else 0 := by
      simp only [Pending.demand, hp.flags, hp.port, hp.privatePort]
      rfl
    rw [demandOf, hfirst, ih, List.countP_cons, List.countP_cons]
    omega

/-! ## Resolving -/

variable {r : Resolver} {entries : List (String × ModuleSpec)} {listing : List ListingEntry}
  {a : PortAllocator}

/-- A resolution succeeds exactly if its modules can be settled, their pins reserved, and as many
ports are left then as are to be drawn. -/
theorem resolve_ok_iff_phases :
    (∃ t, (r.resolve entries listing a).1 = .ok t) ↔
      (∃ ps, r.settleAll (ListingEntry.versions listing) (mergeEntries entries).entries = .ok ps) ∧
        (reserveAll (pinned entries) a).1 = .ok () ∧
        demand entries ≤ (reserveAll (pinned entries) a).2.left.length := by
  simp only [resolve, resolveMerged]
  cases hps : r.settleAll (ListingEntry.versions listing) (mergeEntries entries).entries with
  | error e => simp
  | ok ps =>
    have hsettled := settleAll_ok hps
    have hdemand : demandOf ps = demand entries := demandOf_settled hsettled
    have hpins : pins ps = pinned entries := pins_of_settled hsettled
    rw [← hdemand, ← hpins, ← assignAll_ok_iff (unassigned_of_settled hsettled)]
    rcases hres : reserveAll (pins ps) a with ⟨e | ⟨⟩, a'⟩
    · simp [hres]
    · rcases hds : assignAll ps a' with ⟨e | ds, b⟩ <;> simp [hres, hds]

/-- When pins have been reserved, what is left is what was free besides them. -/
theorem left_of_reserved (ha : a.Reachable) {ports : List Port} {a' : PortAllocator}
    (h : reserveAll ports a = (.ok (), a')) : a'.left = a.freeBut ports := by
  have hswept : (reserveAll ports a).2.Swept :=
    reserveAll_keeps (fun _ p h => h.reserve p) ports ha.swept
  rw [h] at hswept
  rw [hswept.left_eq, (reserveAll_takes h).free_eq]

theorem exists_resolved_iff (ha : a.Reachable) :
    (∃ t, (r.resolve entries listing a).1 = .ok t) ↔ r.Resolvable entries listing a := by
  rw [resolve_ok_iff_phases, settleAll_ok_iff, reserveAll_ok_iff]
  simp only [settle_ok_iff, isSome_versions]
  constructor
  · rintro ⟨hsettled, ⟨hdistinct, hfresh⟩, henough⟩
    have hreserved := reserveAll_ok_iff.2 ⟨hdistinct, hfresh⟩
    rw [left_of_reserved ha (Prod.ext hreserved rfl)] at henough
    exact ⟨fun e he => (hsettled e he).1, fun e he => (hsettled e he).2, hdistinct, hfresh, henough⟩
  · intro h
    have hreserved := reserveAll_ok_iff.2 ⟨h.distinct, h.fresh⟩
    refine ⟨fun e he => ⟨h.versioned e he, h.located e he⟩, ⟨h.distinct, h.fresh⟩, ?_⟩
    rw [left_of_reserved ha (Prod.ext hreserved rfl)]
    exact h.enough

theorem drawn_of_resolved (ha : a.Reachable) {b : PortAllocator} {t : Table String Descriptor}
    (h : r.resolve entries listing a = (.ok t, b)) :
    t.values.flatMap (drawnOf entries) =
      (a.freeBut (pinned entries)).take (demand entries) := by
  obtain ⟨ps, a', hphases⟩ := resolve_phases h
  have hleft : a'.left = a.freeBut (pinned entries) := by
    have hpins : pins ps = pinned entries := pins_of_settled hphases.settled
    rw [← hpins]
    exact left_of_reserved ha hphases.reserved
  have hlength : (t.values.flatMap (drawnOf entries)).length = demand entries := by
    rw [← hphases.drawnFor_eq, length_drawnFor hphases.assigned]
    exact demandOf_settled hphases.settled
  rw [← hleft, hphases.drawn.left, ← hlength, List.take_left']
  rfl

/-- A resolution by an allocator that calls can bring about succeeds exactly if it can, and then it
draws the least ports that are free besides the pins. -/
theorem resolve_ok_iff (ha : a.Reachable) :
    ((∃ t, (r.resolve entries listing a).1 = .ok t) ↔ r.Resolvable entries listing a) ∧
      ∀ t, (r.resolve entries listing a).1 = .ok t →
        t.values.flatMap (drawnOf entries) =
          (a.freeBut (pinned entries)).take (demand entries) :=
  ⟨exists_resolved_iff ha, fun _ ht => drawn_of_resolved ha (Prod.ext ht rfl)⟩

/-- A management module, and a module whose port is pinned at the start of the range. -/
def mixedEntries : List (String × ModuleSpec) :=
  let version := { Overrides.none with version := some "1.0.0" }
  [("mod-b", .explicit { version with port := some 30000 }), ("mgr-a", .explicit version)]

/-- Four ports, of which the second is reserved. -/
def fourPorts : PortAllocator := ((PortAllocator.between 30000 30004).reserve 30001).2

/-- The two ports that are free besides the pin are as many as are to be drawn. -/
theorem mixedEntries_drawn :
    fourPorts.Reachable ∧
    (∃ t, (Resolver.resolve ⟨"org", fun _ => true⟩ mixedEntries [] fourPorts).1 = .ok t) ∧
    ∀ t, (Resolver.resolve ⟨"org", fun _ => true⟩ mixedEntries [] fourPorts).1 = .ok t →
      t.values.flatMap (drawnOf mixedEntries) = [30002, 30003] := by
  have hreachable : fourPorts.Reachable := .reserve (.between 30000 30004) 30001
  have hpinned : pinned mixedEntries = [30000] := by decide +kernel
  have hfresh : ∀ p ∈ pinned mixedEntries, p ∉ fourPorts.taken := by
    rw [hpinned]
    exact List.forall_mem_singleton.2 (by decide +kernel)
  have hresolvable : Resolvable ⟨"org", fun _ => true⟩ mixedEntries [] fourPorts :=
    ⟨by decide +kernel, by decide +kernel, by decide +kernel, hfresh, by decide +kernel⟩
  refine ⟨hreachable, (resolve_ok_iff hreachable).1.2 hresolvable, fun t ht => ?_⟩
  exact ((resolve_ok_iff hreachable).2 t ht).trans (by decide +kernel)

end Resolver

end Fleet
