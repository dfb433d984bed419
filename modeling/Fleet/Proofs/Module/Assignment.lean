import Fleet.Module.Resolve
import Fleet.Proofs.Module.Merging
import Fleet.Proofs.Ports.Drawing
import Mathlib.Data.List.Forall2
import Mathlib.Data.List.Perm.Subperm

/-!
# How modules come by their ports

A resolution settles modules, reserves their pins, and assigns what is left open. Each phase has one
law: `settle_ok` says what a settled module has of its entry, `reserveAll_takes` that the pins are
taken, and `assignAll_draws` that the ports assigned to open places are drawn and nothing else is
taken. `resolve_phases` takes a successful resolution apart into these phases.

The published ports of the descriptors are the pins and the drawn ports but for the pins of sidecars
that are not deployed: these are reserved all the same, and nothing publishes them
(`Assigned.published`).
-/

namespace Fleet

/-- The host ports that are published for a module: none, if it is not deployed. -/
def Descriptor.published (d : Descriptor) : List Port :=
  if d.flags.deployModule then d.port :: d.sidecarPort?.toList else []

/-- A pending module settles an entry: it has the entry's name, switches and pins, and no port yet.
-/
structure Pending.Settles (p : Pending) (e : String × ModuleSpec) : Prop where
  name : p.descriptor.name = e.1
  flags : p.descriptor.flags = Resolver.flagsOf e.1 e.2.overrides
  port : p.port = e.2.overrides.port
  privatePort : p.privatePort = e.2.overrides.privatePort
  unassigned : p.descriptor.privatePort = none

/-- The port of a place, if none is pinned there. -/
def unpinned (pin : Option Port) (p : Port) : List Port := if pin.isSome then [] else [p]

/-- The published ports of a descriptor for whose places no port is pinned. -/
def Descriptor.drawn (d : Descriptor) (pin privatePin : Option Port) : List Port :=
  if d.flags.deployModule then
    unpinned pin d.port ++ d.sidecarPort?.toList.flatMap (unpinned privatePin)
  else []

/-- The published ports of a descriptor that the pending module has not pinned. -/
def Pending.drawn (p : Pending) (d : Descriptor) : List Port := d.drawn p.port p.privatePort

/-- The port that a deployed module pins for a sidecar that is not deployed. -/
def Pending.idlePins (p : Pending) : List Port :=
  if p.descriptor.flags.deployModule && !p.descriptor.flags.deploySidecar then
    p.privatePort.toList
  else []

/-- A descriptor completes a pending module: it has its name and switches, publishes a port for a
sidecar exactly if there is one, and publishes the pins and the drawn ports but for a pin that is
idle. -/
structure Pending.Assigned (p : Pending) (d : Descriptor) : Prop where
  name : d.name = p.descriptor.name
  flags : d.flags = p.descriptor.flags
  privatePort : d.privatePort.isSome = d.hasSidecar
  published : (d.published ++ p.idlePins).Perm (Resolver.pinsOf p ++ p.drawn d)

namespace Resolver

open PortAllocator

/-! ## Settling -/

theorem settle_ok {r : Resolver} {versions : Table String String} {e : String × ModuleSpec}
    {p : Pending} (h : r.settle versions e.1 e.2 = .ok p) : p.Settles e := by
  simp only [settle] at h
  split at h
  · cases h
  · split at h
    · cases h
    · cases h
      exact ⟨rfl, rfl, rfl, rfl, rfl⟩

theorem settleAll_forall₂ {r : Resolver} {versions : Table String String}
    {entries : List (String × ModuleSpec)} {ps : List Pending}
    (h : r.settleAll versions entries = .ok ps) :
    List.Forall₂ (fun p e => r.settle versions e.1 e.2 = .ok p) ps entries := by
  induction entries generalizing ps with
  | nil =>
    cases h
    exact .nil
  | cons e rest ih =>
    obtain ⟨name, spec⟩ := e
    simp only [settleAll] at h
    split at h
    · cases h
    · next p hp =>
      split at h
      · cases h
      · next ps' hps =>
        cases h
        exact .cons hp (ih hps)

/-- Settled modules settle the entries one by one. -/
theorem settleAll_ok {r : Resolver} {versions : Table String String}
    {entries : List (String × ModuleSpec)} {ps : List Pending}
    (h : r.settleAll versions entries = .ok ps) : List.Forall₂ Pending.Settles ps entries :=
  (settleAll_forall₂ h).imp fun _ _ hp => settle_ok hp

theorem unassigned_of_settled {ps : List Pending} {entries : List (String × ModuleSpec)}
    (h : List.Forall₂ Pending.Settles ps entries) :
    ∀ p ∈ ps, p.descriptor.privatePort = none :=
  ((List.forall₂_and_left ps entries).1 (h.imp fun _ _ hp => ⟨hp.unassigned, hp⟩)).1

/-! ## Assigning -/

/-- What is published for two places is what is pinned and drawn for them. -/
theorem perm_append_append {xs ys idle idle' pins pins' drawn drawn' : List Port}
    (hx : (xs ++ idle).Perm (pins ++ drawn)) (hy : (ys ++ idle').Perm (pins' ++ drawn')) :
    ((xs ++ ys) ++ (idle ++ idle')).Perm ((pins ++ pins') ++ (drawn ++ drawn')) := by
  have swap : ∀ as bs cs ds : List Port,
      ((as ++ bs) ++ (cs ++ ds)).Perm ((as ++ cs) ++ (bs ++ ds)) := fun as bs cs ds => by
    rw [List.append_assoc, List.append_assoc]
    exact (List.perm_append_comm_assoc bs cs ds).append_left as
  exact (swap xs ys idle idle').trans ((hx.append hy).trans (swap pins drawn pins' drawn'))

/-- The port for a place is its pin, or it is drawn. -/
theorem pinnedOrNext_draws {pin : Option Port} {a b : PortAllocator} {p : Port}
    (h : pinnedOrNext pin a = (.ok p, b)) :
    Draws (unpinned pin p) a b ∧ [p] = pin.toList ++ unpinned pin p := by
  cases pin with
  | some q =>
    cases h
    exact ⟨.nil a, rfl⟩
  | none => exact ⟨allocate_draws h, rfl⟩

/-- An assignment draws the ports for the open places of its module. -/
theorem assign_draws {p : Pending} {a b : PortAllocator} {d : Descriptor}
    (hp : p.descriptor.privatePort = none) (h : assign p a = (.ok d, b)) :
    Draws (p.drawn d) a b ∧ p.Assigned d := by
  simp only [assign] at h
  split at h
  · next hdeploy =>
    split at h
    · cases h
    · next port a₁ hport =>
      obtain ⟨hdraws, hpins⟩ := pinnedOrNext_draws hport
      split at h
      · next hsidecar =>
        split at h
        · cases h
        · next private' a₂ hprivate =>
          cases h
          obtain ⟨hdraws', hpins'⟩ := pinnedOrNext_draws hprivate
          have hdrawn : p.drawn { p.descriptor with port, privatePort := some private' } =
              unpinned p.port port ++ unpinned p.privatePort private' := by
            simp [Pending.drawn, Descriptor.drawn, Descriptor.sidecarPort?, Descriptor.hasSidecar,
              hdeploy, hsidecar]
          have hplaces : (([port] ++ [private']) ++ ([] ++ [])).Perm
              ((p.port.toList ++ p.privatePort.toList) ++
                (unpinned p.port port ++ unpinned p.privatePort private')) :=
            perm_append_append (.of_eq (by rw [← hpins]; rfl)) (.of_eq (by rw [← hpins']; rfl))
          refine ⟨hdrawn ▸ hdraws.append hdraws', rfl, rfl, ?_, ?_⟩
          · simp [Descriptor.hasSidecar, hdeploy, hsidecar]
          · rw [hdrawn]
            simpa [Descriptor.published, Descriptor.sidecarPort?, Descriptor.hasSidecar, hdeploy,
              hsidecar, pinsOf, Pending.idlePins] using hplaces
      · next hsidecar =>
        cases h
        have hdrawn : p.drawn { p.descriptor with port } = unpinned p.port port := by
          simp [Pending.drawn, Descriptor.drawn, Descriptor.sidecarPort?, Descriptor.hasSidecar,
            hdeploy, hsidecar]
        -- a pin for the sidecar is reserved, but not published
        have hplaces : (([port] ++ []) ++ ([] ++ p.privatePort.toList)).Perm
            ((p.port.toList ++ p.privatePort.toList) ++ (unpinned p.port port ++ [])) :=
          perm_append_append (.of_eq (by rw [← hpins]; rfl)) (.of_eq (by simp))
        refine ⟨hdrawn ▸ hdraws, rfl, rfl, ?_, ?_⟩
        · simp [Descriptor.hasSidecar, hsidecar, hp]
        · rw [hdrawn]
          simpa [Descriptor.published, Descriptor.sidecarPort?, Descriptor.hasSidecar, hdeploy,
            hsidecar, pinsOf, Pending.idlePins] using hplaces
  · next hdeploy =>
    cases h
    have hdrawn : p.drawn p.descriptor = [] := by simp [Pending.drawn, Descriptor.drawn, hdeploy]
    refine ⟨hdrawn ▸ .nil a, rfl, rfl, ?_, ?_⟩
    · simp [Descriptor.hasSidecar, hdeploy, hp]
    · simp [Descriptor.published, Pending.idlePins, pinsOf, hdrawn, hdeploy]

/-- The ports drawn for modules, in the order of the modules. -/
def drawnFor (ps : List Pending) (ds : List Descriptor) : List Port :=
  (ps.zip ds).flatMap fun e => e.1.drawn e.2

/-- Assignments draw the ports for the open places of their modules, in the order of the modules. -/
theorem assignAll_draws {ps : List Pending} {a b : PortAllocator} {ds : List Descriptor}
    (hps : ∀ p ∈ ps, p.descriptor.privatePort = none) (h : assignAll ps a = (.ok ds, b)) :
    Draws (drawnFor ps ds) a b ∧ List.Forall₂ Pending.Assigned ps ds := by
  induction ps generalizing a ds with
  | nil =>
    cases h
    exact ⟨.nil _, .nil⟩
  | cons p rest ih =>
    unfold assignAll at h
    split at h
    · cases h
    · next d a₁ hd =>
      split at h
      · cases h
      · next ds' a₂ hds =>
        cases h
        obtain ⟨hdraws, hassigned⟩ := assign_draws (hps p List.mem_cons_self) hd
        obtain ⟨hdraws', hassigned'⟩ := ih (fun q hq => hps q (List.mem_cons_of_mem _ hq)) hds
        exact ⟨hdraws.append hdraws', .cons hassigned hassigned'⟩

/-- What modules publish are their pins and the ports drawn for them, except the pins that are
idle. -/
theorem published_perm {ps : List Pending} {ds : List Descriptor}
    (h : List.Forall₂ Pending.Assigned ps ds) :
    (ds.flatMap Descriptor.published ++ ps.flatMap Pending.idlePins).Perm
      (pins ps ++ drawnFor ps ds) := by
  induction h with
  | nil => exact .refl []
  | cons hassigned _ ih => exact perm_append_append hassigned.published ih

/-- Exactly the descriptors with a sidecar have a port for one. -/
theorem privatePort_of_assigned {ps : List Pending} {ds : List Descriptor}
    (h : List.Forall₂ Pending.Assigned ps ds) : ∀ d ∈ ds, d.privatePort.isSome = d.hasSidecar := by
  induction h with
  | nil => exact fun d hd => absurd hd List.not_mem_nil
  | cons hassigned _ ih => exact List.forall_mem_cons.2 ⟨hassigned.privatePort, ih⟩

/-! ## Resolving -/

/-- The published ports of a descriptor for which its entries pin no port. -/
def drawnOf (entries : List (String × ModuleSpec)) (d : Descriptor) : List Port :=
  d.drawn (overridesOf entries d.name).port (overridesOf entries d.name).privatePort

theorem names_of_settled {ps : List Pending} {merged : List (String × ModuleSpec)}
    {ds : List Descriptor} (hsettled : List.Forall₂ Pending.Settles ps merged)
    (hassigned : List.Forall₂ Pending.Assigned ps ds) :
    ds.map Descriptor.name = merged.map (·.1) := by
  induction hsettled generalizing ds with
  | nil =>
    cases hassigned
    rfl
  | cons hp _ ih =>
    cases hassigned with
    | cons hd hds =>
      rw [List.map_cons, List.map_cons, ih hds]
      exact congrArg (· :: _) (hd.name.trans hp.name)

/-- What is drawn for modules are the ports that their entries leave open. -/
theorem drawnFor_eq {entries merged : List (String × ModuleSpec)} {ps : List Pending}
    {ds : List Descriptor} (hmerged : ∀ e ∈ merged, overridesOf entries e.1 = e.2.overrides)
    (hsettled : List.Forall₂ Pending.Settles ps merged)
    (hassigned : List.Forall₂ Pending.Assigned ps ds) :
    drawnFor ps ds = ds.flatMap (drawnOf entries) := by
  induction hsettled generalizing ds with
  | nil =>
    cases hassigned
    rfl
  | @cons p e _ _ hp _ ih =>
    cases hassigned with
    | @cons _ d _ ds' hd hds =>
      have hover : overridesOf entries d.name = e.2.overrides := by
        rw [hd.name, hp.name]
        exact hmerged e List.mem_cons_self
      have hfirst : drawnOf entries d = p.drawn d := by
        simp only [drawnOf, hover, Pending.drawn, hp.port, hp.privatePort]
      have hrest := ih (fun e he => hmerged e (List.mem_cons_of_mem _ he)) hds
      rw [List.flatMap_cons, hfirst, ← hrest]
      rfl

theorem entries_byName {ds : List Descriptor} {keys : List String}
    (hkeys : keys.Pairwise fun a b => compare a b = .lt) (hnames : ds.map Descriptor.name = keys) :
    (byName ds).entries = ds.map fun d => (d.name, d) := by
  refine Table.entries_ofList ?_
  rw [Ascending, List.pairwise_map]
  rw [← hnames, List.pairwise_map] at hkeys
  exact hkeys

/-- The phases of a resolution that succeeds: its modules are settled, their pins reserved, and the
ports that the entries leave open are drawn. -/
structure Phases (entries : List (String × ModuleSpec)) (ps : List Pending)
    (a a' b : PortAllocator) (t : Table String Descriptor) : Prop where
  settled : List.Forall₂ Pending.Settles ps (mergeEntries entries).entries
  reserved : a.reserveAll (pins ps) = (.ok (), a')
  drawn : Draws (t.values.flatMap (drawnOf entries)) a' b
  assigned : List.Forall₂ Pending.Assigned ps t.values
  drawnFor_eq : drawnFor ps t.values = t.values.flatMap (drawnOf entries)
  entries_eq : t.entries = t.values.map fun d => (d.name, d)

/-- How a resolution ends: in one of its phases, or behind the last one. -/
inductive Ends (r : Resolver) (entries : List (String × ModuleSpec)) (listing : List ListingEntry)
    (a : PortAllocator) : Outcome (Table String Descriptor) → PortAllocator → Prop
  /-- A module cannot be settled. -/
  | unsettled {e : Failure}
      (h : r.settleAll (ListingEntry.versions listing) (mergeEntries entries).entries = .error e) :
      Ends r entries listing a (.error e) a
  /-- A pin cannot be reserved. -/
  | unreserved {ps : List Pending} {e : Failure} {b : PortAllocator}
      (hps : r.settleAll (ListingEntry.versions listing) (mergeEntries entries).entries = .ok ps)
      (h : a.reserveAll (pins ps) = (.error e, b)) : Ends r entries listing a (.error e) b
  /-- A port cannot be drawn. -/
  | unassigned {ps : List Pending} {a' : PortAllocator} {e : Failure} {b : PortAllocator}
      (hps : r.settleAll (ListingEntry.versions listing) (mergeEntries entries).entries = .ok ps)
      (hpins : a.reserveAll (pins ps) = (.ok (), a')) (h : assignAll ps a' = (.error e, b)) :
      Ends r entries listing a (.error e) b
  | resolved {ps : List Pending} {a' : PortAllocator} {ds : List Descriptor} {b : PortAllocator}
      (hps : r.settleAll (ListingEntry.versions listing) (mergeEntries entries).entries = .ok ps)
      (hpins : a.reserveAll (pins ps) = (.ok (), a')) (h : assignAll ps a' = (.ok ds, b)) :
      Ends r entries listing a (.ok (byName ds)) b

theorem ends_resolve (r : Resolver) (entries : List (String × ModuleSpec))
    (listing : List ListingEntry) (a : PortAllocator) :
    Ends r entries listing a (r.resolve entries listing a).1 (r.resolve entries listing a).2 := by
  simp only [resolve, resolveMerged]
  cases hps : r.settleAll (ListingEntry.versions listing) (mergeEntries entries).entries with
  | error e => exact .unsettled hps
  | ok ps =>
    rcases hpins : a.reserveAll (pins ps) with ⟨e | ⟨⟩, a'⟩
    · simpa only [hpins] using .unreserved hps hpins
    · rcases hds : assignAll ps a' with ⟨e | ds, b⟩
      · simpa only [hpins, hds] using .unassigned hps hpins hds
      · simpa only [hpins, hds] using .resolved hps hpins hds

/-- A resolution with a given outcome ends with it. -/
theorem ends_of_resolve {r : Resolver} {entries : List (String × ModuleSpec)}
    {listing : List ListingEntry} {a b : PortAllocator} {o : Outcome (Table String Descriptor)}
    (h : r.resolve entries listing a = (o, b)) : Ends r entries listing a o b := by
  have hends := ends_resolve r entries listing a
  rwa [h] at hends

/-- The descriptors that are assigned to the modules of merged entries are in name order. -/
theorem entries_assigned {entries : List (String × ModuleSpec)} {ps : List Pending}
    {ds : List Descriptor}
    (hsettled : List.Forall₂ Pending.Settles ps (mergeEntries entries).entries)
    (hassigned : List.Forall₂ Pending.Assigned ps ds) :
    (byName ds).entries = ds.map fun d => (d.name, d) := by
  refine entries_byName ?_ (names_of_settled hsettled hassigned)
  rw [List.pairwise_map]
  exact (mergeEntries entries).ascending

/-- A resolution that succeeds goes through its phases. -/
theorem resolve_phases {r : Resolver} {entries : List (String × ModuleSpec)}
    {listing : List ListingEntry} {a b : PortAllocator} {t : Table String Descriptor}
    (h : r.resolve entries listing a = (.ok t, b)) : ∃ ps a', Phases entries ps a a' b t := by
  cases ends_of_resolve h with
  | @resolved ps a' ds _ hps hpins hds =>
    have hsettled := settleAll_ok hps
    obtain ⟨hdraws, hassigned⟩ := assignAll_draws (unassigned_of_settled hsettled) hds
    have hdrawn := drawnFor_eq (fun e he => overridesOf_eq he) hsettled hassigned
    have hentries := entries_assigned hsettled hassigned
    have hvalues : (byName ds).values = ds := by
      rw [Table.values, hentries, List.map_map]
      exact List.map_id ds
    refine ⟨ps, a', hsettled, hpins, ?_, ?_, ?_, ?_⟩
    · rw [hvalues]
      exact hdrawn ▸ hdraws
    · rw [hvalues]
      exact hassigned
    · rw [hvalues]
      exact hdrawn
    · rw [hvalues]
      exact hentries

/-- What a resolution that succeeds has taken, drawn and assigned. -/
theorem resolve_ok {r : Resolver} {entries : List (String × ModuleSpec)}
    {listing : List ListingEntry} {a b : PortAllocator} {t : Table String Descriptor}
    (h : r.resolve entries listing a = (.ok t, b)) :
    ∃ ps a', Takes (pins ps) a a' ∧ Draws (t.values.flatMap (drawnOf entries)) a' b ∧
      List.Forall₂ Pending.Assigned ps t.values ∧
      drawnFor ps t.values = t.values.flatMap (drawnOf entries) ∧
      t.entries = t.values.map fun d => (d.name, d) := by
  obtain ⟨ps, a', h⟩ := resolve_phases h
  exact ⟨ps, a', reserveAll_takes h.reserved, h.drawn, h.assigned, h.drawnFor_eq, h.entries_eq⟩

/-- Resolved modules are told apart by their names. -/
theorem eq_of_name {r : Resolver} {entries : List (String × ModuleSpec)}
    {listing : List ListingEntry} {a b : PortAllocator} {t : Table String Descriptor}
    (h : r.resolve entries listing a = (.ok t, b)) {d d' : Descriptor} (hd : d ∈ t.values)
    (hd' : d' ∈ t.values) (hname : d.name = d'.name) : d = d' := by
  obtain ⟨_, _, _, _, _, _, hentries⟩ := resolve_ok h
  have hmem : ∀ x ∈ t.values, (x.name, x) ∈ t.entries := fun x hx => by
    rw [hentries]
    exact List.mem_map.2 ⟨x, hx, rfl⟩
  exact Table.eq_of_mem_entries (hname ▸ hmem d hd) (hmem d' hd')

/-! ## What a resolution keeps -/

section Keeps

variable {P : PortAllocator → Prop} (hallocate : ∀ a, P a → P a.allocate.2) {a : PortAllocator}

include hallocate

theorem pinnedOrNext_keeps (pin : Option Port) (h : P a) : P (pinnedOrNext pin a).2 := by
  cases pin with
  | some q => exact h
  | none => exact hallocate a h

theorem assign_keeps (p : Pending) (h : P a) : P (assign p a).2 := by
  simp only [assign]
  split
  · have hport := pinnedOrNext_keeps hallocate p.port h
    split
    · next heq =>
      rw [heq] at hport
      exact hport
    · next b heq =>
      rw [heq] at hport
      split
      · have hprivate := pinnedOrNext_keeps hallocate p.privatePort hport
        split
        · next heq' =>
          rw [heq'] at hprivate
          exact hprivate
        · next heq' =>
          rw [heq'] at hprivate
          exact hprivate
      · exact hport
  · exact h

theorem assignAll_keeps (ps : List Pending) (h : P a) : P (assignAll ps a).2 := by
  induction ps generalizing a with
  | nil => exact h
  | cons p rest ih =>
    have hfirst := assign_keeps hallocate p h
    unfold assignAll
    split
    · next heq =>
      rw [heq] at hfirst
      exact hfirst
    · next d b heq =>
      rw [heq] at hfirst
      have hrest := ih hfirst
      split
      · next heq' =>
        rw [heq'] at hrest
        exact hrest
      · next heq' =>
        rw [heq'] at hrest
        exact hrest

/-- What draws and reservations keep, a resolution keeps, whatever its outcome. -/
theorem resolve_keeps (hreserve : ∀ a p, P a → P (a.reserve p).2) (r : Resolver)
    (entries : List (String × ModuleSpec)) (listing : List ListingEntry) (h : P a) :
    P (r.resolve entries listing a).2 := by
  have hpinned : ∀ ports, P (a.reserveAll ports).2 := fun ports => reserveAll_keeps hreserve ports h
  have hends := ends_resolve r entries listing a
  generalize (r.resolve entries listing a).1 = o, (r.resolve entries listing a).2 = b at hends ⊢
  cases hends with
  | unsettled => exact h
  | @unreserved ps _ _ _ hres =>
    have hb := hpinned (pins ps)
    rwa [hres] at hb
  | @unassigned ps _ _ _ _ hpins hds =>
    have hb := assignAll_keeps hallocate ps (hpinned (pins ps))
    rwa [hpins, hds] at hb
  | @resolved ps _ _ _ _ hpins hds =>
    have hb := assignAll_keeps hallocate ps (hpinned (pins ps))
    rwa [hpins, hds] at hb

end Keeps

theorem assignAll_grows (ps : List Pending) (a : PortAllocator) : Grows a (assignAll ps a).2 :=
  assignAll_keeps (fun b h => h.trans (allocate_grows b)) ps (.refl a)

/-- A resolution gives back no port, whatever its outcome. -/
theorem resolve_grows (r : Resolver) (entries : List (String × ModuleSpec))
    (listing : List ListingEntry) (a : PortAllocator) :
    Grows a (r.resolve entries listing a).2 :=
  resolve_keeps (fun b h => h.trans (allocate_grows b)) (fun b p h => h.trans (reserve_grows b p))
    r entries listing (.refl a)

/-- Resolutions make allocators that calls can bring about. -/
theorem reachable_resolve (r : Resolver) (entries : List (String × ModuleSpec))
    (listing : List ListingEntry) {a : PortAllocator} (h : a.Reachable) :
    (r.resolve entries listing a).2.Reachable :=
  resolve_keeps (fun _ h => h.allocate) (fun _ p h => h.reserve p) r entries listing h

end Resolver

end Fleet
