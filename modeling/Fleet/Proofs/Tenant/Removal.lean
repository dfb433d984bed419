import Fleet.Proofs.Rehearsal.Identity
import Fleet.Proofs.Tenant.Entitlement

/-!
# What the removal of tenants leaves

In a rehearsal that answers for the master realm, entitlements can always be revoked and tenants
always be removed. Revocation leaves the registered tenants as they were
(`removeTenantEntitlements_ok`). Removal leaves those that no partition selects, in their order
(`removeTenants_ok`): a tenant is removed in the partition whose description it carries, and it is
found there by its name.
-/

namespace Fleet

namespace TenantRegister

variable {r : TenantRegister}

/-- The tenant with an id is removed, and the others keep their order. -/
theorem Consistent.remove_id (h : r.Consistent) {t : TenantRecord} (ht : t ∈ r.tenants) :
    (r.remove t.id).1 = .ok () ∧ (r.remove t.id).2.tenants = r.tenants.filter (· ≠ t) := by
  unfold TenantRegister.remove
  rw [h.find?_id ht]
  refine ⟨rfl, List.filter_congr fun u hu => ?_⟩
  refine Bool.eq_iff_iff.2 ?_
  rw [bne_iff_ne, decide_eq_true_iff]
  exact not_congr ⟨fun hid => List.inj_on_of_nodup_map h.ids hu ht hid, congrArg _⟩

end TenantRegister

/-- The run with another register. -/
def RunState.registering (s : RunState Rehearsal) (r : TenantRegister) : RunState Rehearsal :=
  ⟨s.images, { s.services with tenants := r }⟩

namespace Traversal

variable {listing : List ListingEntry} {token : Token} {c : Config} {store : ContainerStore}
  {act : Visit → Action Unit} {s : RunState Rehearsal}

/-- The identity provider answers for the master realm, tenants are registered consistently, and
these containers are kept. -/
structure Serving (c : Config) (store : ContainerStore) (s : RunState Rehearsal) : Prop where
  master : c.identity.masterRealm ∉ s.services.identity.failing
  consistent : s.services.tenants.Consistent
  containers : s.services.containers = store

theorem Serving.registering (h : Serving c store s) {r : TenantRegister} (hr : r.Consistent) :
    Serving c store (s.registering r) := ⟨h.master, hr, h.containers⟩

theorem masterToken_ok (listing : List ListingEntry) (token : Token) (h : Serving c store s) :
    ∃ master s', Program.run (Rehearsal.collaborators listing token).handler
        (masterToken c).run s = (.ok master, s') ∧
      Serving c store s' ∧ s'.services.tenants = s.services.tenants := by
  have hanswer := IdentityLog.accessToken_ok h.master .clientCredentials
  let call : IdentityCall := .accessToken c.identity.masterRealm .clientCredentials
  let after := ((Rehearsal.collaborators listing token).handler (.identity call) s).2
  refine ⟨_, after, Prod.ext hanswer rfl, ⟨?_, h.consistent, h.containers⟩, rfl⟩
  show c.identity.masterRealm ∉ (IdentityLog.handler call s.services.identity).2.failing
  rw [IdentityLog.failing_handler]
  exact h.master

/-- A call of the management service that the register answers. -/
theorem handler_management (listing : List ListingEntry) (token : Token) (m : ManagementCall)
    {answer : m.Answer} {r : TenantRegister}
    (h : TenantRegister.handler m s.services.tenants = (answer, r)) :
    (Rehearsal.collaborators listing token).handler (.management m) s =
      (answer, s.registering r) := by
  show ((TenantRegister.handler m s.services.tenants).1,
    s.registering (TenantRegister.handler m s.services.tenants).2) = _
  rw [h]

/-! ## Traversals that succeed -/

/-- A partition is visited if the tenants that it selects can be visited. -/
theorem visitPartition_ok {Inv : List TenantRecord → RunState Rehearsal → Prop}
    (hvisit : Visiting listing token act Inv) {q : Partition} (h : Serving c store s)
    (hbegin : ∀ s₁, Serving c store s₁ → s₁.services.tenants = s.services.tenants →
      Inv (s.services.tenants.tenants.filter (selects c q)) s₁) :
    ∃ visits s', Program.run (Rehearsal.collaborators listing token).handler
      (visitPartition c .master act q) s = ((visits, .ok ()), s') ∧ Inv [] s' := by
  obtain ⟨master, s₁, hmaster, hs₁, htenants⟩ :=
    masterToken_ok listing token h
  obtain ⟨visits, s', hvisits, hs'⟩ := visitAll_ok hvisit q master _ s₁ (hbegin s₁ hs₁ htenants)
  have hlive : Program.run (Rehearsal.collaborators listing token).handler
      (Action.tenants master).run s₁ = (.ok s.services.tenants.tenants, s₁) := by
    rw [← htenants]
    rfl
  refine ⟨visits, s', ?_, hs'⟩
  refine (Program.run_bind_of hmaster).trans ?_
  exact (Program.run_bind_of hlive).trans hvisits

/-- An invariant of the partitions that are left to visit. -/
def Travelling (listing : List ListingEntry) (token : Token) (c : Config)
    (act : Visit → Action Unit) (Inv : List Partition → RunState Rehearsal → Prop) : Prop :=
  ∀ q rest s, Inv (q :: rest) s →
    ∃ visits s', Program.run (Rehearsal.collaborators listing token).handler
      (visitPartition c .master act q) s = ((visits, .ok ()), s') ∧ Inv rest s'

theorem journey_ok {Inv : List Partition → RunState Rehearsal → Prop}
    (hpartition : Travelling listing token c act Inv) :
    ∀ ps s, Inv ps s → ∃ j s', Program.run (Rehearsal.collaborators listing token).handler
      (journey c .master act ps) s = (j, s') ∧ j.outcome = .ok () ∧ Inv [] s'
  | [], s, h => ⟨_, s, rfl, rfl, h⟩
  | q :: rest, s, h => by
    obtain ⟨visits, s₁, hfirst, hs₁⟩ := hpartition q rest s h
    obtain ⟨later, s', hrest, hok, hs'⟩ := journey_ok hpartition rest s₁ hs₁
    refine ⟨⟨q :: later.entered, visits ++ later.visits, later.outcome⟩, s', ?_, hok, hs'⟩
    refine (Program.run_bind_of hfirst).trans ?_
    exact Program.run_bind_of hrest

theorem visitTenants_ok {Inv : List Partition → RunState Rehearsal → Prop} {direction : Direction}
    (hpartition : Travelling listing token c act Inv) (h : Inv (plan c direction) s) :
    ∃ s', Program.run (Rehearsal.collaborators listing token).handler
      (visitTenants c direction .master act).run s = (.ok (), s') ∧ Inv [] s' := by
  obtain ⟨j, s', hjourney, hok, hs'⟩ := journey_ok hpartition _ s h
  refine ⟨s', (Program.run_bind_of hjourney).trans ?_, hs'⟩
  show (j.outcome, s') = _
  rw [hok]

/-- Whether a registered tenant is described: some partition selects it. -/
def described (c : Config) (t : TenantRecord) : Bool := c.partitions.any fun q => selects c q t

theorem not_described {t : TenantRecord} (h : t.name ∉ c.tenants.keys) :
    described c t = false := by
  refine List.any_eq_false.2 fun q _ hselects => h ?_
  obtain ⟨u, hu, _⟩ := Config.mem_configured.1 (selects_iff.1 hselects).2
  exact List.mem_map_of_mem (Table.mem_entries_iff.2 hu)

end Traversal

namespace Platform

open Traversal

variable {listing : List ListingEntry} {token : Token} {p : Platform} {store : ContainerStore}
  {s : RunState Rehearsal}

/-! ## Revocation -/

/-- The register stays in service with these tenants, and those that are left to visit are among
them. -/
def Revoking (c : Config) (store : ContainerStore) (live left : List TenantRecord)
    (s : RunState Rehearsal) : Prop :=
  Serving c store s ∧ s.services.tenants.tenants = live ∧ ∀ t ∈ left, t ∈ live

theorem visiting_revoke (listing : List ListingEntry) (token : Token) (c : Config)
    (store : ContainerStore) (live : List TenantRecord) (applications : List String) :
    Visiting listing token (fun v => Action.revoke v.token v.tenant.id applications)
      (Revoking c store live) := by
  rintro v rest s ⟨hs, rfl, hmem⟩
  obtain ⟨hlive, hrest⟩ := List.forall_mem_cons.1 hmem
  have hrevoke := hs.consistent.noteFor_id hlive "revoke" applications
  have hconsistent := hs.consistent.noteFor "revoke" v.tenant.id applications
  rw [hrevoke] at hconsistent
  exact ⟨_, handler_management listing token (.revoke v.token v.tenant.id applications) hrevoke,
    hs.registering hconsistent, rfl, hrest⟩

/-- Entitlements are revoked, and the tenants stay as they were. -/
theorem removeTenantEntitlements_ok (listing : List ListingEntry) (token : Token)
    (h : Serving p.config store s) :
    ∃ s', (Rehearsal.collaborators listing token).run p.removeTenantEntitlements s = (.ok (), s') ∧
      Serving p.config store s' ∧
      s'.services.tenants.tenants = s.services.tenants.tenants := by
  let live := s.services.tenants.tenants
  have hpartition : Travelling listing token p.config
      (fun v => Action.revoke v.token v.tenant.id p.applications)
      (fun _ => Revoking p.config store live []) := by
    rintro q _ t ⟨ht, hlive, _⟩
    have hvisiting := visiting_revoke listing token p.config store live p.applications
    refine visitPartition_ok hvisiting ht ?_
    intro t₁ ht₁ htenants
    refine ⟨ht₁, (congrArg _ htenants).trans hlive, fun u hu => ?_⟩
    exact hlive ▸ (List.mem_filter.1 hu).1
  obtain ⟨s', hrun, hs', hlive, _⟩ := visitTenants_ok hpartition
    ⟨h, rfl, fun t ht => absurd ht List.not_mem_nil⟩
  exact ⟨s', hrun, hs', hlive⟩

/-! ## Removal -/

/-- The register is in service, the tenants that are left to remove are registered, and without them
these tenants remain. -/
structure Removing (c : Config) (store : ContainerStore) (remaining left : List TenantRecord)
    (s : RunState Rehearsal) : Prop where
  serving : Serving c store s
  registered : ∀ t ∈ left, t ∈ s.services.tenants.tenants
  distinct : left.Nodup
  remain : s.services.tenants.tenants.filter (fun t => t ∉ left) = remaining

theorem visiting_remove (listing : List ListingEntry) (token : Token) (c : Config)
    (store : ContainerStore) (remaining : List TenantRecord) :
    Visiting listing token (fun v => Action.removeTenant v.token v.tenant.id)
      (Removing c store remaining) := by
  intro v rest s h
  obtain ⟨hlive, hrest⟩ := List.forall_mem_cons.1 h.registered
  obtain ⟨hother, hdistinct⟩ := List.nodup_cons.1 h.distinct
  obtain ⟨hok, hleft⟩ := h.serving.consistent.remove_id hlive
  have hconsistent := h.serving.consistent.remove v.tenant.id
  have hremove := handler_management listing token (.removeTenant v.token v.tenant.id)
    (Prod.ext hok rfl)
  refine ⟨_, hremove, h.serving.registering hconsistent, fun u hu => ?_, hdistinct, ?_⟩
  · show u ∈ (s.services.tenants.remove v.tenant.id).2.tenants
    have hne : u ≠ v.tenant := fun heq => hother (heq ▸ hu)
    rw [hleft]
    exact List.mem_filter.2 ⟨hrest u hu, decide_eq_true hne⟩
  · show (s.services.tenants.remove v.tenant.id).2.tenants.filter _ = _
    rw [hleft, List.filter_filter, ← h.remain]
    refine List.filter_congr fun u _ => ?_
    simp [Bool.and_comm]

/-- The register is in service, and without the tenants that partitions select, these remain. -/
def Clearing (c : Config) (store : ContainerStore) (remaining : List TenantRecord)
    (ps : List Partition) (s : RunState Rehearsal) : Prop :=
  Serving c store s ∧
    s.services.tenants.tenants.filter (fun t => !ps.any fun q => selects c q t) = remaining

theorem travelling_remove (listing : List ListingEntry) (token : Token) (c : Config)
    (store : ContainerStore) (remaining : List TenantRecord) :
    Travelling listing token c (fun v => Action.removeTenant v.token v.tenant.id)
      (Clearing c store remaining) := by
  rintro q rest s ⟨hs, hremaining⟩
  -- tenants are listed anew in every partition, so those removed before are not met again
  let live := s.services.tenants.tenants
  have hnodup : live.Nodup := .of_map _ hs.consistent.names
  have hleft : live.filter (fun t => t ∉ live.filter (selects c q)) =
      live.filter fun t => !selects c q t := by
    refine List.filter_congr fun t ht => ?_
    simp [ht]
  obtain ⟨visits, s', hrun, h⟩ := visitPartition_ok
    (visiting_remove listing token c store (live.filter fun t => !selects c q t)) (q := q) hs
    (fun s₁ hs₁ htenants => by
      have hlive : s₁.services.tenants.tenants = live := congrArg _ htenants
      refine ⟨hs₁, fun t ht => hlive ▸ (List.mem_filter.1 ht).1, hnodup.filter _, ?_⟩
      rw [hlive, hleft])
  refine ⟨visits, s', hrun, h.serving, ?_⟩
  have hcleared : s'.services.tenants.tenants = live.filter fun t => !selects c q t := by
    rw [← h.remain]
    simp
  rw [hcleared, List.filter_filter, ← hremaining]
  refine List.filter_congr fun t _ => ?_
  simp [Bool.and_comm]

/-- The described tenants are removed, and the others stay in their order. -/
theorem removeTenants_ok (listing : List ListingEntry) (token : Token)
    (h : Serving p.config store s) :
    ∃ s', (Rehearsal.collaborators listing token).run p.removeTenants s = (.ok (), s') ∧
      Serving p.config store s' ∧
      s'.services.tenants.tenants =
        s.services.tenants.tenants.filter fun t => !described p.config t := by
  let remaining := s.services.tenants.tenants.filter fun t => !described p.config t
  have hbegin : Clearing p.config store remaining (Traversal.plan p.config .reverse) s := by
    refine ⟨h, ?_⟩
    simp only [Traversal.plan, List.any_reverse]
    rfl
  obtain ⟨s', hrun, hs', hremaining⟩ :=
    visitTenants_ok (travelling_remove listing token p.config store remaining) hbegin
  refine ⟨s', hrun, hs', ?_⟩
  rw [← List.filter_true s'.services.tenants.tenants]
  exact hremaining

end Platform

end Fleet
