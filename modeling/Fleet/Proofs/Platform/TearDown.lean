import Fleet.Command
import Fleet.Proofs.Deployment.Removal
import Fleet.Proofs.Platform.StageOrder
import Fleet.Proofs.Tenant.Removal

/-!
# Tear-down undoes bring-up

Wherever the way up has stopped, it leaves only what tear-down finds again (`Raised`). Containers
are created by name and found by the stem of the name and by labels; tenants are created by name in
a partition and found by the partition's description and by name. Every call of the way up keeps
this (`Raised.step`), so every end of it does.

From there tear-down succeeds at every step. It leaves no container, and the tenants that were
registered beforehand, in their order (`undeployApplication_undoes`).
-/

namespace Fleet.Platform

open Program Traversal

variable {σ : Type} {handler : Handler Call.Answer σ} {m : Manners} {p : Platform} {b : Blueprint}
  {resolved : Table String Descriptor} {token : Token} {stages : List Stage} {stage : Stage}
  {s s' : σ} {events : List Event} {segments : List (Stage × List Event)} {o : Outcome Unit}

/-! ## The way up leaves what its calls leave -/

theorem Stage.Course.state_eq (h : stage.Course handler m p b resolved s events o s') :
    s' = stateAfter handler s events := by
  cases stage with
  | containers kind => exact Deployment.Passage.state_eq h
  | probes kind =>
    simp only [Stage.Course] at h
    split at h
    · obtain ⟨_, rfl, rfl⟩ := h
      rfl
    · obtain ⟨_, _, hpassage⟩ := h
      exact hpassage.state_eq p.attempts_pos
  | tenants =>
    obtain ⟨_, _, hcreate⟩ := h
    exact hcreate.state_eq
  | _ => exact Program.Course.state_eq h

theorem InStages.state_eq (h : InStages handler m p b resolved stages s segments o s') :
    s' = stateAfter handler s (segments.flatMap (·.2)) := by
  induction h with
  | done => rfl
  | next hstage _ ih =>
    rw [List.flatMap_cons, stateAfter_append, ← hstage.state_eq]
    exact ih
  | @failed stage rest _ _ _ _ hstage =>
    have hnone : (rest.map fun later => (later, ([] : List Event))).flatMap (·.2) = [] := by
      simp
    rw [List.flatMap_cons, hnone, List.append_nil]
    exact hstage.state_eq

/-- A call that the way up may make. -/
def Climbs (p : Platform) (call : Call) : Prop :=
  (call = .rootToken ∨ call = .listing) ∨
    ∃ token resolved, ∃ stage : Stage, stage.Makes p token resolved call

/-- What every call of the way up keeps is kept by the way up, wherever it ends. -/
theorem Deploys.keeps {Inv : σ → Prop} (h : Deploys handler p s events o s')
    (hkeeps : ∀ call t, Climbs p call → Inv t → Inv (handler call t).2) (hs : Inv s) : Inv s' := by
  cases h with
  | unprepared hprepare =>
    rw [hprepare.state_eq]
    exact stateAfter_keeps (fun e he t => hkeeps e.1 t (.inl (calls_prepare hprepare e he))) hs
  | staged hprepare hstages =>
    obtain ⟨token, listing, rfl, hresolve, _⟩ := course_prepare_ok hprepare
    obtain ⟨_, _, _, _, _, _, hnames⟩ := Resolver.resolve_ok (Prod.ext hresolve rfl)
    -- first up to the stages, then through them
    have hprepared := stateAfter_keeps
      (fun e he t => hkeeps e.1 t (.inl (calls_prepare hprepare e he))) hs
    rw [← hprepare.state_eq] at hprepared
    rw [hstages.state_eq]
    refine stateAfter_keeps (fun e he t => hkeeps e.1 t (.inr ?_)) hprepared
    obtain ⟨x, hx, he⟩ := List.mem_flatMap.1 he
    exact ⟨token, _, x.1, (hstages.staged hnames).calls x hx e he⟩

/-! ## What tear-down can undo -/

/-- A call whose effect tear-down can undo. -/
def Undoable (p : Platform) : Call → Prop
  | .createContainer spec => ∃ token d, spec ∈ (Blueprint.ofConfig p.config token).specsOf d
  | .stopContainer _ | .removeContainer _ => False
  | .management (.createTenant _ name description) =>
    ∃ q, (q, name) ∈ p.plannedTenants ∧ description = q.description
  | .management (.removeTenant _ _) => False
  | _ => True

theorem Finds.undoable {call : Call} (h : Stage.Finds p call) : Undoable p call := by
  rcases h with rfl | ⟨granted, rfl⟩ <;> trivial

theorem Stage.Makes.undoable {call : Call} (h : stage.Makes p token resolved call) :
    Undoable p call := by
  cases stage with
  | containers kind =>
    rcases h with ⟨image, auth, rfl⟩ | ⟨d, _, spec, hspec, rfl⟩
    · trivial
    · exact ⟨some token, d, hspec⟩
  | probes kind =>
    rcases h with ⟨millis, rfl⟩ | ⟨d, _, port, _, rfl⟩ <;> trivial
  | gateway =>
    rcases h with rfl | ⟨millis, rfl⟩ <;> trivial
  | registration =>
    rcases h with hfinds | ⟨master, rfl⟩ | ⟨master, rfl⟩
    · exact Finds.undoable hfinds
    · trivial
    · trivial
  | tenants =>
    rcases h with hfinds | ⟨master, q, name, hplanned, rfl⟩ | ⟨master, seconds, _, name, _, rfl⟩
    · exact Finds.undoable hfinds
    · exact ⟨q, hplanned, rfl⟩
    · trivial
  | entitlements =>
    rcases h with hfinds | ⟨master, id, rfl⟩
    · exact Finds.undoable hfinds
    · trivial
  | roles =>
    rcases h with hfinds | ⟨name, rfl⟩ | ⟨granted, tenant, rfl⟩
    · exact Finds.undoable hfinds
    · trivial
    · trivial
  | users =>
    rcases h with hfinds | ⟨name, rfl⟩ | ⟨granted, tenant, rfl⟩
    · exact Finds.undoable hfinds
    · trivial
    · trivial
  | capabilitySets =>
    rcases h with hfinds | ⟨name, rfl⟩ | ⟨millis, rfl⟩ | rfl | rfl | ⟨granted, tenant, rfl⟩
    · exact Finds.undoable hfinds
    · trivial
    · trivial
    · trivial
    · trivial
    · trivial

theorem Climbs.undoable {call : Call} (h : Climbs p call) : Undoable p call := by
  rcases h with (rfl | rfl) | ⟨token, resolved, stage, h⟩
  · trivial
  · trivial
  · exact h.undoable

section Rehearsed

variable {listing : List ListingEntry} {live : List TenantRecord} {s s₁ : RunState Rehearsal}

/-- Every container that is kept is removed with one of the passes, and the tenants are those of
before and, behind them, described ones. -/
structure Raised (p : Platform) (live : List TenantRecord) (s : RunState Rehearsal) : Prop where
  numbered : s.services.containers.Numbered
  removable : ∀ e ∈ s.services.containers.containers.entries,
    ∃ kind, Deployment.removes p.naming kind e.2 = true
  consistent : s.services.tenants.Consistent
  master : p.config.identity.masterRealm ∉ s.services.identity.failing
  tenants : ∃ created, s.services.tenants.tenants = live ++ created ∧
    ∀ t ∈ created, described p.config t = true

theorem Raised.create (h : Raised p live s) {spec : ContainerSpec}
    (hspec : ∃ token d, spec ∈ (Blueprint.ofConfig p.config token).specsOf d) :
    Raised p live (s.holding (s.services.containers.create spec).2) := by
  refine ⟨h.numbered.create spec, fun e he => ?_, h.consistent, h.master, h.tenants⟩
  rcases ContainerStore.mem_create he with ⟨_, hnew⟩ | he
  · obtain ⟨granted, d, hmem⟩ := hspec
    rw [← hnew] at hmem
    exact ⟨d.kind, Deployment.removes_of_mem_specsOf hmem⟩
  · exact h.removable e he

theorem Raised.register (h : Raised p live s) {m : ManagementCall}
    (hm : Undoable p (.management m)) :
    Raised p live (s.registering (TenantRegister.handler m s.services.tenants).2) := by
  refine ⟨h.numbered, h.removable, h.consistent.handler m, h.master, ?_⟩
  obtain ⟨created, htenants, hcreated⟩ := h.tenants
  have hnoted : ∀ verb id applications,
      (s.services.tenants.noteFor verb id applications).2.tenants = s.services.tenants.tenants := by
    intro verb id applications
    unfold TenantRegister.noteFor
    split <;> rfl
  cases m with
  | createTenant master name description =>
    obtain ⟨q, hplanned, rfl⟩ := hm
    show ∃ created, (s.services.tenants.create name q.description).2.tenants = live ++ created ∧ _
    rcases hcreate : s.services.tenants.create name q.description with ⟨e | t, r⟩
    · rw [TenantRegister.create_error hcreate]
      exact ⟨created, htenants, hcreated⟩
    · obtain ⟨rfl, hdescription, hbehind⟩ := TenantRegister.create_ok hcreate
      obtain ⟨hq, hconfigured⟩ := mem_plannedTenants.1 hplanned
      have hdescribed : described p.config t = true :=
        List.any_eq_true.2 ⟨q, hq, selects_iff.2 ⟨hdescription, hconfigured⟩⟩
      refine ⟨created ++ [t], ?_, List.forall_mem_append.2 ⟨hcreated, ?_⟩⟩
      · show r.tenants = _
        rw [hbehind, htenants, List.append_assoc]
      · exact List.forall_mem_singleton.2 hdescribed
  | removeTenant master id => exact hm.elim
  | tenants master => exact ⟨created, htenants, hcreated⟩
  | entitle master id applications => exact ⟨created, (hnoted _ _ _).trans htenants, hcreated⟩
  | revoke master id applications => exact ⟨created, (hnoted _ _ _).trans htenants, hcreated⟩
  | createApplication master application => exact ⟨created, htenants, hcreated⟩
  | registerDiscovery master modules => exact ⟨created, htenants, hcreated⟩

/-- A call that can be undone leaves what can be undone. -/
theorem Raised.step (h : Raised p live s) {call : Call} (hcall : Undoable p call) :
    Raised p live ((Rehearsal.collaborators listing token).handler call s).2 := by
  cases call with
  | createContainer spec => exact h.create hcall
  | management m => exact h.register hcall
  | identity m =>
    refine ⟨h.numbered, h.removable, h.consistent, ?_, h.tenants⟩
    show p.config.identity.masterRealm ∉ (IdentityLog.handler m s.services.identity).2.failing
    rw [IdentityLog.failing_handler]
    exact h.master
  | ensureImage image auth =>
    obtain ⟨pulls, hservices⟩ := Rehearsal.services_ensureImage listing token auth image s
    show Raised p live ((Rehearsal.collaborators listing token).ensureImage auth image s).2
    constructor <;> rw [hservices]
    · exact ⟨h.numbered.given, h.numbered.distinct⟩
    · exact h.removable
    · exact h.consistent
    · exact h.master
    · exact h.tenants
  | stopContainer id => exact hcall.elim
  | removeContainer id => exact hcall.elim
  | _ => exact ⟨h.numbered, h.removable, h.consistent, h.master, h.tenants⟩

/-- From what the way up has left, tear-down succeeds and leaves nothing of it. -/
theorem Raised.undone (listing : List ListingEntry) (token : Token) (h : Raised p live s)
    (hlive : ∀ t ∈ live, described p.config t = false) :
    ∃ s₂ s₃ s₄ s₅ business management,
      (Rehearsal.collaborators listing token).run p.removeTenantEntitlements s = (.ok (), s₂) ∧
      (Rehearsal.collaborators listing token).run p.removeTenants s₂ = (.ok (), s₃) ∧
      (Rehearsal.collaborators listing token).run p.undeployModules s₃ = (.ok business, s₄) ∧
      (Rehearsal.collaborators listing token).run p.undeployManagement s₄ = (.ok management, s₅) ∧
      s₅.services.containers.containers = .empty ∧ s₅.services.tenants.tenants = live := by
  have hs : Serving p.config s.services.containers s := ⟨h.master, h.consistent, rfl⟩
  obtain ⟨s₂, hrevoke, hs₂, hkept⟩ := removeTenantEntitlements_ok listing token hs
  obtain ⟨s₃, hremove, hs₃, hremaining⟩ := removeTenants_ok listing token hs₂
  have hnumbered : s₃.services.containers.Numbered := hs₃.containers ▸ h.numbered
  have hbusiness := Deployment.run_undeploy listing token p.naming .business s₃ hnumbered
  have hmanagement := Deployment.run_undeploy listing token p.naming .management (s₃.holding _)
    (hnumbered.without (Deployment.removes p.naming .business))
  refine ⟨s₂, s₃, _, _, _, _, hrevoke, hremove, hbusiness, hmanagement, ?_, ?_⟩
  · exact Deployment.containers_without_passes (hs₃.containers ▸ h.removable) .business
  · show s₃.services.tenants.tenants = live
    obtain ⟨created, htenants, hcreated⟩ := h.tenants
    have hbefore : live.filter (fun t => !described p.config t) = live :=
      List.filter_eq_self.2 fun t ht => by rw [hlive t ht]; rfl
    have hbehind : created.filter (fun t => !described p.config t) = [] :=
      List.filter_eq_nil_iff.2 fun t ht => by rw [hcreated t ht]; exact Bool.false_ne_true
    rw [hremaining, hkept, htenants, List.filter_append, hbefore, hbehind, List.append_nil]

/-- The transcript of an action that succeeds. -/
theorem run_ofAction {α : Type} {context : Option String} {lines : α → List String} {a : Action α}
    {answer : α} {t t' : σ} (h : Program.run handler a.run t = (.ok answer, t')) :
    Program.run handler (Transcript.ofAction context lines a) t = (⟨lines answer, none⟩, t') :=
  run_bind_of h

theorem run_followedBy {first second : Program Call.Answer Transcript} {lines more : List String}
    {t t' t'' : σ} (hfirst : first.run handler t = (⟨lines, none⟩, t'))
    (hsecond : second.run handler t' = (⟨more, none⟩, t'')) :
    Program.run handler (Transcript.followedBy first second) t = (⟨lines ++ more, none⟩, t'') :=
  (run_bind_of hfirst).trans (run_bind_of hsecond)

/-- Tear-down undoes bring-up. No containers are kept beforehand, and no tenant is registered under
a described name. Whatever fails on the way up, apart from the master realm, and however the tasks
of the passes take turns: all steps of tear-down succeed behind it, no container is left, and the
registered tenants are those of before, in their order. -/
theorem undeployApplication_undoes (p : Platform) (listing : List ListingEntry) (token : Token)
    (calls : List ManagementCall) {s : RunState Rehearsal}
    (hempty : s.services.containers.containers = .empty)
    (hbefore : s.services.tenants = .after calls)
    (hnames : ∀ t ∈ s.services.tenants.tenants, t.name ∉ p.config.tenants.keys)
    (hmaster : p.config.identity.masterRealm ∉ s.services.identity.failing) :
    let c := Rehearsal.collaborators listing token
    (∃ events, Deploys c.handler p s events (ended (c.run p.deployApplication s).1)
      (c.run p.deployApplication s).2) ∧
    ∀ events o s₁, Deploys c.handler p s events o s₁ →
      ∃ s₂ s₃ s₄ s₅ business management,
        c.run p.removeTenantEntitlements s₁ = (.ok (), s₂) ∧
        c.run p.removeTenants s₂ = (.ok (), s₃) ∧
        c.run p.undeployModules s₃ = (.ok business, s₄) ∧
        c.run p.undeployManagement s₄ = (.ok management, s₅) ∧
        s₅.services.containers.containers = .empty ∧
        s₅.services.tenants.tenants = s.services.tenants.tenants ∧
        Program.run c.handler (Command.undeployApplication.transcript p) s₁ =
          (⟨[s!"Removed {business.length} module containers",
            s!"Removed {management.length} management containers"], none⟩, s₅) := by
  intro c
  refine ⟨⟨_, deploys_deployApplication (course_self c.handler p.deployApplication.run s)⟩, ?_⟩
  intro events o s₁ h
  have hraised : Raised p s.services.tenants.tenants s := by
    have hnone : ∀ e, e ∉ s.services.containers.containers.entries := Table.eq_empty_iff.1 hempty
    refine ⟨⟨fun e he => absurd he (hnone e), fun e he => absurd he (hnone e)⟩,
      fun e he => absurd he (hnone e), hbefore ▸ TenantRegister.consistent_after calls, hmaster,
      [], (List.append_nil _).symm, fun t ht => absurd ht List.not_mem_nil⟩
  have hraised₁ : Raised p s.services.tenants.tenants s₁ :=
    h.keeps (fun _ _ hcall ht => ht.step hcall.undoable) hraised
  obtain ⟨s₂, s₃, s₄, s₅, business, management, hrevoke, hremove, hbusiness, hmanagement, hleft⟩ :=
    hraised₁.undone listing token fun t ht => not_described (hnames t ht)
  refine ⟨s₂, s₃, s₄, s₅, business, management, hrevoke, hremove, hbusiness, hmanagement, hleft.1,
    hleft.2, ?_⟩
  refine run_followedBy (run_ofAction hrevoke) ?_
  refine run_followedBy (run_ofAction hremove) ?_
  exact run_followedBy (run_ofAction hbusiness) (run_ofAction hmanagement)

end Rehearsed

/-! ## A way up that stops at the roles -/

/-- One module and one tenant are described. -/
def oneTenant : Platform where
  config :=
    { modules := .ofList [("mod-a", .explicit { Overrides.none with version := some "1" })]
      tenants := .ofList [("diku", {})] }
  isDirectory _ := false

/-- Another tenant is registered, and calls about the described one fail. -/
def withGuest : RunState Rehearsal :=
  .fresh
    { identity := { failing := ["diku"] }
      tenants := .after [.createTenant ⟨"root"⟩ "guest" "none-default"] }

/-- What the way up answers and leaves. -/
def stopped : Outcome PlatformPorts × RunState Rehearsal :=
  (Rehearsal.collaborators [] ⟨"root"⟩).run oneTenant.deployApplication withGuest

/-- The way up fails behind the creation of the tenant, and all that it has left is removed. -/
theorem undeployApplication_undoes_stopped :
    ended stopped.1 = .error (.answered "identity" 500 "injected failure for diku") ∧
    stopped.2.services.containers.containers.keys = ["flotilla-mod-a", "flotilla-mod-a-sc"] ∧
    stopped.2.services.tenants.tenants.map (·.name) = ["guest", "diku"] ∧
    let c := Rehearsal.collaborators [] ⟨"root"⟩
    ∃ s₂ s₃ s₄ s₅ business management,
      c.run oneTenant.removeTenantEntitlements stopped.2 = (.ok (), s₂) ∧
      c.run oneTenant.removeTenants s₂ = (.ok (), s₃) ∧
      c.run oneTenant.undeployModules s₃ = (.ok business, s₄) ∧
      c.run oneTenant.undeployManagement s₄ = (.ok management, s₅) ∧
      s₅.services.containers.containers = .empty ∧
      s₅.services.tenants.tenants = withGuest.services.tenants.tenants ∧
      Program.run c.handler (Command.undeployApplication.transcript oneTenant) stopped.2 =
        (⟨[s!"Removed {business.length} module containers",
          s!"Removed {management.length} management containers"], none⟩, s₅) := by
  have hnames : ∀ t ∈ withGuest.services.tenants.tenants,
      t.name ∉ oneTenant.config.tenants.keys := by decide +kernel
  have hmaster : oneTenant.config.identity.masterRealm ∉ withGuest.services.identity.failing := by
    decide +kernel
  obtain ⟨⟨_, hdeploys⟩, hundone⟩ := undeployApplication_undoes oneTenant [] ⟨"root"⟩
    [.createTenant ⟨"root"⟩ "guest" "none-default"] (s := withGuest) rfl rfl hnames hmaster
  exact ⟨by decide +kernel, by decide +kernel, by decide +kernel, hundone _ _ _ hdeploys⟩

end Fleet.Platform
