import Fleet.Platform
import Fleet.Proofs.Deployment.Passage
import Fleet.Proofs.Platform.Stages
import Fleet.Proofs.Readiness.Passage
import Fleet.Proofs.Tenant.Attachment
import Fleet.Proofs.Tenant.Coverage

/-!
# The stages of the way up

`deployApplication` goes through eleven stages. For each of them is said how it goes by
(`Stage.Course`), which calls it makes (`Stage.Makes`), and what has been done when it is completed
(`Stage.Completed`): every container of the pass was created, every port that the pass publishes has
answered, every described tenant was found or created, and so on. A stage makes its calls only
(`Stage.Course.makes`), and if it ends well it is completed (`Stage.Course.completed`). If it fails,
then because it waited in vain or with a failure that one of its calls was answered
(`Stage.FailsWith`).

In the stages that start containers, the tasks of the pass take turns in any order. In those that
await ports, the tasks of the ports do so too, unless the ports are awaited in rounds of probes; this
is settled for each pass (`Manners`).
-/

namespace Fleet

open Program

variable {σ : Type} {handler : Handler Call.Answer σ} {s s' : σ} {events : List Event}

namespace Pass

variable {resolved : Table String Descriptor} {kind : ModuleKind}

theorem isEmpty_iff {pass : Pass} : pass.isEmpty = true ↔ pass.deployable = [] := List.isEmpty_iff

/-- The host ports of a pass of resolved modules are listed module by module. -/
theorem entries_ports (hnames : resolved.entries = resolved.values.map fun d => (d.name, d)) :
    (ofKind kind resolved).ports.entries =
      (ofKind kind resolved).deployable.map fun d => (d.name, portsOf d) := by
  refine Table.entries_ofList ?_
  have hascending := resolved.ascending
  rw [hnames, Ascending, List.pairwise_map] at hascending
  rw [Ascending, List.pairwise_map]
  refine hascending.sublist ?_
  exact List.filter_sublist.trans (List.filter_sublist.map _)

/-- The ports that are awaited are those that the deployed modules publish. -/
theorem mem_watches (hnames : resolved.entries = resolved.values.map fun d => (d.name, d))
    {w : Readiness.Watch} : w ∈ Readiness.watches (ofKind kind resolved).ports ↔
      ∃ d ∈ (ofKind kind resolved).deployable, ∃ port ∈ d.published, w = ⟨d.name, port⟩ := by
  have hpublished : ∀ d ∈ (ofKind kind resolved).deployable,
      (portsOf d).toList = d.published := by
    intro d hd
    exact (if_pos (mem_values_of_mem_deployable hd).2).symm
  rw [Readiness.watches, entries_ports hnames, List.flatMap_map, List.mem_flatMap]
  constructor
  · rintro ⟨d, hd, hw⟩
    obtain ⟨port, hport, rfl⟩ := List.mem_map.1 hw
    exact ⟨d, hd, port, hpublished d hd ▸ hport, rfl⟩
  · rintro ⟨d, hd, port, hport, rfl⟩
    exact ⟨d, hd, List.mem_map.2 ⟨port, (hpublished d hd).symm ▸ hport, rfl⟩⟩

end Pass

namespace Platform

/-- How something ends, whatever its value. -/
def ended {α : Type} (o : Outcome α) : Outcome Unit := o.map fun _ => ()

theorem ended_unit (o : Outcome Unit) : ended o = o := by
  cases o <;> rfl

/-- How the ports of each pass are awaited. -/
abbrev Manners := ModuleKind → Readiness.Manner

/-- The ports of both passes are awaited in rounds. -/
def Manners.inRounds : Manners := fun _ => .inRounds

/-- A description always leaves an attempt. -/
theorem attempts_pos (p : Platform) : 0 < (Budget.ofReadiness p.config.readiness).attempts :=
  Nat.lt_of_lt_of_le Nat.one_pos (Nat.le_max_left _ _)

/-- The stages of the way up. -/
inductive Stage
  | containers (kind : ModuleKind)
  | probes (kind : ModuleKind)
  | gateway
  | registration
  | tenants
  | entitlements
  | roles
  | users
  | capabilitySets

namespace Stage

/-- The stages in their order. -/
def order : List Stage :=
  [.containers .management, .probes .management, .gateway, .containers .business, .probes .business,
    .registration, .tenants, .entitlements, .roles, .users, .capabilitySets]

/-- A stage goes by with these events and this outcome. -/
def Course (handler : Handler Call.Answer σ) (m : Manners) (p : Platform) (b : Blueprint)
    (resolved : Table String Descriptor) (stage : Stage) (s : σ) (events : List Event)
    (o : Outcome Unit) (s' : σ) : Prop :=
  match stage with
  | .containers kind =>
    Deployment.Passage handler b (Pass.ofKind kind resolved).deployable s events o s'
  | .probes kind =>
    let pass := Pass.ofKind kind resolved
    if pass.isEmpty then o = .ok () ∧ s' = s ∧ events = []
    else ∃ report, o = ended report ∧
      Readiness.Passage handler (.ofReadiness p.config.readiness) kind pass.ports (m kind)
        s events report s'
  | .gateway =>
    Program.Course handler (Readiness.awaitGateway (.ofReadiness p.config.readiness)).run
      s events o s'
  | .registration =>
    Program.Course handler (p.registerApplication (.ofKind .business resolved)).run s events o s'
  | .tenants => ∃ created, o = ended created ∧
    Program.Course handler p.createTenants.run s events created s'
  | .entitlements => Program.Course handler p.createTenantEntitlements.run s events o s'
  | .roles => Program.Course handler p.createRoles.run s events o s'
  | .users => Program.Course handler p.createUsers.run s events o s'
  | .capabilitySets => Program.Course handler p.attachCapabilitySets.run s events o s'

/-- A call by which tenants are found: for a token of the master realm, or for a listing. -/
def Finds (p : Platform) (call : Call) : Prop :=
  call = .identity (.accessToken p.config.identity.masterRealm .clientCredentials) ∨
    ∃ granted, call = .management (.tenants granted)

/-- The calls that a stage may make. -/
def Makes (p : Platform) (token : Token) (resolved : Table String Descriptor) (stage : Stage)
    (call : Call) : Prop :=
  let finds := Finds p call
  let tokens := ∃ name, call = .identity (.accessToken name .password)
  match stage with
  | .containers kind => (∃ image auth, call = .ensureImage image auth) ∨
    ∃ d ∈ (Pass.ofKind kind resolved).deployable,
      ∃ spec ∈ (Blueprint.ofConfig p.config (some token)).specsOf d, call = .createContainer spec
  | .probes kind => (∃ millis, call = .sleep millis) ∨
    ∃ d ∈ (Pass.ofKind kind resolved).deployable, ∃ port ∈ d.published, call = .probe port
  | .gateway => call = .gatewayStatus ∨ ∃ millis, call = .sleep millis
  | .registration => finds ∨
    (∃ master, call = .management (.createApplication master
      (p.application (.ofKind .business resolved)))) ∨
    ∃ master, call =
      .management (.registerDiscovery master (discovery (.ofKind .business resolved)))
  | .tenants => finds ∨
    (∃ master q name, (q, name) ∈ p.plannedTenants ∧
      call = .management (.createTenant master name q.description)) ∨
    ∃ master seconds, p.config.identity.accessTokenLifespanSecs = some seconds ∧
      ∃ name ∈ p.config.tenants.keys, call = .identity (.setLifespan master name seconds)
  | .entitlements => finds ∨
    ∃ master id, call = .management (.entitle master id p.applications)
  | .roles => finds ∨ tokens ∨
    ∃ token tenant, call = .identity (.createRoles token tenant p.config.roles)
  | .users => finds ∨ tokens ∨
    ∃ token tenant, call = .identity (.createUsers token tenant p.config.users)
  | .capabilitySets => finds ∨ tokens ∨ (∃ millis, call = .sleep millis) ∨ call = .now ∨
    call = .describeGroup p.config.saga.consumerGroup ∨
    ∃ token tenant, call = .identity (.attach token tenant p.config.roles)

/-- What has been done when a stage is completed: everything, for all modules or tenants. -/
def Completed (p : Platform) (token : Token) (resolved : Table String Descriptor) (stage : Stage)
    (events : List Event) : Prop :=
  match stage with
  | .containers kind => ∀ d ∈ (Pass.ofKind kind resolved).deployable,
    ∀ spec ∈ (Blueprint.ofConfig p.config (some token)).specsOf d,
      ∃ id, ⟨.createContainer spec, .ok id⟩ ∈ events
  | .probes kind => ∀ d ∈ (Pass.ofKind kind resolved).deployable, ∀ port ∈ d.published,
    ⟨.probe port, .ok ()⟩ ∈ events
  | .gateway => ⟨.gatewayStatus, .ok true⟩ ∈ events
  | .registration =>
    let pass := Pass.ofKind .business resolved
    pass.deployable ≠ [] → ∃ master,
      ⟨.management (.createApplication master (p.application pass)), .ok ()⟩ ∈ events ∧
      ⟨.management (.registerDiscovery master (discovery pass)), .ok ()⟩ ∈ events
  | .tenants => ∃ master live, ⟨.management (.tenants master), .ok live⟩ ∈ events ∧
    (∀ q name, (q, name) ∈ p.plannedTenants → (∃ t ∈ live, t.name = name) ∨
      ∃ record, ⟨.management (.createTenant master name q.description), .ok record⟩ ∈ events) ∧
    ∀ seconds, p.config.identity.accessTokenLifespanSecs = some seconds →
      ∀ name ∈ p.config.tenants.keys,
        ⟨.identity (.setLifespan master name seconds), .ok ()⟩ ∈ events
  | .entitlements => Traversal.Covered p.config
    (fun v => ⟨.management (.entitle v.token v.tenant.id p.applications), .ok ()⟩) events
  | .roles => Traversal.Covered p.config
    (fun v => ⟨.identity (.createRoles v.token v.tenant.name p.config.roles), .ok ()⟩) events
  | .users => Traversal.Covered p.config
    (fun v => ⟨.identity (.createUsers v.token v.tenant.name p.config.users), .ok ()⟩) events
  | .capabilitySets => Traversal.Covered p.config
    (fun v => ⟨.identity (.attach v.token v.tenant.name p.config.roles), .ok ()⟩) events

variable {p : Platform} {token : Token} {resolved : Table String Descriptor} {stage : Stage}
  {m : Manners} {o : Outcome Unit}

/-! ## Stages make their calls only -/

/-- A stage may fail so: a wait is in vain, or one of its calls is answered with the failure. -/
def FailsWith (handler : Handler Call.Answer σ) (p : Platform) (token : Token)
    (resolved : Table String Descriptor) (stage : Stage) (e : Failure) : Prop :=
  e.OfWaiting ∨ FailsOn handler (stage.Makes p token resolved) e

/-- The contract of a stage: to make its calls only, and to count on the handler's answers. -/
abbrev contract (handler : Handler Call.Answer σ) (p : Platform) (token : Token)
    (resolved : Table String Descriptor) (stage : Stage) : Contract Call.Answer :=
  .answeredBy handler (stage.Makes p token resolved)

theorem contract_blames :
    (stage.contract handler p token resolved).Blames
      (stage.FailsWith handler p token resolved) :=
  fun call answer e hmakes hanswer hfails =>
    .inr (Contract.blames_answeredBy handler _ call answer e hmakes hanswer hfails)

theorem finding_master (hfinds : ∀ call, Finds p call → stage.Makes p token resolved call) :
    (stage.contract handler p token resolved).Finding p.config .master :=
  ⟨hfinds _ (.inl rfl), fun granted => hfinds _ (.inr ⟨granted, rfl⟩), fun h => nomatch h⟩

theorem finding_tenant (hfinds : ∀ call, Finds p call → stage.Makes p token resolved call)
    (htoken : ∀ name, stage.Makes p token resolved (.identity (.accessToken name .password))) :
    (stage.contract handler p token resolved).Finding p.config .tenant :=
  ⟨hfinds _ (.inl rfl), fun granted => hfinds _ (.inr ⟨granted, rfl⟩), fun _ => htoken⟩

/-- An action that keeps the contract of a stage goes by as the stage may. -/
theorem course_of_failsOnly {α : Type} {a : Action α} {r : Outcome α}
    (ha : a.FailsOnly (stage.contract handler p token resolved)
      (stage.FailsWith handler p token resolved))
    (h : Program.Course handler a.run s events r s') :
    (∀ e ∈ events, stage.Makes p token resolved e.1) ∧
      ∀ e, ended r = .error e → stage.FailsWith handler p token resolved e := by
  obtain ⟨hmakes, hfails⟩ := ha.keeps.course h h.answered
  refine ⟨hmakes, fun e he => ?_⟩
  cases r with
  | ok v => cases he
  | error e' => exact hfails e (Except.error.inj he ▸ rfl)

/-- A stage makes its calls only, and fails as it may. -/
theorem Course.keeps (hnames : resolved.entries = resolved.values.map fun d => (d.name, d))
    (h : stage.Course handler m p (.ofConfig p.config (some token)) resolved s events o s') :
    (∀ e ∈ events, stage.Makes p token resolved e.1) ∧
      ∀ e, o = .error e → stage.FailsWith handler p token resolved e := by
  cases stage with
  | containers kind =>
    have hmakes : ∀ call, (Deployment.creating ((Pass.ofKind kind resolved).deployable.flatMap
        (Blueprint.ofConfig p.config (some token)).specsOf)).allows call →
        (containers kind).Makes p token resolved call := by
      rintro call (hpull | ⟨spec, hspec, hcall⟩)
      · exact .inl hpull
      · obtain ⟨d, hd, hmem⟩ := List.mem_flatMap.1 hspec
        exact .inr ⟨d, hd, spec, hmem, hcall⟩
    refine ⟨fun e he => hmakes e.1 (Deployment.Passage.calls h e he), ?_⟩
    rintro e rfl
    obtain ⟨call, t, hcall, hfails⟩ := Deployment.Passage.failure h
    exact .inr ⟨call, t, hmakes call hcall, hfails⟩
  | probes kind =>
    simp only [Course] at h
    split at h
    · obtain ⟨rfl, _, rfl⟩ := h
      exact ⟨fun e he => absurd he List.not_mem_nil, fun e he => nomatch he⟩
    · obtain ⟨report, rfl, hpassage⟩ := h
      refine ⟨fun e he => ?_, fun e he => ?_⟩
      · rcases hpassage.calls p.attempts_pos e he with hsleep | ⟨w, hw, hcall⟩
        · exact .inl hsleep
        · obtain ⟨d, hd, port, hport, rfl⟩ := (Pass.mem_watches hnames).1 hw
          exact .inr ⟨d, hd, port, hport, hcall⟩
      · cases report with
        | ok r => cases he
        | error e' =>
          cases he
          exact .inl (.inl hpassage.failure)
  | gateway =>
    refine ended_unit o ▸ course_of_failsOnly ?_ h
    refine Readiness.failsOnly_awaitGateway (fun _ => .inl) ?_ (fun millis => ?_) _
    · exact .inl rfl
    · exact .inr ⟨millis, rfl⟩
  | registration =>
    refine ended_unit o ▸ course_of_failsOnly ?_ h
    exact failsOnly_registerApplication contract_blames (finding_master fun _ => .inl)
      (fun master => .inr (.inl ⟨master, rfl⟩)) fun master => .inr (.inr ⟨master, rfl⟩)
  | tenants =>
    obtain ⟨created, rfl, hcreate⟩ := h
    refine course_of_failsOnly ?_ hcreate
    refine failsOnly_createTenants contract_blames (finding_master fun _ => .inl) ?_ ?_
    · exact fun master e he => .inr (.inl ⟨master, e.1, e.2, he, rfl⟩)
    · intro master seconds hseconds name hname
      exact .inr (.inr ⟨master, seconds, hseconds, name, hname, rfl⟩)
  | entitlements =>
    refine ended_unit o ▸ course_of_failsOnly ?_ h
    exact failsOnly_createTenantEntitlements contract_blames (finding_master fun _ => .inl)
      fun master id => .inr ⟨master, id, rfl⟩
  | roles =>
    refine ended_unit o ▸ course_of_failsOnly ?_ h
    exact failsOnly_createRoles contract_blames
      (finding_tenant (fun _ => .inl) fun name => .inr (.inl ⟨name, rfl⟩))
      fun granted tenant => .inr (.inr ⟨granted, tenant, rfl⟩)
  | users =>
    refine ended_unit o ▸ course_of_failsOnly ?_ h
    exact failsOnly_createUsers contract_blames
      (finding_tenant (fun _ => .inl) fun name => .inr (.inl ⟨name, rfl⟩))
      fun granted tenant => .inr (.inr ⟨granted, tenant, rfl⟩)
  | capabilitySets =>
    refine ended_unit o ▸ course_of_failsOnly ?_ h
    exact failsOnly_attachCapabilitySets contract_blames (fun _ => .inl)
      (finding_tenant (fun _ => .inl) fun name => .inr (.inl ⟨name, rfl⟩))
      (.inr (.inr (.inr (.inr (.inl rfl))))) (.inr (.inr (.inr (.inl rfl))))
      (fun millis => .inr (.inr (.inl ⟨millis, rfl⟩)))
      fun granted tenant => .inr (.inr (.inr (.inr (.inr ⟨granted, tenant, rfl⟩))))

/-- A stage makes its calls only. -/
theorem Course.makes (hnames : resolved.entries = resolved.values.map fun d => (d.name, d))
    (h : stage.Course handler m p (.ofConfig p.config (some token)) resolved s events o s') :
    ∀ e ∈ events, stage.Makes p token resolved e.1 :=
  (h.keeps hnames).1

/-! ## Stages that end well are completed -/

theorem completed_probes {kind : ModuleKind}
    (hnames : resolved.entries = resolved.values.map fun d => (d.name, d))
    (h : (probes kind).Course handler m p (.ofConfig p.config (some token)) resolved s events (.ok ())
      s') : (probes kind).Completed p token resolved events := by
  intro d hd port hport
  simp only [Course] at h
  split at h
  · next hempty =>
    rw [Pass.isEmpty_iff.1 hempty] at hd
    exact absurd hd List.not_mem_nil
  · obtain ⟨report, hok, hpassage⟩ := h
    cases report with
    | error e => cases hok
    | ok r =>
      exact hpassage.answered p.attempts_pos ⟨d.name, port⟩
        ((Pass.mem_watches hnames).2 ⟨d, hd, port, hport, rfl⟩)

theorem completed_registration
    (h : registration.Course handler m p (.ofConfig p.config (some token)) resolved s events (.ok ())
      s') : registration.Completed p token resolved events := by
  intro hsome
  simp only [Course, registerApplication] at h
  split at h
  · next hempty => exact absurd (Pass.isEmpty_iff.1 hempty) hsome
  · obtain ⟨master, t, first, later, rfl, _, hlater⟩ := Action.course_bind_ok h
    obtain ⟨_, u, middle, last, rfl, hcreate, hregister⟩ := Action.course_bind_ok hlater
    obtain ⟨_, rfl⟩ := course_perform.1 hcreate
    obtain ⟨_, rfl⟩ := course_perform.1 hregister
    refine ⟨master, ?_, ?_⟩
    · exact List.mem_append_right _ List.mem_cons_self
    · exact List.mem_append_right _ (List.mem_cons_of_mem _ (List.mem_singleton_self _))

/-- Tenants that are created one after another are all created. -/
theorem created_createAll {master : Token} {planned : List (Partition × String)}
    {created : List TenantRecord}
    (h : Program.Course handler (createAll master planned).run s events (.ok created) s') :
    ∀ e ∈ planned, ∃ record,
      ⟨.management (.createTenant master e.2 e.1.description), .ok record⟩ ∈ events := by
  induction planned generalizing s events created s' with
  | nil => exact fun e he => absurd he List.not_mem_nil
  | cons first rest ih =>
    obtain ⟨record, t, front, later, rfl, hcreate, hlater⟩ := Action.course_bind_ok h
    obtain ⟨_, rfl⟩ := course_perform.1 hcreate
    obtain ⟨records, u, middle, last, rfl, hrest, _⟩ := Action.course_bind_ok hlater
    refine List.forall_mem_cons.2 ⟨⟨record, List.mem_append_left _ (List.mem_singleton_self _)⟩, ?_⟩
    intro e he
    obtain ⟨record', hrecord'⟩ := ih hrest e he
    exact ⟨record', List.mem_append_right _ (List.mem_append_left _ hrecord')⟩

theorem set_setLifespans {master : Token} {seconds : Nat} {names : List String}
    (h : Program.Course handler (setLifespans master seconds names).run s events (.ok ()) s') :
    ∀ name ∈ names, ⟨.identity (.setLifespan master name seconds), .ok ()⟩ ∈ events := by
  induction names generalizing s events with
  | nil => exact fun name hname => absurd hname List.not_mem_nil
  | cons first rest ih =>
    obtain ⟨_, t, front, later, rfl, hset, hrest⟩ := Action.course_bind_ok h
    obtain ⟨_, rfl⟩ := course_perform.1 hset
    refine List.forall_mem_cons.2 ⟨List.mem_append_left _ (List.mem_singleton_self _), ?_⟩
    intro name hname
    exact List.mem_append_right _ (ih hrest name hname)

theorem completed_tenants {created : List TenantRecord}
    (h : Program.Course handler p.createTenants.run s events (.ok created) s') :
    tenants.Completed p token resolved events := by
  obtain ⟨master, t, first, later, rfl, _, hlater⟩ := Action.course_bind_ok h
  obtain ⟨live, u, listing, rest, rfl, hlisting, hrest⟩ := Action.course_bind_ok hlater
  obtain ⟨_, rfl⟩ := course_perform.1 hlisting
  obtain ⟨created', v, creating, setting, rfl, hcreate, hset⟩ := Action.course_bind_ok hrest
  refine ⟨master, live, List.mem_append_right _ List.mem_cons_self, ?_, ?_⟩
  · intro q name hplanned
    by_cases hlive : (live.any fun t => t.name == name) = true
    · obtain ⟨t, ht, hname⟩ := List.any_eq_true.1 hlive
      exact .inl ⟨t, ht, beq_iff_eq.1 hname⟩
    · have hmissing : (q, name) ∈ p.plannedTenants.filter
          fun e => !live.any fun t => t.name == e.2 :=
        List.mem_filter.2 ⟨hplanned, by rw [Bool.not_eq_true] at hlive; rw [hlive]; rfl⟩
      obtain ⟨record, hrecord⟩ := created_createAll hcreate _ hmissing
      exact .inr ⟨record, List.mem_append_right _
        (List.mem_append_right _ (List.mem_append_left _ hrecord))⟩
  · intro seconds hseconds name hname
    rw [hseconds] at hset
    obtain ⟨_, w, lifespans, done, rfl, hlifespans, _⟩ := Action.course_bind_ok hset
    have hmem := set_setLifespans hlifespans name hname
    exact List.mem_append_right _ (List.mem_append_right _
      (List.mem_append_right _ (List.mem_append_left _ hmem)))

/-- A stage that ends well is completed. -/
theorem Course.completed (hnames : resolved.entries = resolved.values.map fun d => (d.name, d))
    (h : stage.Course handler m p (.ofConfig p.config (some token)) resolved s events (.ok ()) s') :
    stage.Completed p token resolved events := by
  cases stage with
  | containers kind =>
    intro d hd spec hspec
    exact Deployment.Passage.created h spec (List.mem_flatMap.2 ⟨d, hd, hspec⟩)
  | probes kind => exact completed_probes hnames h
  | gateway => exact Readiness.ready_gatewayRounds h
  | registration => exact completed_registration h
  | tenants =>
    obtain ⟨created, hok, hcreate⟩ := h
    cases created with
    | error e => cases hok
    | ok records => exact completed_tenants hcreate
  | entitlements =>
    unfold Completed
    exact Traversal.covered_of_singleton (fun _ _ _ _ hact => (course_perform.1 hact).2) h
  | roles =>
    unfold Completed
    exact Traversal.covered_of_singleton (fun _ _ _ _ hact => (course_perform.1 hact).2) h
  | users =>
    unfold Completed
    exact Traversal.covered_of_singleton (fun _ _ _ _ hact => (course_perform.1 hact).2) h
  | capabilitySets =>
    unfold Completed
    refine Traversal.covered_visitTenants ?_ h
    intro v t part t' hact
    obtain ⟨pauses, time, later, rfl, _, ⟨_, hends⟩ | hattempt⟩ := Quiescence.attempt_attach hact
    · cases hends
    · exact List.mem_append_right _ (List.mem_cons_of_mem _ hattempt.attached_of_ok)

end Stage

end Platform

end Fleet
