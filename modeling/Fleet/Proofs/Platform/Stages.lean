import Fleet.Command
import Fleet.Proofs.Failures
import Fleet.Proofs.Readiness

/-!
# The calls of the stages

What the parts of a platform's commands call, said for every contract that allows these calls: to
await ports takes probes and sleep, to await the gateway takes its status and sleep, to await
quiescence takes looks at the consumer group, the clock and sleep, and to visit tenants takes the
identity provider, the management service, and whatever is done on a visit. A part that fails does
so with a failure that one of these calls was answered, or because a wait was in vain.

Only the deployment of a pass creates containers, and only its removal stops and removes them. So
each part but these is within a contract that leaves all other calls free, and
`Command.keeps_transcript` reduces a contract of that kind, on all commands, to the deployment and
the removal of the passes.
-/

namespace Fleet

variable {c : Contract Call.Answer} {G : Failure → Prop}

/-! ## Waiting -/

namespace Readiness

theorem failsOnly_checkAll (hwaiting : ∀ e, e.OfWaiting → G e) {ports : Table String ModulePorts}
    (hprobe : ∀ w ∈ watches ports, c.allows (.probe w.port))
    (hsleep : ∀ millis, c.allows (.sleep millis)) (b : Budget) (kind : ModuleKind) :
    (checkAll b kind ports).FailsOnly c G := by
  refine (Attempt.failsOnly_lift (keeps_rounds hsleep _ _ _ _ hprobe)).bind fun _ => ?_
  dsimp only
  split
  · exact Attempt.failsOnly_pure
  · exact Attempt.failsOnly_throw (hwaiting _ (.inl rfl))

theorem failsOnly_gatewayRounds (hwaiting : ∀ e, e.OfWaiting → G e)
    (hgateway : c.allows .gatewayStatus) (hsleep : ∀ millis, c.allows (.sleep millis))
    (delayMillis : Nat) : ∀ left, (gatewayRounds delayMillis left).FailsOnly c G
  | 0 => Attempt.failsOnly_throw (hwaiting _ (.inl rfl))
  | left + 1 => by
    -- an answer that is a failure is no failure of the wait
    refine Attempt.FailsOnly.bind (Attempt.failsOnly_lift ⟨hgateway, fun _ _ => trivial⟩)
      fun status => ?_
    split
    · exact Attempt.failsOnly_pure
    · split
      · exact Attempt.failsOnly_throw (hwaiting _ (.inl rfl))
      · refine Attempt.FailsOnly.bind (Attempt.failsOnly_lift ⟨hsleep _, fun _ _ => trivial⟩)
          fun _ => ?_
        exact failsOnly_gatewayRounds hwaiting hgateway hsleep delayMillis left

theorem failsOnly_awaitGateway (hwaiting : ∀ e, e.OfWaiting → G e)
    (hgateway : c.allows .gatewayStatus) (hsleep : ∀ millis, c.allows (.sleep millis))
    (b : Budget) : (awaitGateway b).FailsOnly c G :=
  failsOnly_gatewayRounds hwaiting hgateway hsleep b.delayMillis b.attempts

end Readiness

namespace Quiescence

theorem failsOnly_later (hwaiting : ∀ e, e.OfWaiting → G e) (time millis : Nat) :
    (Action.later time millis).FailsOnly c G := by
  unfold Action.later
  split
  · exact Attempt.failsOnly_pure
  · exact Attempt.failsOnly_throw (hwaiting _ (.inr (.inr rfl)))

theorem failsOnly_look (hwaiting : ∀ e, e.OfWaiting → G e) {q : Quiescence}
    (hgroup : c.allows (.describeGroup q.group)) (hnow : c.allows .now)
    (hsleep : ∀ millis, c.allows (.sleep millis)) (started deadline : Nat) :
    ∀ left polls, (q.look started deadline left polls).FailsOnly c G
  | 0, _ => Attempt.failsOnly_throw (hwaiting _ (.inr (.inr rfl)))
  | left + 1, polls => by
    have hdescribe : (Action.describeGroup q.group).Within c := ⟨hgroup, fun _ _ _ _ => trivial⟩
    refine (Action.failsOnly_outcome hdescribe).bind fun state => ?_
    split
    · exact Attempt.failsOnly_pure
    refine Attempt.FailsOnly.bind (Attempt.failsOnly_lift ⟨hnow, fun _ _ => trivial⟩) fun _ => ?_
    split
    · exact Attempt.failsOnly_throw (hwaiting _ (.inr (.inl rfl)))
    refine (failsOnly_later hwaiting _ _).bind fun _ => ?_
    refine Attempt.FailsOnly.bind (Attempt.failsOnly_lift ⟨hsleep _, fun _ _ => trivial⟩)
      fun _ => ?_
    exact failsOnly_look hwaiting hgroup hnow hsleep started deadline left _

theorem failsOnly_await (hwaiting : ∀ e, e.OfWaiting → G e) {q : Quiescence}
    (hgroup : c.allows (.describeGroup q.group)) (hnow : c.allows .now)
    (hsleep : ∀ millis, c.allows (.sleep millis)) : q.await.FailsOnly c G := by
  refine Attempt.FailsOnly.bind (Attempt.failsOnly_lift ⟨hnow, fun _ _ => trivial⟩) fun _ => ?_
  refine (failsOnly_later hwaiting _ _).bind fun _ => ?_
  exact failsOnly_look hwaiting hgroup hnow hsleep _ _ _ _

theorem failsOnly_attach (hblames : c.Blames G) (hwaiting : ∀ e, e.OfWaiting → G e)
    {q : Quiescence} {token : Token} {tenant : String} {roles : Roles}
    (hgroup : c.allows (.describeGroup q.group)) (hnow : c.allows .now)
    (hsleep : ∀ millis, c.allows (.sleep millis))
    (hattach : c.allows (.identity (.attach token tenant roles))) :
    (q.attach token tenant roles).FailsOnly c G := by
  have hlast : (Action.attach token tenant roles).FailsOnly c G :=
    ⟨hattach, fun _ ho _ => hblames _ _ _ hattach ho⟩
  have hawait : (q.await >>= fun _ => Action.attach token tenant roles).FailsOnly c G :=
    (failsOnly_await hwaiting hgroup hnow hsleep).bind fun _ => hlast
  unfold attach
  split
  · exact Attempt.FailsOnly.bind (Attempt.failsOnly_lift ⟨hsleep _, fun _ _ => trivial⟩)
      fun _ => hawait
  · exact hawait

theorem within_detach {token : Token} {tenant : String} {roles : Roles}
    (hdetach : c.allows (.identity (.detach token tenant roles))) :
    (detach token tenant roles).Within c := by
  have hcall : (Action.detach token tenant roles).Within c := ⟨hdetach, fun _ _ _ _ => trivial⟩
  exact Action.within_bind (Action.within_outcome hcall) fun _ => Action.keeps_pure trivial

end Quiescence

/-! ## Tenants -/

/-- A contract that allows the calls by which tenants are found, and those for the tokens that
visits are given. -/
structure Contract.Finding (c : Contract Call.Answer) (cfg : Config) (authority : Authority) :
    Prop where
  master : c.allows (.identity (.accessToken cfg.identity.masterRealm .clientCredentials))
  listing : ∀ granted, c.allows (.management (.tenants granted))
  token : authority = .tenant → ∀ name, c.allows (.identity (.accessToken name .password))

namespace Traversal

variable {cfg : Config} {authority : Authority} {act : Visit → Action Unit}
  (hblames : c.Blames G) (hfinding : c.Finding cfg authority)

include hblames hfinding

theorem failsOnly_visitToken (master : Token) (t : TenantRecord) :
    (visitToken authority master t).FailsOnly c G := by
  cases authority with
  | master => exact Attempt.failsOnly_pure
  | tenant => exact ⟨hfinding.token rfl _, fun _ ho _ => hblames _ _ _ (hfinding.token rfl _) ho⟩

theorem keeps_visitAll (hact : ∀ v, (act v).FailsOnly c G) (p : Partition) (master : Token)
    (ts : List TenantRecord) :
    (visitAll p authority master act ts).Keeps c fun r => ∀ e, r.2 = .error e → G e := by
  induction ts with
  | nil => exact fun _ heq => nomatch heq
  | cons t rest ih =>
    have htoken := failsOnly_visitToken hblames hfinding master t
    refine Program.keeps_bind.2 (htoken.keeps.mono fun o ho => ?_)
    cases o with
    | error e => exact fun _ heq => Except.error.inj heq ▸ ho e rfl
    | ok token =>
      refine Program.keeps_bind.2 ((hact _).keeps.mono fun o ho => ?_)
      cases o with
      | error e => exact ho
      | ok _ => exact Program.keeps_bind.2 (ih.mono fun _ hr => hr)

theorem failsOnly_masterToken : (masterToken cfg).FailsOnly c G :=
  ⟨hfinding.master, fun _ ho _ => hblames _ _ _ hfinding.master ho⟩

theorem failsOnly_tenants (granted : Token) : (Action.tenants granted).FailsOnly c G :=
  ⟨hfinding.listing granted, fun _ ho _ => hblames _ _ _ (hfinding.listing granted) ho⟩

theorem keeps_visitPartition (hact : ∀ v, (act v).FailsOnly c G) (p : Partition) :
    (visitPartition cfg authority act p).Keeps c fun r => ∀ e, r.2 = .error e → G e := by
  have hmaster := failsOnly_masterToken hblames hfinding
  refine Program.keeps_bind.2 (hmaster.keeps.mono fun o ho => ?_)
  cases o with
  | error e => exact fun _ heq => Except.error.inj heq ▸ ho e rfl
  | ok master =>
    have hlisting := failsOnly_tenants hblames hfinding master
    refine Program.keeps_bind.2 (hlisting.keeps.mono fun o ho => ?_)
    cases o with
    | error e => exact fun _ heq => Except.error.inj heq ▸ ho e rfl
    | ok live => exact keeps_visitAll hblames hfinding hact p master _

theorem keeps_journey (hact : ∀ v, (act v).FailsOnly c G) (ps : List Partition) :
    (journey cfg authority act ps).Keeps c fun j => ∀ e, j.outcome = .error e → G e := by
  induction ps with
  | nil => exact fun _ heq => nomatch heq
  | cons p rest ih =>
    have hpartition := keeps_visitPartition hblames hfinding hact p
    refine Program.keeps_bind.2 (hpartition.mono fun (visits, o) ho => ?_)
    cases o with
    | error e => exact ho
    | ok _ => exact Program.keeps_bind.2 (ih.mono fun _ hj => hj)

theorem failsOnly_visitTenants (hact : ∀ v, (act v).FailsOnly c G) (direction : Direction) :
    (visitTenants cfg direction authority act).FailsOnly c G :=
  ⟨Program.keeps_map.2 (keeps_journey hblames hfinding hact _)⟩

end Traversal

namespace Platform

variable {p : Platform}

theorem failsOnly_createAll (hblames : c.Blames G) {master : Token}
    {planned : List (Partition × String)}
    (hcreate : ∀ e ∈ planned, c.allows (.management (.createTenant master e.2 e.1.description))) :
    (createAll master planned).FailsOnly c G := by
  induction planned with
  | nil => exact Attempt.failsOnly_pure
  | cons e rest ih =>
    obtain ⟨he, hrest⟩ := List.forall_mem_cons.1 hcreate
    have hfirst : (Action.createTenant master e.2 e.1.description).FailsOnly c G :=
      ⟨he, fun _ ho _ => hblames _ _ _ he ho⟩
    exact hfirst.bind fun _ => (ih hrest).bind fun _ => Attempt.failsOnly_pure

theorem failsOnly_setLifespans (hblames : c.Blames G) {master : Token} {seconds : Nat}
    {names : List String}
    (hset : ∀ name ∈ names, c.allows (.identity (.setLifespan master name seconds))) :
    (setLifespans master seconds names).FailsOnly c G := by
  induction names with
  | nil => exact Attempt.failsOnly_pure
  | cons name rest ih =>
    obtain ⟨hname, hrest⟩ := List.forall_mem_cons.1 hset
    have hfirst : (Action.setLifespan master name seconds).FailsOnly c G :=
      ⟨hname, fun _ ho _ => hblames _ _ _ hname ho⟩
    exact hfirst.bind fun _ => ih hrest

theorem failsOnly_createTenants (hblames : c.Blames G) (hfinding : c.Finding p.config .master)
    (hcreate : ∀ master, ∀ e ∈ p.plannedTenants,
      c.allows (.management (.createTenant master e.2 e.1.description)))
    (hset : ∀ master seconds, p.config.identity.accessTokenLifespanSecs = some seconds →
      ∀ name ∈ p.config.tenants.keys, c.allows (.identity (.setLifespan master name seconds))) :
    p.createTenants.FailsOnly c G := by
  refine (Traversal.failsOnly_masterToken hblames hfinding).bind fun master => ?_
  refine (Traversal.failsOnly_tenants hblames hfinding master).bind fun live => ?_
  refine (failsOnly_createAll hblames ?_).bind fun created => ?_
  · exact fun e he => hcreate master e (List.mem_filter.1 he).1
  split
  · next seconds hseconds =>
    exact (failsOnly_setLifespans hblames (hset master seconds hseconds)).bind
      fun _ => Attempt.failsOnly_pure
  · exact Attempt.failsOnly_pure

theorem failsOnly_registerApplication (hblames : c.Blames G) {pass : Pass}
    (hfinding : c.Finding p.config .master)
    (hcreate : ∀ master, c.allows (.management (.createApplication master (p.application pass))))
    (hregister : ∀ master, c.allows (.management (.registerDiscovery master (discovery pass)))) :
    (p.registerApplication pass).FailsOnly c G := by
  unfold registerApplication
  split
  · exact Attempt.failsOnly_pure
  · refine (Traversal.failsOnly_masterToken hblames hfinding).bind fun master => ?_
    have hfirst : (Action.createApplication master (p.application pass)).FailsOnly c G :=
      ⟨hcreate master, fun _ ho _ => hblames _ _ _ (hcreate master) ho⟩
    exact hfirst.bind fun _ =>
      ⟨hregister master, fun _ ho _ => hblames _ _ _ (hregister master) ho⟩

theorem failsOnly_createTenantEntitlements (hblames : c.Blames G)
    (hfinding : c.Finding p.config .master)
    (hentitle : ∀ master id, c.allows (.management (.entitle master id p.applications))) :
    p.createTenantEntitlements.FailsOnly c G := by
  refine Traversal.failsOnly_visitTenants hblames hfinding (fun v => ?_) .forward
  exact ⟨hentitle _ _, fun _ ho _ => hblames _ _ _ (hentitle _ _) ho⟩

theorem failsOnly_createRoles (hblames : c.Blames G) (hfinding : c.Finding p.config .tenant)
    (hcreate : ∀ token tenant, c.allows (.identity (.createRoles token tenant p.config.roles))) :
    p.createRoles.FailsOnly c G := by
  refine Traversal.failsOnly_visitTenants hblames hfinding (fun v => ?_) .forward
  exact ⟨hcreate _ _, fun _ ho _ => hblames _ _ _ (hcreate _ _) ho⟩

theorem failsOnly_createUsers (hblames : c.Blames G) (hfinding : c.Finding p.config .tenant)
    (hcreate : ∀ token tenant, c.allows (.identity (.createUsers token tenant p.config.users))) :
    p.createUsers.FailsOnly c G := by
  refine Traversal.failsOnly_visitTenants hblames hfinding (fun v => ?_) .forward
  exact ⟨hcreate _ _, fun _ ho _ => hblames _ _ _ (hcreate _ _) ho⟩

theorem failsOnly_attachCapabilitySets (hblames : c.Blames G)
    (hwaiting : ∀ e, e.OfWaiting → G e) (hfinding : c.Finding p.config .tenant)
    (hgroup : c.allows (.describeGroup p.config.saga.consumerGroup)) (hnow : c.allows .now)
    (hsleep : ∀ millis, c.allows (.sleep millis))
    (hattach : ∀ token tenant, c.allows (.identity (.attach token tenant p.config.roles))) :
    p.attachCapabilitySets.FailsOnly c G :=
  Traversal.failsOnly_visitTenants hblames hfinding
    (fun _ => Quiescence.failsOnly_attach hblames hwaiting hgroup hnow hsleep (hattach _ _)) .forward

end Platform

/-! ## Commands -/

/-- The call creates, stops or removes a container. -/
def Call.changesContainers : Call → Bool
  | .createContainer _ | .stopContainer _ | .removeContainer _ => true
  | _ => false

/-- A contract that leaves every call free but those that change containers. -/
def Contract.FreeButContainers (c : Contract Call.Answer) : Prop :=
  ∀ call, call.changesContainers = false → c.allows call

/-- A contract that leaves every call free but the creation of containers. -/
def Contract.FreeButCreation (c : Contract Call.Answer) : Prop :=
  ∀ call, (∀ spec, call ≠ Call.createContainer spec) → c.allows call

theorem Contract.FreeButCreation.butContainers (h : c.FreeButCreation) : c.FreeButContainers := by
  intro call hcall
  refine h call ?_
  rintro spec rfl
  cases hcall

namespace Contract.FreeButContainers

variable (h : c.FreeButContainers)

include h

theorem identity (call : IdentityCall) : c.allows (.identity call) := h _ rfl

theorem management (call : ManagementCall) : c.allows (.management call) := h _ rfl

theorem probe (port : Port) : c.allows (.probe port) := h _ rfl

theorem describeGroup (group : String) : c.allows (.describeGroup group) := h _ rfl

theorem now : c.allows .now := h _ rfl

theorem sleep (millis : Nat) : c.allows (.sleep millis) := h _ rfl

theorem finding (cfg : Config) (authority : Authority) : c.Finding cfg authority :=
  ⟨h.identity _, fun _ => h.management _, fun _ _ => h.identity _⟩

theorem registerApplication (p : Platform) (pass : Pass) : (p.registerApplication pass).Within c :=
  Action.within_of_failsOnly <| Platform.failsOnly_registerApplication c.blames_true
    (h.finding _ _) (fun _ => h.management _) fun _ => h.management _

theorem createTenants (p : Platform) : p.createTenants.Within c :=
  Action.within_of_failsOnly <| Platform.failsOnly_createTenants c.blames_true (h.finding _ _)
    (fun _ _ _ => h.management _) fun _ _ _ _ _ => h.identity _

theorem createTenantEntitlements (p : Platform) : p.createTenantEntitlements.Within c :=
  Action.within_of_failsOnly <| Platform.failsOnly_createTenantEntitlements c.blames_true
    (h.finding _ _) fun _ _ => h.management _

theorem createRoles (p : Platform) : p.createRoles.Within c :=
  Action.within_of_failsOnly <| Platform.failsOnly_createRoles c.blames_true (h.finding _ _)
    fun _ _ => h.identity _

theorem createUsers (p : Platform) : p.createUsers.Within c :=
  Action.within_of_failsOnly <| Platform.failsOnly_createUsers c.blames_true (h.finding _ _)
    fun _ _ => h.identity _

theorem attachCapabilitySets (p : Platform) : p.attachCapabilitySets.Within c :=
  Action.within_of_failsOnly <| Platform.failsOnly_attachCapabilitySets c.blames_true
    (fun _ _ => trivial) (h.finding _ _) (h.describeGroup _) h.now h.sleep fun _ _ => h.identity _

theorem visits {act : Visit → Action Unit} (hact : ∀ v, (act v).Within c) (cfg : Config)
    (direction : Direction) (authority : Authority) :
    (Traversal.visitTenants cfg direction authority act).Within c :=
  Action.within_of_failsOnly <| Traversal.failsOnly_visitTenants c.blames_true (h.finding _ _)
    (fun v => (hact v).failsOnly) direction

end Contract.FreeButContainers

namespace Deployment

theorem within_containers (hfree : c.FreeButContainers) (n : Naming) (kind : ModuleKind) :
    (containers n kind).Within c := by
  have hlist : (Action.listContainers n.stem).Within c :=
    ⟨hfree _ rfl, fun _ _ _ _ => trivial⟩
  exact Action.within_bind hlist fun _ => Action.keeps_pure trivial

theorem within_removeAll (hfree : c.FreeButCreation) (found : List ContainerSummary) :
    (removeAll found).Within c := by
  induction found with
  | nil => exact Action.keeps_pure trivial
  | cons k rest ih =>
    have hstop : (Action.stopContainer k.id).Within c :=
      ⟨hfree _ (by simp), fun _ _ _ _ => trivial⟩
    have hremove : (Action.removeContainer k.id).Within c :=
      ⟨hfree _ (by simp), fun _ _ _ _ => trivial⟩
    have hnames : (removeAll rest >>= fun names => pure (k.name :: names)).Within c :=
      Action.within_bind ih fun _ => Action.keeps_pure trivial
    have hrest := Action.within_bind hremove fun _ => hnames
    unfold removeAll
    split
    · exact Action.within_bind (Action.within_outcome hstop) fun _ => hrest
    · exact hrest

theorem within_undeploy (hfree : c.FreeButCreation) (n : Naming) (kind : ModuleKind) :
    (undeploy n kind).Within c :=
  Action.within_bind (within_containers hfree.butContainers n kind) fun found =>
    within_removeAll hfree found

end Deployment

namespace Platform

/-- The deployment of every pass that the platform may come to is within a contract. -/
def PassesWithin (c : Contract Call.Answer) (p : Platform) : Prop :=
  ∀ token listing resolved kind, c.expects .rootToken (.ok token) →
    c.expects .listing (.ok listing) → p.resolve listing = .ok resolved →
    (Deployment.deploy (.ofConfig p.config (some token)) (.ofKind kind resolved)).Within c

/-- The removal of every pass is within a contract. -/
def RemovalsWithin (c : Contract Call.Answer) (p : Platform) : Prop :=
  ∀ kind, (Deployment.undeploy p.naming kind).Within c

variable {p : Platform}

theorem within_listModules (hfree : c.FreeButContainers) (p : Platform) (kind : Option ModuleKind) :
    (p.listModules kind).Within c := by
  cases kind with
  | some kind => exact Deployment.within_containers hfree _ _
  | none =>
    refine Action.within_bind (Deployment.within_containers hfree _ _) fun _ => ?_
    refine Action.within_bind (Deployment.within_containers hfree _ _) fun _ => ?_
    exact Action.keeps_pure trivial

theorem keeps_blueprint (hfree : c.FreeButContainers) (p : Platform) :
    p.blueprint.Keeps c fun b =>
      ∃ token, c.expects .rootToken (.ok token) ∧ b = .ofConfig p.config (some token) := by
  have htoken : Action.rootToken.Keeps c fun token => c.expects .rootToken (.ok token) :=
    ⟨hfree _ rfl, fun _ ho _ heq => by subst heq; exact ho⟩
  exact Action.keeps_bind htoken fun token h => Action.keeps_pure ⟨token, h, rfl⟩

theorem keeps_resolveModules (hfree : c.FreeButContainers) (p : Platform) :
    p.resolveModules.Keeps c fun resolved =>
      ∃ listing, c.expects .listing (.ok listing) ∧ p.resolve listing = .ok resolved := by
  have hlisting : Action.listing.Keeps c fun listing => c.expects .listing (.ok listing) :=
    ⟨hfree _ rfl, fun _ ho _ heq => by subst heq; exact ho⟩
  exact Action.keeps_bind hlisting fun listing h =>
    Action.keeps_mk_pure fun resolved hr => ⟨listing, h, hr⟩

theorem within_deployPass (hfree : c.FreeButContainers) {b : Blueprint} {pass : Pass}
    (hdeploy : (Deployment.deploy b pass).Within c) : (p.deployPass b pass).Within c := by
  unfold deployPass
  split
  · exact Action.keeps_pure trivial
  · refine Action.within_bind hdeploy fun ports => ?_
    have hcheck : (Readiness.checkAll (.ofReadiness p.config.readiness) pass.kind ports).Within c :=
      Action.within_of_failsOnly <| Readiness.failsOnly_checkAll (G := fun _ => True)
        (fun _ _ => trivial) (fun w _ => hfree.probe w.port) hfree.sleep _ _
    exact Action.within_bind hcheck fun _ => Action.keeps_pure trivial

/-- What follows on the blueprint and the resolved modules may count on the passes. -/
theorem within_prepared {α : Type} (hfree : c.FreeButContainers) (hpasses : p.PassesWithin c)
    {f : Blueprint → Table String Descriptor → Action α}
    (hf : ∀ b resolved, (∀ kind, (Deployment.deploy b (.ofKind kind resolved)).Within c) →
      (f b resolved).Within c) :
    (p.blueprint >>= fun b => p.resolveModules >>= f b).Within c := by
  refine Action.keeps_bind (keeps_blueprint hfree p) fun b hb => ?_
  obtain ⟨token, htoken, rfl⟩ := hb
  refine Action.keeps_bind (keeps_resolveModules hfree p) fun resolved hresolved => ?_
  obtain ⟨listing, hlisting, hok⟩ := hresolved
  exact hf _ resolved fun kind => hpasses token listing resolved kind htoken hlisting hok

theorem within_deployManagement (hfree : c.FreeButContainers) (hpasses : p.PassesWithin c) :
    p.deployManagement.Within c :=
  within_prepared hfree hpasses fun _ _ hdeploy => within_deployPass hfree (hdeploy .management)

theorem within_deployModules (hfree : c.FreeButContainers) (hpasses : p.PassesWithin c) :
    p.deployModules.Within c := by
  refine within_prepared hfree hpasses fun b resolved hdeploy => ?_
  refine Action.within_bind (within_deployPass hfree (hdeploy .business)) fun ports => ?_
  refine Action.within_bind (hfree.registerApplication p _) fun _ => ?_
  exact Action.keeps_pure trivial

theorem within_deployApplication (hfree : c.FreeButContainers) (hpasses : p.PassesWithin c) :
    p.deployApplication.Within c := by
  refine within_prepared hfree hpasses fun b resolved hdeploy => ?_
  refine Action.within_bind (within_deployPass hfree (hdeploy .management)) fun management => ?_
  have hgateway := Readiness.failsOnly_awaitGateway (G := fun _ => True) (fun _ _ => trivial)
    (hfree _ rfl) hfree.sleep (.ofReadiness p.config.readiness)
  refine Action.within_bind (Action.within_of_failsOnly hgateway) fun _ => ?_
  refine Action.within_bind (within_deployPass hfree (hdeploy .business)) fun business => ?_
  refine Action.within_bind (hfree.registerApplication p _) fun _ => ?_
  refine Action.within_bind (hfree.createTenants p) fun _ => ?_
  refine Action.within_bind (hfree.createTenantEntitlements p) fun _ => ?_
  refine Action.within_bind (hfree.createRoles p) fun _ => ?_
  refine Action.within_bind (hfree.createUsers p) fun _ => ?_
  refine Action.within_bind (hfree.attachCapabilitySets p) fun _ => ?_
  exact Action.keeps_pure trivial

end Platform

namespace Command

theorem keeps_ofAction {α : Type} {context : Option String} {lines : α → List String}
    {a : Action α} (ha : a.Within c) :
    (Transcript.ofAction context lines a).Keeps c fun _ => True := by
  refine Action.keeps_run_bind ha fun o => ?_
  cases o <;> trivial

theorem keeps_followedBy {first second : Program Call.Answer Transcript}
    (hfirst : first.Keeps c fun _ => True) (hsecond : second.Keeps c fun _ => True) :
    (Transcript.followedBy first second).Keeps c fun _ => True := by
  refine Program.keeps_bind.2 (hfirst.mono fun t _ => ?_)
  split
  · trivial
  · exact Program.keeps_bind.2 (hsecond.mono fun _ _ => trivial)

/-- A contract that leaves all calls free but those that change containers is kept by every command,
if it is kept by the deployment and by the removal of the passes. -/
theorem keeps_transcript {p : Platform} (hfree : c.FreeButContainers) (hpasses : p.PassesWithin c)
    (hremovals : p.RemovalsWithin c) (command : Command) :
    (transcript p command).Keeps c fun _ => True := by
  have hbusiness := hremovals .business
  have hplatform := hremovals .management
  have hrevoke : p.removeTenantEntitlements.Within c := by
    refine hfree.visits (fun v => ?_) _ _ _
    exact ⟨hfree.management _, fun _ _ _ _ => trivial⟩
  have hremove : p.removeTenants.Within c := by
    refine hfree.visits (fun v => ?_) _ _ _
    exact ⟨hfree.management _, fun _ _ _ _ => trivial⟩
  have hremoveRoles : p.removeRoles.Within c := by
    refine hfree.visits (fun v => ?_) _ _ _
    exact ⟨hfree.identity _, fun _ _ _ _ => trivial⟩
  have hdetach : p.detachCapabilitySets.Within c :=
    hfree.visits (fun _ => Quiescence.within_detach (hfree.identity _)) _ _ _
  cases command with
  | deployApplication => exact keeps_ofAction (Platform.within_deployApplication hfree hpasses)
  | undeployApplication =>
    exact keeps_followedBy (keeps_ofAction hrevoke) (keeps_followedBy (keeps_ofAction hremove)
      (keeps_followedBy (keeps_ofAction hbusiness) (keeps_ofAction hplatform)))
  | deployManagement => exact keeps_ofAction (Platform.within_deployManagement hfree hpasses)
  | undeployManagement => exact keeps_ofAction hplatform
  | deployModules => exact keeps_ofAction (Platform.within_deployModules hfree hpasses)
  | undeployModules => exact keeps_ofAction hbusiness
  | createTenants =>
    exact keeps_ofAction (hfree.createTenants p)
  | removeTenants => exact keeps_ofAction hremove
  | createTenantEntitlements =>
    exact keeps_ofAction (hfree.createTenantEntitlements p)
  | removeTenantEntitlements => exact keeps_ofAction hrevoke
  | createRoles => exact keeps_ofAction (hfree.createRoles p)
  | removeRoles => exact keeps_ofAction hremoveRoles
  | createUsers => exact keeps_ofAction (hfree.createUsers p)
  | attachCapabilitySets => exact keeps_ofAction (hfree.attachCapabilitySets p)
  | detachCapabilitySets => exact keeps_ofAction hdetach
  | listModules kind => exact keeps_ofAction (Platform.within_listModules hfree p kind)
  | vaultRootToken => exact keeps_ofAction ⟨hfree _ rfl, fun _ _ _ _ => trivial⟩

end Command

end Fleet
