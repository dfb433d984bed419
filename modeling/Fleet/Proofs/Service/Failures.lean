import Fleet.Proofs.Course
import Fleet.Proofs.Failures
import Fleet.Site

/-!
# What services may be blamed for

The services of a platform, live ones and rehearsed ones, fail with failures from outside, whatever
a machine answers. The identity provider over the web is the exception: it also refuses users and
roles that refer to a role which the provider does not list, and these are faults of a description
(`IdentityCall.Refuses`).
-/

namespace Fleet

/-- The failure comes from outside. -/
def Failure.FromOutside (e : Failure) : Prop := e.kind = .externalCall

/-- The contract of errands, which may ask a machine for anything and count on nothing. -/
abbrev anyErrand : Contract MachineCall.Answer := .ofCalls fun _ => True

/-- On every machine, an errand fails with nothing else. -/
theorem Errand.fails {α σ : Type} {a : Errand α} {G : Failure → Prop} (h : a.FailsOnly anyErrand G)
    {machine : Handler MachineCall.Answer σ} {m : σ} {e : Failure}
    (hrun : (Program.run machine a.run m).1 = .error e) : G e := by
  have hserved : anyErrand.Served machine fun _ => True := fun _ _ _ _ => ⟨trivial, trivial⟩
  exact h.error hserved trivial hrun

variable {σ : Type} {machine : Handler MachineCall.Answer σ} {m : σ} {e : Failure}

/-! ## Exchanges with web services -/

namespace Http.Client

variable {c : Client}

theorem keeps_attempt (m : Message) (more : Nat) :
    (c.attempt m more).Keeps anyErrand fun _ => True := by
  induction more with
  | zero => exact ⟨trivial, fun _ _ => trivial⟩
  | succ more ih =>
    refine Program.keeps_bind.2 ⟨trivial, fun answer _ => ?_⟩
    show Program.Keeps anyErrand (if isTransient answer then _ else _) _
    split
    · exact ⟨trivial, fun _ _ => ih⟩
    · trivial

theorem failsOnly_raw (r : Request) : (c.raw r).FailsOnly anyErrand Failure.FromOutside := by
  unfold raw
  split
  · exact Attempt.failsOnly_throw rfl
  · refine Attempt.FailsOnly.bind (Attempt.failsOnly_lift (keeps_attempt _ _)) fun answer => ?_
    cases answer with
    | ok reply => exact Attempt.failsOnly_pure
    | error fault => exact Attempt.failsOnly_throw rfl

theorem success_error {service : String} {r : Reply} {e : Failure}
    (h : success service r = .error e) : e.FromOutside := by
  unfold success at h
  split at h
  · cases h
  · cases h
    rfl

theorem decode_error {α : Type} {read : Reader α} {r : Reply} {e : Failure}
    (h : decode read r = .error e) : e.FromOutside := by
  unfold decode at h
  split at h
  · cases h
  · cases h
    rfl

theorem failsOnly_send (service : String) (r : Request) :
    (c.send service r).FailsOnly anyErrand Failure.FromOutside :=
  (failsOnly_raw r).bind fun _ => Attempt.failsOnly_mk_pure fun _ => success_error

theorem failsOnly_json {α : Type} (service : String) (read : Reader α) (r : Request) :
    (c.json service read r).FailsOnly anyErrand Failure.FromOutside :=
  (failsOnly_send service r).bind fun _ => Attempt.failsOnly_mk_pure fun _ => decode_error

theorem failsOnly_sendUnless (service : String) (status : Nat) (r : Request) :
    (c.sendUnless service status r).FailsOnly anyErrand Failure.FromOutside := by
  refine (failsOnly_raw r).bind fun reply => ?_
  split
  · exact Attempt.failsOnly_pure
  · refine Attempt.FailsOnly.bind ?_ fun _ => Attempt.failsOnly_pure
    exact Attempt.failsOnly_mk_pure fun _ => success_error

end Http.Client

/-! ## Docker -/

namespace Docker

theorem readLines_error {lines : List String} {e : Failure} (h : readLines lines = .error e) :
    e.FromOutside := by
  induction lines with
  | nil => cases h
  | cons line rest ih =>
    unfold readLines at h
    split at h
    · cases h
      rfl
    · split at h
      · cases h
      · next e' heq =>
        cases h
        exact ih heq

namespace Client

variable {c : Client}

theorem keeps_execute (command : ShellCommand) (patience : Option Nat) :
    (execute command patience).Keeps anyErrand fun _ => True := by
  unfold execute
  split
  · trivial
  · exact ⟨trivial, fun _ _ => trivial⟩

theorem failsOnly_runWith (arguments : List String) (input : Option String) :
    (c.runWith arguments input).FailsOnly anyErrand Failure.FromOutside := by
  refine Attempt.FailsOnly.bind (Attempt.failsOnly_lift (keeps_execute _ _)) fun execution => ?_
  refine Attempt.failsOnly_mk_pure fun e he => ?_
  unfold outputOf at he
  split at he <;> cases he <;> rfl

theorem failsOnly_runCommand (arguments : List String) :
    (c.runCommand arguments).FailsOnly anyErrand Failure.FromOutside :=
  failsOnly_runWith arguments none

theorem failsOnly_pull (image : String) (auth : Option Config.RegistryAuth) :
    (c.pull image auth).FailsOnly anyErrand Failure.FromOutside := by
  have hpull : (c.runCommand (pullArguments image) >>= fun _ => pure ()).FailsOnly anyErrand
      Failure.FromOutside :=
    (failsOnly_runCommand _).bind fun _ => Attempt.failsOnly_pure
  unfold pull
  cases auth with
  | none => exact hpull
  | some a =>
    exact (failsOnly_runWith _ _).bind fun _ => hpull

theorem failsOnly_create (spec : ContainerSpec) :
    (c.create spec).FailsOnly anyErrand Failure.FromOutside := by
  have hclear : (c.runCommand (clearArguments spec.name)).run.Keeps anyErrand fun _ => True :=
    (failsOnly_runCommand _).keeps.mono fun _ _ => trivial
  refine Attempt.FailsOnly.bind (Attempt.failsOnly_lift hclear) fun _ => ?_
  exact (failsOnly_runCommand _).bind fun _ => Attempt.failsOnly_pure

theorem failsOnly_logs (container : String) :
    (c.logs container).FailsOnly anyErrand Failure.FromOutside := by
  refine Attempt.FailsOnly.bind (Attempt.failsOnly_lift (keeps_execute _ _)) fun execution => ?_
  refine Attempt.failsOnly_mk_pure fun e he => ?_
  unfold logOf at he
  split at he <;> cases he <;> rfl

theorem failsOnly_stop (id : String) : (c.stop id).FailsOnly anyErrand Failure.FromOutside :=
  (failsOnly_runCommand _).bind fun _ => Attempt.failsOnly_pure

theorem failsOnly_remove (id : String) : (c.remove id).FailsOnly anyErrand Failure.FromOutside :=
  (failsOnly_runCommand _).bind fun _ => Attempt.failsOnly_pure

theorem failsOnly_list (pattern : String) :
    (c.list pattern).FailsOnly anyErrand Failure.FromOutside :=
  (failsOnly_runCommand _).bind fun _ => Attempt.failsOnly_mk_pure fun _ => readLines_error

/-- Docker is to blame from outside only. -/
theorem serve_fails {call : RuntimeCall} (h : call.Fails ((c.serve call).run machine m).1 e) :
    e.FromOutside := by
  cases call with
  | pull image auth => exact Errand.fails (failsOnly_pull image auth) h
  | create spec => exact Errand.fails (failsOnly_create spec) h
  | stop id => exact Errand.fails (failsOnly_stop id) h
  | remove id => exact Errand.fails (failsOnly_remove id) h
  | list pattern => exact Errand.fails (failsOnly_list pattern) h
  | logs container => exact Errand.fails (failsOnly_logs container) h
  | exec container command => exact Errand.fails (failsOnly_runCommand _) h

end Client

end Docker

/-! ## The management service -/

namespace ManagementService

variable {s : ManagementService} {token : Token}

theorem failsOnly_tenants : (s.tenants token).FailsOnly anyErrand Failure.FromOutside :=
  Http.Client.failsOnly_json _ _ _

theorem failsOnly_createTenant (tenant description : String) :
    (s.createTenant token tenant description).FailsOnly anyErrand Failure.FromOutside :=
  Http.Client.failsOnly_json _ _ _

theorem failsOnly_removeTenant (id : String) :
    (s.removeTenant token id).FailsOnly anyErrand Failure.FromOutside :=
  (Http.Client.failsOnly_sendUnless _ _ _).bind fun _ => Attempt.failsOnly_pure

theorem failsOnly_entitle (id : String) (applications : List String) :
    (s.entitle token id applications).FailsOnly anyErrand Failure.FromOutside :=
  (Http.Client.failsOnly_send _ _).bind fun _ => Attempt.failsOnly_pure

theorem failsOnly_revoke (id : String) (applications : List String) :
    (s.revoke token id applications).FailsOnly anyErrand Failure.FromOutside :=
  (Http.Client.failsOnly_send _ _).bind fun _ => Attempt.failsOnly_pure

theorem failsOnly_createApplication (a : ApplicationDescriptor) :
    (s.createApplication token a).FailsOnly anyErrand Failure.FromOutside :=
  (Http.Client.failsOnly_sendUnless _ _ _).bind fun _ => Attempt.failsOnly_pure

theorem failsOnly_registerDiscovery (modules : List Discovery) :
    (s.registerDiscovery token modules).FailsOnly anyErrand Failure.FromOutside := by
  unfold registerDiscovery
  split
  · exact Attempt.failsOnly_pure
  · exact (Http.Client.failsOnly_sendUnless _ _ _).bind fun _ => Attempt.failsOnly_pure

/-- The management service is to blame from outside only. -/
theorem serve_fails {call : ManagementCall} (h : call.Fails ((s.serve call).run machine m).1 e) :
    e.FromOutside := by
  cases call with
  | tenants token => exact Errand.fails failsOnly_tenants h
  | createTenant token tenant description =>
    exact Errand.fails (failsOnly_createTenant tenant description) h
  | removeTenant token id => exact Errand.fails (failsOnly_removeTenant id) h
  | entitle token id applications => exact Errand.fails (failsOnly_entitle id applications) h
  | revoke token id applications => exact Errand.fails (failsOnly_revoke id applications) h
  | createApplication token a => exact Errand.fails (failsOnly_createApplication a) h
  | registerDiscovery token modules => exact Errand.fails (failsOnly_registerDiscovery modules) h

end ManagementService

/-! ## The identity provider -/

/-- The provider may refuse a call for what the description says: a user is to have a role that is
not listed, or a role that sets are to be attached to is not listed. -/
def IdentityCall.Refuses : IdentityCall → Failure → Prop
  | .createUsers _ _ users, e =>
    ∃ name user role, (name, user) ∈ users.entries ∧ role ∈ user.roles ∧
      e = .config (.unknownRole name role)
  | .attach _ tenant roles, e => ∃ role ∈ roles.keys, e = .config (.absentRole role tenant)
  | _, _ => False

namespace IdentityService

variable {s : IdentityService} {token : Token} {tenant : String}

theorem failsOnly_accessToken (realm : String) (grant : Grant) :
    (s.accessToken realm grant).FailsOnly anyErrand Failure.FromOutside :=
  Http.Client.failsOnly_json _ _ _

theorem failsOnly_setLifespan (realm : String) (seconds : Nat) :
    (s.setLifespan token realm seconds).FailsOnly anyErrand Failure.FromOutside :=
  (Http.Client.failsOnly_send _ _).bind fun _ => Attempt.failsOnly_pure

theorem failsOnly_createRoles (named : List (String × Role)) :
    (s.createRoles token tenant named).FailsOnly anyErrand Failure.FromOutside := by
  induction named with
  | nil => exact Attempt.failsOnly_pure
  | cons e rest ih => exact (Http.Client.failsOnly_sendUnless _ _ _).bind fun _ => ih

theorem failsOnly_removeListed (ids : Texts) (names : List String) :
    (s.removeListed token tenant ids names).FailsOnly anyErrand Failure.FromOutside := by
  induction names with
  | nil => exact Attempt.failsOnly_pure
  | cons name rest ih =>
    unfold removeListed
    cases ids.find? name with
    | none => exact ih
    | some id => exact (Http.Client.failsOnly_send _ _).bind fun _ => ih

theorem failsOnly_detachEach (ids : Texts) (names : List String) :
    (s.detachEach token tenant ids names).FailsOnly anyErrand Failure.FromOutside := by
  induction names with
  | nil => exact Attempt.failsOnly_pure
  | cons name rest ih =>
    unfold detachEach
    cases ids.find? name with
    | none => exact ih
    | some id => exact (Http.Client.failsOnly_sendUnless _ _ _).bind fun _ => ih

/-- A role that is not listed is the only reason for which a user's roles cannot be assigned. -/
theorem userRoleIds_error {ids : Texts} {user : String} {roles : List String} {e : Failure}
    (h : userRoleIds ids user roles = .error e) :
    ∃ role ∈ roles, ids.find? role = none ∧ e = .config (.unknownRole user role) := by
  induction roles with
  | nil => cases h
  | cons role rest ih =>
    unfold userRoleIds at h
    split at h
    · next hnone =>
      cases h
      exact ⟨role, List.mem_cons_self, hnone, rfl⟩
    · split at h
      · cases h
      · next e' heq =>
        cases h
        obtain ⟨role', hrole', hnone, rfl⟩ := ih heq
        exact ⟨role', List.mem_cons_of_mem _ hrole', hnone, rfl⟩

/-- The creation of a user fails from outside, or because a role of the user is not listed. -/
theorem failsOnly_createUser (ids : Texts) (name : String) (user : User) :
    (s.createUser token tenant ids name user).FailsOnly anyErrand fun e =>
      e.FromOutside ∨ ∃ role ∈ user.roles, e = .config (.unknownRole name role) := by
  refine (Http.Client.failsOnly_raw _).or.bind fun reply => ?_
  split
  · exact Attempt.failsOnly_pure
  refine Attempt.FailsOnly.bind ?_ fun reply => ?_
  · exact Attempt.failsOnly_mk_pure fun _ he => .inl (Http.Client.success_error he)
  refine Attempt.FailsOnly.bind ?_ fun id => ?_
  · exact Attempt.failsOnly_mk_pure fun _ he => .inl (Http.Client.decode_error he)
  refine (Http.Client.failsOnly_send _ _).or.bind fun _ => ?_
  refine Attempt.FailsOnly.bind ?_ fun assigned => ?_
  · refine Attempt.failsOnly_mk_pure fun e he => ?_
    obtain ⟨role, hrole, _, heq⟩ := userRoleIds_error he
    exact .inr ⟨role, hrole, heq⟩
  split
  · exact Attempt.failsOnly_pure
  · exact (Http.Client.failsOnly_send _ _).or.bind fun _ => Attempt.failsOnly_pure

theorem failsOnly_createEach (ids : Texts) (named : List (String × User)) :
    (s.createEach token tenant ids named).FailsOnly anyErrand fun e =>
      e.FromOutside ∨ ∃ name user role, (name, user) ∈ named ∧ role ∈ user.roles ∧
        e = .config (.unknownRole name role) := by
  induction named with
  | nil => exact Attempt.failsOnly_pure
  | cons first rest ih =>
    obtain ⟨name, user⟩ := first
    have hfirst : (s.createUser token tenant ids name user).FailsOnly anyErrand _ :=
      failsOnly_createUser ids name user
    refine (hfirst.mono fun e he => ?_).bind fun _ => ih.mono fun e he => ?_
    · rcases he with he | ⟨role, hrole, heq⟩
      · exact .inl he
      · exact .inr ⟨name, user, role, List.mem_cons_self, hrole, heq⟩
    · rcases he with he | ⟨name', user', role, hmem, hrole, heq⟩
      · exact .inl he
      · exact .inr ⟨name', user', role, List.mem_cons_of_mem _ hmem, hrole, heq⟩

theorem failsOnly_attachEach (ids sets : Texts) (named : List (String × Role)) :
    (s.attachEach token tenant ids sets named).FailsOnly anyErrand fun e =>
      e.FromOutside ∨ ∃ role ∈ named.map (·.1), e = .config (.absentRole role tenant) := by
  induction named with
  | nil => exact Attempt.failsOnly_pure
  | cons first rest ih =>
    have hrest : (s.attachEach token tenant ids sets rest).FailsOnly anyErrand fun e =>
        e.FromOutside ∨ ∃ role ∈ (first :: rest).map (·.1),
          e = .config (.absentRole role tenant) := by
      refine ih.mono fun e he => ?_
      rcases he with he | ⟨role, hrole, heq⟩
      · exact .inl he
      · exact .inr ⟨role, List.mem_cons_of_mem _ hrole, heq⟩
    obtain ⟨name, role⟩ := first
    unfold attachEach
    cases ids.find? name with
    | none => exact Attempt.failsOnly_throw (.inr ⟨name, List.mem_cons_self, rfl⟩)
    | some id =>
      dsimp only
      split
      · exact hrest
      · refine Attempt.FailsOnly.bind ?_ fun _ => hrest
        exact (Http.Client.failsOnly_send _ _).or

theorem failsOnly_roleIds : (s.roleIds token tenant).FailsOnly anyErrand Failure.FromOutside :=
  Http.Client.failsOnly_json _ _ _

theorem failsOnly_setIds : (s.setIds token tenant).FailsOnly anyErrand Failure.FromOutside :=
  Http.Client.failsOnly_json _ _ _

theorem failsOnly_createUsers (named : Users) :
    (s.createUsers token tenant named).FailsOnly anyErrand fun e =>
      e.FromOutside ∨ ∃ name user role, (name, user) ∈ named.entries ∧ role ∈ user.roles ∧
        e = .config (.unknownRole name role) :=
  failsOnly_roleIds.or.bind fun ids => failsOnly_createEach ids named.entries

theorem failsOnly_attach (named : Roles) :
    (s.attach token tenant named).FailsOnly anyErrand fun e =>
      e.FromOutside ∨ ∃ role ∈ named.keys, e = .config (.absentRole role tenant) :=
  failsOnly_roleIds.or.bind fun ids => failsOnly_setIds.or.bind fun sets =>
    failsOnly_attachEach ids sets named.entries

theorem failsOnly_removeRoles (named : Roles) :
    (s.removeRoles token tenant named).FailsOnly anyErrand Failure.FromOutside :=
  failsOnly_roleIds.bind fun ids => failsOnly_removeListed ids named.keys

theorem failsOnly_detach (named : Roles) :
    (s.detach token tenant named).FailsOnly anyErrand Failure.FromOutside :=
  failsOnly_roleIds.bind fun ids => failsOnly_detachEach ids named.keys

/-- The identity provider is to blame from outside, or it refuses what the description says. -/
theorem serve_fails {call : IdentityCall} (h : call.Fails ((s.serve call).run machine m).1 e) :
    e.FromOutside ∨ call.Refuses e := by
  cases call with
  | accessToken realm grant => exact .inl (Errand.fails (failsOnly_accessToken realm grant) h)
  | createRoles token tenant named =>
    exact .inl (Errand.fails (failsOnly_createRoles named.entries) h)
  | removeRoles token tenant named => exact .inl (Errand.fails (failsOnly_removeRoles named) h)
  | createUsers token tenant named => exact Errand.fails (failsOnly_createUsers named) h
  | attach token tenant named => exact Errand.fails (failsOnly_attach named) h
  | detach token tenant named => exact .inl (Errand.fails (failsOnly_detach named) h)
  | setLifespan token realm seconds =>
    exact .inl (Errand.fails (failsOnly_setLifespan realm seconds) h)

end IdentityService

/-! ## Rehearsed services -/

/-- What was laid down for commands aside, kept containers are to blame from outside only. -/
theorem ContainerStore.fromOutside {store : ContainerStore} {call : RuntimeCall} {e : Failure}
    (hcall : ∀ name arguments, call ≠ .exec name arguments)
    (h : call.Fails (handler call store).1 e) : e.FromOutside := by
  cases call with
  | pull image auth => cases h
  | create spec =>
    change (store.create spec).1 = .error e at h
    unfold create at h
    split at h <;> cases h
    rfl
  | stop id =>
    change (store.stop id).1 = .error e at h
    unfold stop at h
    split at h <;> cases h
    rfl
  | remove id =>
    change (store.remove id).1 = .error e at h
    unfold remove at h
    split at h <;> cases h
    rfl
  | list pattern => cases h
  | logs name =>
    change store.log name = .error e at h
    unfold log at h
    split at h <;> cases h
    rfl
  | exec name arguments => exact absurd rfl (hcall name arguments)

theorem IdentityLog.fromOutside {l : IdentityLog} {call : IdentityCall} {e : Failure}
    (h : call.Fails (handler call l).1 e) : e.FromOutside := by
  have hnote : ∀ {α : Type} {tenant text : String} {answer : α},
      (l.note tenant text answer).1 = .error e → e.FromOutside := by
    intro α tenant text answer hnote
    unfold note at hnote
    split at hnote <;> cases hnote
    rfl
  cases call <;> exact hnote h

theorem TenantRegister.fromOutside {r : TenantRegister} {call : ManagementCall} {e : Failure}
    (h : call.Fails (handler call r).1 e) : e.FromOutside := by
  have hnote : ∀ {verb id : String} {applications : List String},
      (r.noteFor verb id applications).1 = .error e → e.FromOutside := by
    intro verb id applications hnote
    unfold noteFor at hnote
    split at hnote <;> cases hnote
    rfl
  cases call with
  | tenants token => cases h
  | createTenant token name description =>
    change (r.create name description).1 = .error e at h
    unfold create at h
    split at h <;> cases h
    rfl
  | removeTenant token id =>
    change (r.remove id).1 = .error e at h
    unfold remove at h
    split at h <;> cases h
    rfl
  | entitle token id applications => exact hnote h
  | revoke token id applications => exact hnote h
  | createApplication token a => cases h
  | registerDiscovery token modules => cases h

/-! ## Services put together -/

/-- Services of which the container runtime, the identity provider and the management service are
each live or rehearsed; about the others nothing is said. -/
structure Site.Assembled (c : Config) (k : Collaborators Site) : Prop where
  runtime : k.runtime = (live c).runtime ∨ k.runtime = (rehearsed c).runtime
  identity : k.identity = (live c).identity ∨ k.identity = (rehearsed c).identity
  management : k.management = (live c).management ∨ k.management = (rehearsed c).management

namespace Site

variable {c : Config} {k : Collaborators Site} {s : Site} {e : Failure}

theorem fst_onMachine {α : Type} (p : Program MachineCall.Answer α) (s : Site) :
    (onMachine p s).1 = (p.run ScriptedMachine.handler s.machine).1 := rfl

namespace Assembled

variable (h : Assembled c k)

include h

theorem runtime_fails (call : RuntimeCall) (hcall : ∀ name arguments, call ≠ .exec name arguments)
    (hfails : call.Fails (k.runtime call s).1 e) : e.FromOutside := by
  rcases h.runtime with heq | heq
  · rw [heq] at hfails
    simp only [live, docker, fst_onMachine] at hfails
    exact Docker.Client.serve_fails hfails
  · rw [heq] at hfails
    exact ContainerStore.fromOutside hcall hfails

theorem management_fails {call : ManagementCall} (hfails : call.Fails (k.management call s).1 e) :
    e.FromOutside := by
  rcases h.management with heq | heq
  · rw [heq] at hfails
    simp only [live, fst_onMachine] at hfails
    exact ManagementService.serve_fails hfails
  · rw [heq] at hfails
    exact TenantRegister.fromOutside hfails

theorem identity_fails {call : IdentityCall} (hfails : call.Fails (k.identity call s).1 e) :
    e.FromOutside ∨ call.Refuses e ∧ k.identity = (live c).identity := by
  rcases h.identity with heq | heq
  · rw [heq] at hfails
    simp only [live, fst_onMachine] at hfails
    exact (IdentityService.serve_fails hfails).imp_right (⟨·, heq⟩)
  · rw [heq] at hfails
    exact .inl (IdentityLog.fromOutside hfails)

/-- The services fail from outside, but for a live identity provider that refuses a call. Before
the stages, the root token and the listing may fail with anything. -/
theorem handler_fails {call : Call} {s : RunState Site} (htoken : call ≠ .rootToken)
    (hlisting : call ≠ .listing) (hfails : call.Fails (k.handler call s).1 e) :
    e.FromOutside ∨ ∃ i, call = .identity i ∧ i.Refuses e ∧ k.identity = (live c).identity := by
  cases call with
  | rootToken => exact absurd rfl htoken
  | listing => exact absurd rfl hlisting
  | ensureImage image auth =>
    refine .inl ?_
    change (ImageCache.ensure (fun image t => k.runtime (.pull image auth) t) image s.images
      s.services).1 = .error e at hfails
    unfold ImageCache.ensure at hfails
    split at hfails
    · cases hfails
    · split at hfails
      · cases hfails
      · next e' t heq =>
        cases hfails
        exact h.runtime_fails (.pull image auth) (by simp) (congrArg Prod.fst heq)
  | createContainer spec => exact .inl (h.runtime_fails (.create spec) (by simp) hfails)
  | stopContainer id => exact .inl (h.runtime_fails (.stop id) (by simp) hfails)
  | removeContainer id => exact .inl (h.runtime_fails (.remove id) (by simp) hfails)
  | listContainers pattern =>
    exact .inl (h.runtime_fails (.list pattern) (by simp) hfails)
  | identity call =>
    exact (h.identity_fails hfails).imp_right fun ⟨hrefuses, hlive⟩ => ⟨call, rfl, hrefuses, hlive⟩
  | management call => exact .inl (h.management_fails hfails)
  | probe port => exact hfails.elim
  | gatewayStatus => exact hfails.elim
  | describeGroup group => exact hfails.elim
  | now => exact hfails.elim
  | sleep millis => exact hfails.elim

end Assembled

end Site

end Fleet
