import Fleet.Proofs.Platform.StageOrder
import Fleet.Proofs.Service.Failures

/-!
# When the description is to blame

On the way up a platform can fail with a failure of configuration at two points only. Either nothing
but a token and the listing has been asked for yet; or everything is up, and it is the live identity
provider that refuses a described user or role, because it does not list a role that is referred to
(`configuration_failure`). In between, and with an identity provider that is rehearsed, no failure
is one of configuration.

So a failure of configuration does not mean that no container was created, as one would expect of it
(`refused_behind_containers`): what the description says about roles is compared with the provider's
list only when the users are created.
-/

namespace Fleet.Platform

open Program

variable {p : Platform} {k : Collaborators Site} {token : Token}
  {resolved : Table String Descriptor} {stage : Stage} {e : Failure}

namespace Stage

/-- The users that a stage has created are the described ones. -/
theorem makes_createUsers {granted : Token} {tenant : String} {users : Users}
    (h : stage.Makes p token resolved (.identity (.createUsers granted tenant users))) :
    stage = .users ∧ users = p.config.users := by
  cases stage <;> simp [Makes, Finds] at h
  exact ⟨rfl, h⟩

/-- The roles to which a stage has sets attached are the described ones. -/
theorem makes_attach {granted : Token} {tenant : String} {roles : Roles}
    (h : stage.Makes p token resolved (.identity (.attach granted tenant roles))) :
    stage = .capabilitySets ∧ roles = p.config.roles := by
  cases stage <;> simp [Makes, Finds] at h
  exact ⟨rfl, h⟩

/-- No stage asks for the root token or for the listing. -/
theorem not_makes_prepare {call : Call} (h : stage.Makes p token resolved call) :
    call ≠ .rootToken ∧ call ≠ .listing := by
  constructor <;> rintro rfl <;> cases stage <;> simp [Makes, Finds] at h

/-- The containers are started before users are created and sets attached. -/
theorem containers_earlier {front rest : List Stage} (horder : order = front ++ stage :: rest)
    (hlate : stage = .users ∨ stage = .capabilitySets) (kind : ModuleKind) :
    .containers kind ∈ front := by
  have hmem : .containers kind ∈ front ++ stage :: rest := by
    rw [← horder]
    cases kind <;> simp [order]
  rcases List.mem_append.1 hmem with hfront | hrest
  · exact hfront
  · exfalso
    have hafter : ∀ later ∈ rest, later = .users ∨ later = .capabilitySets := by
      have hpairs : order.Pairwise fun first later =>
          first = .users ∨ first = .capabilitySets → later = .users ∨ later = .capabilitySets := by
        simp [order]
      rw [horder] at hpairs
      obtain ⟨_, hbehind, _⟩ := List.pairwise_append.1 hpairs
      exact fun later hlater => (List.pairwise_cons.1 hbehind).1 later hlater hlate
    rcases List.mem_cons.1 hrest with rfl | hmem'
    · rcases hlate with h | h <;> cases h
    · rcases hafter _ hmem' with h | h <;> cases h

end Stage

/-- The description refers to a role that the identity provider does not list: a user is to have it,
or sets are to be attached to it. -/
def Refused (p : Platform) (e : Failure) : Prop :=
  (∃ name user role, (name, user) ∈ p.config.users.entries ∧ role ∈ user.roles ∧
    e = .config (.unknownRole name role)) ∨
  ∃ role tenant, role ∈ p.config.roles.keys ∧ e = .config (.absentRole role tenant)

/-- A stage fails with a failure of configuration only if users are created or sets attached, and a
live identity provider refuses. -/
theorem Stage.FailsWith.refused (hk : Site.Assembled p.config k)
    (h : stage.FailsWith k.handler p token resolved e) (hkind : e.kind = .configuration) :
    (stage = .users ∨ stage = .capabilitySets) ∧ p.Refused e ∧
      k.identity = (Site.live p.config).identity := by
  rcases h with hwaiting | ⟨call, s, hmakes, hfails⟩
  · rcases hwaiting with h | h | h <;> cases h.symm.trans hkind
  · obtain ⟨htoken, hlisting⟩ := Stage.not_makes_prepare hmakes
    rcases hk.handler_fails htoken hlisting hfails with houtside | ⟨i, rfl, hrefuses, hlive⟩
    · cases houtside.symm.trans hkind
    · cases i with
      | createUsers granted tenant users =>
        obtain ⟨rfl, rfl⟩ := Stage.makes_createUsers hmakes
        exact ⟨.inl rfl, .inl hrefuses, hlive⟩
      | attach granted tenant roles =>
        obtain ⟨rfl, rfl⟩ := Stage.makes_attach hmakes
        obtain ⟨role, hrole, rfl⟩ := hrefuses
        exact ⟨.inr rfl, .inr ⟨role, tenant, hrole, rfl⟩, hlive⟩
      | _ => exact hrefuses.elim

/-- If the way up fails with a failure of configuration, then either nothing but a token and the
listing was asked for; or a live identity provider has refused what the description says of roles,
and every container of both passes was created before. This holds for live and rehearsed services in
any mixture, for all answers, and for every order in which the tasks of the passes take turns. -/
theorem configuration_failure (hk : Site.Assembled p.config k) {s s' : RunState Site}
    {events : List Event} (h : Deploys k.handler p s events (.error e) s')
    (hkind : e.kind = .configuration) :
    (∀ event ∈ events, event.1 = .rootToken ∨ event.1 = .listing) ∨
    (p.Refused e ∧ k.identity = (Site.live p.config).identity ∧
      ∃ token listing resolved, p.resolve listing = .ok resolved ∧
        ∀ kind, ∀ d ∈ (Pass.ofKind kind resolved).deployable,
          ∀ spec ∈ (Blueprint.ofConfig p.config (some token)).specsOf d,
            ∃ id, ⟨.createContainer spec, .ok id⟩ ∈ events) := by
  cases h with
  | unprepared h => exact .inl (calls_prepare h)
  | @staged _ _ _ b resolved segments _ _ hprepare hstages =>
    obtain ⟨token, listing, rfl, hresolve, rfl⟩ := course_prepare_ok hprepare
    obtain ⟨_, _, _, _, _, _, hnames⟩ := Resolver.resolve_ok (Prod.ext hresolve rfl)
    have horder := hstages.stages_eq
    obtain ⟨_, before, x, after, t, t', rfl, hx, hbefore, _⟩ := (hstages.staged hnames).error e rfl
    obtain ⟨hlate, hrefused, hlive⟩ := ((hx.keeps hnames).2 e rfl).refused hk hkind
    refine .inr ⟨hrefused, hlive, token, listing, resolved, hresolve, ?_⟩
    intro kind d hd spec hspec
    rw [List.map_append, List.map_cons] at horder
    have hcontainers := Stage.containers_earlier horder.symm hlate kind
    obtain ⟨⟨_, part⟩, hpart, rfl⟩ := List.mem_map.1 hcontainers
    obtain ⟨id, hid⟩ := hbefore _ hpart d hd spec hspec
    refine ⟨id, List.mem_append_right _ (List.mem_flatMap.2 ⟨_, ?_, hid⟩)⟩
    exact List.mem_append_left _ hpart

/-! ## A role that is not listed -/

/-- One module, one tenant and one user are described. The user is to have a role that the
description does not have. -/
def strayRole : Platform where
  config :=
    { modules := .ofList [("mod-a", .explicit { Overrides.none with
        version := some "1.0.0", deploySidecar := some false })]
      tenants := .ofList [("diku", {})]
      users := .ofList [("ann", { password := "secret", roles := ["librarian"] })] }
  isDirectory _ := true

/-- A rehearsal with a live identity provider. -/
def liveIdentity (c : Config) : Collaborators Site :=
  { Site.rehearsed c with identity := (Site.live c).identity }

/-- A provider that gives tokens, lists no role, and creates a user and stores a password. -/
def noRoles : ScriptedMachine where
  replies :=
    List.replicate 7 (.reply ⟨200, (Json.object [("access_token", .string "token")]).render⟩) ++
      [.reply ⟨200, (Json.object [("roles", .array [])]).render⟩,
        .reply ⟨201, (Json.object [("id", .string "user-1")]).render⟩, .reply ⟨201, ""⟩]

/-- What the way up answers and leaves. -/
def refusal : Outcome PlatformPorts × RunState Site :=
  (liveIdentity strayRole.config).run strayRole.deployApplication (.fresh ⟨noRoles, {}⟩)

/-- What the way up has come to when the provider refuses. -/
theorem refusal_behind_everything :
    let k := liveIdentity strayRole.config
    let events := trace k.handler strayRole.deployApplication.run (.fresh ⟨noRoles, {}⟩)
    let e := Failure.config (.unknownRole "ann" "librarian")
    Site.Assembled strayRole.config k ∧
    Deploys k.handler strayRole (.fresh ⟨noRoles, {}⟩) events (.error e) refusal.2 ∧
    strayRole.Refused e ∧
    ∃ token listing resolved, strayRole.resolve listing = .ok resolved ∧
      ∀ kind, ∀ d ∈ (Pass.ofKind kind resolved).deployable,
        ∀ spec ∈ (Blueprint.ofConfig strayRole.config (some token)).specsOf d,
          ∃ id, ⟨.createContainer spec, .ok id⟩ ∈ events := by
  intro k events e
  have hk : Site.Assembled strayRole.config k := ⟨.inr rfl, .inl rfl, .inr rfl⟩
  have hended : ended refusal.1 = .error e := by decide +kernel
  have hdeploys :
      Deploys k.handler strayRole (.fresh ⟨noRoles, {}⟩) events (.error e) refusal.2 := by
    have h := deploys_deployApplication (course_self k.handler strayRole.deployApplication.run
      (.fresh ⟨noRoles, {}⟩))
    have houtcome : ended (Program.run k.handler strayRole.deployApplication.run
      (.fresh ⟨noRoles, {}⟩)).1 = .error e := hended
    rw [houtcome] at h
    exact h
  refine ⟨hk, hdeploys, ?_⟩
  rcases configuration_failure hk hdeploys rfl with hnothing | ⟨hrefused, _, hcreated⟩
  · -- a container is created, so more than a token and the listing was asked for
    have hmore : (events.any fun event => event.1.changesContainers) = true := by decide +kernel
    obtain ⟨event, hevent, hchanges⟩ := List.any_eq_true.1 hmore
    rcases hnothing event hevent with h | h <;> rw [h] at hchanges <;> cases hchanges
  · exact ⟨hrefused, hcreated⟩

/-- The description is in order, and the way up fails with a failure of configuration when the
container of the module has been created. -/
theorem refused_behind_containers :
    strayRole.config.check.toBool = true ∧
    ended refusal.1 = .error (.config (.unknownRole "ann" "librarian")) ∧
    (Failure.config (.unknownRole "ann" "librarian")).kind = .configuration ∧
    refusal.2.services.rehearsal.containers.containers.keys = ["flotilla-mod-a"] := by
  decide +kernel

end Fleet.Platform
