import Fleet.Proofs.Rehearsal.Identity
import Fleet.Proofs.Tenant.Creation
import Fleet.Proofs.Tenant.ExactPlan

/-!
# Creating tenants again

Where the identity provider grants what it is asked for, the creation of described tenants succeeds,
whatever is registered, and creates exactly those that are missing (`createTenants_exact`). Tenants
are listed once, before the first of them is created. That is enough, since the plan has every name
once: when a name is asked for, only other names have been taken since the listing, so the register
refuses nothing (`createAll_succeeds`).

Behind the creation nothing is missing any more, so creating again asks for nothing.
-/

namespace Fleet

open Program

/-- The identity provider has granted what it was asked for: none of its answers is a failure. -/
def Granted (events : List Event) : Prop :=
  ∀ i answer, ⟨.identity i, answer⟩ ∈ events → ∀ e, ¬ i.Fails answer e

theorem granted_append {first second : List Event} :
    Granted (first ++ second) ↔ Granted first ∧ Granted second := by
  constructor
  · intro h
    constructor
    · intro i answer hmem
      exact h i answer (List.mem_append_left _ hmem)
    · intro i answer hmem
      exact h i answer (List.mem_append_right _ hmem)
  · rintro ⟨hfirst, hsecond⟩ i answer hmem
    rcases List.mem_append.1 hmem with hmem | hmem
    · exact hfirst i answer hmem
    · exact hsecond i answer hmem

/-- A rehearsal in which calls about no realm fail grants everything. -/
theorem granted_trace (listing : List ListingEntry) (token : Token) {α : Type}
    (a : Program Call.Answer α) {s : RunState Rehearsal} (h : s.services.identity.failing = []) :
    Granted (a.trace (Rehearsal.collaborators listing token).handler s) := by
  induction a generalizing s with
  | done value => exact fun i answer hmem => absurd hmem List.not_mem_nil
  | ask call next ih =>
    intro i answer hmem
    rcases List.mem_cons.1 hmem with heq | hmem
    · cases heq
      exact IdentityLog.not_fails h i
    · exact ih _ ((Rehearsal.failing_handler listing token call s).trans h) i answer hmem

namespace Platform

variable {σ : Type} {handler : Handler Call.Answer σ} {register : σ → TenantRegister} {s s' : σ}
  {events : List Event} {p : Platform} {live : List TenantRecord}

/-! ## Missing tenants -/

theorem names_plannedTenants (p : Platform) :
    p.plannedTenants.map (·.2) = p.config.partitions.flatMap p.config.configured := by
  rw [plannedTenants, List.map_flatMap]
  refine congrArg (p.config.partitions.flatMap ·) (funext fun q => ?_)
  rw [List.map_map]
  exact List.map_id _

theorem names_missing (hcheck : p.config.check = .ok ()) (live : List TenantRecord) :
    ((p.missing live).map (·.2)).Perm
      (p.config.tenants.keys.filter fun name => name ∉ live.map (·.name)) := by
  have hperm := (Config.perm_configured hcheck).filter fun name => name ∉ live.map (·.name)
  rw [← names_plannedTenants, List.filter_map] at hperm
  rw [missing_eq]
  exact hperm

theorem nodup_missing (hcheck : p.config.check = .ok ()) (live : List TenantRecord) :
    ((p.missing live).map (·.2)).Nodup :=
  (names_missing hcheck live).nodup_iff.2 (p.config.tenants.nodup_keys.filter _)

/-- Behind a creation, nothing is missing. -/
theorem Creation.missing_eq_nil {after created : List TenantRecord}
    (h : Creation (p.missing live) live after created events) : p.missing after = [] := by
  refine List.eq_nil_iff_forall_not_mem.2 fun e he => ?_
  obtain ⟨hplanned, habsent⟩ := mem_missing.1 he
  apply habsent
  rw [h.behind, List.map_append, h.names, List.mem_append]
  by_cases hlive : e.2 ∈ live.map (·.name)
  · exact .inl hlive
  · exact .inr (List.mem_map_of_mem (mem_missing.2 ⟨hplanned, hlive⟩))

/-! ## Creation succeeds -/

/-- Tenants of distinct names that are not registered are all created: what is created on the way
takes none of the names that are left. -/
theorem createAll_succeeds (h : Registering handler register) {master : Token} :
    ∀ {planned : List (Partition × String)} {o : Outcome (List TenantRecord)} {s : σ}
      {events : List Event}, (planned.map (·.2)).Nodup →
      (∀ e ∈ planned, e.2 ∉ (register s).tenants.map (·.name)) →
      Course handler (createAll master planned).run s events o s' → ∃ created, o = .ok created
  | [], _, _, _, _, _, hcourse => ⟨_, (Action.course_pure.1 hcourse).1⟩
  | (q, name) :: rest, _, s, _, hnodup, habsent, hcourse => by
    obtain ⟨hname, hrest⟩ := List.forall_mem_cons.1 habsent
    obtain ⟨hother, hnodup⟩ := List.nodup_cons.1 hnodup
    rcases Action.course_bind.1 hcourse with
      ⟨e, rfl, hcreate⟩ | ⟨t, s₁, first, later, rfl, hcreate, hlater⟩
    · obtain ⟨hcall, _⟩ := course_perform.1 hcreate
      exact absurd (TenantRegister.mem_of_create_error (h.answers hcall)) hname
    obtain ⟨hcall, _⟩ := course_perform.1 hcreate
    obtain ⟨htaken, _, htenants⟩ := TenantRegister.create_ok (h.answers hcall)
    have habsent₁ : ∀ e ∈ rest, e.2 ∉ (register s₁).tenants.map (·.name) := by
      intro e he
      rw [htenants, List.map_append, List.mem_append, not_or]
      refine ⟨hrest e he, fun hmem => hother ?_⟩
      rw [← htaken, ← List.mem_singleton.1 hmem]
      exact List.mem_map_of_mem he
    rcases Action.course_bind.1 hlater with
      ⟨e, rfl, hfail⟩ | ⟨records, s₂, second, last, rfl, _, hdone⟩
    · obtain ⟨_, hok⟩ := createAll_succeeds h hnodup habsent₁ hfail
      cases hok
    · exact ⟨_, (Action.course_pure.1 hdone).1⟩

/-- Calls of the identity provider, which is counted on to grant them. -/
def granting : Contract Call.Answer where
  allows call := ∃ i, call = .identity i
  expects call answer := (∃ i, call = .identity i) → ∀ e, ¬ call.Fails answer e

theorem blames_granting : granting.Blames fun _ => False :=
  fun _ _ e hcall hgranted hfails => hgranted hcall e hfails

theorem setLifespans_succeeds {master : Token} {seconds : Nat} {names : List String}
    {o : Outcome Unit}
    (hcourse : Course handler (setLifespans master seconds names).run s events o s')
    (hgranted : Granted events) : o = .ok () := by
  have hexpects : ∀ e ∈ events, granting.expects e.1 e.2 := by
    rintro ⟨call, answer⟩ he ⟨i, rfl⟩
    exact hgranted i answer he
  have hfails : (setLifespans master seconds names).FailsOnly granting fun _ => False :=
    failsOnly_setLifespans blames_granting fun _ _ => ⟨_, rfl⟩
  have hnone := (hfails.keeps.course hcourse hexpects).2
  cases o with
  | ok value => rfl
  | error e => exact (hnone e rfl).elim

theorem createTenants_succeeds (h : Registering handler register) (hcheck : p.config.check = .ok ())
    {o : Outcome (List TenantRecord)} (hcourse : Course handler p.createTenants.run s events o s')
    (hgranted : Granted events) : ∃ created, o = .ok created := by
  rcases Action.course_bind.1 hcourse with
    ⟨e, rfl, hmaster⟩ | ⟨master, s₁, first, later, rfl, hmaster, hcourse⟩
  · obtain ⟨_, rfl⟩ := course_perform.1 hmaster
    exact absurd rfl (hgranted _ _ (List.mem_singleton_self _) e)
  rcases Action.course_bind.1 hcourse with
    ⟨e, rfl, hlive⟩ | ⟨live, s₂, second, later, rfl, hlive, hcourse⟩
  · cases (h.tenants hlive).1
  obtain ⟨hlisted, _, hs₂⟩ := h.tenants hlive
  cases hlisted
  rcases Action.course_bind.1 hcourse with
    ⟨e, rfl, hcreate⟩ | ⟨created, s₃, third, last, rfl, _, hcourse⟩
  · refine createAll_succeeds h (nodup_missing hcheck _) (fun e he => ?_) hcreate
    rw [hs₂]
    exact (mem_missing.1 he).2
  obtain ⟨_, hgranted⟩ := granted_append.1 hgranted
  obtain ⟨_, hgranted⟩ := granted_append.1 hgranted
  obtain ⟨_, hgranted⟩ := granted_append.1 hgranted
  split at hcourse
  · rcases Action.course_bind.1 hcourse with
      ⟨e, rfl, hset⟩ | ⟨_, s₄, setting, done, rfl, _, hdone⟩
    · cases setLifespans_succeeds hset hgranted
    · exact ⟨_, (Action.course_pure.1 hdone).1⟩
  · exact ⟨_, (Action.course_pure.1 hcourse).1⟩

/-! ## What is created, and again -/

/-- The missing tenants have been created, and nothing else. -/
structure ExactCreation (p : Platform) (before after created : List TenantRecord)
    (events : List Event) : Prop where
  /-- The tenants that were registered stand as they were, and the new ones behind them. -/
  behind : after = before ++ created
  /-- There is one new tenant for each described name that was not registered. -/
  once : (created.map (·.name)).Perm
    (p.config.tenants.keys.filter fun name => name ∉ before.map (·.name))
  /-- They come partition by partition, each with the description of its own. -/
  order : created.map (fun t => (t.name, t.description)) = p.config.partitions.flatMap fun q =>
    ((p.config.configured q).filter fun name => name ∉ before.map (·.name)).map fun name =>
      (name, q.description)
  /-- Inside a partition, names ascend. -/
  ascending : ∀ q, (p.config.configured q).Pairwise fun a b => compare a b = .lt
  /-- The service was asked for the new tenants only, and for none of them twice. -/
  asked : asked events = created.map (·.name)
  distinct : (Platform.asked events).Nodup

theorem ExactCreation.of_creation (hcheck : p.config.check = .ok ())
    {after created : List TenantRecord}
    (h : Creation (p.missing live) live after created events) :
    ExactCreation p live after created events where
  behind := h.behind
  once := h.names ▸ names_missing hcheck live
  order := by
    rw [h.records, missing_eq, plannedTenants, List.filter_flatMap, List.map_flatMap]
    refine congrArg (p.config.partitions.flatMap ·) (funext fun q => ?_)
    rw [List.filter_map, List.map_map]
    rfl
  ascending q := List.pairwise_map.2 (p.config.tenants.ascending.sublist List.filter_sublist)
  asked := h.asked.trans h.names.symm
  distinct := h.asked ▸ nodup_missing hcheck live

/-- As long as the identity provider grants what it is asked for, the creation of described tenants
succeeds and is exact. Creating again, with the tenants that are registered then, succeeds as well:
it asks for nothing, creates nothing, and leaves the tenants as they are. -/
theorem createTenants_exact (h : Registering handler register) (hcheck : p.config.check = .ok ())
    {o : Outcome (List TenantRecord)} (hcourse : Course handler p.createTenants.run s events o s')
    (hgranted : Granted events) :
    ∃ created, o = .ok created ∧
      ExactCreation p (register s).tenants (register s').tenants created events ∧
      ∀ {t t' : σ} {again : List Event} {o' : Outcome (List TenantRecord)},
        (register t).tenants = (register s').tenants →
        Course handler p.createTenants.run t again o' t' → Granted again →
        o' = .ok [] ∧ asked again = [] ∧ (register t').tenants = (register t).tenants := by
  obtain ⟨created, rfl⟩ := createTenants_succeeds h hcheck hcourse hgranted
  have hcreation := creation_of_ok h hcourse
  refine ⟨created, rfl, .of_creation hcheck hcreation, fun ht hcourse' hgranted' => ?_⟩
  obtain ⟨created', rfl⟩ := createTenants_succeeds h hcheck hcourse' hgranted'
  have hagain := creation_of_ok h hcourse'
  rw [ht, hcreation.missing_eq_nil] at hagain
  obtain rfl : created' = [] := List.map_eq_nil_iff.1 hagain.names
  exact ⟨rfl, hagain.asked, by rw [hagain.behind, List.append_nil, ht]⟩

/-- A consortium is described with its central tenant and a member, and a tenant outside. -/
def threeTenants : Platform where
  config :=
    { identity := { accessTokenLifespanSecs := some 60 }
      consortiums := .ofList [("shared", {})]
      tenants := .ofList [("ann", ⟨some "shared", false⟩), ("bob", {}),
        ("hub", ⟨some "shared", true⟩)] }
  isDirectory _ := false

/-- The tenant outside is registered, with a description of another kind. -/
def withBob : RunState Rehearsal :=
  .fresh { tenants := .after [.createTenant ⟨"root"⟩ "bob" "guest"] }

/-- A rehearsal creates the two that are missing. -/
theorem createTenants_withBob :
    threeTenants.config.check = .ok () ∧
    let c := Rehearsal.collaborators [] ⟨"root"⟩
    let first := c.run threeTenants.createTenants withBob
    ∃ created, first.1 = .ok created ∧
      ExactCreation threeTenants withBob.services.tenants.tenants first.2.services.tenants.tenants
        created (Program.trace c.handler threeTenants.createTenants.run withBob) ∧
      (c.run threeTenants.createTenants first.2).1 = .ok [] := by
  have hcheck : threeTenants.config.check = .ok () := by decide +kernel
  have hgranted := granted_trace [] ⟨"root"⟩ threeTenants.createTenants.run (s := withBob) rfl
  obtain ⟨created, hok, hexact, hagain⟩ := createTenants_exact (registering_rehearsal [] ⟨"root"⟩)
    hcheck (course_self _ _ _) hgranted
  refine ⟨hcheck, created, hok, hexact, ?_⟩
  exact (hagain rfl (course_self _ _ _) (granted_trace [] ⟨"root"⟩ _ rfl)).1

end Platform

end Fleet
