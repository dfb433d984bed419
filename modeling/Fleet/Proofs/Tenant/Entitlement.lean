import Fleet.Proofs.Tenant.Creation

/-!
# Who is entitled

A traversal that succeeds under the authority of the master realm visits, partition by partition,
the registered tenants that are described there and carry the partition's description
(`visitTenants_notes`).

So when tenants have been created and then entitled, a described tenant has been entitled once,
unless one of its name was registered before with a description of another kind
(`entitled_iff`). Such a tenant is not created, since its name is taken, and it is not visited
either, since its description does not say that it belongs to the partition. Nobody else is
entitled.
-/

namespace Fleet

namespace Traversal

variable {listing : List ListingEntry} {token : Token} {act : Visit → Action Unit}
  {text : TenantRecord → String}

/-- An invariant of the tenants that are left to visit: where it holds, the next visit succeeds, and
it holds again behind the visit. -/
def Visiting (listing : List ListingEntry) (token : Token) (act : Visit → Action Unit)
    (Inv : List TenantRecord → RunState Rehearsal → Prop) : Prop :=
  ∀ v rest s, Inv (v.tenant :: rest) s →
    ∃ s', Program.run (Rehearsal.collaborators listing token).handler (act v).run s =
      (.ok (), s') ∧ Inv rest s'

theorem visitAll_ok {Inv : List TenantRecord → RunState Rehearsal → Prop}
    (hvisit : Visiting listing token act Inv) (q : Partition) (master : Token) :
    ∀ ts s, Inv ts s → ∃ visits s', Program.run (Rehearsal.collaborators listing token).handler
      (visitAll q .master master act ts) s = ((visits, .ok ()), s') ∧ Inv [] s'
  | [], s, h => ⟨[], s, rfl, h⟩
  | t :: rest, s, h => by
    obtain ⟨s₁, hfirst, hs₁⟩ := hvisit ⟨t, q, master⟩ rest s h
    obtain ⟨visits, s', hrest, hs'⟩ := visitAll_ok hvisit q master rest s₁ hs₁
    have htoken : Program.run (Rehearsal.collaborators listing token).handler
        (visitToken .master master t).run s = (.ok master, s) := rfl
    refine ⟨⟨t, q, master⟩ :: visits, s', ?_, hs'⟩
    refine (Program.run_bind_of htoken).trans ?_
    refine (Program.run_bind_of hfirst).trans ?_
    exact Program.run_bind_of hrest

/-- On every visit, the register notes a text about the tenant, and nothing else happens to it. -/
def Notes (listing : List ListingEntry) (token : Token) (act : Visit → Action Unit)
    (text : TenantRecord → String) : Prop :=
  ∀ (v : Visit) (s : RunState Rehearsal), s.services.tenants.Consistent →
    v.tenant ∈ s.services.tenants.tenants →
    ∃ s', Program.run (Rehearsal.collaborators listing token).handler (act v).run s = (.ok (), s') ∧
      s'.services.tenants = s.services.tenants.noteAll [text v.tenant]

theorem visitAll_notes (hact : Notes listing token act text) (p : Partition) (master : Token)
    (ts : List TenantRecord) (s : RunState Rehearsal) (hconsistent : s.services.tenants.Consistent)
    (hmem : ∀ t ∈ ts, t ∈ s.services.tenants.tenants) :
    ∃ visits s', Program.run (Rehearsal.collaborators listing token).handler
        (visitAll p .master master act ts) s = ((visits, .ok ()), s') ∧
      s'.services.tenants = s.services.tenants.noteAll (ts.map text) := by
  let noted := s.services.tenants.noteAll (ts.map text)
  let Inv (left : List TenantRecord) (t : RunState Rehearsal) :=
    t.services.tenants.Consistent ∧ (∀ u ∈ left, u ∈ t.services.tenants.tenants) ∧
      t.services.tenants.noteAll (left.map text) = noted
  have hvisit : Visiting listing token act Inv := by
    rintro v rest t ⟨hconsistent, hmem, hnoted⟩
    obtain ⟨hlive, hrest⟩ := List.forall_mem_cons.1 hmem
    obtain ⟨t', hrun, hnote⟩ := hact v t hconsistent hlive
    refine ⟨t', hrun, hnote ▸ hconsistent.noteAll _, fun u hu => hnote ▸ hrest u hu, ?_⟩
    rw [hnote, TenantRegister.noteAll_noteAll, ← hnoted]
    rfl
  obtain ⟨visits, s', hrun, _, _, hnoted⟩ :=
    visitAll_ok hvisit p master ts s ⟨hconsistent, hmem, rfl⟩
  exact ⟨visits, s', hrun, (TenantRegister.noteAll_nil _).symm.trans hnoted⟩

/-- A partition that is visited with success: its tenants are noted in the order of the register. -/
theorem visitPartition_notes {c : Config} {p : Partition} {visits : List Visit}
    {s s' : RunState Rehearsal} (hact : Notes listing token act text)
    (hconsistent : s.services.tenants.Consistent)
    (h : Program.run (Rehearsal.collaborators listing token).handler
      (visitPartition c .master act p) s = ((visits, .ok ()), s')) :
    s'.services.tenants = s.services.tenants.noteAll
      ((s.services.tenants.tenants.filter (selects c p)).map text) := by
  unfold visitPartition at h
  rcases hmaster : Program.run (Rehearsal.collaborators listing token).handler
    (masterToken c).run s with ⟨e | master, s₁⟩
  · rw [Program.run_bind_of hmaster] at h
    cases h
  · have hs₁ : s₁.services.tenants = s.services.tenants := by
      rw [← Platform.tenants_masterToken c s, hmaster]
    have hlive : Program.run (Rehearsal.collaborators listing token).handler
        (Action.tenants master).run s₁ = (.ok s₁.services.tenants.tenants, s₁) := rfl
    obtain ⟨visits', s₂, hall, hnotes⟩ := visitAll_notes hact p master
      (s₁.services.tenants.tenants.filter (selects c p)) s₁ (hs₁ ▸ hconsistent)
      fun t ht => (List.mem_filter.1 ht).1
    rw [Program.run_bind_of hmaster] at h
    dsimp only at h
    rw [Program.run_bind_of hlive] at h
    dsimp only at h
    rw [hall] at h
    cases h
    rw [hnotes, hs₁]

/-- A journey that succeeds notes the tenants of one partition behind those of another. -/
theorem journey_notes {c : Config} (hact : Notes listing token act text) :
    ∀ {ps : List Partition} {j : Journey} {s s' : RunState Rehearsal},
      s.services.tenants.Consistent → j.outcome = .ok () →
      Program.run (Rehearsal.collaborators listing token).handler (journey c .master act ps) s =
        (j, s') →
      s'.services.tenants = s.services.tenants.noteAll
        (ps.flatMap fun p => (s.services.tenants.tenants.filter (selects c p)).map text)
  | [], _, s, _, _, _, h => by
    cases h
    exact (TenantRegister.noteAll_nil _).symm
  | p :: rest, j, s, s', hconsistent, hok, h => by
    unfold journey at h
    rcases hpartition : Program.run (Rehearsal.collaborators listing token).handler
      (visitPartition c .master act p) s with ⟨⟨visits, e | ok⟩, s₁⟩
    · rw [Program.run_bind_of hpartition] at h
      cases h
      cases hok
    · rcases hrest : Program.run (Rehearsal.collaborators listing token).handler
        (journey c .master act rest) s₁ with ⟨later, s₂⟩
      rw [Program.run_bind_of hpartition] at h
      dsimp only at h
      rw [Program.run_bind_of hrest] at h
      cases h
      have hfirst := visitPartition_notes hact hconsistent hpartition
      have hconsistent₁ : s₁.services.tenants.Consistent := hfirst ▸ hconsistent.noteAll _
      have hsucceeds : later.outcome = .ok () := hok
      have hlater := journey_notes hact hconsistent₁ hsucceeds hrest
      have hlive : s₁.services.tenants.tenants = s.services.tenants.tenants := by rw [hfirst]; rfl
      rw [hlater, hlive, hfirst, TenantRegister.noteAll_noteAll, List.flatMap_cons]

/-- A traversal that succeeds has noted the tenants that it visits, in the order of the plan. -/
theorem visitTenants_notes {c : Config} {direction : Direction} {s s' : RunState Rehearsal}
    (hact : Notes listing token act text) (hconsistent : s.services.tenants.Consistent)
    (h : Program.run (Rehearsal.collaborators listing token).handler
      (visitTenants c direction .master act).run s = (.ok (), s')) :
    s'.services.tenants = s.services.tenants.noteAll ((plan c direction).flatMap fun p =>
      (s.services.tenants.tenants.filter (selects c p)).map text) := by
  rcases hjourney : Program.run (Rehearsal.collaborators listing token).handler
    (journey c .master act (plan c direction)) s with ⟨j, s₁⟩
  have hrun : Program.run (Rehearsal.collaborators listing token).handler
      (visitTenants c direction .master act).run s = (j.outcome, s₁) :=
    Program.run_bind_of hjourney
  obtain ⟨hok, rfl⟩ := Prod.mk.inj (hrun.symm.trans h)
  exact journey_notes hact hconsistent hok hjourney

/-! ## The tenants that are visited -/

/-- The names of the live tenants that are visited, partition by partition. -/
def visited (c : Config) (live : List TenantRecord) : List String :=
  c.partitions.flatMap fun p => (live.filter (selects c p)).map (·.name)

theorem selects_iff {c : Config} {p : Partition} {t : TenantRecord} :
    selects c p t = true ↔ t.description = p.description ∧ t.name ∈ c.configured p := by
  rw [selects, Bool.and_eq_true, beq_iff_eq, List.contains_iff_mem]

/-- A live tenant is visited if it is described and carries the description of its partition. -/
theorem mem_visited {c : Config} (hcheck : c.check = .ok ()) {live : List TenantRecord}
    {name : String} :
    name ∈ visited c live ↔ ∃ t, c.tenants.find? name = some t ∧
      ∃ u ∈ live, u.name = name ∧ u.description = (Partition.ofTenant t).description := by
  unfold visited
  constructor
  · intro h
    obtain ⟨p, _, hmem⟩ := List.mem_flatMap.1 h
    obtain ⟨u, hu, rfl⟩ := List.mem_map.1 hmem
    obtain ⟨hlive, hselects⟩ := List.mem_filter.1 hu
    obtain ⟨hdescription, hconfigured⟩ := selects_iff.1 hselects
    obtain ⟨t, ht, rfl⟩ := Config.mem_configured.1 hconfigured
    exact ⟨t, ht, u, hlive, rfl, hdescription⟩
  · rintro ⟨t, ht, u, hlive, rfl, hdescription⟩
    have hplan := Config.ofTenant_mem_partitions hcheck (Table.mem_entries_iff.2 ht)
    refine List.mem_flatMap.2 ⟨Partition.ofTenant t, hplan, List.mem_map.2 ⟨u, ?_, rfl⟩⟩
    refine List.mem_filter.2 ⟨hlive, selects_iff.2 ⟨hdescription, ?_⟩⟩
    exact Config.mem_configured.2 ⟨t, ht, rfl⟩

/-- Nobody is visited twice: partitions are entered once, and a name is described in one of them. -/
theorem nodup_visited (c : Config) {live : List TenantRecord}
    (hlive : (live.map (·.name)).Nodup) : (visited c live).Nodup := by
  refine List.nodup_flatMap.2 ⟨fun p _ => hlive.sublist (List.filter_sublist.map _), ?_⟩
  refine (Config.nodup_partitions c).imp fun {p q} hne name hp hq => hne ?_
  have hconfigured : ∀ {r : Partition},
      name ∈ (live.filter (selects c r)).map (·.name) → name ∈ c.configured r := by
    intro r hr
    obtain ⟨u, hu, rfl⟩ := List.mem_map.1 hr
    exact (selects_iff.1 (List.mem_filter.1 hu).2).2
  exact Config.eq_of_mem_configured (hconfigured hp) (hconfigured hq)

end Traversal

namespace Platform

variable {listing : List ListingEntry} {token : Token} {p : Platform}

theorem notes_entitle (applications : List String) :
    Traversal.Notes listing token (fun v => Action.entitle v.token v.tenant.id applications)
      fun t => TenantRegister.noteText "entitle" t.name applications := by
  intro v s hconsistent hmem
  have hnote := hconsistent.noteFor_id hmem "entitle" applications
  let entitled := (Rehearsal.collaborators listing token).handler
    (.management (.entitle v.token v.tenant.id applications)) s
  refine ⟨entitled.2, Prod.ext ?_ rfl, ?_⟩
  · show (s.services.tenants.noteFor "entitle" v.tenant.id applications).1 = .ok ()
    rw [hnote]
  · show (s.services.tenants.noteFor "entitle" v.tenant.id applications).2 = _
    rw [hnote]
    rfl

/-- The entitlement of tenants that succeeds has entitled those that it visits, in their order. -/
theorem createTenantEntitlements_ok {s s' : RunState Rehearsal}
    (hconsistent : s.services.tenants.Consistent)
    (h : (Rehearsal.collaborators listing token).run p.createTenantEntitlements s = (.ok (), s')) :
    s'.services.tenants = s.services.tenants.noteAll
      ((Traversal.visited p.config s.services.tenants.tenants).map fun name =>
        TenantRegister.noteText "entitle" name p.applications) := by
  rw [Traversal.visitTenants_notes (notes_entitle p.applications) hconsistent h, Traversal.visited,
    List.map_flatMap]
  simp only [List.map_map]
  rfl

/-- Tenants have been created and then entitled. Then exactly the described tenants have been
entitled whose names were not registered before, or were registered with the description of the
tenant's partition, and each of them once. -/
theorem entitled_iff (hcheck : p.config.check = .ok ()) (calls : List ManagementCall)
    {s s₁ s₂ : RunState Rehearsal} {created : List TenantRecord}
    (hbefore : s.services.tenants = .after calls)
    (hcreate : (Rehearsal.collaborators listing token).run p.createTenants s = (.ok created, s₁))
    (hentitle : (Rehearsal.collaborators listing token).run p.createTenantEntitlements s₁ =
      (.ok (), s₂)) :
    ∃ names : List String,
      s₂.services.tenants = s₁.services.tenants.noteAll
        (names.map fun name => TenantRegister.noteText "entitle" name p.applications) ∧
      names.Nodup ∧
      ∀ name, name ∈ names ↔ ∃ t, p.config.tenants.find? name = some t ∧
        ∀ u ∈ s.services.tenants.tenants, u.name = name →
          u.description = (Partition.ofTenant t).description := by
  have hconsistent : s.services.tenants.Consistent :=
    hbefore ▸ TenantRegister.consistent_after calls
  have hconsistent₁ : s₁.services.tenants.Consistent := consistent_run hconsistent hcreate
  obtain ⟨hlive, hcreated⟩ := createTenants_ok hcreate
  refine ⟨Traversal.visited p.config s₁.services.tenants.tenants,
    createTenantEntitlements_ok hconsistent₁ hentitle,
    Traversal.nodup_visited p.config hconsistent₁.names, fun name => ?_⟩
  refine (Traversal.mem_visited hcheck).trans (exists_congr fun t => and_congr_right fun ht => ?_)
  constructor
  · rintro ⟨u, hu, rfl, hdescription⟩ v hv hname
    have hmem : v ∈ s₁.services.tenants.tenants := hlive ▸ List.mem_append_left _ hv
    rw [hconsistent₁.eq_of_name hmem hu hname, hdescription]
  · intro hdescribed
    rw [hlive]
    by_cases hpresent : ∃ u ∈ s.services.tenants.tenants, u.name = name
    · obtain ⟨u, hu, hname⟩ := hpresent
      exact ⟨u, List.mem_append_left _ hu, hname, hdescribed u hu hname⟩
    · have habsent : ∀ u ∈ s.services.tenants.tenants, u.name ≠ name :=
        fun u hu hname => hpresent ⟨u, hu, hname⟩
      obtain ⟨u, hu, hname, hdescription⟩ := exists_mem_created hcheck hcreated ht habsent
      exact ⟨u, List.mem_append_right _ hu, hname, hdescription⟩

/-! ## A tenant that was registered before -/

/-- Two tenants are described: the central one of a consortium, and one outside. -/
def pairOfTenants : Platform where
  config :=
    { consortiums := .ofList [("shared", {})]
      tenants := .ofList [("diku", {}), ("hub", ⟨some "shared", true⟩)] }
  isDirectory _ := false

/-- A run in which one tenant has been registered. -/
def registered (description : String) : RunState Rehearsal :=
  .fresh { tenants := .after [.createTenant ⟨"root"⟩ "diku" description] }

/-- The run after the described tenants have been created. -/
def provided (description : String) : RunState Rehearsal :=
  ((Rehearsal.collaborators [] ⟨"root"⟩).run pairOfTenants.createTenants (registered description)).2

/-- What the entitlement of the described tenants answers and leaves. -/
def entitlement (description : String) : Outcome Unit × RunState Rehearsal :=
  (Rehearsal.collaborators [] ⟨"root"⟩).run pairOfTenants.createTenantEntitlements
    (provided description)

/-- The registered tenant has the description of its partition, and both are entitled. -/
theorem entitled_pair :
    ∃ names : List String,
      (entitlement "none-default").2.services.tenants =
        (provided "none-default").services.tenants.noteAll
          (names.map fun name =>
            TenantRegister.noteText "entitle" name pairOfTenants.applications) ∧
      names.Nodup ∧
      ∀ name, name ∈ names ↔ ∃ t, pairOfTenants.config.tenants.find? name = some t ∧
        ∀ u ∈ (registered "none-default").services.tenants.tenants, u.name = name →
          u.description = (Partition.ofTenant t).description := by
  have hcheck : pairOfTenants.config.check = .ok () := by decide +kernel
  have hcreated : ((Rehearsal.collaborators [] ⟨"root"⟩).run pairOfTenants.createTenants
      (registered "none-default")).1 = .ok [⟨"tenant-0002", "hub", "shared-central"⟩] := by
    decide +kernel
  have hentitled : (entitlement "none-default").1 = .ok () := by decide +kernel
  exact entitled_iff hcheck _ rfl (Prod.ext hcreated rfl) (Prod.ext hentitled rfl)

/-- The registered tenant has another description. Both commands succeed, and `hub` alone has been
entitled, although `diku` is described as well. -/
theorem registered_not_entitled :
    pairOfTenants.config.check = .ok () ∧
    pairOfTenants.config.tenants.find? "diku" = some {} ∧
    ((Rehearsal.collaborators [] ⟨"root"⟩).run pairOfTenants.createTenants (registered "")).1 =
      .ok [⟨"tenant-0002", "hub", "shared-central"⟩] ∧
    (entitlement "").1 = .ok () ∧
    (entitlement "").2.services.tenants = (provided "").services.tenants.noteAll
      [TenantRegister.noteText "entitle" "hub" pairOfTenants.applications] := by
  decide +kernel

end Platform

end Fleet
