import Fleet.Proofs.Course
import Fleet.Proofs.Platform.Stages
import Fleet.Proofs.Rehearsal.Containers
import Fleet.Proofs.Rehearsal.Tenants
import Fleet.Proofs.Tenant.Plan

/-!
# What the creation of tenants leaves

Whatever else a handler does, where a register answers for the management service, the creation of
tenants that succeeds asks for the described tenants whose names were not registered, and puts them
behind the registered ones, each with the description of its partition (`creation_of_ok`). The
others stay as they were. A rehearsal is one such handler (`registering_rehearsal`).

A tenant counts as registered by its name alone: one of the same name may carry any description.
-/

namespace Fleet.Platform

open Program

/-! ## Planned tenants -/

theorem mem_plannedTenants {p : Platform} {q : Partition} {name : String} :
    (q, name) ∈ p.plannedTenants ↔ q ∈ p.config.partitions ∧ name ∈ p.config.configured q := by
  unfold plannedTenants
  constructor
  · intro h
    obtain ⟨q', hq', hmem⟩ := List.mem_flatMap.1 h
    obtain ⟨name', hname', heq⟩ := List.mem_map.1 hmem
    cases heq
    exact ⟨hq', hname'⟩
  · rintro ⟨hq, hname⟩
    exact List.mem_flatMap.2 ⟨q, hq, List.mem_map.2 ⟨name, hname, rfl⟩⟩

/-- A described tenant is planned in its partition. -/
theorem ofTenant_mem_plannedTenants {p : Platform} (hcheck : p.config.check = .ok ())
    {name : String} {t : Tenant} (ht : p.config.tenants.find? name = some t) :
    (Partition.ofTenant t, name) ∈ p.plannedTenants :=
  mem_plannedTenants.2 ⟨Config.ofTenant_mem_partitions hcheck (Table.mem_entries_iff.2 ht),
    Config.mem_configured.2 ⟨t, ht, rfl⟩⟩

/-- The planned tenants whose names are not registered. -/
def missing (p : Platform) (live : List TenantRecord) : List (Partition × String) :=
  p.plannedTenants.filter fun e => !live.any fun t => t.name == e.2

theorem missing_eq (p : Platform) (live : List TenantRecord) :
    p.missing live = p.plannedTenants.filter fun e => e.2 ∉ live.map (·.name) := by
  refine List.filter_congr fun e _ => Bool.eq_iff_iff.2 ?_
  simp

theorem mem_missing {p : Platform} {live : List TenantRecord} {e : Partition × String} :
    e ∈ p.missing live ↔ e ∈ p.plannedTenants ∧ e.2 ∉ live.map (·.name) := by
  rw [missing_eq, List.mem_filter, decide_eq_true_iff]

/-! ## A register behind a handler -/

section Registering

variable {σ : Type} {handler : Handler Call.Answer σ} {register : σ → TenantRegister} {s s' : σ}
  {events first second : List Event}

/-- A register answers for the management service, and calls of the identity provider do not reach
it. -/
structure Registering (handler : Handler Call.Answer σ) (register : σ → TenantRegister) :
    Prop where
  management : ∀ m s, TenantRegister.handler m (register s) =
    ((handler (.management m) s).1, register (handler (.management m) s).2)
  identity : ∀ i s, register (handler (.identity i) s).2 = register s

theorem Registering.answers (h : Registering handler register) {m : ManagementCall}
    {answer : m.Answer} (hcall : handler (.management m) s = (answer, s')) :
    TenantRegister.handler m (register s) = (answer, register s') := by
  rw [h.management, hcall]

/-- The names of the tenants that the management service was asked to create, in order. -/
def asked (events : List Event) : List String :=
  events.filterMap fun e =>
    match e.1 with
    | .management (.createTenant _ name _) => some name
    | _ => none

@[simp] theorem asked_append : asked (first ++ second) = asked first ++ asked second :=
  List.filterMap_append

/-- Calls of the identity provider alone create nothing. -/
theorem Registering.untouched (h : Registering handler register)
    (hidentity : ∀ e ∈ events, ∃ i, e.1 = .identity i) :
    asked events = [] ∧ register (stateAfter handler s events) = register s := by
  constructor
  · refine List.filterMap_eq_nil_iff.2 fun e he => ?_
    obtain ⟨i, hi⟩ := hidentity e he
    rw [hi]
  · have hkeeps : ∀ e ∈ events, ∀ t, register t = register s →
        register (handler e.1 t).2 = register s := by
      intro e he t ht
      obtain ⟨i, hi⟩ := hidentity e he
      rw [hi]
      exact (h.identity i t).trans ht
    exact stateAfter_keeps hkeeps rfl

theorem Registering.masterToken (h : Registering handler register) {c : Config} {o : Outcome Token}
    (hcourse : Course handler (Traversal.masterToken c).run s events o s') :
    asked events = [] ∧ register s' = register s := by
  obtain ⟨_, rfl⟩ := course_perform.1 hcourse
  rw [hcourse.state_eq]
  exact h.untouched fun e he => ⟨_, congrArg _ (List.mem_singleton.1 he)⟩

/-- The tenants are listed as they are registered. -/
theorem Registering.tenants (h : Registering handler register) {master : Token}
    {o : Outcome (List TenantRecord)}
    (hcourse : Course handler (Action.tenants master).run s events o s') :
    o = .ok (register s).tenants ∧ asked events = [] ∧ register s' = register s := by
  obtain ⟨hcall, rfl⟩ := course_perform.1 hcourse
  obtain ⟨hanswer, hregister⟩ := Prod.mk.inj (h.answers hcall)
  exact ⟨hanswer.symm, rfl, hregister.symm⟩

theorem Registering.setLifespans (h : Registering handler register) {master : Token} {seconds : Nat}
    {names : List String} {o : Outcome Unit}
    (hcourse : Course handler (setLifespans master seconds names).run s events o s') :
    asked events = [] ∧ register s' = register s := by
  have hcalls : (Platform.setLifespans master seconds names).Within
      (.ofCalls fun call => ∃ i, call = .identity i) :=
    Action.within_of_failsOnly
      (failsOnly_setLifespans (Contract.blames_true _) fun _ _ => ⟨_, rfl⟩)
  rw [hcourse.state_eq]
  exact h.untouched (hcalls.calls hcourse)

/-! ## Creation -/

/-- Tenants have been asked for as they were planned, and stand behind those that were registered,
each with the description of its partition. -/
structure Creation (planned : List (Partition × String)) (before after created : List TenantRecord)
    (events : List Event) : Prop where
  behind : after = before ++ created
  records : created.map (fun t => (t.name, t.description)) =
    planned.map fun e => (e.2, e.1.description)
  asked : asked events = planned.map (·.2)

theorem Creation.names {planned : List (Partition × String)}
    {before after created : List TenantRecord} (h : Creation planned before after created events) :
    created.map (·.name) = planned.map (·.2) := by
  have hnames := congrArg (List.map Prod.fst) h.records
  rw [List.map_map, List.map_map] at hnames
  exact hnames

theorem createAll_ok (h : Registering handler register) {master : Token} :
    ∀ {planned : List (Partition × String)} {created : List TenantRecord} {s : σ}
      {events : List Event},
      Course handler (createAll master planned).run s events (.ok created) s' →
      Creation planned (register s).tenants (register s').tenants created events
  | [], _, _, _, hcourse => by
    obtain ⟨hok, rfl, rfl⟩ := Action.course_pure.1 hcourse
    cases hok
    exact ⟨(List.append_nil _).symm, rfl, rfl⟩
  | (q, name) :: rest, _, s, _, hcourse => by
    obtain ⟨t, s₁, first, later, rfl, hcreate, hlater⟩ := Action.course_bind_ok hcourse
    obtain ⟨records, s₂, second, last, rfl, hrest, hdone⟩ := Action.course_bind_ok hlater
    obtain ⟨hok, rfl, rfl⟩ := Action.course_pure.1 hdone
    cases hok
    obtain ⟨hcall, rfl⟩ := course_perform.1 hcreate
    obtain ⟨hname, hdescription, htenants⟩ := TenantRegister.create_ok (h.answers hcall)
    obtain ⟨hbehind, hrecords, hasked⟩ := createAll_ok h hrest
    refine ⟨?_, ?_, ?_⟩
    · rw [hbehind, htenants, List.append_assoc, List.singleton_append]
    · rw [List.map_cons, List.map_cons, hrecords, hname, hdescription]
    · rw [asked_append, asked_append, hasked]
      exact congrArg (name :: ·) (List.append_nil _)

/-- The creation of tenants that succeeds has created the missing ones. -/
theorem creation_of_ok (h : Registering handler register) {p : Platform}
    {created : List TenantRecord}
    (hcourse : Course handler p.createTenants.run s events (.ok created) s') :
    Creation (p.missing (register s).tenants) (register s).tenants (register s').tenants created
      events := by
  obtain ⟨master, s₁, first, later, rfl, hmaster, hcourse⟩ := Action.course_bind_ok hcourse
  obtain ⟨live, s₂, second, later, rfl, hlive, hcourse⟩ := Action.course_bind_ok hcourse
  obtain ⟨created', s₃, third, last, rfl, hcreate, hcourse⟩ := Action.course_bind_ok hcourse
  obtain ⟨hasked₁, hs₁⟩ := h.masterToken hmaster
  obtain ⟨hlisted, hasked₂, hs₂⟩ := h.tenants hlive
  have hlast : created' = created ∧ asked last = [] ∧ register s' = register s₃ := by
    split at hcourse
    · obtain ⟨_, s₄, setting, done, rfl, hset, hdone⟩ := Action.course_bind_ok hcourse
      obtain ⟨hok, rfl, rfl⟩ := Action.course_pure.1 hdone
      obtain ⟨hasked, hs₄⟩ := h.setLifespans hset
      exact ⟨(Except.ok.inj hok).symm, by rw [List.append_nil, hasked], hs₄⟩
    · obtain ⟨hok, rfl, rfl⟩ := Action.course_pure.1 hcourse
      exact ⟨(Except.ok.inj hok).symm, rfl, rfl⟩
  obtain ⟨rfl, hasked₃, hs'⟩ := hlast
  cases hlisted
  obtain ⟨hbehind, hrecords, hasked⟩ := createAll_ok h hcreate
  rw [hs₂, hs₁] at hbehind
  rw [hs₁] at hrecords hasked
  refine ⟨hs' ▸ hbehind, hrecords, ?_⟩
  rw [asked_append, asked_append, asked_append, hasked₁, hasked₂, hasked₃, hasked]
  exact List.append_nil _

end Registering

/-! ## The register in a rehearsal -/

section Rehearsal

variable {listing : List ListingEntry} {token : Token} {s s' : RunState Rehearsal}

theorem registering_rehearsal (listing : List ListingEntry) (token : Token) :
    Registering (Rehearsal.collaborators listing token).handler fun s => s.services.tenants where
  management _ _ := rfl
  identity _ _ := rfl

/-- Only calls of the management service reach the register. -/
theorem tenants_handler (call : Call) (s : RunState Rehearsal)
    (hcall : ∀ m, call ≠ .management m) :
    ((Rehearsal.collaborators listing token).handler call s).2.services.tenants =
      s.services.tenants := by
  cases call with
  | management m => exact absurd rfl (hcall m)
  | ensureImage image auth =>
    obtain ⟨pulls, hservices⟩ := Rehearsal.services_ensureImage listing token auth image s
    show ((Rehearsal.collaborators listing token).ensureImage auth image s).2.services.tenants = _
    rw [hservices]
  | _ => rfl

theorem tenants_masterToken (c : Config) (s : RunState Rehearsal) :
    (Program.run (Rehearsal.collaborators listing token).handler
      (Traversal.masterToken c).run s).2.services.tenants = s.services.tenants :=
  ((registering_rehearsal listing token).masterToken (course_self _ _ s)).2

theorem consistent_handler (call : Call) (h : s.services.tenants.Consistent) :
    ((Rehearsal.collaborators listing token).handler call s).2.services.tenants.Consistent := by
  by_cases hcall : ∃ m, call = .management m
  · obtain ⟨m, rfl⟩ := hcall
    exact h.handler m
  · rw [tenants_handler call s fun m hm => hcall ⟨m, hm⟩]
    exact h

/-- Whatever is done, the register stays consistent. -/
theorem consistent_run {α : Type} {p : Program Call.Answer α} {a : α}
    (h : s.services.tenants.Consistent)
    (hrun : p.run (Rehearsal.collaborators listing token).handler s = (a, s')) :
    s'.services.tenants.Consistent := by
  induction p generalizing s with
  | done value =>
    cases hrun
    exact h
  | ask call next ih => exact ih _ (consistent_handler call h) hrun

/-- The creation of tenants has put the missing ones behind those that were registered. -/
theorem createTenants_ok {p : Platform} {created : List TenantRecord}
    (h : Program.run (Rehearsal.collaborators listing token).handler p.createTenants.run s =
      (.ok created, s')) :
    s'.services.tenants.tenants = s.services.tenants.tenants ++ created ∧
      created.map (fun t => (t.name, t.description)) =
        (p.missing s.services.tenants.tenants).map fun e => (e.2, e.1.description) := by
  obtain ⟨hbehind, hrecords, _⟩ := creation_of_ok (registering_rehearsal listing token) ⟨h, rfl⟩
  exact ⟨hbehind, hrecords⟩

end Rehearsal

/-- A described tenant whose name was not registered has been created in its partition. -/
theorem exists_mem_created {p : Platform} {live created : List TenantRecord}
    (hcheck : p.config.check = .ok ())
    (hcreated : created.map (fun t => (t.name, t.description)) =
      (p.missing live).map fun e => (e.2, e.1.description))
    {name : String} {t : Tenant} (ht : p.config.tenants.find? name = some t)
    (habsent : ∀ u ∈ live, u.name ≠ name) :
    ∃ u ∈ created, u.name = name ∧ u.description = (Partition.ofTenant t).description := by
  have hnew : name ∉ live.map (·.name) := by
    intro hmem
    obtain ⟨u, hu, hname⟩ := List.mem_map.1 hmem
    exact habsent u hu hname
  have hmissing : (Partition.ofTenant t, name) ∈ p.missing live :=
    mem_missing.2 ⟨ofTenant_mem_plannedTenants hcheck ht, hnew⟩
  have hrecord := List.mem_map_of_mem (f := fun e => (e.2, e.1.description)) hmissing
  rw [← hcreated] at hrecord
  obtain ⟨u, hu, heq⟩ := List.mem_map.1 hrecord
  obtain ⟨hname, hdescription⟩ := Prod.mk.inj heq
  exact ⟨u, hu, hname, hdescription⟩

end Fleet.Platform
