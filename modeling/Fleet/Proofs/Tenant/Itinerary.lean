import Fleet.Proofs.Tenant.Steps

/-!
# The itinerary of a traversal

`visitTenants_itinerary` tells what a traversal does for all answers of the services and everything
that may be done on a visit: it takes the steps of its stays in the partitions of the plan, and is
cut off behind the first that fails. The order of visits follows: walking forwards, no central
tenant is visited behind a member of its consortium, and walking backwards, no member behind its
central tenant.
-/

namespace Fleet

/-- Of two tenants of one consortium, the first may be visited before the second. -/
def Direction.Orders : Direction → Tenant → Tenant → Prop
  | .forward, t, u => t.central = false → u.central = false
  | .reverse, t, u => t.central = true → u.central = true

namespace Traversal

open Program

variable {σ : Type} {handler : Handler Call.Answer σ} {c : Config} {authority : Authority}

/-! ## The order of visits -/

/-- Described tenants of two partitions may be visited one behind the other. -/
def InOrder (direction : Direction) (p q : Partition) : Prop :=
  ∀ t u : Tenant, Partition.ofTenant t = p → Partition.ofTenant u = q →
    t.consortium ≠ none → t.consortium = u.consortium → direction.Orders t u

/-- The type of a partition decides for its tenants inside a consortium. -/
theorem inOrder_of_types {direction : Direction} {p q : Partition}
    (h : ∀ t u : Tenant, p.type = .ofCentral t.central → q.type = .ofCentral u.central →
      direction.Orders t u) : InOrder direction p q := by
  rintro t u rfl rfl hsome heq
  exact h t u (Partition.type_ofTenant hsome) (Partition.type_ofTenant (heq ▸ hsome))

theorem inOrder_self (direction : Direction) (p : Partition) : InOrder direction p p := by
  apply inOrder_of_types
  intro t u ht hu
  have hcentral : t.central = u.central := TenantType.ofCentral_injective (ht.symm.trans hu)
  cases direction with
  | forward => exact fun h => hcentral.symm.trans h
  | reverse => exact fun h => hcentral.symm.trans h

theorem inOrder_of_ne {direction : Direction} {p q : Partition} (h : p.consortium ≠ q.consortium) :
    InOrder direction p q := by
  rintro t u rfl rfl _ heq
  rw [Partition.consortium_ofTenant, Partition.consortium_ofTenant] at h
  exact absurd heq h

/-- Walking the plan in a direction keeps the order of tenants in every consortium. -/
theorem pairwise_plan (c : Config) (direction : Direction) :
    (plan c direction).Pairwise (InOrder direction) := by
  cases direction with
  | forward =>
    refine Config.pairwise_partitions c ?_ fun p q => inOrder_of_ne
    intro name
    apply inOrder_of_types
    intro t u ht _ hcentral
    rw [hcentral] at ht
    cases ht
  | reverse =>
    refine List.pairwise_reverse.2 (Config.pairwise_partitions c ?_ ?_)
    · intro name
      apply inOrder_of_types
      intro t u ht _ hcentral
      rw [hcentral] at ht
      cases ht
    · intro p q hne
      exact inOrder_of_ne hne.symm

theorem filterMap_tokenSteps {t : TenantRecord} {answer : Outcome Token} :
    (tokenSteps authority t answer).filterMap Step.visit? = [] := by
  cases authority <;> rfl

/-- The visits of a stay are those of its steps. -/
theorem visits_steps (authority : Authority) (x : Stay) :
    (x.steps authority).filterMap Step.visit? = x.visits := by
  have hvisits : ∀ visits : List Visit,
      (visits.flatMap (visitSteps authority)).filterMap Step.visit? = visits := by
    intro visits
    induction visits with
    | nil => rfl
    | cons v rest ih =>
      rw [List.flatMap_cons, List.filterMap_append, ih, visitSteps, List.filterMap_append,
        filterMap_tokenSteps]
      rfl
  exact hvisits x.visits

/-- The tenants that the steps of a stay are about are those of its visits. -/
theorem exists_visit_of_mem_steps {x : Stay} {step : Step} {t : TenantRecord}
    (hstep : step ∈ x.steps authority) (ht : step.tenant? = some t) :
    ∃ v ∈ x.visits, v.tenant = t := by
  rcases List.mem_cons.1 hstep with rfl | hstep
  · cases ht
  rcases List.mem_cons.1 hstep with rfl | hstep
  · cases ht
  obtain ⟨v, hv, hmem⟩ := List.mem_flatMap.1 hstep
  refine ⟨v, hv, ?_⟩
  rcases List.mem_append.1 hmem with hmem | hmem
  · cases authority with
    | master => cases hmem
    | tenant =>
      obtain rfl := List.mem_singleton.1 hmem
      exact Option.some.inj ht
  · obtain rfl := List.mem_singleton.1 hmem
    exact Option.some.inj ht

section Due

variable {x y : Stay} {v w : Visit}

/-- A visit that is due is of a described tenant, in the tenant's partition. -/
theorem Stay.Due.visit (h : x.Due c authority) (hv : v ∈ x.visits) :
    v.tenant.name ∈ c.configured x.partition ∧
      v.tenant.description = x.partition.description := by
  have htenant : v.tenant ∈ x.visits.map (·.tenant) := List.mem_map_of_mem hv
  rw [h.tenants] at htenant
  exact of_decide_eq_true (List.mem_filter.1 htenant).2

/-- Described tenants, one of whom is visited behind the other, may be so visited. -/
def VisitsInOrder (c : Config) (direction : Direction) (v w : Visit) : Prop :=
  ∀ t u, c.tenants.find? v.tenant.name = some t → c.tenants.find? w.tenant.name = some u →
    t.consortium ≠ none → t.consortium = u.consortium → direction.Orders t u

theorem visitsInOrder {direction : Direction} (hx : x.Due c authority) (hy : y.Due c authority)
    (horder : InOrder direction x.partition y.partition) (hv : v ∈ x.visits) (hw : w ∈ y.visits) :
    VisitsInOrder c direction v w := by
  intro t u ht hu hsome heq
  obtain ⟨t', ht', hpt⟩ := Config.mem_configured.1 (hx.visit hv).1
  obtain ⟨u', hu', hpu⟩ := Config.mem_configured.1 (hy.visit hw).1
  cases ht.symm.trans ht'
  cases hu.symm.trans hu'
  exact horder t u hpt hpu hsome heq

end Due

/-- The visits of stays that are due keep the order of tenants in every consortium. -/
theorem pairwise_visits {direction : Direction} {stays : List Stay}
    (hplan : stays.map (·.partition) = plan c direction) (hdue : ∀ x ∈ stays, x.Due c authority) :
    (stays.flatMap (·.visits)).Pairwise (VisitsInOrder c direction) := by
  refine List.pairwise_flatMap.2 ⟨?_, ?_⟩
  · intro x hx
    refine List.pairwise_of_forall_mem_list ?_
    intro v hv w hw
    exact visitsInOrder (hdue x hx) (hdue x hx) (inOrder_self direction x.partition) hv hw
  · have hpartitions := pairwise_plan c direction
    rw [← hplan, List.pairwise_map] at hpartitions
    refine hpartitions.imp_of_mem ?_
    intro x y hx hy horder v hv w hw
    exact visitsInOrder (hdue x hx) (hdue y hy) horder hv hw

/-- Whatever the services answer and whatever is done on a visit, a traversal takes the steps of its
stays in the partitions of the plan, and is cut off behind the first step that fails. Tenants of one
consortium are visited in the order of the direction, and nobody is dealt with who is not described
in a partition of the plan. -/
theorem visitTenants_itinerary (c : Config) (direction : Direction) (authority : Authority)
    (act : Visit → Action Unit) (handler : Handler Call.Answer σ) (s : σ) :
    ∃ (events : List Event) (o : Outcome Unit) (s' : σ) (stays : List Stay) (taken : List Step),
      Course handler (visitTenants c direction authority act).run s events o s' ∧
      stays.map (·.partition) = plan c direction ∧ (∀ x ∈ stays, x.Due c authority) ∧
      CutOff (stays.flatMap (Stay.steps authority)) taken o ∧
      Taken handler c act taken s events s' ∧
      (taken.filterMap Step.visit?).Pairwise (VisitsInOrder c direction) ∧
      ∀ step ∈ taken, ∀ t, step.tenant? = some t →
        ∃ q ∈ c.partitions, t.name ∈ c.configured q ∧ t.description = q.description := by
  have hcourse := course_self handler (visitTenants c direction authority act).run s
  obtain ⟨stays, taken, hplan, hdue, hcut, htaken⟩ := visitTenants_taken hcourse
  refine ⟨_, _, _, stays, taken, hcourse, hplan, hdue, hcut, htaken, ?_, ?_⟩
  · have hbegun := hcut.prefix_filterMap Step.visit?_failing
    rw [List.filterMap_flatMap] at hbegun
    simp only [visits_steps] at hbegun
    exact (pairwise_visits hplan hdue).sublist hbegun.sublist
  · intro step hstep t ht
    have hmem : t ∈ taken.filterMap Step.tenant? := List.mem_filterMap.2 ⟨step, hstep, ht⟩
    have hwhole := (hcut.prefix_filterMap Step.tenant?_failing).subset hmem
    obtain ⟨due, hdueStep, hdueTenant⟩ := List.mem_filterMap.1 hwhole
    obtain ⟨x, hx, hsteps⟩ := List.mem_flatMap.1 hdueStep
    obtain ⟨v, hv, rfl⟩ := exists_visit_of_mem_steps hsteps hdueTenant
    have hpartition : x.partition ∈ plan c direction := hplan ▸ List.mem_map_of_mem hx
    exact ⟨x.partition, mem_plan.1 hpartition, (hdue x hx).visit hv⟩

end Traversal

end Fleet
