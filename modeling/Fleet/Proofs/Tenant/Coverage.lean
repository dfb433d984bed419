import Fleet.Proofs.Tenant.Steps

/-!
# What a traversal has covered

When no step of a traversal fails, all of them are taken. So in every partition the tenants were
listed, and what is done on a visit was done for every tenant that is described there and carries
the partition's description (`covered_visitTenants`).
-/

namespace Fleet.Traversal

open Program

variable {σ : Type} {handler : Handler Call.Answer σ} {c : Config} {act : Visit → Action Unit}
  {authority : Authority} {s s' : σ} {events : List Event} {steps : List Step}

theorem Taken.exists_part (h : Taken handler c act steps s events s') {step : Step}
    (hstep : step ∈ steps) :
    ∃ t part t', step.Taken handler c act t part t' ∧ ∀ e ∈ part, e ∈ events := by
  induction steps generalizing s events with
  | nil => exact absurd hstep List.not_mem_nil
  | cons first rest ih =>
    obtain ⟨t, front, later, rfl, htaken, hrest⟩ := h
    rcases List.mem_cons.1 hstep with rfl | hstep
    · exact ⟨s, front, t, htaken, fun e he => List.mem_append_left _ he⟩
    · obtain ⟨u, part, u', hpart, hsub⟩ := ih hrest hstep
      exact ⟨u, part, u', hpart, fun e he => List.mem_append_right _ (hsub e he)⟩

/-- In every partition the tenants were listed, and there was an effect of a visit for each that is
described there and carries the partition's description. -/
def Covered (c : Config) (effect : Visit → Event) (events : List Event) : Prop :=
  ∀ q ∈ c.partitions, ∃ granted live, ⟨.management (.tenants granted), .ok live⟩ ∈ events ∧
    ∀ t ∈ live, t.name ∈ c.configured q → t.description = q.description →
      ∃ token, effect ⟨t, q, token⟩ ∈ events

theorem covered_visitTenants {direction : Direction} {effect : Visit → Event}
    (hact : ∀ v t part t', Course handler (act v).run t part (.ok ()) t' → effect v ∈ part)
    (h : Course handler (visitTenants c direction authority act).run s events (.ok ()) s') :
    Covered c effect events := by
  obtain ⟨stays, taken, hplan, hdue, rfl, htaken⟩ := visitTenants_taken h
  intro q hq
  have hmem : q ∈ stays.map (·.partition) := hplan ▸ mem_plan.2 hq
  obtain ⟨x, hx, rfl⟩ := List.mem_map.1 hmem
  have hsteps : ∀ step ∈ x.steps authority, step ∈ stays.flatMap (Stay.steps authority) :=
    fun step hstep => List.mem_flatMap.2 ⟨x, hx, hstep⟩
  refine ⟨x.master, x.live, ?_, ?_⟩
  · have hlisting : .listing x.master (.ok x.live) ∈ x.steps authority :=
      List.mem_cons_of_mem _ List.mem_cons_self
    obtain ⟨_, part, _, hpart, hsub⟩ := htaken.exists_part (hsteps _ hlisting)
    obtain ⟨_, rfl⟩ := course_perform.1 hpart
    exact hsub _ (List.mem_singleton_self _)
  · intro t ht hname hdescription
    have hvisited : t ∈ x.visits.map (·.tenant) := by
      rw [(hdue x hx).tenants]
      exact List.mem_filter.2 ⟨ht, decide_eq_true ⟨hname, hdescription⟩⟩
    obtain ⟨v, hv, rfl⟩ := List.mem_map.1 hvisited
    have hstep : Step.visit v (.ok ()) ∈ x.steps authority := by
      refine List.mem_cons_of_mem _ (List.mem_cons_of_mem _ (List.mem_flatMap.2 ⟨v, hv, ?_⟩))
      exact List.mem_append_right _ (List.mem_singleton_self _)
    obtain ⟨_, part, _, hpart, hsub⟩ := htaken.exists_part (hsteps _ hstep)
    refine ⟨v.token, ?_⟩
    rw [← (hdue x hx).here v hv]
    exact hsub _ (hact v _ _ _ hpart)

/-- A visit that makes one call has its effect by that call. -/
theorem covered_of_singleton {direction : Direction} {effect : Visit → Event}
    (hact : ∀ v t part t', Course handler (act v).run t part (.ok ()) t' → part = [effect v])
    (h : Course handler (visitTenants c direction authority act).run s events (.ok ()) s') :
    Covered c effect events := by
  refine covered_visitTenants ?_ h
  intro v t part t' hvisit
  rw [hact v t part t' hvisit]
  exact List.mem_singleton_self _

end Fleet.Traversal
