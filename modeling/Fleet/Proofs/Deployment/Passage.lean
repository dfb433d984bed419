import Fleet.Proofs.Course
import Fleet.Proofs.Deployment.Upkeep

/-!
# The events of a pass

A pass goes by when its tasks have taken turns, in any order, until it ended (`Passage`). Starting
everything in order is one such passage (`passage_startAll`). The events of a passage are pulls of
images and creations of the pass's containers, also those of tasks that go on for a while behind a
failure; and if the pass has ended well, every container of it was created (`Passage.created`). If
it has failed, then as one of these calls may fail (`Passage.failure`).
-/

namespace Fleet.Deployment

open Program

variable {σ : Type} {handler : Handler Call.Answer σ} {b : Blueprint} {ds : List Descriptor}
  {s s' : σ} {events : List Event} {o : Outcome Unit}

/-- The tasks of a pass take turns until it ends, with these events and this outcome. -/
def Passage (handler : Handler Call.Answer σ) (b : Blueprint) (ds : List Descriptor) (s : σ)
    (events : List Event) (o : Outcome Unit) (s' : σ) : Prop :=
  ∃ ts u, Underway.turns (recording handler) ts (.start b ds) (s, []) = (u, (s', events)) ∧
    u.outcome? = some o

/-- Starting everything in order is a passage. -/
theorem passage_startAll (h : Course handler (startAll b ds).run s events o s') :
    Passage handler b ds s events o s' := by
  obtain ⟨ts, hstate, houtcome⟩ :=
    Underway.exists_turns_startAll (recording handler) b ds (s, [])
  rw [run_recording, h.run, h.trace, List.nil_append] at hstate houtcome
  exact ⟨ts, _, Prod.ext rfl hstate, houtcome⟩

/-- A recording handler records the allowed calls of tasks that keep a contract. -/
theorem served_recording (handler : Handler Call.Answer σ) (specs : List ContainerSpec) :
    (creating specs).Served (recording handler)
      (fun t => ∀ e ∈ t.2, (creating specs).allows e.1) := by
  intro call t hallows ht
  refine ⟨trivial, List.forall_mem_append.2 ⟨ht, ?_⟩⟩
  exact List.forall_mem_singleton.2 hallows

/-- In a passage images are pulled and containers of the pass created. -/
theorem Passage.calls (h : Passage handler b ds s events o s') :
    ∀ e ∈ events, (creating (ds.flatMap b.specsOf)).allows e.1 := by
  obtain ⟨ts, u, hturns, _⟩ := h
  have hcalls := ((within_creating b ds).turns (served_recording handler _)
    (s := (s, [])) (fun _ he => absurd he List.not_mem_nil) ts).2
  rw [hturns] at hcalls
  exact hcalls

/-- A passage that fails does so with a failure that one of its calls may be answered. -/
theorem Passage.failure {e : Failure} (h : Passage handler b ds s events (.error e) s') :
    FailsOn handler (creating (ds.flatMap b.specsOf)).allows e := by
  obtain ⟨ts, u, hturns, houtcome⟩ := h
  generalize hcalls : (creating (ds.flatMap b.specsOf)).allows = calls
  have hstart : (Underway.start b ds).FailsOnly (.answeredBy handler calls)
      (FailsOn handler calls) := by
    subst hcalls
    refine Underway.failsOnly_start (Contract.blames_answeredBy _ _) (fun image auth => ?_)
      fun d hd spec hspec => ?_
    · exact .inl ⟨image, auth, rfl⟩
    · exact .inr ⟨spec, List.mem_flatMap.2 ⟨d, hd, hspec⟩, rfl⟩
  have hserved : (Contract.answeredBy handler calls).Served (recording handler) fun _ => True :=
    fun call t _ _ => ⟨⟨t.1, rfl⟩, trivial⟩
  have hturned := (hstart.turns hserved (s := (s, [])) trivial ts).1
  rw [hturns] at hturned
  exact hturned.outcome e houtcome

/-- What a passage leaves is what its calls leave. -/
theorem Passage.state_eq (h : Passage handler b ds s events o s') :
    s' = stateAfter handler s events := by
  obtain ⟨ts, u, hturns, _⟩ := h
  have hserved : (creating (ds.flatMap b.specsOf)).Served (recording handler)
      fun t => t.1 = stateAfter handler s t.2 := by
    intro call t _ ht
    refine ⟨trivial, ?_⟩
    show (handler call t.1).2 = stateAfter handler s (t.2 ++ [_])
    rw [stateAfter_append, ← ht]
    rfl
  have hstate := ((within_creating b ds).turns hserved (s := (s, [])) rfl ts).2
  rw [hturns] at hstate
  exact hstate

/-- A container was created. -/
def Created (events : List Event) (spec : ContainerSpec) : Prop :=
  ∃ id, ⟨.createContainer spec, .ok id⟩ ∈ events

/-- Tasks that end well have created their containers. -/
theorem raises_created (handler : Handler Call.Answer σ) (specs : List ContainerSpec) :
    Raises (recording handler) specs (fun t => Created t.2) where
  keeps := by
    rintro spec task t task' t' _ _ hadvance other _ ⟨id, hid⟩
    cases task with
    | done o =>
      cases hadvance
      exact ⟨id, hid⟩
    | ask call next =>
      cases hadvance
      exact ⟨id, List.mem_append_left _ hid⟩
  brings := by
    intro spec task t task' t' _ hbrings hadvance
    rcases (hbrings.advances hadvance).brings with hbrings' | ⟨hdone, id, hcall⟩
    · exact .inr hbrings'
    · refine .inl ⟨hdone, id, ?_⟩
      rw [recording_eq hcall]
      exact List.mem_append_right _ (List.mem_singleton_self _)

/-- In a passage that ends well every container of the pass was created. -/
theorem Passage.created (h : Passage handler b ds s events (.ok ()) s') :
    ∀ spec ∈ ds.flatMap b.specsOf, Created events spec := by
  obtain ⟨ts, u, hturns, houtcome⟩ := h
  have hupkeep := (Underway.upkeep_start b ds (Created [])).turns
    (raises_created handler (ds.flatMap b.specsOf)) (s := (s, [])) ts
  rw [hturns] at hupkeep
  exact hupkeep.up_of_ok houtcome

end Fleet.Deployment
