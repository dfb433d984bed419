import Fleet.Proofs.Deployment.Bringing
import Fleet.Proofs.Deployment.OneTurn

/-!
# What the tasks of a pass still owe

A task of a pass is to bring one container (`Brings`). At every turn, each container of the pass is
still to be brought by a task that is left, or it is up, unless the pass has met a failure
(`Upkeep`). What it means to be up is left open: a call of a task has to keep it, and the call that
ends a task well has to bring it about (`Raises`).

So a pass that has ended well has every one of its containers up (`Upkeep.up`), for every order of
turns.
-/

namespace Fleet.Deployment

/-- The next call of a task that is to bring a container keeps up what is up, and the call that ends
the task well brings its container up. -/
structure Raises {σ : Type} (handler : Handler Call.Answer σ) (specs : List ContainerSpec)
    (Up : σ → ContainerSpec → Prop) : Prop where
  keeps : ∀ {spec task s task' s'}, spec ∈ specs → Brings spec task →
    task.advance handler s = (task', s') → ∀ other ∈ specs, Up s other → Up s' other
  brings : ∀ {spec task s task' s'}, spec ∈ specs → Brings spec task →
    task.advance handler s = (task', s') →
    (task' = .done (.ok ()) ∧ Up s' spec) ∨ Brings spec task'

/-- Such tasks stay such tasks until they end well, whatever happens. -/
theorem raises_true {σ : Type} (handler : Handler Call.Answer σ) (specs : List ContainerSpec) :
    Raises handler specs fun _ _ => True where
  keeps _ _ _ _ _ _ := trivial
  brings _ hbrings hadvance :=
    (hbrings.advances hadvance).brings.symm.imp (fun h => ⟨h.1, trivial⟩) id

namespace Underway

/-- The tasks that are left. -/
def tasks (u : Underway) : List Task :=
  u.modules.flatMap (fun m => m.task :: m.sidecar?.toList) ++ u.sidecars

@[grind =]
theorem mem_tasks {u : Underway} {task : Task} : task ∈ u.tasks ↔
    task ∈ (u.modules.flatMap fun m => m.task :: m.sidecar?.toList) ∨ task ∈ u.sidecars :=
  List.mem_append

/-- A task has failed, whether or not the pass has taken note of it. -/
def Failed (u : Underway) : Prop :=
  ∃ e, u.outcome? = some (.error e) ∨ .error e ∈ u.ended

/-- Every task that is left brings one of the containers, and unless the pass has failed, every one
of them is still to be brought by a task, or it is up. -/
structure Upkeep (specs : List ContainerSpec) (up : ContainerSpec → Prop) (u : Underway) :
    Prop where
  brings : ∀ task ∈ u.tasks, ∃ spec ∈ specs, Brings spec task
  covered : u.Failed ∨ ∀ spec ∈ specs, (∃ task ∈ u.tasks, Brings spec task) ∨ up spec
  finished : u.outcome? = some (.ok ()) → u.tasks = [] ∧ u.ended = []

variable {σ : Type} {handler : Handler Call.Answer σ} {specs : List ContainerSpec}
  {Up : σ → ContainerSpec → Prop} {up up' : ContainerSpec → Prop} {u u' : Underway} {s s' : σ}

/-- A pass that begins has all containers of its modules before it. -/
theorem upkeep_start (b : Blueprint) (ds : List Descriptor) (up : ContainerSpec → Prop) :
    Upkeep (ds.flatMap b.specsOf) up (start b ds) := by
  have htasks : (start b ds).tasks = ds.flatMap fun d =>
      (moduleTask b d).task :: (moduleTask b d).sidecar?.toList := by
    simp [tasks, start, List.flatMap_map]
  refine ⟨fun task htask => ?_, .inr fun spec hspec => .inl ?_, fun ho => nomatch ho⟩
  · rw [htasks] at htask
    obtain ⟨d, hd, htask⟩ := List.mem_flatMap.1 htask
    rcases List.mem_cons.1 htask with rfl | htask
    · exact ⟨b.moduleSpec d, List.mem_flatMap.2 ⟨d, hd, List.mem_cons_self⟩,
        brings_startModule b d⟩
    · obtain ⟨spec, hspec, rfl⟩ := Option.map_eq_some_iff.1 (Option.mem_toList.1 htask)
      refine ⟨spec, List.mem_flatMap.2 ⟨d, hd, List.mem_cons_of_mem _ ?_⟩,
        brings_startSidecar b spec⟩
      exact Option.mem_toList.2 hspec
  · rw [htasks]
    obtain ⟨d, hd, hspec⟩ := List.mem_flatMap.1 hspec
    rcases List.mem_cons.1 hspec with rfl | hspec
    · exact ⟨_, List.mem_flatMap.2 ⟨d, hd, List.mem_cons_self⟩, brings_startModule b d⟩
    · refine ⟨(startSidecar b spec).run, List.mem_flatMap.2 ⟨d, hd, List.mem_cons_of_mem _ ?_⟩,
        brings_startSidecar b spec⟩
      exact Option.mem_toList.2 (Option.map_eq_some_iff.2 ⟨spec, Option.mem_toList.1 hspec, rfl⟩)

namespace Upkeep

/-- When a pass has ended well, every container of it is up. -/
theorem up_of_ok (h : Upkeep specs up u) (ho : u.outcome? = some (.ok ())) :
    ∀ spec ∈ specs, up spec := by
  obtain ⟨htasks, hended⟩ := h.finished ho
  rcases h.covered with ⟨e, hf | hf⟩ | hcovered
  · rw [ho] at hf
    cases hf
  · rw [hended] at hf
    exact absurd hf List.not_mem_nil
  · intro spec hspec
    rcases hcovered spec hspec with ⟨task, htask, _⟩ | hup
    · rw [htasks] at htask
      exact absurd htask List.not_mem_nil
    · exact hup

theorem outcome_ne (h : Upkeep specs up u) {task : Task} (hmem : task ∈ u.tasks) :
    u.outcome? ≠ some (.ok ()) := by
  intro ho
  rw [(h.finished ho).1] at hmem
  exact List.not_mem_nil hmem

/-- A pass that has failed may leave out any tasks. -/
theorem fail (h : Upkeep specs up u) (hsub : ∀ x ∈ u'.tasks, x ∈ u.tasks) (hfailed : u'.Failed)
    (houtcome : u'.outcome? ≠ some (.ok ())) : Upkeep specs up' u' where
  brings x hx := h.brings x (hsub x hx)
  covered := .inl hfailed
  finished ho := absurd ho houtcome

/-- A task goes on by one call. It has brought its container and is left out, or it is such a task
still; the other tasks are left as they are. -/
theorem advance (hraises : Raises handler specs Up) (h : Upkeep specs (Up s) u) {task task' : Task}
    (hmem : task ∈ u.tasks) (hadvance : task.advance handler s = (task', s'))
    (hleft : ∀ x ∈ u.tasks, x = task ∨ x ∈ u'.tasks)
    (hnew : ∀ x ∈ u'.tasks, x ∈ u.tasks ∨ (x = task' ∧ task' ≠ .done (.ok ())))
    (hended : task' = .done (.ok ()) ∨ task' ∈ u'.tasks)
    (hfailed : u.Failed → u'.Failed) (houtcome : u'.outcome? = u.outcome?) :
    Upkeep specs (Up s') u' := by
  obtain ⟨spec, hspec, hbrings⟩ := h.brings task hmem
  refine ⟨fun x hx => ?_, h.covered.imp hfailed fun hcovered => ?_, ?_⟩
  · rcases hnew x hx with hx | ⟨rfl, hne⟩
    · exact h.brings x hx
    · rcases hraises.brings hspec hbrings hadvance with ⟨hdone, _⟩ | hbrings'
      · exact absurd hdone hne
      · exact ⟨spec, hspec, hbrings'⟩
  · intro other hother
    rcases hcovered other hother with ⟨x, hx, hx'⟩ | hup
    · rcases hleft x hx with rfl | hmem'
      · rcases hraises.brings hother hx' hadvance with ⟨_, hup⟩ | hbrings'
        · exact .inr hup
        · rcases hended with hdone | hleft'
          · rw [hdone] at hbrings'
            exact hbrings'.elim
          · exact .inl ⟨task', hleft', hbrings'⟩
      · exact .inl ⟨x, hmem', hx'⟩
    · exact .inr (hraises.keeps hspec hbrings hadvance other hother hup)
  · intro ho
    exact absurd (houtcome ▸ ho) (h.outcome_ne hmem)

/-- A turn keeps account of what has been brought and what is left to bring. -/
theorem turn (hraises : Raises handler specs Up) (h : Upkeep specs (Up s) u) (t : Turn) :
    Upkeep specs (Up (turn handler t u s).2) (turn handler t u s).1 := by
  have hturned := turned_turn handler t u s
  generalize (Underway.turn handler t u s).1 = u', (Underway.turn handler t u s).2 = s'
    at hturned ⊢
  cases hturned with
  | idle _ => exact h
  | moduleUp _ hm ha =>
    exact h.advance hraises (by grind) ha (by grind) (by grind) (.inl rfl) id rfl
  | moduleFailed _ _ ha => exact h.fail (by grind) ⟨_, .inl rfl⟩ (by simp)
  | moduleGoesOn _ hm ha hd =>
    exact h.advance hraises (by grind) ha (by grind) (by grind) (.inr (by grind)) id rfl
  | @sidecarEnded first later task o _ hs ha =>
    have hmem : task ∈ u.tasks := by grind
    cases o with
    | ok _ =>
      refine h.advance hraises hmem ha (by grind) (by grind) (.inl rfl) (fun hf => ?_) rfl
      obtain ⟨e, he⟩ := hf
      exact ⟨e, he.imp_right fun hmem => List.mem_append_left _ hmem⟩
    | error e =>
      refine h.fail (by grind) ⟨e, .inr ?_⟩ (h.outcome_ne hmem)
      exact List.mem_append_right _ (List.mem_singleton_self _)
  | sidecarGoesOn hs ha hd =>
    exact h.advance hraises (by grind) ha (by grind) (by grind) (.inr (by grind)) id rfl
  | notedUp ho _ he =>
    refine ⟨h.brings, h.covered.imp_left fun hf => ?_, fun ho' => ?_⟩
    · obtain ⟨e, ho' | hmem⟩ := hf
      · exact ⟨e, .inl ho'⟩
      · rw [he] at hmem
        exact ⟨e, .inr (List.mem_of_ne_of_mem (by simp) hmem)⟩
    · rw [ho] at ho'
      cases ho'
  | notedFailure _ _ _ => exact h.fail (fun x hx => hx) ⟨_, .inl rfl⟩ (by simp)
  | finished ho hm he hs =>
    refine ⟨h.brings, h.covered.imp_left fun hf => ?_, fun _ => ⟨?_, he⟩⟩
    · obtain ⟨e, ho' | hmem⟩ := hf
      · rw [ho] at ho'
        cases ho'
      · rw [he] at hmem
        exact absurd hmem List.not_mem_nil
    · simp [tasks, hm, hs]
  | givenUp ho hs => exact h.fail (by grind) ⟨_, .inl ho⟩ (by simp [ho])

theorem turns (hraises : Raises handler specs Up) (h : Upkeep specs (Up s) u) (ts : List Turn) :
    Upkeep specs (Up (turns handler ts u s).2) (turns handler ts u s).1 := by
  induction ts generalizing u s with
  | nil => exact h
  | cons t rest ih => exact ih (h.turn hraises t)

end Upkeep

end Underway

end Fleet.Deployment
