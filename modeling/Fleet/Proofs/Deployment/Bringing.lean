import Fleet.Proofs.Deployment.Creations

/-!
# Tasks that bring a container

A task of a pass is to bring one container (`Brings`): it pulls images and then creates the
container, and the first failure that it is answered is how it ends. `Advances` lists what its next
call can come to, and `Brings.advances` says that these are all. Such a task makes a bounded number
of calls, whatever it is answered (`callsLeft`).
-/

namespace Fleet.Deployment

/-- A task that pulls images and then creates one container, which decides how it ends; a pull may
end it before with a failure. -/
def Brings (spec : ContainerSpec) : Task → Prop
  | .done (.ok ()) => False
  | .done (.error _) => True
  | .ask (.ensureImage _ _) next =>
    Brings spec (next (.ok ())) ∧ ∀ e, next (.error e) = .done (.error e)
  | .ask (.createContainer spec') next =>
    spec' = spec ∧ (∀ id, next (.ok id) = .done (.ok ())) ∧
      ∀ e, next (.error e) = .done (.error e)
  | .ask _ _ => False

variable {σ : Type} {handler : Handler Call.Answer σ} {spec : ContainerSpec} {task task' : Task}
  {s s' : σ}

theorem brings_startModule (b : Blueprint) (d : Descriptor) :
    Brings (b.moduleSpec d) (startModule b d).run := by
  unfold startModule
  split
  · exact ⟨rfl, fun _ => rfl, fun _ => rfl⟩
  · exact ⟨⟨rfl, fun _ => rfl, fun _ => rfl⟩, fun _ => rfl⟩

theorem brings_startSidecar (b : Blueprint) (spec : ContainerSpec) :
    Brings spec (startSidecar b spec).run :=
  ⟨⟨rfl, fun _ => rfl, fun _ => rfl⟩, fun _ => rfl⟩

/-- The calls that a task makes at most that is to bring a container. -/
def callsLeft : Task → Nat
  | .done _ => 0
  | .ask (.ensureImage _ _) next => callsLeft (next (.ok ())) + 1
  | .ask _ _ => 1

theorem callsLeft_startModule (b : Blueprint) (d : Descriptor) :
    callsLeft (startModule b d).run ≤ 2 := by
  unfold startModule
  split
  · exact Nat.le_succ 1
  · exact Nat.le_refl 2

theorem callsLeft_startSidecar (b : Blueprint) (spec : ContainerSpec) :
    callsLeft (startSidecar b spec).run = 2 := rfl

/-- What the next call of a task can come to that is to bring a container. -/
inductive Advances (handler : Handler Call.Answer σ) (spec : ContainerSpec) (task : Task) (s : σ)
    (task' : Task) (s' : σ) : Prop
  /-- The task has failed before. -/
  | ended {e : Failure} (ht : task = .done (.error e)) (ht' : task' = .done (.error e))
      (hs : s' = s)
  | pulled {image : String} {auth : Option Config.RegistryAuth}
      (hcall : handler (.ensureImage image auth) s = (.ok (), s')) (hbrings : Brings spec task')
      (hless : callsLeft task' < callsLeft task)
  | pullFailed {image : String} {auth : Option Config.RegistryAuth} {e : Failure}
      (hcall : handler (.ensureImage image auth) s = (.error e, s'))
      (ht' : task' = .done (.error e))
  | created {id : String} (hcall : handler (.createContainer spec) s = (.ok id, s'))
      (ht' : task' = .done (.ok ()))
  | refused {e : Failure} (hcall : handler (.createContainer spec) s = (.error e, s'))
      (ht' : task' = .done (.error e))

theorem Brings.advances (h : Brings spec task) (ha : task.advance handler s = (task', s')) :
    Advances handler spec task s task' s' := by
  cases task with
  | done o =>
    cases ha
    cases o with
    | ok _ => exact h.elim
    | error e => exact .ended rfl rfl rfl
  | ask call next =>
    cases call with
    | ensureImage image auth =>
      rcases hcall : handler (.ensureImage image auth) s with ⟨e | _, t⟩ <;>
        rw [Program.advance, hcall] at ha <;> cases ha
      · exact .pullFailed hcall (h.2 e)
      · exact .pulled hcall h.1 (Nat.lt_succ_self _)
    | createContainer spec' =>
      obtain ⟨rfl, hok, herror⟩ := h
      rcases hcall : handler (.createContainer spec') s with ⟨e | id, t⟩ <;>
        rw [Program.advance, hcall] at ha <;> cases ha
      · exact .refused hcall (herror e)
      · exact .created hcall (hok id)
    | _ => exact h.elim

/-- A task goes on as such a task, unless it has created its container. -/
theorem Advances.brings (h : Advances handler spec task s task' s') :
    Brings spec task' ∨
      task' = .done (.ok ()) ∧ ∃ id, handler (.createContainer spec) s = (.ok id, s') := by
  cases h with
  | ended _ ht' _ => exact .inl (ht' ▸ trivial)
  | pulled _ hbrings _ => exact .inl hbrings
  | pullFailed _ ht' => exact .inl (ht' ▸ trivial)
  | created hcall ht' => exact .inr ⟨ht', _, hcall⟩
  | refused _ ht' => exact .inl (ht' ▸ trivial)

/-- A call that does not end the task leaves fewer calls to make. -/
theorem Advances.callsLeft_lt (h : Advances handler spec task s task' s')
    (hd : ∀ o, task' ≠ .done o) : callsLeft task' < callsLeft task := by
  cases h with
  | ended _ ht' _ => exact absurd ht' (hd _)
  | pulled _ _ hless => exact hless
  | pullFailed _ ht' => exact absurd ht' (hd _)
  | created _ ht' => exact absurd ht' (hd _)
  | refused _ ht' => exact absurd ht' (hd _)

/-- The calls of tasks that bring given containers. -/
def creating (specs : List ContainerSpec) : Contract Call.Answer where
  allows call := (∃ image auth, call = .ensureImage image auth) ∨
    ∃ spec ∈ specs, call = .createContainer spec
  expects _ _ := True

theorem Brings.keeps {specs : List ContainerSpec} (h : Brings spec task) (hspec : spec ∈ specs) :
    task.Keeps (creating specs) fun _ => True := by
  induction task with
  | done o => trivial
  | ask call next ih =>
    cases call with
    | ensureImage image auth =>
      refine ⟨.inl ⟨image, auth, rfl⟩, fun answer _ => ?_⟩
      cases answer with
      | ok _ => exact ih _ h.1
      | error e =>
        rw [h.2 e]
        trivial
    | createContainer spec' =>
      obtain ⟨rfl, hok, herror⟩ := h
      refine ⟨.inr ⟨spec', hspec, rfl⟩, fun answer _ => ?_⟩
      cases answer with
      | ok id =>
        rw [hok]
        trivial
      | error e =>
        rw [herror]
        trivial
    | _ => exact h.elim

/-- The tasks of a pass create the containers of its modules. -/
theorem within_creating (b : Blueprint) (ds : List Descriptor) :
    (Underway.start b ds).Within (creating (ds.flatMap b.specsOf)) := by
  refine Underway.within_start ?_ ?_
  · intro image auth
    exact .inl ⟨image, auth, rfl⟩
  · intro d hd spec hspec
    exact .inr ⟨spec, List.mem_flatMap.2 ⟨d, hd, hspec⟩, rfl⟩

end Fleet.Deployment
