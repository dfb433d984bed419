import Fleet.Proofs.Deployment.Upkeep
import Fleet.Proofs.Rehearsal.Containers

/-!
# How far a pass has come

While a pass is deployed in a rehearsal, containers of the pass come to run and nothing else changes
(`Grown`), and a container that has been brought stays up, unless another one of its name takes its
place (`raises_nameUp`). So when the pass has ended well, a container of each name is up.

Which one it is, where two containers of the pass have one name, depends on the order of turns.
-/

namespace Fleet.Deployment

/-- The container that is kept under a name. -/
def held (s : RunState Rehearsal) (name : String) : Option HeldContainer :=
  s.services.containers.containers.find? name

/-- A container runs under its name, exactly as its spec says. -/
def Runs (s : RunState Rehearsal) (spec : ContainerSpec) : Prop :=
  ∃ id, held s spec.name = some ⟨id, spec, true⟩

/-- Under every name is what was there before, or one of the given containers runs. -/
def Grown (specs : List ContainerSpec) (s s' : RunState Rehearsal) : Prop :=
  ∀ name, held s' name = held s name ∨ ∃ spec ∈ specs, spec.name = name ∧ Runs s' spec

namespace Grown

variable {specs : List ContainerSpec} {s s' s'' : RunState Rehearsal}

theorem refl (specs : List ContainerSpec) (s : RunState Rehearsal) : Grown specs s s :=
  fun _ => .inl rfl

/-- What runs goes on running, unless a given container of its name takes its place. -/
theorem up (h : Grown specs s s') {spec : ContainerSpec} (hspec : spec ∈ specs)
    (hruns : Runs s spec) : ∃ spec' ∈ specs, spec'.name = spec.name ∧ Runs s' spec' := by
  rcases h spec.name with heq | hother
  · obtain ⟨id, hid⟩ := hruns
    exact ⟨spec, hspec, rfl, id, heq.trans hid⟩
  · exact hother

theorem trans (h : Grown specs s s') (h' : Grown specs s' s'') : Grown specs s s'' := by
  intro name
  rcases h' name with heq' | hother'
  · rcases h name with heq | ⟨spec, hspec, rfl, id, hid⟩
    · exact .inl (heq'.trans heq)
    · exact .inr ⟨spec, hspec, rfl, id, heq'.trans hid⟩
  · exact .inr hother'

end Grown

section Calls

variable (listing : List ListingEntry) (token : Token)

theorem held_ensureImage (image : String) (auth : Option Config.RegistryAuth)
    (s : RunState Rehearsal) (name : String) :
    held ((Rehearsal.collaborators listing token).handler (.ensureImage image auth) s).2 name =
      held s name := by
  obtain ⟨pulls, hservices⟩ := Rehearsal.services_ensureImage listing token auth image s
  show held ((Rehearsal.collaborators listing token).ensureImage auth image s).2 name = held s name
  rw [held, hservices, held]

/-- A creation succeeds, and then the container runs; or it fails, and nothing has changed. -/
theorem createContainer_cases (spec : ContainerSpec) (s : RunState Rehearsal) :
    (∃ id s', (Rehearsal.collaborators listing token).handler (.createContainer spec) s =
      (.ok id, s') ∧
      ∀ name, held s' name = if name = spec.name then some ⟨id, spec, true⟩ else held s name) ∨
    ∃ e, (Rehearsal.collaborators listing token).handler (.createContainer spec) s =
      (.error e, s) := by
  let step := s.services.containers.create spec
  have hstep : (Rehearsal.collaborators listing token).handler (.createContainer spec) s =
      (step.1, { s with services := { s.services with containers := step.2 } }) := rfl
  rw [hstep]
  simp only [step, ContainerStore.create]
  split
  · exact .inr ⟨_, rfl⟩
  · exact .inl ⟨_, _, rfl, fun name => Table.find?_insert _ _ _ _⟩

end Calls

section Tasks

variable {listing : List ListingEntry} {token : Token} {specs : List ContainerSpec}

/-- Creating given containers changes nothing else. -/
theorem served_grown (listing : List ListingEntry) (token : Token) (specs : List ContainerSpec)
    (before : RunState Rehearsal) :
    (creating specs).Served (Rehearsal.collaborators listing token).handler
      (Grown specs before) := by
  rintro call s (⟨image, auth, rfl⟩ | ⟨spec, hspec, rfl⟩) hgrown
  · refine ⟨trivial, hgrown.trans fun name => .inl ?_⟩
    exact held_ensureImage listing token image auth s name
  · refine ⟨trivial, ?_⟩
    rcases createContainer_cases listing token spec s with ⟨id, t, hcreate, hheld⟩ | ⟨e, hcreate⟩
    · rw [hcreate]
      refine hgrown.trans fun name => ?_
      by_cases hname : name = spec.name
      · exact .inr ⟨spec, hspec, hname.symm, id, by rw [hheld, if_pos rfl]⟩
      · exact .inl (by rw [hheld, if_neg hname])
    · rw [hcreate]
      exact hgrown

/-- A container of a spec's name runs, one of those that are given. -/
def NameUp (specs : List ContainerSpec) (s : RunState Rehearsal) (spec : ContainerSpec) : Prop :=
  ∃ spec' ∈ specs, spec'.name = spec.name ∧ Runs s spec'

/-- Tasks bring up containers of the names that they are to bring. -/
theorem raises_nameUp (listing : List ListingEntry) (token : Token) (specs : List ContainerSpec) :
    Raises (Rehearsal.collaborators listing token).handler specs (NameUp specs) where
  keeps := by
    rintro spec task s task' s' hspec hbrings hadvance other _ ⟨spec', hspec', hname, hruns⟩
    have hgrown := ((hbrings.keeps hspec).advance (served_grown listing token specs s)
      (.refl specs s)).2
    rw [hadvance] at hgrown
    obtain ⟨spec'', hspec'', hname', hruns'⟩ := hgrown.up hspec' hruns
    exact ⟨spec'', hspec'', hname'.trans hname, hruns'⟩
  brings := by
    intro spec task s task' s' hspec hbrings hadvance
    rcases (hbrings.advances hadvance).brings with hbrings' | ⟨hdone, id, hcall⟩
    · exact .inr hbrings'
    · rcases createContainer_cases listing token spec s with
        ⟨id', t, hcreate, hheld⟩ | ⟨e, hcreate⟩ <;> rw [hcreate] at hcall <;> cases hcall
      exact .inl ⟨hdone, spec, hspec, rfl, _, by rw [hheld, if_pos rfl]⟩

end Tasks

end Fleet.Deployment
