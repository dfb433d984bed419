import Fleet.Proofs.Deployment.Bringing
import Fleet.Proofs.Deployment.Creations
import Fleet.Proofs.Deployment.Removal
import Fleet.Proofs.Rehearsal.ContainerRuns

/-!
# A pass is removed, and nothing else

The containers of a pass are those whose name contains the profile's stem and whose labels name the
profile and the pass (`OfPass`); how they came about does not matter. Whatever a runtime has been
used for, removing a pass succeeds, removes exactly its containers and leaves all others as they
are, so that there is nothing left to remove a second time (`Removed`).

Every container that a deployment creates is of the pass of its module's kind. So the removal of
both passes leaves nothing of any deployments of one profile, whether they succeeded, failed, or
were given up in the middle. `undeploy_exact` states both.
-/

namespace Fleet

namespace Deployment

/-- A container belongs to a pass. -/
structure OfPass (n : Naming) (kind : ModuleKind) (c : HeldContainer) : Prop where
  name : ∃ front back, c.spec.name = front ++ n.stem ++ back
  profile : c.spec.labels.find? Label.profile = some n.profile
  kind : c.spec.labels.find? Label.kind = some kind.text

variable {n : Naming} {kind : ModuleKind} {c : HeldContainer}

theorem removes_iff : removes n kind c = true ↔ OfPass n kind c := by
  have hname : Text.contains c.spec.name n.stem = true ↔
      ∃ front back, c.spec.name = front ++ n.stem ++ back := by
    rw [Text.contains_iff]
    constructor
    · rintro ⟨front, back, h⟩
      refine ⟨String.ofList front, String.ofList back, String.toList_injective ?_⟩
      rw [← h]
      simp
    · rintro ⟨front, back, h⟩
      exact ⟨front.toList, back.toList, by rw [h]; simp⟩
  rw [removes, belongsTo, Bool.and_eq_true, Bool.and_eq_true, beq_iff_eq, beq_iff_eq, hname]
  exact ⟨fun h => ⟨h.2, h.1.1, h.1.2⟩, fun h => ⟨⟨h.profile, h.kind⟩, h.name⟩⟩

/-- What the removal of a pass answers and leaves. -/
structure Removed (n : Naming) (kind : ModuleKind) (before : RunState Rehearsal)
    (names : List String) (after : RunState Rehearsal) : Prop where
  ascending : names.Pairwise (· < ·)
  /-- The names of the containers of the pass are answered. -/
  answers : ∀ name, name ∈ names ↔
    ∃ c, before.services.containers.containers.find? name = some c ∧ OfPass n kind c
  /-- The other containers are left, each as it was. -/
  leaves : ∀ name c, after.services.containers.containers.find? name = some c ↔
    before.services.containers.containers.find? name = some c ∧ ¬ OfPass n kind c
  /-- Nothing but the containers is changed. -/
  frame : ∃ containers, after = before.holding
    { before.services.containers with containers := containers }

/-! ## Removing a pass -/

/-- The names of the containers that satisfy a test are the keys under which they are kept, so they
ascend. -/
theorem ascending_names {store : ContainerStore} (h : store.Sound) (p : HeldContainer → Bool) :
    ((store.containers.values.filter p).map (·.spec.name)).Pairwise (· < ·) := by
  have hnames : (store.containers.values.filter p).map (·.spec.name) =
      (store.containers.filter fun _ c => p c).keys := by
    rw [Table.values, List.filter_map, List.map_map]
    exact List.map_congr_left fun e he => h.named e (List.mem_filter.1 he).1
  rw [hnames, Table.keys, List.pairwise_map]
  exact (store.containers.filter fun _ c => p c).ascending.imp
    fun hlt => compareOfLessAndEq_eq_lt.1 hlt

variable {listing : List ListingEntry} {token : Token} {s : RunState Rehearsal}

theorem removed_without (h : s.services.containers.Sound) : Removed n kind s
    ((s.services.containers.containers.values.filter (removes n kind)).map (·.spec.name))
    (s.holding (s.services.containers.without (removes n kind))) where
  ascending := ascending_names h _
  answers name := by
    rw [List.mem_map]
    constructor
    · rintro ⟨c, hc, rfl⟩
      obtain ⟨hvalue, hremoves⟩ := List.mem_filter.1 hc
      obtain ⟨e, he, rfl⟩ := List.mem_map.1 hvalue
      refine ⟨e.2, Table.mem_entries_iff.1 ?_, removes_iff.1 hremoves⟩
      rw [h.named e he]
      exact he
    · rintro ⟨c, hfind, hpass⟩
      have hentry := Table.mem_entries_iff.2 hfind
      exact ⟨c, List.mem_filter.2 ⟨List.mem_map_of_mem hentry, removes_iff.2 hpass⟩,
        h.named _ hentry⟩
  leaves name c := by
    refine Table.find?_filter.trans (and_congr_right fun _ => ?_)
    rw [← removes_iff, Bool.not_eq_true, Bool.not_eq_true']
  frame := ⟨_, rfl⟩

/-- When a pass has been removed, there is nothing of it left to remove. -/
theorem run_undeploy_again (h : s.services.containers.Sound) :
    let after := s.holding (s.services.containers.without (removes n kind))
    Program.run (Rehearsal.collaborators listing token).handler (undeploy n kind).run after =
      (.ok [], after) := by
  intro after
  have hnone : (s.services.containers.without (removes n kind)).containers.values.filter
      (removes n kind) = [] := by
    refine List.filter_eq_nil_iff.2 fun c hc => ?_
    obtain ⟨e, he, rfl⟩ := List.mem_map.1 hc
    simpa using (List.mem_filter.1 he).2
  have hsame : (s.services.containers.without (removes n kind)).without (removes n kind) =
      s.services.containers.without (removes n kind) := by
    rw [ContainerStore.without_without]
    simp only [Bool.or_self]
  rw [run_undeploy listing token n kind after (h.numbered.without _)]
  show (Except.ok (((s.services.containers.without (removes n kind)).containers.values.filter
    (removes n kind)).map (·.spec.name)), s.holding
      ((s.services.containers.without (removes n kind)).without (removes n kind))) = _
  rw [hnone, hsame]
  rfl

/-! ## Deployments before -/

/-- A deployment of a pass. -/
structure Deploying where
  environment : EnvironmentContext
  pass : Pass
  /-- The turns that the tasks take. Without them, everything is started in order. -/
  turns? : Option (List Turn)
  /-- The names whose creation fails meanwhile. -/
  failing : List String

/-- What a deployment leaves, however far it gets. -/
def Deploying.leaves (handler : Handler Call.Answer (RunState Rehearsal)) (b : Blueprint)
    (d : Deploying) (s : RunState Rehearsal) : RunState Rehearsal :=
  let b := { b with environment := d.environment }
  let s := s.holding { s.services.containers with failing := d.failing }
  match d.turns? with
  | none => (Program.run handler (deploy b d.pass).run s).2
  | some ts => (Underway.turns handler ts (.start b d.pass.deployable) s).2

/-- Every container that is kept is of one of the passes of a profile. -/
structure OfPasses (n : Naming) (s : RunState Rehearsal) : Prop where
  numbered : s.services.containers.Numbered
  passes : ∀ e ∈ s.services.containers.containers.entries, ∃ kind, removes n kind e.2 = true

/-- Deployments of a profile create containers of its passes. -/
theorem served_ofPasses (listing : List ListingEntry) (token : Token) (b : Blueprint)
    (ds : List Descriptor) :
    (creating (ds.flatMap b.specsOf)).Served (Rehearsal.collaborators listing token).handler
      (OfPasses b.naming) := by
  rintro call s (⟨image, auth, rfl⟩ | ⟨spec, hspec, rfl⟩) h
  · obtain ⟨pulls, hservices⟩ := Rehearsal.services_ensureImage listing token auth image s
    refine ⟨trivial, ?_⟩
    show OfPasses b.naming ((Rehearsal.collaborators listing token).ensureImage auth image s).2
    constructor <;> rw [hservices]
    · exact ⟨h.numbered.given, h.numbered.distinct⟩
    · exact h.passes
  · refine ⟨trivial, h.numbered.create spec, fun e he => ?_⟩
    rcases ContainerStore.mem_create he with ⟨_, hnew⟩ | he
    · obtain ⟨d, _, hmem⟩ := List.mem_flatMap.1 hspec
      exact ⟨d.kind, removes_of_mem_specsOf (hnew ▸ hmem)⟩
    · exact h.passes e he

theorem OfPasses.leaves {b : Blueprint} (h : OfPasses b.naming s) (d : Deploying) :
    OfPasses b.naming (d.leaves (Rehearsal.collaborators listing token).handler b s) := by
  let b' := { b with environment := d.environment }
  have hserved := served_ofPasses listing token b' d.pass.deployable
  have hstart : OfPasses b'.naming
      (s.holding { s.services.containers with failing := d.failing }) :=
    ⟨⟨h.numbered.given, h.numbered.distinct⟩, h.passes⟩
  unfold Deploying.leaves
  cases d.turns? with
  | none =>
    have hdeploy : (deploy b' d.pass).Within (creating (d.pass.deployable.flatMap b'.specsOf)) := by
      refine within_deploy (fun image auth => ?_) fun d' hd' spec hspec => ?_
      · exact .inl ⟨image, auth, rfl⟩
      · exact .inr ⟨spec, List.mem_flatMap.2 ⟨d', hd', hspec⟩, rfl⟩
    exact (hdeploy.run.run hserved hstart).2
  | some ts => exact ((within_creating b' d.pass.deployable).turns hserved hstart ts).2

theorem OfPasses.leavesAll {b : Blueprint} (h : OfPasses b.naming s) (ds : List Deploying) :
    OfPasses b.naming (ds.foldl
      (fun s d => d.leaves (Rehearsal.collaborators listing token).handler b s) s) := by
  induction ds generalizing s with
  | nil => exact h
  | cons d rest ih => exact ih (h.leaves d)

/-- Whatever a runtime has been used for, removing a pass succeeds and removes exactly its
containers, and nothing is left to be done by removing it again. And if a runtime keeps no container
at first, then whatever deployments of one profile come to, removing both passes leaves none. -/
theorem undeploy_exact (listing : List ListingEntry) (token : Token) (images : ImageCache)
    (services : Rehearsal) :
    let handler := (Rehearsal.collaborators listing token).handler
    (∀ (uses : List ContainerStore.Use) (n : Naming) (kind : ModuleKind),
      let before := RunState.holding ⟨images, services⟩ (.after uses)
      ∃ names after, Program.run handler (undeploy n kind).run before = (.ok names, after) ∧
        Removed n kind before names after ∧
        Program.run handler (undeploy n kind).run after = (.ok [], after)) ∧
    ∀ (b : Blueprint) (ds : List Deploying) (first : ModuleKind),
      let empty := RunState.holding ⟨images, services⟩
        { services.containers with containers := .empty }
      let deployed := ds.foldl (fun s d => d.leaves handler b s) empty
      ∃ names names' between after,
        Program.run handler (undeploy b.naming first).run deployed = (.ok names, between) ∧
        Program.run handler (undeploy b.naming first.other).run between = (.ok names', after) ∧
        after.services.containers.containers = .empty := by
  intro handler
  constructor
  · intro uses n kind before
    have hsound : before.services.containers.Sound := ContainerStore.sound_after uses
    exact ⟨_, _, run_undeploy listing token n kind before hsound.numbered, removed_without hsound,
      run_undeploy_again hsound⟩
  · intro b ds first empty deployed
    have hempty : OfPasses b.naming empty :=
      ⟨⟨fun e he => absurd he List.not_mem_nil, fun e he => absurd he List.not_mem_nil⟩,
        fun e he => absurd he List.not_mem_nil⟩
    have hdeployed : OfPasses b.naming deployed := hempty.leavesAll ds
    have hfirst := run_undeploy listing token b.naming first deployed hdeployed.numbered
    have hsecond := run_undeploy listing token b.naming first.other
      (deployed.holding (deployed.services.containers.without (removes b.naming first)))
      (hdeployed.numbered.without _)
    exact ⟨_, _, _, _, hfirst, hsecond, containers_without_passes hdeployed.passes first⟩

end Deployment

end Fleet
