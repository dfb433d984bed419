import Fleet.Proofs.Deployment.Ending
import Fleet.Proofs.Deployment.Installation
import Fleet.Proofs.Deployment.Standing

/-!
# Deployments fail fast

In a rehearsal, the creation of a container fails if and only if its name is one of those that are
laid down to fail. So the outcome of a pass does not depend on the order of turns: it is well if and
only if no container of the pass is to fail (`Passage.ok_iff`), be it a module's or that of a
sidecar, and starting everything in order is no exception (`run_deploy_ok_iff`).

What is created before a failure does depend on the order of turns, within the bounds that
`FailsFast` states of every order (`turns_failsFast`): behind a module that fails nothing is created
that belongs to it or to a later module, a sidecar is created behind its module, and a pass that has
ended well has nothing left to do. The bound on the turns makes sure that every order comes to an
end.
-/

namespace Fleet

namespace Pass

theorem deployable_sublist (kind : ModuleKind) (resolved : Table String Descriptor) :
    (ofKind kind resolved).deployable.Sublist resolved.values :=
  List.filter_sublist.trans (List.filter_sublist.map _)

end Pass

namespace Resolver

/-- Resolved modules are in name order. -/
theorem resolve_ascending {r : Resolver} {entries : List (String × ModuleSpec)}
    {listing : List ListingEntry} {a b : PortAllocator} {t : Table String Descriptor}
    (h : r.resolve entries listing a = (.ok t, b)) :
    t.values.Pairwise fun d d' => d.name < d'.name := by
  obtain ⟨_, _, hphases⟩ := resolve_phases h
  have hascending := t.ascending
  rw [hphases.entries_eq, Ascending, List.pairwise_map] at hascending
  exact hascending.imp fun hlt => compareOfLessAndEq_eq_lt.1 hlt

end Resolver

/-- Whether the creation of a container fails is a matter of its name. -/
theorem ContainerStore.create_failing (store : ContainerStore) (spec : ContainerSpec) :
    (store.create spec).2.failing = store.failing ∧
      ((store.create spec).1.toBool = true ↔ spec.name ∉ store.failing) := by
  unfold create
  split
  · next h => exact ⟨rfl, by simpa [Except.toBool] using h⟩
  · next h => exact ⟨rfl, by simpa [Except.toBool] using h⟩

namespace Deployment

open Program

variable {listing : List ListingEntry} {token : Token} {b : Blueprint} {ds : List Descriptor}
  {s s' : RunState Rehearsal} {events : List Event} {o : Outcome Unit}

/-- The names whose creation fails. -/
abbrev failing (s : RunState Rehearsal) : List String := s.services.containers.failing

theorem failing_ensureImage (listing : List ListingEntry) (token : Token) (image : String)
    (auth : Option Config.RegistryAuth) (s : RunState Rehearsal) :
    ((Rehearsal.collaborators listing token).handler (.ensureImage image auth) s).1 = .ok () ∧
      failing ((Rehearsal.collaborators listing token).handler (.ensureImage image auth) s).2 =
        failing s := by
  simp only [Collaborators.handler, Collaborators.ensureImage, ImageCache.ensure]
  split <;> exact ⟨rfl, rfl⟩

theorem failing_createContainer (listing : List ListingEntry) (token : Token)
    (spec : ContainerSpec) (s : RunState Rehearsal) :
    failing ((Rehearsal.collaborators listing token).handler (.createContainer spec) s).2 =
        failing s ∧
      (((Rehearsal.collaborators listing token).handler (.createContainer spec) s).1.toBool = true ↔
        spec.name ∉ failing s) :=
  s.services.containers.create_failing spec

/-- Creations were answered as their names say. -/
def AnsweredByName (names : List String) (events : List Event) : Prop :=
  ∀ spec answer, ⟨.createContainer spec, answer⟩ ∈ events →
    (answer.toBool = true ↔ spec.name ∉ names)

theorem AnsweredByName.append_singleton {names : List String} {e : Event}
    (h : AnsweredByName names events) (he : AnsweredByName names [e]) :
    AnsweredByName names (events ++ [e]) := fun spec answer hmem =>
  (List.mem_append.1 hmem).elim (h spec answer) (he spec answer)

theorem served_answeredByName (listing : List ListingEntry) (token : Token)
    (specs : List ContainerSpec) (names : List String) :
    (creating specs).Served (recording (Rehearsal.collaborators listing token).handler)
      fun t => failing t.1 = names ∧ AnsweredByName names t.2 := by
  rintro call t (⟨image, auth, rfl⟩ | ⟨spec, hspec, rfl⟩) ⟨hfailing, hanswered⟩
  · have hstep := failing_ensureImage listing token image auth t.1
    refine ⟨trivial, hstep.2.trans hfailing, hanswered.append_singleton fun _ _ hmem => ?_⟩
    cases List.mem_singleton.1 hmem
  · have hstep := failing_createContainer listing token spec t.1
    refine ⟨trivial, hstep.1.trans hfailing, hanswered.append_singleton fun _ _ hmem => ?_⟩
    cases List.mem_singleton.1 hmem
    exact hfailing ▸ hstep.2

/-- In every order of turns, creations are answered as their names say. -/
theorem answeredByName_turns (listing : List ListingEntry) (token : Token) (b : Blueprint)
    (ds : List Descriptor) (s : RunState Rehearsal) (ts : List Turn) :
    AnsweredByName (failing s)
      (Underway.turns (recording (Rehearsal.collaborators listing token).handler) ts (.start b ds)
        (s, [])).2.2 :=
  ((within_creating b ds).turns (served_answeredByName listing token _ (failing s)) (s := (s, []))
    ⟨rfl, fun _ _ hmem => absurd hmem List.not_mem_nil⟩ ts).2.2

/-- The contract by which no creation and no pull fails. -/
def unfailing (specs : List ContainerSpec) : Contract Call.Answer where
  allows := (creating specs).allows
  expects call answer := ∀ e, ¬ call.Fails answer e

theorem served_unfailing (listing : List ListingEntry) (token : Token)
    {specs : List ContainerSpec} {names : List String} (hfree : ∀ spec ∈ specs, spec.name ∉ names) :
    (unfailing specs).Served (recording (Rehearsal.collaborators listing token).handler)
      fun t => failing t.1 = names := by
  rintro call t (⟨image, auth, rfl⟩ | ⟨spec, hspec, rfl⟩) hfailing
  · have hstep := failing_ensureImage listing token image auth t.1
    refine ⟨fun e he => ?_, hstep.2.trans hfailing⟩
    cases hstep.1.symm.trans he
  · have hstep := failing_createContainer listing token spec t.1
    refine ⟨fun e he => ?_, hstep.1.trans hfailing⟩
    have hok := hstep.2.2 (hfailing ▸ hfree spec hspec)
    have herror : ((Rehearsal.collaborators listing token).handler (.createContainer spec) t.1).1 =
        .error e := he
    rw [herror] at hok
    cases hok

/-- A pass ends well if and only if no container of it is to fail. -/
theorem Passage.ok_iff
    (h : Passage (Rehearsal.collaborators listing token).handler b ds s events o s') :
    o = .ok () ↔ ∀ spec ∈ ds.flatMap b.specsOf, spec.name ∉ failing s := by
  constructor
  · rintro rfl spec hspec
    obtain ⟨id, hid⟩ := h.created spec hspec
    obtain ⟨ts, u, hturns, -⟩ := h
    have hanswered := answeredByName_turns listing token b ds s ts
    rw [hturns] at hanswered
    exact (hanswered spec _ hid).1 rfl
  · intro hfree
    obtain ⟨ts, u, hturns, houtcome⟩ := h
    have hstart : (Underway.start b ds).FailsOnly (unfailing (ds.flatMap b.specsOf))
        fun _ => False := by
      refine Underway.failsOnly_start ?_ ?_ fun d hd spec hspec => ?_
      · exact fun call answer e _ hsound hfails => hsound e hfails
      · exact fun image auth => .inl ⟨image, auth, rfl⟩
      · exact .inr ⟨spec, List.mem_flatMap.2 ⟨d, hd, hspec⟩, rfl⟩
    have hturned := (hstart.turns (served_unfailing listing token hfree) (s := (s, [])) rfl ts).1
    rw [hturns] at hturned
    cases o with
    | ok _ => rfl
    | error e => exact (hturned.outcome e houtcome).elim

/-- Deploying in order succeeds if and only if no container of the pass is to fail. -/
theorem run_deploy_ok_iff (listing : List ListingEntry) (token : Token) (b : Blueprint) (p : Pass)
    (s : RunState Rehearsal) :
    (Program.run (Rehearsal.collaborators listing token).handler (deploy b p).run s).1 =
        .ok p.ports ↔
      ∀ spec ∈ p.deployable.flatMap b.specsOf, spec.name ∉ failing s := by
  have hpassage := passage_startAll
    (course_self (Rehearsal.collaborators listing token).handler (startAll b p.deployable).run s)
  rw [← hpassage.ok_iff, deploy, Program.run_bind_except]
  rcases Program.run _ (startAll b p.deployable).run s with ⟨e | _, t⟩
  · simp
  · simp

/-- What holds of a pass whose tasks have taken turns, if the creation of some names fails. -/
structure FailsFast (b : Blueprint) (ds : List Descriptor) (names : List String) (u : Underway)
    (events : List Event) : Prop where
  /-- If the pass has ended, it has ended well if and only if no container of it is to fail. -/
  ends : ∀ o, u.outcome? = some o →
    (o = .ok () ↔ ∀ d ∈ ds, ∀ spec ∈ b.specsOf d, spec.name ∉ names)
  /-- If it has not ended, somebody can take a turn. -/
  goesOn : u.outcome? = none → ∃ t, Underway.isOpen t u = true
  answered : AnsweredByName names events
  /-- From a module on that is to fail, no container is created. -/
  cutOff : ∀ d ∈ ds, (b.moduleSpec d).name ∈ names → ∀ d' ∈ ds, d.name ≤ d'.name →
    ∀ spec ∈ b.specsOf d', ¬ Created events spec
  behind : SidecarsBehind b ds events
  /-- When the pass has ended well, every sidecar's task has. -/
  finished : u.outcome? = some (.ok ()) → u.tasks = [] ∧ u.ended = [] ∧
    ∀ d ∈ ds, ∀ spec ∈ b.specsOf d, Created events spec

/-- In every order of turns, the deployment of resolved modules fails fast, and it comes to an end.
-/
theorem turns_failsFast {r : Resolver} {entries : List (String × ModuleSpec)}
    {offered : List ListingEntry} {a a' : PortAllocator} {resolved : Table String Descriptor}
    (hresolve : r.resolve entries offered a = (.ok resolved, a')) (kind : ModuleKind)
    (listing : List ListingEntry) (token : Token) (b : Blueprint) (s : RunState Rehearsal)
    (ts : List Turn) :
    let ds := (Pass.ofKind kind resolved).deployable
    let handler := recording (Rehearsal.collaborators listing token).handler
    let after := Underway.turns handler ts (.start b ds) (s, [])
    FailsFast b ds (failing s) after.1 after.2.2 ∧
      Underway.taken handler ts (.start b ds) (s, []) ≤ 4 * (ds.flatMap b.specsOf).length + 1 := by
  intro ds handler after
  have hds : ds.Pairwise fun d d' => d.name < d'.name :=
    (Resolver.resolve_ascending hresolve).sublist (Pass.deployable_sublist kind resolved)
  have hnames : ∀ d ∈ ds, ∀ d' ∈ ds, d.name = d'.name → d = d' := fun d hd d' hd' =>
    Resolver.eq_of_name hresolve ((Pass.deployable_sublist kind resolved).subset hd)
      ((Pass.deployable_sublist kind resolved).subset hd')
  have hanswered := answeredByName_turns listing token b ds s ts
  have hupkeep := (Underway.upkeep_start b ds (Created [])).turns
    (raises_created (Rehearsal.collaborators listing token).handler _) (s := (s, [])) ts
  obtain ⟨up, rest, hstanding⟩ := (Standing.start b ds).turns
    (Rehearsal.collaborators listing token).handler hnames ts (t := (s, []))
  refine ⟨⟨fun o ho => ?_, Underway.exists_isOpen, hanswered, fun d hd hfails d' hd' hle => ?_,
    hstanding.created.behind, fun ho => ?_⟩, Underway.taken_start_le handler b ds ts (s, [])⟩
  · have hpassage : Passage (Rehearsal.collaborators listing token).handler b ds s after.2.2 o
        after.2.1 := ⟨ts, after.1, rfl, ho⟩
    rw [hpassage.ok_iff, List.forall_mem_flatMap]
  · refine fun spec hspec => hstanding.not_created hds hd (fun hup => ?_) hle hspec
    obtain ⟨id, hid⟩ := hstanding.created.modules d hup
    exact (hanswered _ _ hid).1 rfl hfails
  · obtain ⟨htasks, hended⟩ := hupkeep.finished ho
    refine ⟨htasks, hended, fun d hd spec hspec => hupkeep.up_of_ok ho spec ?_⟩
    exact List.mem_flatMap.2 ⟨d, hd, hspec⟩

/-- A rehearsal in which the second of two modules is to fail. -/
def secondFails : RunState Rehearsal :=
  .fresh { containers := {
    failing := [(Blueprint.ofConfig {} none).naming.moduleContainer "mod-b"] } }

/-- The first module is up and its sidecar is being started when the second module fails; the
sidecar's task does not notice at once. -/
def failingTurns : List Turn :=
  [.modules, .modules, .sidecar 0, .modules, .modules, .sidecar 0, .giveUp 0, .join]

/-- The second module fails the pass, in which the first one and its sidecar are up. -/
theorem failsFast_pair :
    let ds := (pairPass "mod-a" "mod-b").deployable
    let after := Underway.turns (recording (Rehearsal.collaborators [] ⟨"root"⟩).handler)
      failingTurns (.start (.ofConfig {} none) ds) (secondFails, [])
    (pairResolution "mod-a" "mod-b").1.toBool = true ∧
    after.1.outcome?.map Except.toBool = some false ∧
    after.2.1.services.containers.containers.values.map (fun c => c.spec.hostname) =
      ["mod-a", "mod-a-sc"] ∧
    FailsFast (.ofConfig {} none) ds (failing secondFails) after.1 after.2.2 := by
  have hresolve : (pairResolution "mod-a" "mod-b").1 =
      .ok ((pairResolution "mod-a" "mod-b").1.toOption.getD .empty) :=
    eq_ok_of_toBool (by decide +kernel) _
  refine ⟨by decide +kernel, by decide +kernel, by decide +kernel, ?_⟩
  exact (turns_failsFast (Prod.ext hresolve rfl) .business [] ⟨"root"⟩ (.ofConfig {} none)
    secondFails failingTurns).1

end Deployment

end Fleet
