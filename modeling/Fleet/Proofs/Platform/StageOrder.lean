import Fleet.Proofs.Platform.StageCourses

/-!
# The order of the stages

The way up goes through its stages in order, up to the first that fails (`InStages`). So the calls
of a stage are made only when every earlier stage is completed, a failure of a stage is the outcome,
and no later stage makes a call (`Staged`).

`deployApplication_inStages` says so for all answers of the services, and for every order in which
the tasks of the two passes take turns, those that start sidecars and those that await ports. In
particular nothing is registered and no tenant is touched unless every port that the passes publish
has answered and the gateway is ready.
-/

namespace Fleet.Platform

open Program

variable {σ : Type} {handler : Handler Call.Answer σ} {p : Platform} {b : Blueprint}
  {m : Manners} {resolved : Table String Descriptor} {stages more : List Stage} {s t s' : σ}
  {events : List Event} {segments later : List (Stage × List Event)} {o : Outcome Unit}

/-! ## Going through stages -/

/-- Stages go by in order, up to the first that fails; each has its own events. -/
inductive InStages (handler : Handler Call.Answer σ) (m : Manners) (p : Platform) (b : Blueprint)
    (resolved : Table String Descriptor) :
    List Stage → σ → List (Stage × List Event) → Outcome Unit → σ → Prop
  | done {s : σ} : InStages handler m p b resolved [] s [] (.ok ()) s
  | next {stage : Stage} {rest : List Stage} {s t s' : σ} {events : List Event}
      {later : List (Stage × List Event)} {o : Outcome Unit}
      (hstage : stage.Course handler m p b resolved s events (.ok ()) t)
      (hrest : InStages handler m p b resolved rest t later o s') :
      InStages handler m p b resolved (stage :: rest) s ((stage, events) :: later) o s'
  | failed {stage : Stage} {rest : List Stage} {s s' : σ} {events : List Event} {e : Failure}
      (hstage : stage.Course handler m p b resolved s events (.error e) s') :
      InStages handler m p b resolved (stage :: rest) s
        ((stage, events) :: rest.map fun later => (later, [])) (.error e) s'

namespace InStages

theorem append (h : InStages handler m p b resolved stages s segments (.ok ()) t)
    (hmore : InStages handler m p b resolved more t later o s') :
    InStages handler m p b resolved (stages ++ more) s (segments ++ later) o s' := by
  generalize hok : (.ok () : Outcome Unit) = r at h
  induction h with
  | done => exact hmore
  | next hstage _ ih => exact .next hstage (ih hmore hok)
  | failed => cases hok

theorem extend {e : Failure} (h : InStages handler m p b resolved stages s segments (.error e) s')
    (more : List Stage) : InStages handler m p b resolved (stages ++ more) s
      (segments ++ more.map fun stage => (stage, [])) (.error e) s' := by
  generalize herror : (.error e : Outcome Unit) = r at h
  induction h with
  | done => cases herror
  | next hstage _ ih => exact .next hstage (ih herror)
  | @failed stage rest s s' events e' hstage =>
    have hfailed : InStages handler m p b resolved (stage :: (rest ++ more)) s _ _ s' :=
      .failed hstage
    rw [List.map_append] at hfailed
    exact hfailed

theorem stages_eq (h : InStages handler m p b resolved stages s segments o s') :
    segments.map (·.1) = stages := by
  induction h with
  | done => rfl
  | next _ _ ih => exact congrArg (_ :: ·) ih
  | @failed stage rest =>
    rw [List.map_cons, List.map_map]
    exact congrArg (stage :: ·) (List.map_id rest)

end InStages

/-- An action goes through stages, and awaits ports in rounds. -/
def GoesThrough (handler : Handler Call.Answer σ) (p : Platform) (b : Blueprint)
    (resolved : Table String Descriptor) (stages : List Stage) {α : Type} (a : Action α) : Prop :=
  ∀ s events r s', Course handler a.run s events r s' →
    ∃ segments, InStages handler .inRounds p b resolved stages s segments (ended r) s' ∧
      events = segments.flatMap (·.2)

theorem goesThrough_pure {α : Type} (v : α) :
    GoesThrough handler p b resolved [] (pure v : Action α) := by
  intro s events r s' h
  obtain ⟨rfl, rfl, rfl⟩ := Action.course_pure.1 h
  exact ⟨[], .done, rfl⟩

theorem GoesThrough.bind {α β : Type} {a : Action α} {f : α → Action β}
    (ha : GoesThrough handler p b resolved stages a)
    (hf : ∀ v, GoesThrough handler p b resolved more (f v)) :
    GoesThrough handler p b resolved (stages ++ more) (a >>= f) := by
  intro s events r s' h
  rcases Action.course_bind.1 h with ⟨e, rfl, hfirst⟩ | ⟨v, t, first, second, rfl, hfirst, hsecond⟩
  · obtain ⟨segments, hsegments, rfl⟩ := ha _ _ _ _ hfirst
    refine ⟨_, hsegments.extend more, ?_⟩
    rw [List.flatMap_append, List.flatMap_map, List.flatMap_eq_nil_iff.2 fun _ _ => rfl,
      List.append_nil]
  · obtain ⟨segments, hsegments, rfl⟩ := ha _ _ _ _ hfirst
    obtain ⟨later, hlater, rfl⟩ := hf v _ _ _ _ hsecond
    exact ⟨segments ++ later, hsegments.append hlater, List.flatMap_append.symm⟩

/-- An action that goes by as a stage does. -/
theorem goesThrough_stage {α : Type} {a : Action α} {stage : Stage}
    (h : ∀ s events r s', Course handler a.run s events r s' →
      stage.Course handler .inRounds p b resolved s events (ended r) s') :
    GoesThrough handler p b resolved [stage] a := by
  intro s events r s' hcourse
  have hstage := h s events r s' hcourse
  cases r with
  | ok v => exact ⟨[(stage, events)], .next hstage .done, (List.append_nil events).symm⟩
  | error e => exact ⟨[(stage, events)], .failed hstage, (List.append_nil events).symm⟩

theorem goesThrough_unit {a : Action Unit} {stage : Stage}
    (h : ∀ s events o s', Course handler a.run s events o s' →
      stage.Course handler .inRounds p b resolved s events o s') :
    GoesThrough handler p b resolved [stage] a := by
  refine goesThrough_stage fun s events o s' hcourse => ?_
  rw [ended_unit]
  exact h s events o s' hcourse

/-! ## The way up -/

theorem goesThrough_deployPass (kind : ModuleKind) :
    GoesThrough handler p b resolved [.containers kind, .probes kind]
      (p.deployPass b (.ofKind kind resolved)) := by
  unfold deployPass
  split
  · next hempty =>
    -- nothing is called, and both stages are over: there is no container and no port to wait for
    intro s events r s' h
    obtain ⟨rfl, rfl, rfl⟩ := Action.course_pure.1 h
    have hnone : (Pass.ofKind kind resolved).deployable = [] := Pass.isEmpty_iff.1 hempty
    have hstart : Course handler (Deployment.startAll b []).run s' [] (.ok ()) s' := ⟨rfl, rfl⟩
    have hcontainers : (Stage.containers kind).Course handler .inRounds p b resolved s' [] (.ok ())
        s' := by
      show Deployment.Passage handler b (Pass.ofKind kind resolved).deployable s' [] (.ok ()) s'
      rw [hnone]
      exact Deployment.passage_startAll hstart
    have hprobes : (Stage.probes kind).Course handler .inRounds p b resolved s' [] (.ok ()) s' := by
      simp only [Stage.Course, if_pos hempty]
      trivial
    exact ⟨_, .next hcontainers (.next hprobes .done), rfl⟩
  · next hsome =>
    rw [Deployment.deploy, LawfulMonad.bind_assoc]
    simp only [pure_bind]
    have hcontainers : GoesThrough handler p b resolved [.containers kind]
        (Deployment.startAll b (Pass.ofKind kind resolved).deployable) := by
      exact goesThrough_unit fun _ _ _ _ h => Deployment.passage_startAll h
    have hprobes : GoesThrough handler p b resolved [.probes kind]
        (Readiness.checkAll (.ofReadiness p.config.readiness) kind
          (Pass.ofKind kind resolved).ports) := by
      refine goesThrough_stage fun s events r s' h => ?_
      simp only [Stage.Course, if_neg hsome]
      exact ⟨r, rfl, .inRounds h⟩
    exact hcontainers.bind fun _ => hprobes.bind fun _ => goesThrough_pure _

/-- What is needed before the first stage: the blueprint and the resolved modules. -/
def prepare (p : Platform) : Action (Blueprint × Table String Descriptor) := do
  let b ← p.blueprint
  let resolved ← p.resolveModules
  pure (b, resolved)

/-- What is done with them. -/
def goUp (p : Platform) (b : Blueprint) (resolved : Table String Descriptor) :
    Action PlatformPorts := do
  let management ← p.deployPass b (.ofKind .management resolved)
  Readiness.awaitGateway (.ofReadiness p.config.readiness)
  let business ← p.deployPass b (.ofKind .business resolved)
  p.registerApplication (.ofKind .business resolved)
  let _ ← p.createTenants
  p.createTenantEntitlements
  p.createRoles
  p.createUsers
  p.attachCapabilitySets
  pure ⟨management, business⟩

theorem deployApplication_eq (p : Platform) :
    p.deployApplication = p.prepare >>= fun prepared => p.goUp prepared.1 prepared.2 := by
  simp only [prepare, LawfulMonad.bind_assoc, pure_bind]
  rfl

/-- The way up goes through the stages in their order. -/
theorem goesThrough_goUp : GoesThrough handler p b resolved Stage.order (p.goUp b resolved) := by
  have hgateway : GoesThrough handler p b resolved [.gateway]
      (Readiness.awaitGateway (.ofReadiness p.config.readiness)) :=
    goesThrough_unit fun _ _ _ _ h => h
  have hregistration : GoesThrough handler p b resolved [.registration]
      (p.registerApplication (.ofKind .business resolved)) :=
    goesThrough_unit fun _ _ _ _ h => h
  have htenants : GoesThrough handler p b resolved [.tenants] p.createTenants :=
    goesThrough_stage fun _ _ r _ h => ⟨r, rfl, h⟩
  have hentitlements :
      GoesThrough handler p b resolved [.entitlements] p.createTenantEntitlements :=
    goesThrough_unit fun _ _ _ _ h => h
  have hroles : GoesThrough handler p b resolved [.roles] p.createRoles :=
    goesThrough_unit fun _ _ _ _ h => h
  have husers : GoesThrough handler p b resolved [.users] p.createUsers :=
    goesThrough_unit fun _ _ _ _ h => h
  have hsets : GoesThrough handler p b resolved [.capabilitySets] p.attachCapabilitySets :=
    goesThrough_unit fun _ _ _ _ h => h
  refine (goesThrough_deployPass .management).bind fun management => ?_
  refine hgateway.bind fun _ => ?_
  refine (goesThrough_deployPass .business).bind fun business => ?_
  refine hregistration.bind fun _ => htenants.bind fun _ => hentitlements.bind fun _ => ?_
  refine hroles.bind fun _ => husers.bind fun _ => hsets.bind fun _ => ?_
  exact goesThrough_pure _

/-- The platform is deployed, and the tasks of its passes take turns in any order, those that start
containers and those that await ports. -/
inductive Deploys (handler : Handler Call.Answer σ) (p : Platform) :
    σ → List Event → Outcome Unit → σ → Prop
  | unprepared {s s' : σ} {events : List Event} {e : Failure}
      (h : Course handler p.prepare.run s events (.error e) s') :
      Deploys handler p s events (.error e) s'
  | staged {s t s' : σ} {first : List Event} {b : Blueprint} {resolved : Table String Descriptor}
      {segments : List (Stage × List Event)} {o : Outcome Unit} {m : Manners}
      (hprepare : Course handler p.prepare.run s first (.ok (b, resolved)) t)
      (hstages : InStages handler m p b resolved Stage.order t segments o s') :
      Deploys handler p s (first ++ segments.flatMap (·.2)) o s'

/-- Deploying in order is one way of deploying. -/
theorem deploys_deployApplication {r : Outcome PlatformPorts}
    (h : Course handler p.deployApplication.run s events r s') :
    Deploys handler p s events (ended r) s' := by
  rw [deployApplication_eq] at h
  rcases Action.course_bind.1 h with ⟨e, rfl, hfirst⟩ | ⟨v, t, first, second, rfl, hfirst, hsecond⟩
  · exact .unprepared hfirst
  · obtain ⟨segments, hsegments, rfl⟩ := goesThrough_goUp _ _ _ _ hsecond
    exact .staged hfirst hsegments

theorem calls_prepare {r : Outcome (Blueprint × Table String Descriptor)}
    (h : Course handler p.prepare.run s events r s') :
    ∀ e ∈ events, e.1 = .rootToken ∨ e.1 = .listing := by
  let asking : Contract Call.Answer := .ofCalls fun call => call = .rootToken ∨ call = .listing
  have htoken : Action.rootToken.Within asking := ⟨.inl rfl, fun _ _ _ _ => trivial⟩
  have hlisting : Action.listing.Within asking := ⟨.inr rfl, fun _ _ _ _ => trivial⟩
  have hwithin : p.prepare.Within asking := by
    refine Action.within_bind (Action.within_bind htoken fun _ => Action.keeps_pure trivial)
      fun _ => ?_
    refine Action.within_bind (Action.within_bind hlisting fun _ => ?_)
      fun _ => Action.keeps_pure trivial
    exact Action.keeps_mk_pure fun _ _ => trivial
  exact hwithin.run.calls h

theorem course_prepare_ok
    (h : Course handler p.prepare.run s events (.ok (b, resolved)) s') :
    ∃ token listing, b = .ofConfig p.config (some token) ∧ p.resolve listing = .ok resolved ∧
      events = [⟨.rootToken, .ok token⟩, ⟨.listing, .ok listing⟩] := by
  obtain ⟨b', t, first, later, rfl, hblueprint, hlater⟩ := Action.course_bind_ok h
  obtain ⟨token, _, calls, rest, rfl, htoken, hdone⟩ := Action.course_bind_ok hblueprint
  obtain ⟨_, rfl⟩ := course_perform.1 htoken
  obtain ⟨hb, _, rfl⟩ := Action.course_pure.1 hdone
  obtain ⟨resolved', u, middle, last, rfl, hresolve, hpair⟩ := Action.course_bind_ok hlater
  obtain ⟨listing, _, listed, settled, rfl, hlisting, hsettled⟩ := Action.course_bind_ok hresolve
  obtain ⟨_, rfl⟩ := course_perform.1 hlisting
  obtain ⟨hresolved, _, rfl⟩ := course_pure.1 hsettled
  obtain ⟨heq, _, rfl⟩ := Action.course_pure.1 hpair
  cases heq
  cases hb
  exact ⟨token, listing, rfl, hresolved.symm, rfl⟩

/-! ## Stages are completed one after another -/

/-- What is to hold of stages with their events. A stage makes its own calls only, and makes them
only if every earlier stage is completed. If all ends well, every stage is completed; otherwise one
stage has failed with the outcome, those before it are completed, and those behind it have made no
call. -/
structure Staged (handler : Handler Call.Answer σ) (p : Platform) (token : Token)
    (resolved : Table String Descriptor) (segments : List (Stage × List Event)) (o : Outcome Unit) :
    Prop where
  calls : ∀ x ∈ segments, ∀ e ∈ x.2, x.1.Makes p token resolved e.1
  earlier : ∀ before x after, segments = before ++ x :: after → x.2 ≠ [] →
    ∀ y ∈ before, y.1.Completed p token resolved y.2
  ok : o = .ok () → ∀ x ∈ segments, x.1.Completed p token resolved x.2
  error : ∀ e, o = .error e → ∃ m before x after t t', segments = before ++ x :: after ∧
    x.1.Course handler m p (.ofConfig p.config (some token)) resolved t x.2 (.error e) t' ∧
    (∀ y ∈ before, y.1.Completed p token resolved y.2) ∧ ∀ y ∈ after, y.2 = []

section Laws

variable {token : Token}

theorem Staged.next (hnames : resolved.entries = resolved.values.map fun d => (d.name, d))
    {stage : Stage}
    (hstage : stage.Course handler m p (.ofConfig p.config (some token)) resolved s events (.ok ()) t)
    (h : Staged handler p token resolved later o) :
    Staged handler p token resolved ((stage, events) :: later) o where
  calls := List.forall_mem_cons.2 ⟨hstage.makes hnames, h.calls⟩
  earlier before x after heq hx := by
    cases before with
    | nil => exact fun y hy => absurd hy List.not_mem_nil
    | cons first before =>
      cases heq
      exact List.forall_mem_cons.2 ⟨hstage.completed hnames, h.earlier before x after rfl hx⟩
  ok ho := List.forall_mem_cons.2 ⟨hstage.completed hnames, h.ok ho⟩
  error e ho := by
    obtain ⟨m', before, x, after, t, t', rfl, hx, hbefore, hafter⟩ := h.error e ho
    exact ⟨m', (stage, events) :: before, x, after, t, t', rfl, hx,
      List.forall_mem_cons.2 ⟨hstage.completed hnames, hbefore⟩, hafter⟩

theorem staged_failed (hnames : resolved.entries = resolved.values.map fun d => (d.name, d))
    {stage : Stage} {e : Failure} (rest : List Stage)
    (hstage : stage.Course handler m p (.ofConfig p.config (some token)) resolved s events (.error e)
      s') :
    Staged handler p token resolved ((stage, events) :: rest.map fun later => (later, []))
      (.error e) := by
  have hnone : ∀ x ∈ rest.map fun later => (later, ([] : List Event)), x.2 = [] := by
    intro x hx
    obtain ⟨later, _, rfl⟩ := List.mem_map.1 hx
    rfl
  refine ⟨List.forall_mem_cons.2 ⟨hstage.makes hnames, ?_⟩, ?_, fun ho => (by cases ho), ?_⟩
  · intro x hx e' he'
    rw [hnone x hx] at he'
    exact absurd he' List.not_mem_nil
  · intro before x after heq hx
    cases before with
    | nil => exact fun y hy => absurd hy List.not_mem_nil
    | cons first before =>
      obtain ⟨_, hrest⟩ := List.cons.inj heq
      refine absurd (hnone x ?_) hx
      rw [hrest]
      exact List.mem_append_right before List.mem_cons_self
  · intro e' ho
    cases ho
    exact ⟨m, [], _, _, s, s', rfl, hstage, fun y hy => absurd hy List.not_mem_nil, hnone⟩

/-- Going through stages completes one after another. -/
theorem InStages.staged (hnames : resolved.entries = resolved.values.map fun d => (d.name, d))
    (h : InStages handler m p (.ofConfig p.config (some token)) resolved stages s segments o s') :
    Staged handler p token resolved segments o := by
  induction h with
  | done =>
    refine ⟨fun x hx => absurd hx List.not_mem_nil, ?_, fun _ x hx => absurd hx List.not_mem_nil,
      fun e ho => by cases ho⟩
    intro before x after heq
    cases before <;> cases heq
  | next hstage _ ih => exact ih.next hnames hstage
  | failed hstage => exact staged_failed hnames _ hstage

/-! ## Nothing is provisioned before everything is ready -/

/-- A call of the identity provider or the management service: nothing is registered, and no tenant
is touched, without one. -/
def Provisions : Call → Prop
  | .identity _ | .management _ => True
  | _ => False

/-- The stages up to the point where everything is ready. -/
def Stage.waiting : List Stage :=
  [.containers .management, .probes .management, .gateway, .containers .business, .probes .business]

theorem Stage.not_provisions {stage : Stage} (hstage : stage ∈ waiting) {call : Call}
    (h : stage.Makes p token resolved call) : ¬ Provisions call := by
  simp only [waiting, List.mem_cons, List.not_mem_nil, or_false] at hstage
  rcases hstage with rfl | rfl | rfl | rfl | rfl
  · rcases h with ⟨image, auth, rfl⟩ | ⟨d, _, spec, _, rfl⟩ <;> exact id
  · rcases h with ⟨millis, rfl⟩ | ⟨d, _, port, _, rfl⟩ <;> exact id
  · rcases h with rfl | ⟨millis, rfl⟩ <;> exact id
  · rcases h with ⟨image, auth, rfl⟩ | ⟨d, _, spec, _, rfl⟩ <;> exact id
  · rcases h with ⟨millis, rfl⟩ | ⟨d, _, port, _, rfl⟩ <;> exact id

/-- An event of two parts is in the first, or behind it. -/
theorem mem_or_behind {first second before after : List Event} {e : Event}
    (h : first ++ second = before ++ e :: after) :
    e ∈ first ∨ ∃ skipped, before = first ++ skipped ∧ second = skipped ++ e :: after := by
  rcases List.append_eq_append_iff.1 h with hbehind | ⟨last, hfirst, hlast⟩
  · exact .inr hbehind
  · cases last with
    | nil => exact .inr ⟨[], by rw [hfirst, List.append_nil, List.append_nil], hlast.symm⟩
    | cons _ last =>
      obtain ⟨rfl, _⟩ := List.cons.inj hlast
      rw [hfirst]
      exact .inl (List.mem_append_right before List.mem_cons_self)

/-- An event of segments is in one of them. -/
theorem exists_segment {e : Event} {before after : List Event}
    (h : segments.flatMap (·.2) = before ++ e :: after) :
    ∃ front x rest, segments = front ++ x :: rest ∧ e ∈ x.2 ∧
      ∀ y ∈ front, ∀ e' ∈ y.2, e' ∈ before := by
  induction segments generalizing before with
  | nil => cases before <;> cases h
  | cons x rest ih =>
    rw [List.flatMap_cons] at h
    rcases mem_or_behind h with hx | ⟨skipped, rfl, hlater⟩
    · exact ⟨[], x, rest, rfl, hx, fun y hy => absurd hy List.not_mem_nil⟩
    · obtain ⟨front, y, behind, rfl, hy, hfront⟩ := ih hlater
      refine ⟨x :: front, y, behind, rfl, hy, List.forall_mem_cons.2 ⟨?_, ?_⟩⟩
      · exact fun e' he' => List.mem_append_left _ he'
      · exact fun z hz e' he' => List.mem_append_right _ (hfront z hz e' he')

/-- Before anything is provisioned, every port that the passes publish has answered, and the gateway
is ready. -/
theorem Staged.ready (h : Staged handler p token resolved segments o)
    (hstages : segments.map (·.1) = Stage.order) {e : Event} {before after : List Event}
    (hevents : segments.flatMap (·.2) = before ++ e :: after) (he : Provisions e.1) :
    (∀ kind, ∀ d ∈ (Pass.ofKind kind resolved).deployable, ∀ port ∈ d.published,
      ⟨.probe port, .ok ()⟩ ∈ before) ∧ ⟨.gatewayStatus, .ok true⟩ ∈ before := by
  obtain ⟨front, x, rest, rfl, hx, hfront⟩ := exists_segment hevents
  have hcall := h.calls x (List.mem_append_right front List.mem_cons_self) e hx
  have hsome : x.2 ≠ [] := List.ne_nil_of_mem hx
  have hcompleted := h.earlier front x rest rfl hsome
  have hwaiting : ∀ stage ∈ Stage.waiting, stage ∈ front.map (·.1) := by
    rw [List.map_append, List.map_cons] at hstages
    have hsplit : front.map (·.1) ++ x.1 :: rest.map (·.1) = Stage.waiting ++
        [.registration, .tenants, .entitlements, .roles, .users, .capabilitySets] := hstages
    rcases List.append_eq_append_iff.1 hsplit with ⟨skipped, hskipped, hbehind⟩ | ⟨more, hmore, _⟩
    · cases skipped with
      | nil =>
        rw [hskipped, List.append_nil]
        exact fun stage hstage => hstage
      | cons first skipped =>
        -- the call would be one of a waiting stage, and these provision nothing
        obtain ⟨hfirst, _⟩ := List.cons.inj hbehind
        refine absurd he (Stage.not_provisions ?_ hcall)
        rw [hskipped, hfirst]
        exact List.mem_append_right _ List.mem_cons_self
    · rw [hmore]
      exact fun stage hstage => List.mem_append_left _ hstage
  have hdone : ∀ stage ∈ Stage.waiting, ∃ part, stage.Completed p token resolved part ∧
      ∀ e' ∈ part, e' ∈ before := by
    intro stage hstage
    obtain ⟨y, hy, rfl⟩ := List.mem_map.1 (hwaiting stage hstage)
    exact ⟨y.2, hcompleted y hy, hfront y hy⟩
  refine ⟨?_, ?_⟩
  · intro kind d hd port hport
    have hprobes : Stage.probes kind ∈ Stage.waiting := by
      cases kind <;> simp [Stage.waiting]
    obtain ⟨part, hpart, hsub⟩ := hdone _ hprobes
    exact hsub _ (hpart d hd port hport)
  · obtain ⟨part, hpart, hsub⟩ := hdone .gateway (by simp [Stage.waiting])
    exact hsub _ hpart

end Laws

/-- Bringing a platform up goes through its stages in order. For every platform, all answers of the
services and all turns of the tasks: either nothing but a token and the listing is asked for, and
the outcome is an error, or the stages of `Stage.order` go by one after another, as `Staged` has it,
and nothing is provisioned before everything is ready. -/
theorem deployApplication_inStages (p : Platform) (handler : Handler Call.Answer σ) (s : σ) :
    (∃ events r s', Course handler p.deployApplication.run s events r s' ∧
      Deploys handler p s events (ended r) s') ∧
    ∀ events o s', Deploys handler p s events o s' →
      ((∃ e, o = .error e) ∧ ∀ e ∈ events, e.1 = .rootToken ∨ e.1 = .listing) ∨
      ∃ token listing resolved segments, p.resolve listing = .ok resolved ∧
        events = [⟨.rootToken, .ok token⟩, ⟨.listing, .ok listing⟩] ++ segments.flatMap (·.2) ∧
        segments.map (·.1) = Stage.order ∧
        Staged handler p token resolved segments o ∧
        ∀ before e after, events = before ++ e :: after → Provisions e.1 →
          (∀ kind, ∀ d ∈ (Pass.ofKind kind resolved).deployable, ∀ port ∈ d.published,
            ⟨.probe port, .ok ()⟩ ∈ before) ∧ ⟨.gatewayStatus, .ok true⟩ ∈ before := by
  refine ⟨?_, ?_⟩
  · have h := course_self handler p.deployApplication.run s
    exact ⟨_, _, _, h, deploys_deployApplication h⟩
  intro events o s' h
  cases h with
  | unprepared h => exact .inl ⟨⟨_, rfl⟩, calls_prepare h⟩
  | staged hprepare hstages =>
    obtain ⟨token, listing, rfl, hresolve, rfl⟩ := course_prepare_ok hprepare
    obtain ⟨_, _, _, _, _, _, hnames⟩ := Resolver.resolve_ok (Prod.ext hresolve rfl)
    have horder := hstages.stages_eq
    have hstaged := hstages.staged hnames
    refine .inr ⟨token, listing, _, _, hresolve, rfl, horder, hstaged, ?_⟩
    intro before e after heq he
    rcases mem_or_behind heq with hprefix | ⟨skipped, rfl, hlater⟩
    · -- a token and the listing provision nothing
      rcases List.mem_pair.1 hprefix with rfl | rfl <;> exact he.elim
    · obtain ⟨hprobes, hgateway⟩ := hstaged.ready horder hlater he
      refine ⟨fun kind d hd port hport => ?_, List.mem_append_right _ hgateway⟩
      exact List.mem_append_right _ (hprobes kind d hd port hport)

end Fleet.Platform
