import Fleet.Proofs.Deployment.Undisturbed
import Fleet.Proofs.Platform.StageOrder

/-!
# Commands that deploy one pass

`deployKind` deploys one pass alone. It goes through the stages of that pass, and the tasks of the
pass may take turns in any order (`DeploysPass.inStages`). Its answer are the ports of the pass. If
nothing that it asks for is refused, it ends well (`succeeds_deployKind`).
-/

namespace Fleet.Platform

open Program

variable {σ : Type} {handler : Handler Call.Answer σ} {s s' : σ} {events : List Event}
  {p : Platform} {b : Blueprint} {resolved : Table String Descriptor} {kind : ModuleKind}

/-- The command that deploys a pass. -/
def deployKind (p : Platform) : ModuleKind → Action (Table String ModulePorts)
  | .management => p.deployManagement
  | .business => p.deployModules

/-- The stages of the command. The modules that face tenants are registered. -/
def Stage.ofKind : ModuleKind → List Stage
  | .management => [.containers .management, .probes .management]
  | .business => [.containers .business, .probes .business, .registration]

/-- A pass is deployed, and answers these ports: in order, or with its tasks taking turns, those that
start containers and, unless ports are awaited in rounds, those that await ports. -/
inductive DeploysPass (handler : Handler Call.Answer σ) (p : Platform) (kind : ModuleKind) :
    Readiness.Manner → σ → List Event → Table String ModulePorts → σ → Prop
  | inOrder {s s' : σ} {events : List Event} {ports : Table String ModulePorts}
      (h : Course handler (p.deployKind kind).run s events (.ok ports) s') :
      DeploysPass handler p kind .inRounds s events ports s'
  | inTurns {s t s' : σ} {first : List Event} {b : Blueprint} {resolved : Table String Descriptor}
      {segments : List (Stage × List Event)} {m : Manners}
      (hprepare : Course handler p.prepare.run s first (.ok (b, resolved)) t)
      (hstages : InStages handler m p b resolved (Stage.ofKind kind) t segments (.ok ()) s') :
      DeploysPass handler p kind (m kind) s (first ++ segments.flatMap (·.2))
        (Pass.ofKind kind resolved).ports s'

/-- What the command does once the modules are resolved. -/
def passOn (p : Platform) (b : Blueprint) (resolved : Table String Descriptor) :
    ModuleKind → Action (Table String ModulePorts)
  | .management => p.deployPass b (.ofKind .management resolved)
  | .business => do
    let ports ← p.deployPass b (.ofKind .business resolved)
    p.registerApplication (.ofKind .business resolved)
    pure ports

theorem deployKind_eq (p : Platform) (kind : ModuleKind) :
    p.deployKind kind = p.prepare >>= fun prepared => p.passOn prepared.1 prepared.2 kind := by
  cases kind <;> simp only [prepare, LawfulMonad.bind_assoc, pure_bind] <;> rfl

theorem goesThrough_passOn :
    GoesThrough handler p b resolved (Stage.ofKind kind) (p.passOn b resolved kind) := by
  have hregistration : GoesThrough handler p b resolved [.registration]
      (p.registerApplication (.ofKind .business resolved)) :=
    goesThrough_unit fun _ _ _ _ h => h
  cases kind with
  | management => exact goesThrough_deployPass .management
  | business =>
    refine (goesThrough_deployPass .business).bind fun ports => ?_
    exact hregistration.bind fun _ => goesThrough_pure ports

/-- A pass that is deployed answers the ports of its modules. -/
theorem ports_deployPass {pass : Pass} {ports : Table String ModulePorts}
    (h : Course handler (p.deployPass b pass).run s events (.ok ports) s') :
    ports = pass.ports := by
  unfold deployPass at h
  split at h
  · next hempty =>
    obtain ⟨hports, _⟩ := Action.course_pure.1 h
    cases hports
    rw [Pass.ports, Pass.isEmpty_iff.1 hempty]
    rfl
  · obtain ⟨answered, t, first, later, rfl, hdeploy, hlater⟩ := Action.course_bind_ok h
    obtain ⟨_, _, _, _, rfl, _, hanswer⟩ := Action.course_bind_ok hdeploy
    obtain ⟨hanswered, _, _⟩ := Action.course_pure.1 hanswer
    obtain ⟨_, _, _, _, rfl, _, hdone⟩ := Action.course_bind_ok hlater
    obtain ⟨hports, _, _⟩ := Action.course_pure.1 hdone
    cases hanswered
    cases hports
    rfl

theorem ports_passOn {ports : Table String ModulePorts}
    (h : Course handler (p.passOn b resolved kind).run s events (.ok ports) s') :
    ports = (Pass.ofKind kind resolved).ports := by
  cases kind with
  | management => exact ports_deployPass h
  | business =>
    obtain ⟨answered, t, first, later, rfl, hdeploy, hlater⟩ := Action.course_bind_ok h
    obtain ⟨_, _, _, _, rfl, _, hdone⟩ := Action.course_bind_ok hlater
    obtain ⟨hports, _, _⟩ := Action.course_pure.1 hdone
    cases hports
    exact ports_deployPass hdeploy

/-- Deploying in order is one way of taking turns. -/
theorem DeploysPass.inStages {manner : Readiness.Manner} {ports : Table String ModulePorts}
    (h : DeploysPass handler p kind manner s events ports s') :
    ∃ m : Manners, m kind = manner ∧
    ∃ first b resolved t segments, events = first ++ segments.flatMap (·.2) ∧
      Course handler p.prepare.run s first (.ok (b, resolved)) t ∧
      InStages handler m p b resolved (Stage.ofKind kind) t segments (.ok ()) s' ∧
      ports = (Pass.ofKind kind resolved).ports := by
  cases h with
  | inOrder h =>
    rw [deployKind_eq] at h
    obtain ⟨⟨b, resolved⟩, t, first, later, rfl, hprepare, hlater⟩ := Action.course_bind_ok h
    obtain ⟨segments, hsegments, rfl⟩ := goesThrough_passOn _ _ _ _ hlater
    exact ⟨.inRounds, rfl, first, b, resolved, t, segments, rfl, hprepare, hsegments,
      ports_passOn hlater⟩
  | @inTurns _ _ _ _ _ _ _ m hprepare hstages =>
    exact ⟨m, rfl, _, _, _, _, _, rfl, hprepare, hstages, rfl⟩

/-! ## A command of which nothing fails -/

/-- The call has not failed: what a pass asks for is granted, and the listing can be resolved. -/
def succeeds (p : Platform) : (call : Call) → Call.Answer call → Bool
  | .rootToken, answer => answer.toBool
  | .listing, .ok listing => (p.resolve listing).toBool
  | .listing, .error _ => false
  | .ensureImage _ _, answer => answer.toBool
  | .createContainer _, answer => answer.toBool
  | .probe _, answer => answer.toBool
  | .identity (.accessToken _ _), answer => answer.toBool
  | .management (.createApplication _ _), answer => answer.toBool
  | .management (.registerDiscovery _ _), answer => answer.toBool
  | _, _ => true

/-- The contract that counts on nothing failing. -/
def smooth (p : Platform) : Contract Call.Answer :=
  ⟨fun _ => True, fun call answer => p.succeeds call answer = true⟩

theorem ok_of_toBool {α : Type} {o : Outcome α} (h : o.toBool = true) :
    ∃ value, o = .ok value ∧ True := by
  cases o with
  | ok value => exact ⟨value, rfl, trivial⟩
  | error e => cases h

theorem undisturbed_smooth (p : Platform) : Deployment.Undisturbed p.smooth where
  pull _ _ := trivial
  pulled _ _ _ h := by
    obtain ⟨_, hok, _⟩ := ok_of_toBool h
    exact hok
  create _ := trivial
  created _ _ h := by
    obtain ⟨id, hok, _⟩ := ok_of_toBool h
    exact ⟨id, hok⟩

theorem succeeds_deployPass (b : Blueprint) (pass : Pass) :
    (p.deployPass b pass).Succeeds p.smooth fun _ => True := by
  unfold deployPass
  split
  · exact Action.succeeds_pure trivial
  · refine Action.succeeds_bind ((undisturbed_smooth p).deploy pass) fun ports _ => ?_
    have hanswer : ∀ port answer, p.smooth.expects (.probe port) answer → answer = .ok () := by
      intro port answer h
      obtain ⟨_, hok, _⟩ := ok_of_toBool h
      exact hok
    have hcheck := Readiness.succeeds_checkAll (fun _ => trivial) hanswer p.attempts_pos pass.kind
      ports
    exact Action.succeeds_bind hcheck fun _ _ => Action.succeeds_pure trivial

theorem succeeds_registerApplication (pass : Pass) :
    (p.registerApplication pass).Succeeds p.smooth fun _ => True := by
  unfold registerApplication
  split
  · exact Action.succeeds_pure trivial
  · have hmaster : (Traversal.masterToken p.config).Succeeds p.smooth fun _ => True :=
      ⟨trivial, fun _ h => ok_of_toBool h⟩
    refine Action.succeeds_bind hmaster fun master _ => ?_
    have hcreate : (Action.createApplication master (p.application pass)).Succeeds p.smooth
        fun _ => True := ⟨trivial, fun _ h => ok_of_toBool h⟩
    exact Action.succeeds_bind hcreate fun _ _ => ⟨trivial, fun _ h => ok_of_toBool h⟩

theorem succeeds_prepare (p : Platform) : p.prepare.Succeeds p.smooth fun _ => True := by
  have htoken : Action.rootToken.Succeeds p.smooth fun _ => True :=
    ⟨trivial, fun _ h => ok_of_toBool h⟩
  have hblueprint : p.blueprint.Succeeds p.smooth fun _ => True :=
    Action.succeeds_bind htoken fun _ _ => Action.succeeds_pure trivial
  have hlisting : Action.listing.Succeeds p.smooth
      fun listing => (p.resolve listing).toBool = true := by
    refine ⟨trivial, fun answer h => ?_⟩
    cases answer with
    | ok listing => exact ⟨listing, rfl, h⟩
    | error e => cases h
  have hresolve : p.resolveModules.Succeeds p.smooth fun _ => True :=
    Action.succeeds_bind hlisting fun _ h => ok_of_toBool h
  refine Action.succeeds_bind hblueprint fun _ _ => ?_
  exact Action.succeeds_bind hresolve fun _ _ => Action.succeeds_pure trivial

/-- A command of which nothing fails ends well. -/
theorem succeeds_deployKind (p : Platform) (kind : ModuleKind) :
    (p.deployKind kind).Succeeds p.smooth fun _ => True := by
  rw [deployKind_eq]
  refine Action.succeeds_bind (succeeds_prepare p) fun prepared _ => ?_
  cases kind with
  | management => exact succeeds_deployPass prepared.1 _
  | business =>
    refine Action.succeeds_bind (succeeds_deployPass prepared.1 _) fun ports _ => ?_
    refine Action.succeeds_bind (succeeds_registerApplication _) fun _ _ => ?_
    exact Action.succeeds_pure trivial

end Fleet.Platform
