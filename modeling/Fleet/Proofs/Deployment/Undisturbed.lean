import Fleet.Deployment
import Fleet.Proofs.Contract

/-!
# Deployments of which nothing fails

If every pull and every creation succeeds, the deployment of a pass succeeds (`Undisturbed.deploy`).
Said of the program, without a state: wherever the answers come from, the deployment has no failure
of its own.
-/

namespace Fleet

namespace Deployment

variable {c : Contract Call.Answer} {b : Blueprint}

/-- Pulls and creations are allowed, and may be counted on to succeed. -/
structure Undisturbed (c : Contract Call.Answer) : Prop where
  pull : ∀ image auth, c.allows (.ensureImage image auth)
  pulled : ∀ image auth answer, c.expects (.ensureImage image auth) answer → answer = .ok ()
  create : ∀ spec, c.allows (.createContainer spec)
  created : ∀ spec answer, c.expects (.createContainer spec) answer → ∃ id, answer = .ok id

namespace Undisturbed

theorem ensureImage (h : Undisturbed c) (image : String) (auth : Option Config.RegistryAuth) :
    (Action.ensureImage image auth).Succeeds c fun _ => True :=
  ⟨h.pull image auth, fun answer hanswer => ⟨(), h.pulled image auth answer hanswer, trivial⟩⟩

theorem createContainer (h : Undisturbed c) (spec : ContainerSpec) :
    (Action.createContainer spec).Succeeds c fun _ => True := by
  refine ⟨h.create spec, fun answer hanswer => ?_⟩
  obtain ⟨id, hid⟩ := h.created spec answer hanswer
  exact ⟨id, hid, trivial⟩

theorem startModules (h : Undisturbed c) (ds : List Descriptor) :
    (startModules b ds).Succeeds c fun _ => True := by
  induction ds with
  | nil => exact Action.succeeds_pure trivial
  | cons d rest ih =>
    have hcreate : (Action.createContainer (b.moduleSpec d) >>= fun _ => pure ()).Succeeds c
        fun _ => True :=
      Action.succeeds_bind (h.createContainer _) fun _ _ => Action.succeeds_pure trivial
    have hmodule : (startModule b d).Succeeds c fun _ => True := by
      unfold startModule
      split
      · exact hcreate
      · exact Action.succeeds_bind (h.ensureImage _ _) fun _ _ => hcreate
    refine Action.succeeds_bind hmodule fun _ _ => ?_
    exact Action.succeeds_bind ih fun _ _ => Action.succeeds_pure trivial

theorem startSidecars (h : Undisturbed c) (specs : List ContainerSpec) :
    (startSidecars b specs).Succeeds c fun _ => True := by
  induction specs with
  | nil => exact Action.succeeds_pure trivial
  | cons spec rest ih =>
    have hsidecar : (startSidecar b spec).Succeeds c fun _ => True := by
      refine Action.succeeds_bind (h.ensureImage _ _) fun _ _ => ?_
      exact Action.succeeds_bind (h.createContainer _) fun _ _ => Action.succeeds_pure trivial
    refine Action.succeeds_bind (Action.succeeds_outcome hsidecar) fun first hfirst => ?_
    refine Action.succeeds_bind (Action.succeeds_outcome ih) fun others hothers => ?_
    obtain ⟨_, rfl, _⟩ := hfirst
    obtain ⟨_, rfl, _⟩ := hothers
    exact ⟨(), rfl, trivial⟩

theorem deploy (h : Undisturbed c) (pass : Pass) : (deploy b pass).Succeeds c fun _ => True := by
  have hall : (startAll b pass.deployable).Succeeds c fun _ => True :=
    Action.succeeds_bind (h.startModules _) fun _ _ => h.startSidecars _
  exact Action.succeeds_bind hall fun _ _ => Action.succeeds_pure trivial

end Undisturbed

end Deployment

end Fleet
