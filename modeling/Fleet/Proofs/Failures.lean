import Fleet.Proofs.Contract

/-!
# Where failures come from

A program that may fail does so with a failure that it was answered, or with one of its own.
`Attempt.FailsOnly` bounds both: as long as every answer is one to count on, the failures of an
attempt are among some. It follows the structure of attempts as contracts do, and it is about the
failures what `Action.Keeps` is about the values.

`Call.Fails` says of an answer that it is a failure, whatever the call, and `Contract.Blames` bounds
the failures that may be answered. With a handler at hand these are the failures with which it may
answer the calls (`FailsOn`).
-/

namespace Fleet

/-- A wait was in vain, or it broke off. -/
def Failure.OfWaiting (e : Failure) : Prop :=
  e.kind = .readinessTimeout ∨ e.kind = .sagaTimeout ∨ e.kind = .internal

/-! ## Attempts -/

namespace Attempt

variable {Call α β : Type} {Answer : Call → Type} {c : Contract Answer} {G H : Failure → Prop}

/-- As long as every answer is one to count on, the attempt makes allowed calls, and if it fails,
then with one of these failures. -/
structure FailsOnly (c : Contract Answer) (a : Attempt Answer α) (G : Failure → Prop) : Prop where
  keeps : Program.Keeps c a.run fun o => ∀ e, o = .error e → G e

theorem FailsOnly.mono {a : Attempt Answer α} (h : a.FailsOnly c G) (hGH : ∀ e, G e → H e) :
    a.FailsOnly c H :=
  ⟨h.keeps.mono fun _ ho e heq => hGH e (ho e heq)⟩

theorem FailsOnly.or {a : Attempt Answer α} (h : a.FailsOnly c G) :
    a.FailsOnly c fun e => G e ∨ H e :=
  h.mono fun _ => .inl

theorem failsOnly_pure {value : α} : (pure value : Attempt Answer α).FailsOnly c G :=
  ⟨fun _ heq => nomatch heq⟩

theorem failsOnly_throw {e : Failure} (h : G e) : (throw e : Attempt Answer α).FailsOnly c G :=
  ⟨fun _ heq => Except.error.inj heq ▸ h⟩

/-- An outcome that is known already. -/
theorem failsOnly_mk_pure {o : Outcome α} (h : ∀ e, o = .error e → G e) :
    FailsOnly c (ExceptT.mk (pure o) : Attempt Answer α) G := ⟨h⟩

theorem FailsOnly.bind {a : Attempt Answer α} {f : α → Attempt Answer β} (ha : a.FailsOnly c G)
    (hf : ∀ value, (f value).FailsOnly c G) : (a >>= f).FailsOnly c G := by
  refine ⟨?_⟩
  show Program.Keeps c (a.run >>= ExceptT.bindCont f) _
  refine Program.keeps_bind.2 (ha.keeps.mono fun o ho => ?_)
  cases o with
  | ok value => exact (hf value).keeps
  | error e => exact fun _ heq => Except.error.inj heq ▸ ho e rfl

/-- A program that cannot fail. -/
theorem failsOnly_lift {p : Program Answer α} (h : p.Keeps c fun _ => True) :
    FailsOnly c (ExceptT.lift p : Attempt Answer α) G := by
  refine ⟨?_⟩
  show Program.Keeps c (Except.ok <$> p) _
  exact Program.keeps_map.2 (h.mono fun _ _ _ heq => nomatch heq)

/-- Under a handler that does its part, an attempt fails with nothing else. -/
theorem FailsOnly.error {σ : Type} {handler : Handler Answer σ} {Inv : σ → Prop}
    {a : Attempt Answer α} (h : a.FailsOnly c G) (hserved : c.Served handler Inv) {s : σ}
    (hs : Inv s) {e : Failure} (hrun : (Program.run handler a.run s).1 = .error e) : G e :=
  (h.keeps.run hserved hs).1 e hrun

end Attempt

/-! ## Answers that are failures -/

/-- The answer is this failure. -/
def RuntimeCall.Fails : (call : RuntimeCall) → call.Answer → Failure → Prop
  | .pull _ _, answer, e => answer = .error e
  | .create _, answer, e => answer = .error e
  | .stop _, answer, e => answer = .error e
  | .remove _, answer, e => answer = .error e
  | .list _, answer, e => answer = .error e
  | .logs _, answer, e => answer = .error e
  | .exec _ _, answer, e => answer = .error e

/-- The answer is this failure. -/
def IdentityCall.Fails : (call : IdentityCall) → call.Answer → Failure → Prop
  | .accessToken _ _, answer, e => answer = .error e
  | .createRoles _ _ _, answer, e => answer = .error e
  | .removeRoles _ _ _, answer, e => answer = .error e
  | .createUsers _ _ _, answer, e => answer = .error e
  | .attach _ _ _, answer, e => answer = .error e
  | .detach _ _ _, answer, e => answer = .error e
  | .setLifespan _ _ _, answer, e => answer = .error e

/-- The answer is this failure. -/
def ManagementCall.Fails : (call : ManagementCall) → call.Answer → Failure → Prop
  | .tenants _, answer, e => answer = .error e
  | .createTenant _ _ _, answer, e => answer = .error e
  | .removeTenant _ _, answer, e => answer = .error e
  | .entitle _ _ _, answer, e => answer = .error e
  | .revoke _ _ _, answer, e => answer = .error e
  | .createApplication _ _, answer, e => answer = .error e
  | .registerDiscovery _ _, answer, e => answer = .error e

/-- The answer is this failure, and it is one for what made the call: when something is awaited, a
failure only says that the wait goes on. -/
def Call.Fails : (call : Call) → call.Answer → Failure → Prop
  | .rootToken, answer, e => answer = .error e
  | .listing, answer, e => answer = .error e
  | .ensureImage _ _, answer, e => answer = .error e
  | .createContainer _, answer, e => answer = .error e
  | .stopContainer _, answer, e => answer = .error e
  | .removeContainer _, answer, e => answer = .error e
  | .listContainers _, answer, e => answer = .error e
  | .identity call, answer, e => call.Fails answer e
  | .management call, answer, e => call.Fails answer e
  | .probe _, _, _ | .gatewayStatus, _, _ | .describeGroup _, _, _ => False
  | .now, _, _ | .sleep _, _, _ => False

/-- The failures that may be answered to allowed calls are among some. -/
def Contract.Blames (c : Contract Call.Answer) (G : Failure → Prop) : Prop :=
  ∀ call answer e, c.allows call → c.expects call answer → call.Fails answer e → G e

section Handlers

variable {σ : Type}

/-- A handler may answer one of some calls with the failure. -/
def FailsOn (handler : Handler Call.Answer σ) (calls : Call → Prop) (e : Failure) : Prop :=
  ∃ call s, calls call ∧ call.Fails (handler call s).1 e

/-- The contract that allows some calls and counts on a handler's answers. -/
def Contract.answeredBy (handler : Handler Call.Answer σ) (calls : Call → Prop) :
    Contract Call.Answer :=
  ⟨calls, fun call answer => ∃ s, answer = (handler call s).1⟩

theorem Contract.blames_answeredBy (handler : Handler Call.Answer σ) (calls : Call → Prop) :
    (answeredBy handler calls).Blames (FailsOn handler calls) := by
  rintro call _ e hcall ⟨s, rfl⟩ hfails
  exact ⟨call, s, hcall, hfails⟩

end Handlers

theorem Contract.blames_true (c : Contract Call.Answer) : c.Blames fun _ => True :=
  fun _ _ _ _ _ _ => trivial

/-! ## Actions -/

namespace Action

variable {α β : Type} {c : Contract Call.Answer} {G : Failure → Prop}

theorem within_of_failsOnly {a : Action α} (h : a.FailsOnly c G) : a.Within c :=
  h.keeps.mono fun _ _ _ _ => trivial

theorem Within.failsOnly {a : Action α} (h : a.Within c) : a.FailsOnly c fun _ => True :=
  ⟨Program.Keeps.mono h fun _ _ _ _ => trivial⟩

/-- The outcome of an action is no failure, whatever it is. -/
theorem failsOnly_outcome {a : Action α} (h : a.Within c) : a.outcome.FailsOnly c G :=
  Attempt.failsOnly_lift h.run

end Action

end Fleet
