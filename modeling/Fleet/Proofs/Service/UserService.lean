import Fleet.Proofs.Failures
import Fleet.Proofs.Http.Retries
import Fleet.Proofs.Service.UserCreation

/-!
# Services that keep users

Of the service behind the requests for users is assumed what `UserService.Serves` lists: it keeps
one user under a name and gives out an id once, it stores what it is sent, and it lists the roles.
Every request may instead be refused or get lost, and then nothing has changed
(`UserService.Answers`). That a request is sent again therefore makes no difference (`leads_raw`).

What an errand comes to at such a service is said by `UserService.Leads`, which follows the
structure of errands.
-/

namespace Fleet

open Http.Client (success decode)

/-- An answer came, or nothing has changed. -/
def UserDirectory.AllOrNothing {ε α : Type} (Done : α → UserDirectory → Prop) (d : UserDirectory) :
    Except ε α → UserDirectory → Prop
  | .ok answer, d' => Done answer d'
  | .error _, d' => d' = d

/-- What was asked for is done, or it is refused and nothing has changed. -/
def UserDirectory.DoneOrRefused (Done : UserDirectory → Http.Reply → UserDirectory → Prop)
    (Refused : Http.Reply → Prop) (d : UserDirectory) (reply : Http.Reply) (d' : UserDirectory) :
    Prop :=
  Done d reply d' ∨ Refused reply ∧ d' = d

open UserDirectory (AllOrNothing DoneOrRefused)

/-! ## The service -/

/-- A service that keeps users, with what it holds at its states. -/
structure UserService (σ : Type) where
  handler : Handler MachineCall.Answer σ
  records : σ → UserDirectory
  /-- The states that the service can be in. -/
  Reachable : σ → Prop
  /-- Time alone changes nothing. -/
  idle : ∀ millis t, Reachable t → Reachable (handler (.sleep millis) t).2 ∧
    records (handler (.sleep millis) t).2 = records t

namespace UserService

variable {σ α β : Type} (u : UserService σ)

/-- What may come of a request: it is done, or it is refused or lost and nothing has changed. -/
def Answers (r : Http.Request) (Done : UserDirectory → Http.Reply → UserDirectory → Prop)
    (Refused : Http.Reply → Prop) : Prop :=
  ∀ m patience t, r.message? = some m → u.Reachable t →
    u.Reachable (u.handler (.exchange m patience) t).2 ∧
    AllOrNothing (DoneOrRefused Done Refused (u.records t)) (u.records t)
      (u.handler (.exchange m patience) t).1 (u.records (u.handler (.exchange m patience) t).2)

/-- An errand comes from a state to an outcome and to what is held then. -/
structure Leads (t : σ) (a : Errand α) (Q : Outcome α → UserDirectory → Prop) : Prop where
  reaches : u.Reachable (Program.run u.handler a.run t).2
  shows : Q (Program.run u.handler a.run t).1 (u.records (Program.run u.handler a.run t).2)

variable {u} {t : σ}

theorem leads_pure {value : α} {Q : Outcome α → UserDirectory → Prop} (ht : u.Reachable t)
    (h : Q (.ok value) (u.records t)) : u.Leads t (pure value) Q := ⟨ht, h⟩

theorem leads_throw {e : Failure} {Q : Outcome α → UserDirectory → Prop} (ht : u.Reachable t)
    (h : Q (.error e) (u.records t)) : u.Leads t (throw e) Q := ⟨ht, h⟩

/-- An outcome that is known already. -/
theorem leads_mk_pure {o : Outcome α} {Q : Outcome α → UserDirectory → Prop} (ht : u.Reachable t)
    (h : Q o (u.records t)) : u.Leads t (ExceptT.mk (pure o)) Q := ⟨ht, h⟩

/-- What an errand comes to is decided by its run. -/
theorem Leads.of_run_eq {a b : Errand α} {t' : σ} {Q : Outcome α → UserDirectory → Prop}
    (hb : u.Leads t' b Q)
    (hrun : Program.run u.handler a.run t = Program.run u.handler b.run t') : u.Leads t a Q := by
  constructor
  · rw [hrun]
    exact hb.reaches
  · rw [hrun]
    exact hb.shows

theorem Leads.bind {a : Errand α} {f : α → Errand β} {P : Outcome α → UserDirectory → Prop}
    {Q : Outcome β → UserDirectory → Prop} (ha : u.Leads t a P)
    (hok : ∀ value t', u.Reachable t' → P (.ok value) (u.records t') → u.Leads t' (f value) Q)
    (herror : ∀ e d, P (.error e) d → Q (.error e) d) : u.Leads t (a >>= f) Q := by
  obtain ⟨hreach, hshows⟩ := ha
  have hrun := Program.run_bind_except u.handler a f t
  cases hfirst : Program.run u.handler a.run t with
  | mk o t' =>
    rw [hfirst] at hreach hshows hrun
    cases o with
    | ok value => exact (hok value t' hreach hshows).of_run_eq hrun
    | error e =>
      have hthrow : u.Leads t' (throw e : Errand β) Q := leads_throw hreach (herror e _ hshows)
      exact hthrow.of_run_eq hrun

/-- A program that cannot fail comes first. -/
theorem leads_lift_bind {p : Program MachineCall.Answer α} {f : α → Errand β}
    {Q : Outcome β → UserDirectory → Prop}
    (h : u.Leads (p.run u.handler t).2 (f (p.run u.handler t).1) Q) :
    u.Leads t (ExceptT.lift p >>= f) Q := by
  have hlift : Program.run u.handler (ExceptT.lift p : Errand α).run t =
      (.ok (p.run u.handler t).1, (p.run u.handler t).2) :=
    Program.run_bind u.handler p (fun a => (pure (.ok a) : Program _ (Outcome α))) t
  exact h.of_run_eq (Program.run_bind_of_ok hlift)

/-- An outcome that is known already comes first. -/
theorem leads_bind_of_ok {o : Outcome α} {value : α} {f : α → Errand β}
    {Q : Outcome β → UserDirectory → Prop} (ho : o = .ok value) (h : u.Leads t (f value) Q) :
    u.Leads t (ExceptT.mk (pure o) >>= f) Q := by
  subst ho
  exact h

theorem leads_bind_of_error {o : Outcome α} {e : Failure} {f : α → Errand β}
    {Q : Outcome β → UserDirectory → Prop} (ho : o = .error e) (ht : u.Reachable t)
    (h : Q (.error e) (u.records t)) : u.Leads t (ExceptT.mk (pure o) >>= f) Q := by
  subst ho
  exact leads_throw ht h

/-! ## Requests -/

variable {c : Http.Client} {r : Http.Request}
  {Done : UserDirectory → Http.Reply → UserDirectory → Prop} {Refused : Http.Reply → Prop}

/-- Requests are repeated only while nothing has changed. -/
theorem run_attempt (h : u.Answers r Done Refused)
    (hfinal : ∀ d reply d', Done d reply d' → reply.isServerError = false) {m : Http.Message}
    (hm : r.message? = some m) (more : Nat) (ht : u.Reachable t) :
    u.Reachable ((c.attempt m more).run u.handler t).2 ∧
    AllOrNothing (DoneOrRefused Done Refused (u.records t)) (u.records t)
      ((c.attempt m more).run u.handler t).1
      (u.records ((c.attempt m more).run u.handler t).2) := by
  induction more generalizing t with
  | zero => exact h m c.patience t hm ht
  | succ more ih =>
    obtain ⟨hreach, hcame⟩ := h m c.patience t hm ht
    rw [Http.Client.run_attempt_succ]
    split
    · next htransient =>
      have hsame : u.records (u.handler (.exchange m c.patience) t).2 = u.records t := by
        cases hanswer : (u.handler (.exchange m c.patience) t).1 with
        | error fault =>
          rw [hanswer] at hcame
          exact hcame
        | ok reply =>
          rw [hanswer] at hcame htransient
          rcases hcame with hdone | ⟨_, hsame⟩
          · rw [Http.Client.isTransient, hfinal _ _ _ hdone] at htransient
            cases htransient
          · exact hsame
      obtain ⟨hidle, hheld⟩ := u.idle c.budget.delayMillis _ hreach
      rw [← hsame, ← hheld]
      exact ih hidle
    · exact ⟨hreach, hcame⟩

theorem leads_raw (h : u.Answers r Done Refused)
    (hfinal : ∀ d reply d', Done d reply d' → reply.isServerError = false) (ht : u.Reachable t) :
    u.Leads t (c.raw r)
      (AllOrNothing (DoneOrRefused Done Refused (u.records t)) (u.records t)) := by
  unfold Http.Client.raw
  cases hm : r.message? with
  | none => exact leads_throw ht rfl
  | some m =>
    obtain ⟨hreach, hcame⟩ := run_attempt (c := c) h hfinal hm (c.budget.attempts - 1) ht
    refine leads_lift_bind ?_
    generalize (Program.run u.handler _ t).1 = answer at hcame ⊢
    cases answer with
    | ok reply => exact leads_pure hreach hcame
    | error fault => exact leads_throw hreach hcame

/-- A reply that reports success is done with. -/
theorem isServerError_of_isSuccess {reply : Http.Reply} (h : reply.isSuccess = true) :
    reply.isServerError = false := by
  unfold Http.Reply.isSuccess at h
  unfold Http.Reply.isServerError
  grind

theorem leads_send {service : String} (h : u.Answers r Done fun reply => reply.isSuccess = false)
    (hsuccess : ∀ d reply d', Done d reply d' → reply.isSuccess = true) (ht : u.Reachable t) :
    u.Leads t (c.send service r) (AllOrNothing (Done (u.records t)) (u.records t)) := by
  have hfinal : ∀ d reply d', Done d reply d' → reply.isServerError = false :=
    fun d reply d' hdone => isServerError_of_isSuccess (hsuccess d reply d' hdone)
  refine (leads_raw h hfinal ht).bind (fun reply t' ht' hcame => ?_) fun e d hsame => hsame
  refine leads_mk_pure ht' ?_
  unfold success
  rcases hcame with hdone | ⟨hrefused, hsame⟩
  · rw [if_pos (hsuccess _ _ _ hdone)]
    exact hdone
  · rw [if_neg (Bool.eq_false_iff.1 hrefused)]
    exact hsame

/-! ## What is assumed -/

/-- The roles are listed. -/
def ListsRoles (d : UserDirectory) (reply : Http.Reply) (d' : UserDirectory) : Prop :=
  reply.isSuccess = true ∧
    decode (IdentityService.readNamedList? "roles") reply = .ok d.roleIds ∧ d' = d

/-- A user of the name is there already, or one is added under a new id, which is answered. -/
def AddsUser (name : String) (d : UserDirectory) (reply : Http.Reply) (d' : UserDirectory) : Prop :=
  (d.users.contains name = true ∧ reply.status = 409 ∧ d' = d) ∨
    (d.users.contains name = false ∧ ∃ id, id ∉ d.users.values ∧ reply.isSuccess = true ∧
      decode IdentityService.readCreated? reply = .ok id ∧ d' = d.enroll name id)

/-- Something is stored. -/
def Stores (store : UserDirectory → UserDirectory) (d : UserDirectory) (reply : Http.Reply)
    (d' : UserDirectory) : Prop := reply.isSuccess = true ∧ d' = store d

open IdentityService (listLimit userBody credentialsBody assignmentBody) in
/-- The service does what is asked for about the users of a tenant. Instead, any request may be
lost or be refused with an error; only the status by which a user counts as there is not used for
anything else. -/
structure Serves (u : UserService σ) (s : IdentityService) (tenant : String) (named : Users) :
    Prop where
  roles : ∀ token, u.Answers
    (s.request .get token tenant ("/roles" ++ s!"?limit={listLimit}") .empty)
    ListsRoles fun reply => reply.isSuccess = false
  user : ∀ token, ∀ name ∈ named.keys, u.Answers
    (s.request .post token tenant "/users-keycloak/users" (.json (userBody name)))
    (AddsUser name) fun reply => reply.isSuccess = false ∧ reply.status ≠ 409
  password : ∀ token name id password, u.Answers
    (s.request .post token tenant "/authn/credentials" (.json (credentialsBody name id password)))
    (Stores fun d => (d.setPassword id password).2) fun reply => reply.isSuccess = false
  assignment : ∀ token id roleIds, u.Answers
    (s.request .post token tenant "/roles/users" (.json (assignmentBody id roleIds)))
    (Stores fun d => (d.assign id roleIds).2) fun reply => reply.isSuccess = false

end UserService

end Fleet
