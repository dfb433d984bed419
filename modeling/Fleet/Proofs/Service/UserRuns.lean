import Fleet.Proofs.Service.Directory

/-!
# Creating users again

Against a service that keeps users, a run of `createUsers` creates one user after the other, as far
as it gets (`leads_createUsers`). Runs can be repeated until one ends well, and then every described
user is there; but a user whose password or roles could not be stored in the run that added it stays
without them, since later runs pass over it. `keeps_iff_of_ok` says that these are the only ones.
-/

namespace Fleet

open UserDirectory (AllOrNothing)

/-! ## One run -/

namespace IdentityService

open UserService

variable {σ : Type} {u : UserService σ} {s : IdentityService} {tenant name : String}
  {named : Users} {user : User} {token : Token} {t : σ}

theorem userRoleIds_of_listed {ids : Texts} : ∀ {roles : List String},
    (∀ role ∈ roles, ids.contains role = true) →
      userRoleIds ids name roles = .ok (roles.filterMap ids.find?)
  | [], _ => rfl
  | role :: rest, h => by
    obtain ⟨id, hid⟩ := Option.isSome_iff_exists.1 (h role List.mem_cons_self)
    have hrest := userRoleIds_of_listed fun role hrole => h role (List.mem_cons_of_mem _ hrole)
    rw [userRoleIds, hid, hrest, List.filterMap_cons_some hid]

theorem filterMap_eq_nil_iff {ids : Texts} {roles : List String}
    (h : ∀ role ∈ roles, ids.contains role = true) :
    roles.filterMap ids.find? = [] ↔ roles = [] := by
  constructor
  · intro hnil
    refine List.eq_nil_iff_forall_not_mem.2 fun role hrole => ?_
    have hnone := List.filterMap_eq_nil_iff.1 hnil role hrole
    have hlisted := h role hrole
    rw [Table.contains, hnone] at hlisted
    cases hlisted
  · rintro rfl
    rfl

/-- Behind the password come the roles, if there are any. -/
theorem leads_assignment (h : u.Serves s tenant named) (ht : u.Reachable t) {d : UserDirectory}
    {id : String} (hnew : d.users.contains name = false) (hid : id ∉ d.users.values)
    (hheld : u.records t = d.withPassword name id user)
    (hroles : ∀ role ∈ user.roles, d.roleIds.contains role = true) :
    u.Leads t (do
      let assigned ← ExceptT.mk (pure (userRoleIds d.roleIds name user.roles))
      unless assigned.isEmpty do
        let _ ← s.client.send roles
          (s.request .post token tenant "/roles/users" (.json (assignmentBody id assigned))))
      (UserDirectory.Creation d name user) := by
  refine leads_bind_of_ok (userRoleIds_of_listed hroles) ?_
  by_cases hnone : user.roles = []
  · rw [if_pos (List.isEmpty_iff.2 ((filterMap_eq_nil_iff hroles).2 hnone))]
    refine leads_pure ht ?_
    have hcomplete : u.records t = d.complete name id user := by
      rw [hheld, UserDirectory.complete, if_pos hnone]
    rw [hcomplete]
    exact .complete hnew hid
  · rw [if_neg (mt List.isEmpty_iff.1 (mt (filterMap_eq_nil_iff hroles).1 hnone))]
    refine (leads_send (h.assignment token id _) (fun _ _ _ hs => hs.1) ht).bind
      (fun _ t' ht' hassigned => leads_pure ht' ?_) fun e d' hsame => ?_
    · have hcomplete : u.records t' = d.complete name id user := by
        rw [hassigned.2, hheld, UserDirectory.complete, if_neg hnone]
      rw [hcomplete]
      exact .complete hnew hid
    · rw [hsame, hheld]
      exact .withoutRoles hnew hid e

theorem isServerError_of_addsUser {d d' : UserDirectory} {reply : Http.Reply}
    (h : AddsUser name d reply d') : reply.isServerError = false := by
  rcases h with ⟨_, hstatus, _⟩ | ⟨_, id, _, hsuccess, _⟩
  · simp [Http.Reply.isServerError, hstatus]
  · exact isServerError_of_isSuccess hsuccess

theorem leads_createUser (h : u.Serves s tenant named) (ht : u.Reachable t)
    (hname : name ∈ named.keys)
    (hroles : ∀ role ∈ user.roles, (u.records t).roleIds.contains role = true) :
    u.Leads t (s.createUser token tenant (u.records t).roleIds name user)
      (UserDirectory.Creation (u.records t) name user) := by
  unfold createUser
  refine (leads_raw (h.user token name hname) (fun _ _ _ => isServerError_of_addsUser) ht).bind
    (fun reply t₁ ht₁ hreply => ?_) fun e d hsame => hsame ▸ .fruitless e
  rcases hreply with (⟨hheld, hstatus, hsame⟩ | ⟨hnew, id, hid, hsuccess, hread, hadded⟩) |
    ⟨⟨hrefused, hstatus⟩, hsame⟩
  · rw [if_pos hstatus]
    refine leads_pure ht₁ ?_
    rw [hsame]
    exact .present hheld
  · have hstatus : reply.status ≠ 409 := by
      intro heq
      simp [Http.Reply.isSuccess, heq] at hsuccess
    rw [if_neg hstatus]
    refine leads_bind_of_ok (if_pos hsuccess) (leads_bind_of_ok hread ?_)
    refine (leads_send (h.password token name id user.password) (fun _ _ _ hs => hs.1) ht₁).bind
      (fun _ t₂ ht₂ hstored => ?_) fun e d hsame => ?_
    · refine leads_assignment h ht₂ hnew hid ?_ hroles
      rw [hstored.2, hadded]
      rfl
    · rw [hsame, hadded]
      exact .withoutPassword hnew hid e
  · rw [if_neg hstatus]
    refine leads_bind_of_error (if_neg (Bool.eq_false_iff.1 hrefused)) ht₁ ?_
    exact hsame ▸ .fruitless _

theorem leads_createEach (h : u.Serves s tenant named) :
    ∀ {entries : List (String × User)} {t : σ}, u.Reachable t →
      (∀ e ∈ entries, e.1 ∈ named.keys ∧
        ∀ role ∈ e.2.roles, (u.records t).roleIds.contains role = true) →
      u.Leads t (s.createEach token tenant (u.records t).roleIds entries)
        (UserDirectory.Creations (u.records t) entries)
  | [], t, ht, _ => leads_pure ht .nothing
  | (name, user) :: rest, t, ht, hentries => by
    obtain ⟨hname, hroles⟩ := hentries (name, user) List.mem_cons_self
    refine (leads_createUser h ht hname hroles).bind (fun _ t₁ ht₁ hcreated => ?_)
      fun e d hfailed => .stopped hfailed
    have hids := hcreated.roleIds_eq
    have hrest : ∀ e ∈ rest, e.1 ∈ named.keys ∧
        ∀ role ∈ e.2.roles, (u.records t₁).roleIds.contains role = true := by
      rw [hids]
      exact fun e he => hentries e (List.mem_cons_of_mem _ he)
    rw [← hids]
    obtain ⟨hreach, hshows⟩ := leads_createEach h ht₁ hrest
    exact ⟨hreach, .next hcreated hshows⟩

/-- The roles of all described users are listed. -/
def Listed (named : Users) (d : UserDirectory) : Prop :=
  ∀ e ∈ named.entries, ∀ role ∈ e.2.roles, d.roleIds.contains role = true

/-- A run creates the users one after the other, as far as it gets. -/
theorem leads_createUsers (h : u.Serves s tenant named) (ht : u.Reachable t)
    (hlisted : Listed named (u.records t)) :
    u.Leads t (s.createUsers token tenant named)
      (UserDirectory.Creations (u.records t) named.entries) := by
  have hroles : u.Leads t (s.roleIds token tenant)
      (AllOrNothing (fun ids d => ids = (u.records t).roleIds ∧ d = u.records t)
        (u.records t)) := by
    refine (leads_send (h.roles token) (fun _ _ _ hlists => hlists.1) ht).bind
      (fun reply t₁ ht₁ hlists => ?_) fun e d hsame => hsame
    refine leads_mk_pure ht₁ ?_
    rw [hlists.2.1]
    exact ⟨rfl, hlists.2.2⟩
  refine hroles.bind (fun ids t₁ ht₁ hids => ?_) fun e d hsame => hsame ▸ .unasked e
  obtain ⟨rfl, hsame⟩ := hids
  rw [← hsame] at hlisted ⊢
  exact leads_createEach h ht₁ fun e he => ⟨List.mem_map_of_mem he, hlisted e he⟩

/-! ## Runs one after the other -/

/-- A run, between two states. -/
structure Rerun (σ : Type) where
  before : σ
  outcome : Outcome Unit
  after : σ

/-- Creates the users of a tenant. -/
def rerun (s : IdentityService) (handler : Handler MachineCall.Answer σ) (tenant : String)
    (named : Users) (token : Token) (t : σ) : Rerun σ :=
  let ran := Program.run handler (s.createUsers token tenant named).run t
  ⟨t, ran.1, ran.2⟩

/-- Creates the users of a tenant once with every token. -/
def reruns (s : IdentityService) (handler : Handler MachineCall.Answer σ) (tenant : String)
    (named : Users) : List Token → σ → List (Rerun σ)
  | [], _ => []
  | token :: later, t =>
    let run := s.rerun handler tenant named token t
    run :: reruns s handler tenant named later run.after

theorem leads_rerun (h : u.Serves s tenant named) (ht : u.Reachable t)
    (hlisted : Listed named (u.records t)) {run : Rerun σ}
    (hrun : run = s.rerun u.handler tenant named token t) :
    u.Reachable run.after ∧ Listed named (u.records run.after) ∧
      UserDirectory.Creations (u.records t) named.entries run.outcome (u.records run.after) := by
  subst hrun
  obtain ⟨hreach, hshows⟩ : u.Leads t (s.createUsers token tenant named) _ :=
    leads_createUsers h ht hlisted
  refine ⟨hreach, fun e he role hrole => ?_, hshows⟩
  show (u.records (Program.run u.handler _ t).2).roleIds.contains role = true
  rw [hshows.roleIds_eq]
  exact hlisted e he role hrole

theorem creations_of_mem_reruns (h : u.Serves s tenant named) {tokens : List Token}
    {run : Rerun σ} (ht : u.Reachable t) (hlisted : Listed named (u.records t))
    (hmem : run ∈ s.reruns u.handler tenant named tokens t) :
    UserDirectory.Creations (u.records run.before) named.entries run.outcome
      (u.records run.after) := by
  induction tokens generalizing t with
  | nil => cases hmem
  | cons token later ih =>
    obtain ⟨hreach, hlisted', hcreations⟩ := leads_rerun h ht hlisted rfl
    rcases List.mem_cons.1 hmem with rfl | hmem
    · exact hcreations
    · exact ih hreach hlisted' hmem

/-- A user is whole before the last of some runs if it was whole before all of them and none has
left it half. -/
theorem whole_before_last (h : u.Serves s tenant named) {tokens : List Token}
    {earlier : List (Rerun σ)} {last : Rerun σ} (ht : u.Reachable t)
    (hlisted : Listed named (u.records t))
    (hruns : s.reruns u.handler tenant named tokens t = earlier ++ [last]) :
    (u.records last.before).Whole name user ↔ (u.records t).Whole name user ∧
      ∀ run ∈ earlier,
        ¬UserDirectory.LeavesHalf (u.records run.before) (u.records run.after) name user := by
  induction tokens generalizing t earlier with
  | nil => simp [reruns] at hruns
  | cons token later ih =>
    obtain ⟨hreach, hlisted', hcreations⟩ := leads_rerun h ht hlisted rfl
    cases earlier with
    | nil =>
      obtain ⟨rfl, _⟩ := List.cons.inj hruns
      exact (and_iff_left (List.forall_mem_nil _)).symm
    | cons first earlier =>
      obtain ⟨rfl, hlater⟩ := List.cons.inj hruns
      rw [ih hreach hlisted' hlater, hcreations.whole_iff, List.forall_mem_cons, and_assoc]
      exact Iff.rfl

/-- A run leaves one user half at most, and only if it fails. -/
theorem leavesHalf_unique (h : u.Serves s tenant named) {tokens : List Token} {run : Rerun σ}
    (ht : u.Reachable t) (hlisted : Listed named (u.records t))
    (hrun : run ∈ s.reruns u.handler tenant named tokens t) (hmem : (name, user) ∈ named.entries)
    (hhalf : UserDirectory.LeavesHalf (u.records run.before) (u.records run.after) name user) :
    run.outcome ≠ .ok () ∧ ∀ other user', (other, user') ∈ named.entries →
      UserDirectory.LeavesHalf (u.records run.before) (u.records run.after) other user' →
        other = name := by
  have hcreations := creations_of_mem_reruns h ht hlisted hrun
  constructor
  · intro hok
    rw [hok] at hcreations
    exact hcreations.not_leavesHalf_of_ok named.nodup_keys hmem hhalf
  · intro other user' hother hhalf'
    exact hcreations.half_unique named.nodup_keys hother hmem hhalf' hhalf

/-- Behind a run that ends well every user is there, and it has its password and its roles unless it
was there without them at first or an earlier run has left it half. -/
theorem keeps_iff_of_ok (h : u.Serves s tenant named) {tokens : List Token}
    {earlier : List (Rerun σ)} {last : Rerun σ} (ht : u.Reachable t)
    (hlisted : Listed named (u.records t))
    (hruns : s.reruns u.handler tenant named tokens t = earlier ++ [last])
    (hok : last.outcome = .ok ()) (hmem : (name, user) ∈ named.entries) :
    (u.records last.after).users.contains name = true ∧
      ((u.records last.after).Keeps name user ↔ (u.records t).Whole name user ∧
        ∀ run ∈ earlier,
          ¬UserDirectory.LeavesHalf (u.records run.before) (u.records run.after) name user) := by
  have hlast : last ∈ s.reruns u.handler tenant named tokens t := by
    rw [hruns]
    exact List.mem_append_right _ List.mem_cons_self
  have hcreations := creations_of_mem_reruns h ht hlisted hlast
  rw [hok] at hcreations
  have hthere := (hcreations.of_ok named.nodup_keys hmem).1
  have hcomplete := hcreations.not_leavesHalf_of_ok named.nodup_keys hmem
  refine ⟨hthere, ?_⟩
  rw [← whole_before_last h ht hlisted hruns]
  calc (u.records last.after).Keeps name user
      ↔ (u.records last.after).Whole name user := ⟨fun hkeeps _ => hkeeps, fun hw => hw hthere⟩
    _ ↔ (u.records last.before).Whole name user ∧ ¬UserDirectory.LeavesHalf
          (u.records last.before) (u.records last.after) name user := hcreations.whole_iff
    _ ↔ (u.records last.before).Whole name user := and_iff_left hcomplete

/-! ## Runs at a directory -/

/-- One user is described, with a role. -/
def staff : Users := Table.ofList [("admin", { password := "secret", roles := ["admin"] })]

/-- A client of a directory, which sends every request once. -/
def staffClient : IdentityService := .ofConfig ⟨⟨1, 0⟩, 30000⟩ {} "http://localhost:8001"

/-- A directory without users that lists the role. -/
def staffDirectory (mishaps : List (Option Mishap)) : UserDirectory :=
  { roleIds := Table.ofList [("admin", "role-1")], mishaps }

/-- A run that creates the user. -/
def firstRun (mishaps : List (Option Mishap)) : Rerun UserDirectory :=
  staffClient.rerun UserDirectory.handler "diku" staff ⟨"first"⟩ (staffDirectory mishaps)

/-- A second run, behind the first. -/
def secondRun (mishaps : List (Option Mishap)) : Rerun UserDirectory :=
  staffClient.rerun UserDirectory.handler "diku" staff ⟨"second"⟩ (firstRun mishaps).after

theorem reruns_staff (mishaps : List (Option Mishap)) :
    staffClient.reruns UserDirectory.service.handler "diku" staff [⟨"first"⟩, ⟨"second"⟩]
      (staffDirectory mishaps) = [firstRun mishaps] ++ [secondRun mishaps] := rfl

theorem staffClient_reached : UserDirectory.Reached staffClient := by
  unfold UserDirectory.Reached
  decide +kernel

theorem listed_staff (mishaps : List (Option Mishap)) :
    Listed staff (staffDirectory mishaps) := by
  intro e he role hrole
  obtain rfl := List.mem_singleton.1 he
  obtain rfl := List.mem_singleton.1 hrole
  rfl

theorem sound_staffDirectory {mishaps : List (Option Mishap)}
    (h : ∀ code, some (.status code) ∈ mishaps → code = 500) :
    (staffDirectory mishaps).Sound where
  listed := by
    show Http.Client.decode _ (staffDirectory []).listRoles = .ok (staffDirectory []).roleIds
    decide +kernel
  numbered _ hid := nomatch hid
  failing code hcode := by
    obtain rfl := h code hcode
    decide

theorem keeps_records {d : UserDirectory} :
    (UserDirectory.service.records d).Keeps name user ↔ d.Keeps name user := Iff.rfl

/-- A connection that is lost in a first run does no harm. -/
theorem kept_behind_lost_connection :
    (firstRun [some (.transport .connect)]).outcome = .error (.transport .connect) ∧
      (secondRun [some (.transport .connect)]).outcome = .ok () ∧
      (secondRun [some (.transport .connect)]).after.Keeps "admin"
        { password := "secret", roles := ["admin"] } := by
  obtain ⟨hlost, hadded, hok⟩ :
      (firstRun [some (.transport .connect)]).outcome = .error (.transport .connect) ∧
        (firstRun [some (.transport .connect)]).after.users.contains "admin" = false ∧
        (secondRun [some (.transport .connect)]).outcome = .ok () := by
    decide +kernel
  have hsound : (staffDirectory [some (.transport .connect)]).Sound :=
    sound_staffDirectory (by simp)
  have hadmin : ("admin", { password := "secret", roles := ["admin"] }) ∈ staff.entries :=
    List.mem_cons_self
  obtain ⟨_, hkeeps⟩ := keeps_iff_of_ok (UserDirectory.serves staffClient_reached "diku" staff)
    hsound (listed_staff _) (reruns_staff _) hok hadmin
  refine ⟨hlost, hok, keeps_records.1 (hkeeps.2 ⟨?_, fun run hrun hhalf => ?_⟩)⟩
  · exact UserDirectory.whole_of_new rfl
  · obtain rfl := List.mem_singleton.1 hrun
    have hthere : (firstRun [some (.transport .connect)]).after.users.contains "admin" = true :=
      hhalf.2.1
    rw [hadded] at hthere
    cases hthere

/-- A user whose password is refused in a first run is without one behind a second run that ends
well. -/
theorem half_behind_refused_password :
    UserDirectory.service.Serves staffClient "diku" staff ∧
      (staffDirectory [none, none, some (.status 500)]).Sound ∧
      Listed staff (staffDirectory [none, none, some (.status 500)]) ∧
      (firstRun [none, none, some (.status 500)]).outcome = .error (.answered "users" 500 "") ∧
      (secondRun [none, none, some (.status 500)]).outcome = .ok () ∧
      ¬(secondRun [none, none, some (.status 500)]).after.Keeps "admin"
        { password := "secret", roles := ["admin"] } := by
  obtain ⟨hrefused, hok, hnone⟩ :
      (firstRun [none, none, some (.status 500)]).outcome = .error (.answered "users" 500 "") ∧
        (secondRun [none, none, some (.status 500)]).outcome = .ok () ∧
        (secondRun [none, none, some (.status 500)]).after.passwords = .empty := by
    decide +kernel
  refine ⟨UserDirectory.serves staffClient_reached "diku" staff, sound_staffDirectory (by simp),
    listed_staff _, hrefused, hok, fun hkeeps => ?_⟩
  obtain ⟨id, _, hpassword, _⟩ := hkeeps
  rw [hnone] at hpassword
  cases hpassword

end IdentityService

end Fleet
