import Fleet.Json.Printer
import Fleet.Proofs.Http.Deliveries
import Fleet.Proofs.Table
import Fleet.Service.Identity
import Mathlib.Data.List.Sort
import Mathlib.Data.String.Basic

/-!
# Which capability sets are assigned

What sets a role is given is computed from ids by name, which the service lists in any order and
perhaps with names that are repeated. Their keeper may be met in any order too: a `Walk` is an order
in which a hash map of the listed names is met. Since the ids of a role are sorted before they are
sent, the requests do not depend on any of these orders, and they are what an accepting service
receives (`IdentityService.attach_exact`).
-/

namespace Fleet

open Json

/-! ## Walks over ids by name -/

/-- A walk over the hash map that has been made of a list of names with ids: it meets every name
once, with the id that is listed last under it, in no particular order. -/
structure Walk (listed : List (String × String)) where
  entries : List (String × String)
  distinct : (entries.map (·.1)).Nodup
  mem_iff : ∀ name id, (name, id) ∈ entries ↔ Table.lastUnder listed name = some id

namespace Walk

variable {listed : List (String × String)} (w : Walk listed)

/-- The table of a list can be walked in the order of names. -/
def ofTable (listed : List (String × String)) : Walk listed where
  entries := (Table.ofList listed).entries
  distinct := (Table.ofList listed).nodup_keys
  mem_iff name id := by rw [Table.mem_entries_iff, Table.find?_ofList]

/-- The way back. -/
def reverse : Walk listed where
  entries := w.entries.reverse
  distinct := by
    rw [List.map_reverse, List.nodup_reverse]
    exact w.distinct
  mem_iff name id := List.mem_reverse.trans (w.mem_iff name id)

/-- The id under a name. -/
def get? (name : String) : Option String := (w.entries.find? fun e => e.1 = name).map (·.2)

/-- The ids in the order in which they are met. -/
def values : List String := w.entries.map (·.2)

/-- The ids that are chosen for a role: those of the listed ones among the sets that it names, or
those of all listed sets if it names none. -/
def chosen (role : Role) : List String :=
  if role.capabilitySets = [] then w.values else role.capabilitySets.filterMap w.get?

/-- The ids that a role is given: the chosen ones, ascending. -/
def idsFor (role : Role) : List String := (w.chosen role).mergeSort

theorem get?_eq_some_iff {name id : String} : w.get? name = some id ↔ (name, id) ∈ w.entries := by
  rw [get?, Option.map_eq_some_iff]
  have hkey : ∀ {e : String × String}, w.entries.find? (fun e => e.1 = name) = some e →
      e.1 = name := fun he => by simpa using List.find?_some he
  constructor
  · rintro ⟨e, he, rfl⟩
    exact hkey he ▸ List.mem_of_find?_eq_some he
  · intro hmem
    have hsome : (w.entries.find? fun e => e.1 = name).isSome :=
      List.find?_isSome.2 ⟨_, hmem, by simp⟩
    obtain ⟨e, he⟩ := Option.isSome_iff_exists.1 hsome
    have heq : e = (name, id) :=
      List.inj_on_of_nodup_map w.distinct (List.mem_of_find?_eq_some he) hmem (hkey he)
    exact ⟨e, he, congrArg Prod.snd heq⟩

/-- What is found does not depend on the walk. -/
theorem get?_eq : w.get? = (Table.ofList listed).find? := by
  refine funext fun name => Option.ext fun id => ?_
  rw [get?_eq_some_iff, w.mem_iff, Table.find?_ofList]

/-- The same ids are met in any order. -/
theorem values_perm : w.values.Perm (Table.ofList listed).values := by
  have hentries : w.entries.Perm (Table.ofList listed).entries := by
    refine (List.perm_ext_iff_of_nodup (.of_map _ w.distinct)
      (.of_map _ (Table.ofList listed).nodup_keys)).2 fun e => ?_
    obtain ⟨name, id⟩ := e
    rw [w.mem_iff, Table.mem_entries_iff, Table.find?_ofList]
  exact hentries.map _

end Walk

/-- A sorted list does not depend on the order before. -/
theorem mergeSort_eq_of_perm {l m : List String} (h : l.Perm m) : l.mergeSort = m.mergeSort :=
  (((List.mergeSort_perm l _).trans h).trans (List.mergeSort_perm m _).symm).eq_of_pairwise'
    (List.pairwise_mergeSort' (· ≤ ·) l) (List.pairwise_mergeSort' (· ≤ ·) m)

namespace Walk

variable {listed : List (String × String)} (w : Walk listed)

/-- A role is given the one ascending list of its ids. -/
theorem idsFor_eq_iff {role : Role} {ids : List String} :
    w.idsFor role = ids ↔ ids.Pairwise (· ≤ ·) ∧ ids.Perm (w.chosen role) := by
  constructor
  · rintro rfl
    exact ⟨List.pairwise_mergeSort' (· ≤ ·) _, List.mergeSort_perm _ _⟩
  · rintro ⟨hascending, hperm⟩
    rw [idsFor, ← mergeSort_eq_of_perm hperm]
    exact List.mergeSort_of_pairwise (hascending.imp decide_eq_true)

theorem idsFor_eq (role : Role) :
    w.idsFor role = IdentityService.chosenSets (Table.ofList listed) role := by
  unfold idsFor chosen IdentityService.chosenSets
  refine mergeSort_eq_of_perm ?_
  by_cases hnone : role.capabilitySets = []
  · rw [if_pos hnone, if_pos (List.isEmpty_iff.2 hnone)]
    exact w.values_perm
  · rw [if_neg hnone, if_neg (mt List.isEmpty_iff.1 hnone), w.get?_eq]

end Walk

namespace IdentityService

open Http (Reply Request)
open Http.Client (decode)

/-! ## What is sent -/

/-- The request by which the ids under a path are asked for. -/
def listing (s : IdentityService) (token : Token) (tenant path : String) : Request :=
  s.request .get token tenant (path ++ "?limit=10000") .empty

/-- The request by which sets are attached to a role. -/
def assignment (s : IdentityService) (token : Token) (tenant : String) (body : Json) : Request :=
  s.request .post token tenant "/roles/capability-sets" (.json body)

/-- What is assigned to a role. -/
def assigned (role : String) (sets : List String) : Json :=
  .object [("roleId", .string role), ("capabilitySetIds", ofTexts sets)]

section Spec

variable {roles sets : List (String × String)} (byRole : Walk roles) (bySet : Walk sets)

/-- The requests by which sets are attached to roles, as far as every role is listed. For a role
that is given no set there is none. -/
def assignments (s : IdentityService) (token : Token) (tenant : String)
    (named : List (String × Role)) : List Request :=
  (named.takeWhile fun e => (byRole.get? e.1).isSome).filterMap fun e =>
    if bySet.idsFor e.2 = [] then none
    else (byRole.get? e.1).map fun id => s.assignment token tenant (assigned id (bySet.idsFor e.2))

/-- The first role that is not listed is the end. -/
def ending (tenant : String) (named : List (String × Role)) : Outcome Unit :=
  match named.find? fun e => (byRole.get? e.1).isNone with
  | none => .ok ()
  | some e => .error (.config (.absentRole e.1 tenant))

variable {byRole bySet} {s : IdentityService} {token : Token} {tenant name : String} {role : Role}
  {rest : List (String × Role)}

theorem assignments_of_absent (h : byRole.get? name = none) :
    s.assignments byRole bySet token tenant ((name, role) :: rest) = [] := by
  rw [assignments, List.takeWhile_cons_of_neg (by simp [h])]
  rfl

theorem assignments_of_listed {id : String} (h : byRole.get? name = some id) :
    s.assignments byRole bySet token tenant ((name, role) :: rest) =
      (if bySet.idsFor role = [] then []
        else [s.assignment token tenant (assigned id (bySet.idsFor role))]) ++
      s.assignments byRole bySet token tenant rest := by
  rw [assignments, List.takeWhile_cons_of_pos (by simp [h]), List.filterMap_cons]
  by_cases hnone : bySet.idsFor role = []
  · simp only [if_pos hnone, List.nil_append]
    rfl
  · simp only [if_neg hnone, h, Option.map_some, List.singleton_append]
    rfl

theorem ending_of_absent (h : byRole.get? name = none) :
    ending byRole tenant ((name, role) :: rest) = .error (.config (.absentRole name tenant)) := by
  rw [ending, List.find?_cons_of_pos (by simp [h])]

theorem ending_of_listed {id : String} (h : byRole.get? name = some id) :
    ending byRole tenant ((name, role) :: rest) = ending byRole tenant rest := by
  rw [ending, List.find?_cons_of_neg (by simp [h])]
  rfl

end Spec

/-! ## At a service -/

/-- A reply lists names with ids, in this order. -/
def Lists (member : String) (reply : Reply) (listed : List (String × String)) : Prop :=
  decode (readListed? member) reply = .ok listed

section Serves

variable {σ : Type} (s : IdentityService) (token : Token) (tenant : String)
  (handler : Handler MachineCall.Answer σ)

/-- The next `n` assignments succeed. -/
def Accepts : (n : Nat) → σ → Prop
  | 0, _ => True
  | n + 1, t => ∀ body, ∃ reply t',
      Program.run handler (s.client.send capabilitySets (s.assignment token tenant body)).run t =
        (.ok reply, t') ∧ Accepts n t'

/-- Names with ids are listed under a path. -/
def ListedAt (service path member : String) (listed : List (String × String)) (t t' : σ) : Prop :=
  ∃ reply, Lists member reply listed ∧
    Program.run handler (s.client.send service (s.listing token tenant path)).run t =
      (.ok reply, t')

/-- Roles and sets are listed, and then the next `n` assignments succeed. -/
def Serves (roles sets : List (String × String)) (n : Nat) (t : σ) : Prop :=
  ∃ t₁ t₂,
    s.ListedAt token tenant handler IdentityService.roles "/roles" "roles" roles t t₁ ∧
    s.ListedAt token tenant handler capabilitySets "/capability-sets" "capabilitySets" sets t₁ t₂ ∧
    s.Accepts token tenant handler n t₂

variable {s token tenant handler} {t t' : σ}

theorem Accepts.of_succ {n : Nat} (h : s.Accepts token tenant handler (n + 1) t) :
    s.Accepts token tenant handler n t := by
  induction n generalizing t with
  | zero => trivial
  | succ n ih =>
    intro body
    obtain ⟨reply, t', hrun, hrest⟩ := h body
    exact ⟨reply, t', hrun, ih hrest⟩

/-- What is made of all that a reply stands for can be made by its reader. -/
theorem decode_map {α β : Type} {read : Reader α} {reply : Reply} {a : α} (f : α → β)
    (h : decode read reply = .ok a) : decode (fun j => (read j).map f) reply = .ok (f a) := by
  have hmap : ((Json.parse? reply.body).bind fun j => (read j).map f) =
      ((Json.parse? reply.body).bind read).map f := Option.map_bind.symm
  unfold decode at h ⊢
  rw [hmap]
  cases hread : (Json.parse? reply.body).bind read with
  | none =>
    rw [hread] at h
    cases h
  | some value =>
    rw [hread] at h
    cases h
    rfl

/-- Of a listing that is read, the last id of a name counts. -/
theorem decode_of_lists {member : String} {reply : Reply} {listed : List (String × String)}
    (h : Lists member reply listed) :
    decode (readNamedList? member) reply = .ok (Table.ofList listed) :=
  decode_map Table.ofList h

theorem sends_namedIds {service path member : String} {listed : List (String × String)}
    (h : s.ListedAt token tenant handler service path member listed t t') :
    s.client.Sends handler t (s.namedIds service member path token tenant)
      [s.listing token tenant path] (.ok (Table.ofList listed)) t' := by
  obtain ⟨reply, hlists, hrun⟩ := h
  have hlimit : s!"?limit={listLimit}" = "?limit=10000" := by decide
  rw [namedIds, hlimit]
  refine (Http.Client.sends_send hrun).bind_pure ?_
  rw [decode_of_lists hlists]
  rfl

/-- Roles are given their sets one after another, as far as they are listed. -/
theorem sends_attachEach {roles sets : List (String × String)} (byRole : Walk roles)
    (bySet : Walk sets) (named : List (String × Role))
    (h : s.Accepts token tenant handler named.length t) :
    ∃ t', s.client.Sends handler t
      (s.attachEach token tenant (Table.ofList roles) (Table.ofList sets) named)
      (s.assignments byRole bySet token tenant named) (ending byRole tenant named) t' := by
  induction named generalizing t with
  | nil => exact ⟨t, Http.Client.sends_pure⟩
  | cons e rest ih =>
    obtain ⟨name, role⟩ := e
    unfold attachEach
    rw [← byRole.get?_eq]
    cases hid : byRole.get? name with
    | none =>
      rw [assignments_of_absent hid, ending_of_absent hid]
      exact ⟨t, Http.Client.sends_throw⟩
    | some id =>
      rw [assignments_of_listed hid, ending_of_listed hid]
      dsimp only
      rw [← bySet.idsFor_eq]
      by_cases hnone : bySet.idsFor role = []
      · rw [if_pos hnone, if_pos (List.isEmpty_iff.2 hnone), List.nil_append]
        exact ih h.of_succ
      · rw [if_neg hnone, if_neg (mt List.isEmpty_iff.1 hnone)]
        obtain ⟨reply, t₁, hrun, hrest⟩ := h (assigned id (bySet.idsFor role))
        obtain ⟨t', hsends⟩ := ih hrest
        exact ⟨t', (Http.Client.sends_send hrun).bind hsends⟩

/-- A list, or, if its names are pairwise distinct, any other order of it. -/
def Reordered (listed listed' : List (String × String)) : Prop :=
  listed' = listed ∨ (listed.map (·.1)).Nodup ∧ listed'.Perm listed

theorem Reordered.ofList_eq {listed listed' : List (String × String)}
    (h : Reordered listed listed') : Table.ofList listed' = Table.ofList listed := by
  obtain rfl | ⟨hdistinct, hperm⟩ := h
  · rfl
  · refine Table.ext_find? fun name => ?_
    rw [Table.find?_ofList, Table.find?_ofList, Table.lastUnder_eq_of_perm hdistinct hperm]

/-- Sets are attached to roles by asking for the ids of roles and sets and then sending, in the
order of names, one request for each role that is given sets, until a role is not listed. It does
not matter in which order a hash map of the ids is met, nor, if names are listed once, in which
order they are listed. -/
theorem attach_exact (named : Roles) {roles sets : List (String × String)}
    (hserved : s.Serves token tenant handler roles sets named.size t) (byRole : Walk roles)
    (bySet : Walk sets) :
    (∃ t', s.client.Sends handler t (s.attach token tenant named)
      (s.listing token tenant "/roles" :: s.listing token tenant "/capability-sets" ::
        s.assignments byRole bySet token tenant named.entries)
      (ending byRole tenant named.entries) t') ∧
    ∀ {roles' sets' : List (String × String)} (byRole' : Walk roles') (bySet' : Walk sets'),
      Reordered roles roles' → Reordered sets sets' →
      s.assignments byRole' bySet' token tenant named.entries =
        s.assignments byRole bySet token tenant named.entries ∧
      ending byRole' tenant named.entries = ending byRole tenant named.entries := by
  constructor
  · obtain ⟨t₁, t₂, hroles, hsets, haccepts⟩ := hserved
    obtain ⟨t', hsends⟩ := sends_attachEach byRole bySet named.entries haccepts
    exact ⟨t', (sends_namedIds hroles).bind ((sends_namedIds hsets).bind hsends)⟩
  · intro roles' sets' byRole' bySet' hroles hsets
    have hrole : byRole'.get? = byRole.get? := by
      rw [byRole'.get?_eq, byRole.get?_eq, hroles.ofList_eq]
    have hids : bySet'.idsFor = bySet.idsFor := funext fun role => by
      rw [bySet'.idsFor_eq, bySet.idsFor_eq, hsets.ofList_eq]
    constructor
    · rw [assignments, assignments, hrole, hids]
    · rw [ending, ending, hrole]

end Serves

/-! ## A front desk -/

/-- The reply that lists names with ids. -/
def listingReply (member : String) (listed : List (String × String)) : Reply :=
  ⟨200, (Json.object [(member, .array (listed.map fun e =>
    .object [("id", .string e.2), ("name", .string e.1)]))]).render⟩

/-- One role is listed twice. -/
def deskRoles : List (String × String) :=
  [("clerk", "r1"), ("tester", "r5"), ("admin", "r2"), ("clerk", "r3"), ("guest", "r4")]

def deskSets : List (String × String) := [("write", "s1"), ("read", "s2")]

/-- The roles of the desk. The guest's set is not listed, and the porter is not listed either. -/
def desk : Roles :=
  Table.ofList [("admin", {}), ("clerk", { capabilitySets := ["read", "write", "audit", "read"] }),
    ("guest", { capabilitySets := ["audit"] }), ("porter", {}), ("tester", {})]

/-- A client that makes two attempts. -/
def deskClient : IdentityService := .ofConfig ⟨⟨2, 100⟩, 30000⟩ {} "http://localhost:8001"

/-- The sets are listed in a second attempt only. -/
def deskAnswers : Http.Answers
  | 0 => .ok (listingReply "roles" deskRoles)
  | 1 => .ok ⟨503, ""⟩
  | 2 => .ok (listingReply "capabilitySets" deskSets)
  | _ => .ok ⟨201, ""⟩

/-- The headers of the desk can be sent. -/
theorem exists_message {method : Http.Method} {path : String} {body : Http.Body}
    (h : (Url.parse? (deskClient.gateway ++ path)).isSome = true) :
    ∃ m, (deskClient.request method ⟨"t"⟩ "diku" path body).message? = some m := by
  have hheaders : ((deskClient.request method ⟨"t"⟩ "diku" path body).headers.all fun h =>
      h.2.toList.all Http.canBeSent) = true := by
    show List.all [Http.bearer ⟨"t"⟩, ("x-okapi-tenant", "diku"), ("x-okapi-token", "t")] _ = true
    decide
  rw [← Option.isSome_iff_exists, Request.message?, if_pos hheaders, Option.isSome_map]
  exact h

theorem accepts_desk (n : Nat) {answers : Http.Answers} (h : ∀ k, answers k = .ok ⟨201, ""⟩) :
    deskClient.Accepts ⟨"t"⟩ "diku" Http.Answers.handler n answers := by
  induction n generalizing answers with
  | zero => trivial
  | succ n ih =>
    intro body
    obtain ⟨m, hm⟩ : ∃ m, (deskClient.assignment ⟨"t"⟩ "diku" body).message? = some m :=
      exists_message (by decide +kernel)
    have hkept : Http.Client.isTransient (answers 0) = false := by
      rw [h 0]
      rfl
    refine ⟨⟨201, ""⟩, _, ?_, ih fun k => h (1 + k)⟩
    rw [Http.Client.run_send_of_message _ _ hm]
    refine (Program.run_bind_of (Http.Client.makes_of_final 0 hkept).ends).trans ?_
    rw [h 0]
    rfl

theorem serves_desk :
    deskClient.Serves ⟨"t"⟩ "diku" Http.Answers.handler deskRoles deskSets 5 deskAnswers := by
  obtain ⟨hroles, hsets⟩ : Lists "roles" (listingReply "roles" deskRoles) deskRoles ∧
      Lists "capabilitySets" (listingReply "capabilitySets" deskSets) deskSets := by
    unfold Lists
    decide +kernel
  obtain ⟨m, hm⟩ : ∃ m, (deskClient.listing ⟨"t"⟩ "diku" "/roles").message? = some m :=
    exists_message (by decide +kernel)
  obtain ⟨m', hm'⟩ : ∃ m, (deskClient.listing ⟨"t"⟩ "diku" "/capability-sets").message? = some m :=
    exists_message (by decide +kernel)
  refine ⟨deskAnswers.drop 1, ((deskAnswers.drop 1).drop 1).drop 1, ⟨_, hroles, ?_⟩,
    ⟨_, hsets, ?_⟩, accepts_desk 5 fun k => ?_⟩
  · rw [Http.Client.run_send_of_message _ _ hm]
    rfl
  · rw [Http.Client.run_send_of_message _ _ hm']
    rfl
  · rw [Http.Answers.drop_drop, Http.Answers.drop_drop, Http.Answers.drop, Nat.add_comm]
    rfl

/-- The admin is given all sets and the clerk the listed ones, the guest none; the porter is the
end. -/
theorem assignments_desk :
    deskClient.assignments (.ofTable deskRoles) (Walk.ofTable deskSets).reverse ⟨"t"⟩ "diku"
        desk.entries =
      [deskClient.assignment ⟨"t"⟩ "diku" (assigned "r2" ["s1", "s2"]),
        deskClient.assignment ⟨"t"⟩ "diku" (assigned "r3" ["s1", "s2", "s2"])] := by
  have hentries : desk.entries = [("admin", {}),
      ("clerk", { capabilitySets := ["read", "write", "audit", "read"] }),
      ("guest", { capabilitySets := ["audit"] }), ("porter", {}), ("tester", {})] := by
    decide +kernel
  obtain ⟨hadmin, hclerk, hguest, hporter⟩ :
      (Walk.ofTable deskRoles).get? "admin" = some "r2" ∧
        (Walk.ofTable deskRoles).get? "clerk" = some "r3" ∧
        (Walk.ofTable deskRoles).get? "guest" = some "r4" ∧
        (Walk.ofTable deskRoles).get? "porter" = none := by
    decide +kernel
  have hall : (Walk.ofTable deskSets).reverse.idsFor {} = ["s1", "s2"] :=
    (Walk.idsFor_eq_iff _).2 (by decide +kernel)
  have htwice : (Walk.ofTable deskSets).reverse.idsFor
      { capabilitySets := ["read", "write", "audit", "read"] } = ["s1", "s2", "s2"] :=
    (Walk.idsFor_eq_iff _).2 (by decide +kernel)
  have hnone : (Walk.ofTable deskSets).reverse.idsFor { capabilitySets := ["audit"] } = [] :=
    (Walk.idsFor_eq_iff _).2 (by decide +kernel)
  rw [hentries, assignments_of_listed hadmin, assignments_of_listed hclerk,
    assignments_of_listed hguest, assignments_of_absent hporter, hall, htwice, hnone]
  rfl

/-- Sets are attached to two roles of the desk, and would be in the same way if they were listed the
other way round. -/
theorem attach_desk :
    (∃ t', deskClient.client.Sends Http.Answers.handler deskAnswers
      (deskClient.attach ⟨"t"⟩ "diku" desk)
      [deskClient.listing ⟨"t"⟩ "diku" "/roles", deskClient.listing ⟨"t"⟩ "diku" "/capability-sets",
        deskClient.assignment ⟨"t"⟩ "diku" (assigned "r2" ["s1", "s2"]),
        deskClient.assignment ⟨"t"⟩ "diku" (assigned "r3" ["s1", "s2", "s2"])]
      (.error (.config (.absentRole "porter" "diku"))) t') ∧
    deskClient.assignments (.ofTable deskRoles) (.ofTable deskSets.reverse) ⟨"t"⟩ "diku"
        desk.entries =
      [deskClient.assignment ⟨"t"⟩ "diku" (assigned "r2" ["s1", "s2"]),
        deskClient.assignment ⟨"t"⟩ "diku" (assigned "r3" ["s1", "s2", "s2"])] := by
  have hending : ending (.ofTable deskRoles) "diku" desk.entries =
      .error (.config (.absentRole "porter" "diku")) := by
    decide +kernel
  obtain ⟨hsends, hsame⟩ :=
    attach_exact desk serves_desk (.ofTable deskRoles) (Walk.ofTable deskSets).reverse
  rw [assignments_desk, hending] at hsends
  have hlast : Reordered deskSets deskSets.reverse :=
    .inr ⟨by decide, List.reverse_perm deskSets⟩
  obtain ⟨hassignments, _⟩ :=
    hsame (.ofTable deskRoles) (.ofTable deskSets.reverse) (.inl rfl) hlast
  exact ⟨hsends, hassignments.trans assignments_desk⟩

end IdentityService

end Fleet
