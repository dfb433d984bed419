import Fleet.Proofs.Rehearsal.Tenants

/-!
# Ids of registered tenants

A tenant is created under a name and addressed by an id from then on. Ids are given out by creations
only, each the id of the next number, so the ids that calls have given out are those of the numbers
counted (`Accounts`), and a removed tenant's id does not come back when its name does. Whatever a
register has answered, its tenants are those that were created, in the order of their creation,
without those that were removed.

`accountable_after` says what follows for the calls about tenants after any others: which of them
fail, that these change nothing, and what the others change and note.
-/

namespace Fleet.TenantRegister

variable {r : TenantRegister} {name description id : String} {t : TenantRecord}

/-! ## Single calls -/

theorem any_name_iff :
    (r.tenants.any fun t => t.name == name) = true ↔ name ∈ r.tenants.map (·.name) := by
  simp [List.any_eq_true]

/-- The creation of a name that a tenant has fails, and changes nothing. -/
theorem create_of_mem (h : name ∈ r.tenants.map (·.name)) :
    r.create name description =
      (.error (.answered service 409 s!"tenant {name} already exists"), r) :=
  if_pos (any_name_iff.2 h)

/-- The tenant that the next creation makes: its id is that of the next number. -/
def next (r : TenantRegister) (name description : String) : TenantRecord :=
  ⟨idOf (r.created + 1), name, description⟩

/-- Any other creation makes the next tenant, and puts it behind the others. -/
theorem create_of_not_mem (h : name ∉ r.tenants.map (·.name)) :
    r.create name description = (.ok (r.next name description),
      { r with
        created := r.created + 1
        tenants := r.tenants ++ [r.next name description]
        calls := r.calls ++ [s!"create-tenant:{name}"] }) :=
  if_neg (mt any_name_iff.1 h)

theorem find?_eq_none_iff : r.find? id = none ↔ id ∉ r.tenants.map (·.id) := by
  simp [find?]

theorem remove_of_find?_none (h : r.find? id = none) : r.remove id = (.error (notFound id), r) := by
  rw [remove, h]

theorem remove_of_find? (h : r.find? id = some t) :
    r.remove id = (.ok (),
      { r with
        tenants := r.tenants.filter fun u => u.id != id
        calls := r.calls ++ [s!"remove-tenant:{t.name}"] }) := by
  rw [remove, h]
  rfl

theorem noteFor_of_find?_none (h : r.find? id = none) (verb : String)
    (applications : List String) : r.noteFor verb id applications = (.error (notFound id), r) := by
  rw [noteFor, h]

/-- A note about a tenant leaves the counter and the tenants as they are. -/
theorem noteFor_keeps (r : TenantRegister) (verb id : String) (applications : List String) :
    (r.noteFor verb id applications).2.created = r.created ∧
      (r.noteFor verb id applications).2.tenants = r.tenants := by
  unfold noteFor
  split <;> exact ⟨rfl, rfl⟩

/-! ## Tenants that come and go -/

/-- The tenant that a call creates. -/
def issue? (r : TenantRegister) : ManagementCall → Option TenantRecord
  | .createTenant _ name description => (r.create name description).1.toOption
  | _ => none

/-- The id whose tenant a call removes. -/
def drop? (r : TenantRegister) : ManagementCall → Option String
  | .removeTenant _ id => (r.remove id).1.toOption.map fun _ => id
  | _ => none

/-- The tenants that calls create from a register on, in order. -/
def issuedFrom (r : TenantRegister) : List ManagementCall → List TenantRecord
  | [] => []
  | call :: rest => (r.issue? call).toList ++ (handler call r).2.issuedFrom rest

/-- The ids whose tenants calls remove from a register on, in order. -/
def removedFrom (r : TenantRegister) : List ManagementCall → List String
  | [] => []
  | call :: rest => (r.drop? call).toList ++ (handler call r).2.removedFrom rest

/-- The tenants that calls to an empty register create, in order. -/
def issued (calls : List ManagementCall) : List TenantRecord := issuedFrom {} calls

/-- The ids whose tenants calls to an empty register remove, in order. -/
def removed (calls : List ManagementCall) : List String := removedFrom {} calls

/-- The call creates no tenant and removes none. -/
structure Idle (r : TenantRegister) (call : ManagementCall) : Prop where
  issue : r.issue? call = none
  drop : r.drop? call = none
  created : (handler call r).2.created = r.created
  tenants : (handler call r).2.tenants = r.tenants

/-- A call creates a tenant under a new name, or it removes the tenant with an id, or it does
neither. -/
theorem handler_cases (r : TenantRegister) (call : ManagementCall) :
    (∃ token name description, call = .createTenant token name description ∧
      name ∉ r.tenants.map (·.name)) ∨
    (∃ token id t, call = .removeTenant token id ∧ r.find? id = some t) ∨ r.Idle call := by
  cases call with
  | createTenant token name description =>
    by_cases hname : name ∈ r.tenants.map (·.name)
    · have hcreate : r.create name description = (.error _, r) := create_of_mem hname
      refine .inr (.inr ⟨?_, rfl, ?_, ?_⟩)
      · exact congrArg (·.1.toOption) hcreate
      · exact congrArg (·.2.created) hcreate
      · exact congrArg (·.2.tenants) hcreate
    · exact .inl ⟨token, name, description, rfl, hname⟩
  | removeTenant token id =>
    cases hfind : r.find? id with
    | none =>
      have hremove := remove_of_find?_none hfind
      refine .inr (.inr ⟨rfl, ?_, ?_, ?_⟩)
      · exact congrArg (·.1.toOption.map fun _ => id) hremove
      · exact congrArg (·.2.created) hremove
      · exact congrArg (·.2.tenants) hremove
    | some t => exact .inr (.inl ⟨token, id, t, rfl, hfind⟩)
  | entitle token id applications =>
    obtain ⟨hcreated, htenants⟩ := r.noteFor_keeps "entitle" id applications
    exact .inr (.inr ⟨rfl, rfl, hcreated, htenants⟩)
  | revoke token id applications =>
    obtain ⟨hcreated, htenants⟩ := r.noteFor_keeps "revoke" id applications
    exact .inr (.inr ⟨rfl, rfl, hcreated, htenants⟩)
  | tenants token => exact .inr (.inr ⟨rfl, rfl, rfl, rfl⟩)
  | createApplication token application => exact .inr (.inr ⟨rfl, rfl, rfl, rfl⟩)
  | registerDiscovery token modules => exact .inr (.inr ⟨rfl, rfl, rfl, rfl⟩)

/-- The register accounts for the tenants that were created and the ids that were removed: the ids
of the former are those of the numbers that have been counted, and without the latter they are the
tenants. -/
structure Accounts (records : List TenantRecord) (gone : List String) (r : TenantRegister) :
    Prop where
  counted : records.map (·.id) = (List.range r.created).map fun n => idOf (n + 1)
  known : ∀ id ∈ gone, id ∈ records.map (·.id)
  standing : r.tenants = records.filter fun t => !gone.contains t.id

namespace Accounts

variable {records : List TenantRecord} {gone : List String}

theorem nodup_ids (h : Accounts records gone r) : (records.map (·.id)).Nodup := by
  rw [h.counted]
  exact List.nodup_range.map fun m n heq => Nat.succ.inj (idOf_injective heq)

theorem created_eq (h : Accounts records gone r) : r.created = records.length := by
  have hlength := congrArg List.length h.counted
  rw [List.length_map, List.length_map, List.length_range] at hlength
  exact hlength.symm

/-- The next id has not been given out. -/
theorem next_not_mem (h : Accounts records gone r) :
    idOf (r.created + 1) ∉ records.map (·.id) := by
  rw [h.counted, List.mem_map]
  rintro ⟨n, hn, heq⟩
  have hnumber : n + 1 = r.created + 1 := idOf_injective heq
  have hcounted := List.mem_range.1 hn
  omega

/-- An id that was removed is without a tenant. -/
theorem not_mem (h : Accounts records gone r) (hid : id ∈ gone) : id ∉ r.tenants.map (·.id) := by
  rw [h.standing, List.mem_map]
  rintro ⟨t, ht, rfl⟩
  have hstays : t.id ∉ gone := by simpa using (List.mem_filter.1 ht).2
  exact hstays hid

theorem create (h : Accounts records gone r) (hname : name ∉ r.tenants.map (·.name)) :
    Accounts (records ++ [r.next name description]) gone (r.create name description).2 := by
  rw [create_of_not_mem hname]
  refine ⟨?_, fun id hid => ?_, ?_⟩
  · rw [List.map_append, h.counted]
    exact (congrArg (List.map _) List.range_succ).trans List.map_append |>.symm
  · rw [List.map_append]
    exact List.mem_append_left _ (h.known id hid)
  · have hstays : (r.next name description).id ∉ gone := fun hid => h.next_not_mem (h.known _ hid)
    have hnew : [r.next name description].filter (fun t => !gone.contains t.id) =
        [r.next name description] := List.filter_cons_of_pos (by simpa using hstays)
    rw [List.filter_append, ← h.standing, hnew]

theorem remove (h : Accounts records gone r) (hfind : r.find? id = some t) :
    Accounts records (gone ++ [id]) (r.remove id).2 := by
  rw [remove_of_find? hfind]
  refine ⟨h.counted, fun x hx => ?_, ?_⟩
  · rcases List.mem_append.1 hx with hx | hx
    · exact h.known x hx
    · have hid : t.id = id := by simpa using List.find?_some hfind
      have ht : t ∈ records.filter fun t => !gone.contains t.id :=
        h.standing ▸ List.mem_of_find?_eq_some hfind
      rw [List.mem_singleton.1 hx, ← hid]
      exact List.mem_map_of_mem (List.mem_filter.1 ht).1
  · show r.tenants.filter (fun u => u.id != id) = _
    rw [h.standing, List.filter_filter]
    refine List.filter_congr fun u _ => ?_
    simp [Bool.and_comm, bne, beq_eq_decide]

theorem call (h : Accounts records gone r) (call : ManagementCall) :
    Accounts (records ++ (r.issue? call).toList) (gone ++ (r.drop? call).toList)
      (handler call r).2 := by
  rcases handler_cases r call with
    ⟨token, name, description, rfl, hname⟩ | ⟨token, id, t, rfl, hfind⟩ | hidle
  · have hissue : r.issue? (.createTenant token name description) =
        some (r.next name description) :=
      congrArg (·.1.toOption) (create_of_not_mem hname)
    have hdrop : r.drop? (.createTenant token name description) = none := rfl
    rw [hissue, hdrop, Option.toList_none, List.append_nil]
    exact h.create hname
  · have hissue : r.issue? (.removeTenant token id) = none := rfl
    have hdrop : r.drop? (.removeTenant token id) = some id :=
      congrArg (·.1.toOption.map fun _ => id) (remove_of_find? hfind)
    rw [hissue, hdrop, Option.toList_none, List.append_nil]
    exact h.remove hfind
  · rw [hidle.issue, hidle.drop, Option.toList_none, Option.toList_none, List.append_nil,
      List.append_nil]
    exact ⟨hidle.created ▸ h.counted, h.known, hidle.tenants.trans h.standing⟩

theorem foldl (calls : List ManagementCall) (h : Accounts records gone r) :
    Accounts (records ++ r.issuedFrom calls) (gone ++ r.removedFrom calls)
      (calls.foldl (fun r call => (handler call r).2) r) := by
  induction calls generalizing r records gone with
  | nil => rwa [issuedFrom, removedFrom, List.append_nil, List.append_nil]
  | cons call rest ih =>
    rw [issuedFrom, removedFrom, ← List.append_assoc, ← List.append_assoc]
    exact ih (h.call call)

end Accounts

theorem accounts_after (calls : List ManagementCall) :
    Accounts (issued calls) (removed calls) (after calls) := by
  have hempty : Accounts [] [] {} := ⟨rfl, fun id hid => absurd hid List.not_mem_nil, rfl⟩
  exact hempty.foldl calls

/-- Of the tenants of a consistent register, one has the id of a tenant. -/
theorem Consistent.filter_id_eq_erase (h : r.Consistent) (ht : t ∈ r.tenants) :
    (r.tenants.filter fun u => u.id != t.id) = r.tenants.erase t := by
  have hdistinct : r.tenants.Nodup := .of_map _ h.ids
  rw [hdistinct.erase_eq_filter]
  refine List.filter_congr fun u hu => ?_
  have hsame : u.id = t.id ↔ u = t :=
    ⟨List.inj_on_of_nodup_map h.ids hu ht, congrArg TenantRecord.id⟩
  simp only [bne, beq_eq_decide, hsame]

/-! ## Registers after any calls -/

/-- What a register that has answered calls holds, and what calls about tenants do to it. -/
structure Accountable (calls : List ManagementCall) : Prop where
  /-- No two tenants have one name. -/
  names : ((after calls).tenants.map (·.name)).Nodup
  /-- No two tenants have one id. -/
  ids : ((after calls).tenants.map (·.id)).Nodup
  /-- No id was given out twice. -/
  once : ((issued calls).map (·.id)).Nodup
  /-- The counter counts the tenants that were created. -/
  counter : (after calls).created = (issued calls).length
  /-- The tenants are those that were created and whose ids were not removed, in the order of their
  creation. -/
  tenants : (after calls).tenants = (issued calls).filter fun t => !(removed calls).contains t.id
  /-- An id whose tenant was removed stays without one for ever. -/
  gone : ∀ id ∈ removed calls, ∀ more, id ∉ (after (calls ++ more)).tenants.map (·.id)
  /-- The creation of a name that a tenant has fails, and changes nothing. -/
  refused : ∀ token name description, name ∈ (after calls).tenants.map (·.name) →
    handler (.createTenant token name description) (after calls) =
      (.error (.answered "management" 409 s!"tenant {name} already exists"), after calls)
  /-- Any other creation answers with a tenant whose id was never given out, and puts it behind the
  others. -/
  create : ∀ token name description, name ∉ (after calls).tenants.map (·.name) →
    ∃ id, id ∉ (issued calls).map (·.id) ∧
      handler (.createTenant token name description) (after calls) =
        (.ok ⟨id, name, description⟩, { after calls with
          created := (after calls).created + 1
          tenants := (after calls).tenants ++ [⟨id, name, description⟩]
          calls := (after calls).calls ++ [s!"create-tenant:{name}"] })
  /-- A call about an id that no tenant has fails, and changes nothing. -/
  unknown : ∀ token id, id ∉ (after calls).tenants.map (·.id) →
    let failure := Failure.answered "management" 404 s!"tenant {id} not found"
    handler (.removeTenant token id) (after calls) = (.error failure, after calls) ∧
    ∀ applications,
      handler (.entitle token id applications) (after calls) = (.error failure, after calls) ∧
      handler (.revoke token id applications) (after calls) = (.error failure, after calls)
  /-- The tenant with an id is removed, and no other, and the note names it. -/
  remove : ∀ token, ∀ t ∈ (after calls).tenants,
    handler (.removeTenant token t.id) (after calls) = (.ok (), { after calls with
      tenants := (after calls).tenants.erase t
      calls := (after calls).calls ++ [s!"remove-tenant:{t.name}"] })
  /-- Entitling the tenant with an id only makes a note that names it. -/
  entitle : ∀ token applications, ∀ t ∈ (after calls).tenants,
    handler (.entitle token t.id applications) (after calls) = (.ok (), { after calls with
      calls := (after calls).calls ++ [noteText "entitle" t.name applications] })
  /-- So does revoking. -/
  revoke : ∀ token applications, ∀ t ∈ (after calls).tenants,
    handler (.revoke token t.id applications) (after calls) = (.ok (), { after calls with
      calls := (after calls).calls ++ [noteText "revoke" t.name applications] })

/-- Whatever a register has answered, it accounts for its tenants. -/
theorem accountable_after (calls : List ManagementCall) : Accountable calls := by
  have hconsistent := consistent_after calls
  have haccounts := accounts_after calls
  refine
    { names := hconsistent.names
      ids := hconsistent.ids
      once := haccounts.nodup_ids
      counter := haccounts.created_eq
      tenants := haccounts.standing
      gone := fun id hid more => ?gone
      refused := fun token name description hname => create_of_mem hname
      create := fun token name description hname => ?create
      unknown := fun token id hid => ?unknown
      remove := fun token t ht => ?remove
      entitle := fun token applications t ht => hconsistent.noteFor_id ht "entitle" applications
      revoke := fun token applications t ht => hconsistent.noteFor_id ht "revoke" applications }
  case gone =>
    rw [after, List.foldl_append]
    exact (haccounts.foldl more).not_mem (List.mem_append_left _ hid)
  case create => exact ⟨_, haccounts.next_not_mem, create_of_not_mem hname⟩
  case unknown =>
    have hfind := find?_eq_none_iff.2 hid
    exact ⟨remove_of_find?_none hfind, fun applications =>
      ⟨noteFor_of_find?_none hfind _ _, noteFor_of_find?_none hfind _ _⟩⟩
  case remove =>
    rw [← hconsistent.filter_id_eq_erase ht]
    exact remove_of_find? (hconsistent.find?_id ht)

/-- A name that is created anew comes with another id. -/
example : (issued [.createTenant ⟨"t"⟩ "hub" "", .removeTenant ⟨"t"⟩ "tenant-0001",
    .createTenant ⟨"t"⟩ "hub" ""]).map (·.id) = ["tenant-0001", "tenant-0002"] := by
  decide +kernel

end Fleet.TenantRegister
