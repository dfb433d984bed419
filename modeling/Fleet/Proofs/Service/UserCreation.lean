import Fleet.Proofs.Table
import Fleet.Service.Directory

/-!
# What becomes of users

A user is stored in up to three steps: the user, the password, the roles. `Creation` says what may
have become of one user when each of the steps may fail, and `Creations` what may have become of
several, of which the first failure is the end. Users that are there already are passed over as they
are, so a creation completes the users that it adds and no others.

`LeavesHalf` says that a user has been added without everything that was described. No creation that
ends well does so, one that fails does so with one user at most (`Creations.half_unique`), and no
creation ever mends it: a user is whole behind a creation if it was whole before and has not been
left half (`Creations.whole_iff`).
-/

namespace Fleet

namespace UserDirectory

variable {d d' : UserDirectory} {name other id : String} {user : User} {o : Outcome Unit}

/-! ## The records of one user -/

/-- A user is there, under an id. -/
def enroll (d : UserDirectory) (name id : String) : UserDirectory :=
  { d with users := d.users.insert name id }

/-- A user is there with the password. -/
def withPassword (d : UserDirectory) (name id : String) (user : User) : UserDirectory :=
  ((d.enroll name id).setPassword id user.password).2

/-- A user is there with the password and the roles. -/
def complete (d : UserDirectory) (name id : String) (user : User) : UserDirectory :=
  if user.roles = [] then d.withPassword name id user
  else ((d.withPassword name id user).assign id (user.roles.filterMap d.roleIds.find?)).2

/-- What may have become of a user that was to be created. -/
inductive Creation (d : UserDirectory) (name : String) (user : User) :
    Outcome Unit → UserDirectory → Prop
  | present (hthere : d.users.contains name = true) : Creation d name user (.ok ()) d
  | fruitless (e : Failure) : Creation d name user (.error e) d
  | withoutPassword {id : String} (hnew : d.users.contains name = false)
      (hid : id ∉ d.users.values) (e : Failure) :
      Creation d name user (.error e) (d.enroll name id)
  | withoutRoles {id : String} (hnew : d.users.contains name = false)
      (hid : id ∉ d.users.values) (e : Failure) :
      Creation d name user (.error e) (d.withPassword name id user)
  | complete {id : String} (hnew : d.users.contains name = false) (hid : id ∉ d.users.values) :
      Creation d name user (.ok ()) (d.complete name id user)

/-- One directory has come of another by what is stored under a new name and a new id. -/
structure Adds (d : UserDirectory) (name id : String) (d' : UserDirectory) : Prop where
  roleIds : d'.roleIds = d.roleIds
  users : d'.users = d.users.insert name id
  passwords : ∀ id' ≠ id, d'.passwords.find? id' = d.passwords.find? id'
  assigned : ∀ id' ≠ id, d'.assigned.find? id' = d.assigned.find? id'

theorem adds_enroll : d.Adds name id (d.enroll name id) :=
  ⟨rfl, rfl, fun _ _ => rfl, fun _ _ => rfl⟩

theorem adds_withPassword : d.Adds name id (d.withPassword name id user) where
  roleIds := rfl
  users := rfl
  passwords _ hne := (Table.find?_insert _ _ _ _).trans (if_neg hne)
  assigned _ _ := rfl

theorem adds_complete : d.Adds name id (d.complete name id user) := by
  unfold complete
  split
  · exact adds_withPassword
  · refine ⟨rfl, rfl, adds_withPassword.passwords, fun _ hne => ?_⟩
    exact (Table.find?_insert _ _ _ _).trans (if_neg hne)

theorem find?_eq_none (hnew : d.users.contains name = false) : d.users.find? name = none := by
  simpa [Table.contains] using hnew

namespace Adds

variable (h : d.Adds name id d')

include h

theorem contains_iff : d'.users.contains other = true ↔
    other = name ∨ d.users.contains other = true := by
  unfold Table.contains
  rw [h.users, Table.find?_insert]
  split
  · next heq => simp [heq]
  · next hne => simp [hne]

/-- Under the name of a user that is there already, all stays as it is. -/
theorem keeps_iff (hnew : d.users.contains name = false) (hid : id ∉ d.users.values)
    (hthere : d.users.contains other = true) (user : User) :
    d'.Keeps other user ↔ d.Keeps other user := by
  have hne : other ≠ name := by
    rintro rfl
    simp [hnew] at hthere
  have hfind : d'.users.find? other = d.users.find? other := by
    rw [h.users, Table.find?_insert, if_neg hne]
  refine exists_congr fun id' => ?_
  rw [hfind, h.roleIds]
  refine and_congr_right fun hid' => ?_
  have hapart : id' ≠ id := by
    rintro rfl
    exact hid (List.mem_map_of_mem (Table.mem_entries_iff.2 hid'))
  rw [h.passwords id' hapart, h.assigned id' hapart]

end Adds

theorem keeps_complete : (d.complete name id user).Keeps name user := by
  refine ⟨id, ?_, ?_, fun hroles => ?_⟩
  · rw [adds_complete.users, Table.find?_insert, if_pos rfl]
  · have hpassword : (d.withPassword name id user).passwords.find? id = some user.password :=
      (Table.find?_insert _ _ _ _).trans (if_pos rfl)
    unfold complete
    split <;> exact hpassword
  · rw [adds_complete.roleIds]
    unfold complete
    rw [if_neg hroles]
    exact (Table.find?_insert _ _ _ _).trans (if_pos rfl)

namespace Creation

/-- A creation changes nothing, or adds a user. -/
theorem adds (h : Creation d name user o d') : d' = d ∨
    d.users.contains name = false ∧ ∃ id, id ∉ d.users.values ∧ d.Adds name id d' := by
  cases h with
  | present _ => exact .inl rfl
  | fruitless _ => exact .inl rfl
  | withoutPassword hnew hid _ => exact .inr ⟨hnew, _, hid, adds_enroll⟩
  | withoutRoles hnew hid _ => exact .inr ⟨hnew, _, hid, adds_withPassword⟩
  | complete hnew hid => exact .inr ⟨hnew, _, hid, adds_complete⟩

theorem roleIds_eq (h : Creation d name user o d') : d'.roleIds = d.roleIds := by
  rcases h.adds with rfl | ⟨_, id, _, hadds⟩
  · rfl
  · exact hadds.roleIds

theorem contains_of_contains (h : Creation d name user o d')
    (hthere : d.users.contains other = true) : d'.users.contains other = true := by
  rcases h.adds with rfl | ⟨_, id, _, hadds⟩
  · exact hthere
  · exact hadds.contains_iff.2 (.inr hthere)

theorem eq_of_contains (h : Creation d name user o d') (hnew : d.users.contains other = false)
    (hthere : d'.users.contains other = true) : other = name := by
  rcases h.adds with rfl | ⟨_, id, _, hadds⟩
  · simp [hnew] at hthere
  · rcases hadds.contains_iff.1 hthere with heq | hthere
    · exact heq
    · simp [hnew] at hthere

/-- A user that is there already is left as it is. -/
theorem keeps_iff (h : Creation d name user o d') (hthere : d.users.contains other = true)
    (u : User) : d'.Keeps other u ↔ d.Keeps other u := by
  rcases h.adds with rfl | ⟨hnew, id, hid, hadds⟩
  · rfl
  · exact hadds.keeps_iff hnew hid hthere u

/-- A creation that ends well leaves a user that is there, and a complete one if it is new. -/
theorem of_ok (h : Creation d name user (.ok ()) d') : d'.users.contains name = true ∧
    (d.users.contains name = false → d'.Keeps name user) := by
  cases h with
  | present hthere =>
    refine ⟨hthere, ?_⟩
    intro hnew
    simp [hnew] at hthere
  | complete hnew hid => exact ⟨adds_complete.contains_iff.2 (.inl rfl), fun _ => keeps_complete⟩

end Creation

/-! ## Several users -/

/-- What may have become of users that were to be created one after the other. -/
inductive Creations : UserDirectory → List (String × User) → Outcome Unit → UserDirectory → Prop
  | nothing {d : UserDirectory} : Creations d [] (.ok ()) d
  /-- Not even the first user was asked for. -/
  | unasked {d : UserDirectory} {entries : List (String × User)} (e : Failure) :
      Creations d entries (.error e) d
  | stopped {d d' : UserDirectory} {name : String} {user : User} {rest : List (String × User)}
      {e : Failure} (h : Creation d name user (.error e) d') :
      Creations d ((name, user) :: rest) (.error e) d'
  | next {d d₁ d' : UserDirectory} {name : String} {user : User} {rest : List (String × User)}
      {o : Outcome Unit} (h : Creation d name user (.ok ()) d₁) (hrest : Creations d₁ rest o d') :
      Creations d ((name, user) :: rest) o d'

/-- If there is a user of the name, it has everything that was described. -/
def Whole (d : UserDirectory) (name : String) (user : User) : Prop :=
  d.users.contains name = true → d.Keeps name user

/-- A user has been added without everything that was described. -/
def LeavesHalf (d d' : UserDirectory) (name : String) (user : User) : Prop :=
  d.users.contains name = false ∧ d'.users.contains name = true ∧ ¬d'.Keeps name user

theorem whole_of_new (hnew : d.users.contains name = false) : d.Whole name user := by
  intro hthere
  simp [hnew] at hthere

namespace Creations

variable {entries : List (String × User)}

theorem roleIds_eq (h : Creations d entries o d') : d'.roleIds = d.roleIds := by
  induction h with
  | nothing => rfl
  | unasked e => rfl
  | stopped h => exact h.roleIds_eq
  | next h _ ih => exact ih.trans h.roleIds_eq

theorem contains_of_contains (h : Creations d entries o d')
    (hthere : d.users.contains other = true) : d'.users.contains other = true := by
  induction h with
  | nothing => exact hthere
  | unasked e => exact hthere
  | stopped h => exact h.contains_of_contains hthere
  | next h _ ih => exact ih (h.contains_of_contains hthere)

/-- Users that are there already are left as they are. -/
theorem keeps_iff (h : Creations d entries o d') (hthere : d.users.contains other = true)
    (u : User) : d'.Keeps other u ↔ d.Keeps other u := by
  induction h with
  | nothing => exact Iff.rfl
  | unasked e => exact Iff.rfl
  | stopped h => exact h.keeps_iff hthere u
  | next h _ ih => exact (ih (h.contains_of_contains hthere)).trans (h.keeps_iff hthere u)

/-- A creation that ends well leaves every user there, and the new ones complete. -/
theorem of_ok (h : Creations d entries (.ok ()) d') (hkeys : (entries.map (·.1)).Nodup)
    (hmem : (name, user) ∈ entries) : d'.users.contains name = true ∧
      (d.users.contains name = false → d'.Keeps name user) := by
  generalize ho : (.ok () : Outcome Unit) = o at h
  induction h with
  | nothing => cases hmem
  | unasked e => cases ho
  | stopped h => cases ho
  | next h hrest ih =>
    obtain ⟨hhead, htail⟩ := List.nodup_cons.1 hkeys
    rcases List.mem_cons.1 hmem with heq | hmem
    · cases heq
      obtain ⟨hthere, hkept⟩ := h.of_ok
      exact ⟨hrest.contains_of_contains hthere,
        fun hnew => (hrest.keeps_iff hthere _).2 (hkept hnew)⟩
    · obtain ⟨hthere, hkept⟩ := ih htail hmem ho
      refine ⟨hthere, fun hnew => hkept (Bool.eq_false_iff.2 fun hadded => hhead ?_)⟩
      exact List.mem_map.2 ⟨_, hmem, h.eq_of_contains hnew hadded⟩

theorem not_leavesHalf_of_ok (h : Creations d entries (.ok ()) d')
    (hkeys : (entries.map (·.1)).Nodup) (hmem : (name, user) ∈ entries) :
    ¬LeavesHalf d d' name user :=
  fun hhalf => hhalf.2.2 ((h.of_ok hkeys hmem).2 hhalf.1)

/-- A creation leaves one user half at most. -/
theorem half_unique {user' : User} (h : Creations d entries o d')
    (hkeys : (entries.map (·.1)).Nodup) (hmem : (name, user) ∈ entries)
    (hmem' : (other, user') ∈ entries) (hhalf : LeavesHalf d d' name user)
    (hhalf' : LeavesHalf d d' other user') : name = other := by
  induction h with
  | nothing => cases hmem
  | unasked e => exact absurd hhalf.2.1 (Bool.eq_false_iff.1 hhalf.1)
  | stopped h =>
    exact (h.eq_of_contains hhalf.1 hhalf.2.1).trans (h.eq_of_contains hhalf'.1 hhalf'.2.1).symm
  | @next d d₁ d' head described rest o h hrest ih =>
    obtain ⟨hhead, htail⟩ := List.nodup_cons.1 hkeys
    -- the first user is complete if it is new, so the half one is among the others
    have hbehind : ∀ {name user}, (name, user) ∈ (head, described) :: rest →
        LeavesHalf d d' name user → (name, user) ∈ rest ∧ LeavesHalf d₁ d' name user := by
      intro name user hmem hhalf
      rcases List.mem_cons.1 hmem with heq | hmem
      · cases heq
        obtain ⟨hthere, hkept⟩ := h.of_ok
        exact absurd ((hrest.keeps_iff hthere _).2 (hkept hhalf.1)) hhalf.2.2
      · refine ⟨hmem, Bool.eq_false_iff.2 fun hadded => hhead ?_, hhalf.2⟩
        exact List.mem_map.2 ⟨_, hmem, h.eq_of_contains hhalf.1 hadded⟩
    obtain ⟨hmem, hhalf⟩ := hbehind hmem hhalf
    obtain ⟨hmem', hhalf'⟩ := hbehind hmem' hhalf'
    exact ih htail hmem hmem' hhalf hhalf'

/-- A user is whole behind a creation if it was whole before and has not been left half. -/
theorem whole_iff (h : Creations d entries o d') :
    d'.Whole name user ↔ d.Whole name user ∧ ¬LeavesHalf d d' name user := by
  cases hthere : d.users.contains name with
  | true =>
    have hthere' := h.contains_of_contains hthere
    have hkeeps := h.keeps_iff hthere user
    constructor
    · intro hwhole
      refine ⟨fun _ => hkeeps.1 (hwhole hthere'), ?_⟩
      intro hhalf
      simp [hhalf.1] at hthere
    · rintro ⟨hwhole, _⟩ _
      exact hkeeps.2 (hwhole hthere)
  | false =>
    constructor
    · intro hwhole
      exact ⟨whole_of_new hthere, fun hhalf => hhalf.2.2 (hwhole hhalf.2.1)⟩
    · rintro ⟨_, hnot⟩ hadded
      exact by_contra fun hlacks => hnot ⟨hthere, hadded, hlacks⟩

end Creations

end UserDirectory

end Fleet
