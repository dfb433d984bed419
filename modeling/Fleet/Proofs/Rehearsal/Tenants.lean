import Fleet.Rehearsal.Tenants
import Mathlib.Data.List.Nodup

/-!
# Laws of registered tenants

A register that has only answered calls is consistent: no two tenants have one name, and the ids are
those of ascending numbers that have been given out (`consistent_after`). Since an id tells its
number (`idOf_injective`), no two tenants have one id, and a call about the id of a tenant is about
this tenant.
-/

namespace Fleet.TenantRegister

theorem toList_idOf (n : Nat) : (idOf n).toList = "tenant-".toList ++
    (List.replicate (4 - (Nat.toDigits 10 n).length) '0' ++ Nat.toDigits 10 n) := by
  unfold idOf
  rw [String.toList_append, Nat.toString_eq_repr, Nat.toList_repr]
  exact congrArg ("tenant-".toList ++ ·) String.toList_ofList

/-- The number can be read off an id, also behind the zeros. -/
theorem idOf_injective : Function.Injective idOf := by
  intro m n h
  have hpadded := congrArg String.toList h
  rw [toList_idOf, toList_idOf] at hpadded
  have hread := congrArg (Nat.ofDigitChars 10 · 0) (List.append_cancel_left hpadded)
  rwa [Nat.ofDigitChars_append, Nat.ofDigitChars_append, Nat.ofDigitChars_replicate_zero,
    Nat.ofDigitChars_replicate_zero, Nat.mul_zero, Nat.mul_zero, Nat.ofDigitChars_ten_toDigits,
    Nat.ofDigitChars_ten_toDigits] at hread

/-! ## Consistent registers -/

/-- Names are pairwise distinct, and tenants stand in the order of the numbers they were given. -/
structure Consistent (r : TenantRegister) : Prop where
  names : (r.tenants.map (·.name)).Nodup
  numbered : ∃ numbers : List Nat, r.tenants.map (·.id) = numbers.map idOf ∧
    numbers.Pairwise (· < ·) ∧ ∀ n ∈ numbers, n ≤ r.created

variable {r : TenantRegister}

theorem Consistent.ids (h : r.Consistent) : (r.tenants.map (·.id)).Nodup := by
  obtain ⟨numbers, hids, hascending, _⟩ := h.numbered
  have hdistinct : numbers.Nodup := hascending.imp fun hlt => Nat.ne_of_lt hlt
  rw [hids]
  exact hdistinct.map idOf_injective

/-- A register without tenants is consistent. -/
theorem consistent_empty : Consistent {} where
  names := List.nodup_nil
  numbered := ⟨[], rfl, .nil, fun _ hn => absurd hn List.not_mem_nil⟩

theorem Consistent.create (h : r.Consistent) (name description : String) :
    (r.create name description).2.Consistent := by
  unfold TenantRegister.create
  split
  · exact h
  · next habsent =>
    obtain ⟨numbers, hids, hascending, hgiven⟩ := h.numbered
    refine ⟨?_, numbers ++ [r.created + 1], ?_, ?_, fun n hn => ?_⟩
    · show ((r.tenants ++ [(_ : TenantRecord)]).map (·.name)).Nodup
      rw [List.map_append]
      refine h.names.append (List.nodup_singleton _) fun x hx hname => habsent ?_
      obtain ⟨t, ht, rfl⟩ := List.mem_map.1 hx
      exact List.any_eq_true.2 ⟨t, ht, beq_iff_eq.2 (List.mem_singleton.1 hname)⟩
    · show (r.tenants ++ [(_ : TenantRecord)]).map (·.id) = _
      rw [List.map_append, List.map_append, hids]
      rfl
    · refine List.pairwise_append.2 ⟨hascending, List.pairwise_singleton _ _, fun m hm n hn => ?_⟩
      rw [List.mem_singleton.1 hn]
      exact Nat.lt_succ_of_le (hgiven m hm)
    · show n ≤ r.created + 1
      rcases List.mem_append.1 hn with hn | hn
      · exact Nat.le_succ_of_le (hgiven n hn)
      · exact Nat.le_of_eq (List.mem_singleton.1 hn)

theorem Consistent.remove (h : r.Consistent) (id : String) : (r.remove id).2.Consistent := by
  unfold TenantRegister.remove
  split
  · exact h
  · obtain ⟨numbers, hids, hascending, hgiven⟩ := h.numbered
    refine ⟨h.names.sublist (List.filter_sublist.map _),
      numbers.filter fun n => idOf n != id, ?_, ?_, fun n hn => ?_⟩
    · show (r.tenants.filter ((· != id) ∘ (·.id))).map (·.id) =
        (numbers.filter ((· != id) ∘ idOf)).map idOf
      rw [← List.filter_map, ← List.filter_map, hids]
    · exact hascending.sublist List.filter_sublist
    · exact hgiven n (List.mem_filter.1 hn).1

theorem Consistent.noteFor (h : r.Consistent) (verb id : String) (applications : List String) :
    (r.noteFor verb id applications).2.Consistent := by
  unfold TenantRegister.noteFor
  split
  · exact h
  · exact ⟨h.names, h.numbered⟩

/-- Calls keep a register consistent. -/
theorem Consistent.handler (h : r.Consistent) (call : ManagementCall) :
    (handler call r).2.Consistent := by
  cases call with
  | tenants token => exact h
  | createTenant token name description => exact h.create name description
  | removeTenant token id => exact h.remove id
  | entitle token id applications => exact h.noteFor _ id applications
  | revoke token id applications => exact h.noteFor _ id applications
  | createApplication token application => exact ⟨h.names, h.numbered⟩
  | registerDiscovery token modules => exact ⟨h.names, h.numbered⟩

/-- The register that has answered calls in their order. -/
def after (calls : List ManagementCall) : TenantRegister :=
  calls.foldl (fun r call => (handler call r).2) {}

theorem consistent_after (calls : List ManagementCall) : (after calls).Consistent := by
  have hcalls : ∀ r : TenantRegister, r.Consistent →
      (calls.foldl (fun r call => (TenantRegister.handler call r).2) r).Consistent := by
    induction calls with
    | nil => exact fun _ h => h
    | cons call rest ih => exact fun _ h => ih _ (h.handler call)
  exact hcalls {} consistent_empty

/-! ## Calls about tenants -/

/-- A tenant is decided by its name. -/
theorem Consistent.eq_of_name (h : r.Consistent) {t u : TenantRecord} (ht : t ∈ r.tenants)
    (hu : u ∈ r.tenants) (hname : t.name = u.name) : t = u :=
  List.inj_on_of_nodup_map h.names ht hu hname

/-- A tenant is found under its id. -/
theorem Consistent.find?_id (h : r.Consistent) {t : TenantRecord} (ht : t ∈ r.tenants) :
    r.find? t.id = some t := by
  unfold find?
  cases hfind : r.tenants.find? fun u => u.id == t.id with
  | none =>
    have hnot := List.find?_eq_none.1 hfind t ht
    exact absurd (beq_self_eq_true t.id) hnot
  | some u =>
    have hid : u.id = t.id := by simpa using List.find?_some hfind
    have hmem : u ∈ r.tenants := List.mem_of_find?_eq_some hfind
    rw [List.inj_on_of_nodup_map h.ids hmem ht hid]

/-- What is noted of a call about a tenant and applications. -/
def noteText (verb name : String) (applications : List String) : String :=
  let named := ",".intercalate applications
  s!"{verb}:{name}:{named}"

/-- A call about a tenant's id and applications is noted under the tenant's name. -/
theorem Consistent.noteFor_id (h : r.Consistent) {t : TenantRecord} (ht : t ∈ r.tenants)
    (verb : String) (applications : List String) :
    r.noteFor verb t.id applications = (.ok (), r.note (noteText verb t.name applications)) := by
  unfold TenantRegister.noteFor
  rw [h.find?_id ht]
  rfl

/-- The register with more notes. -/
def noteAll (r : TenantRegister) (notes : List String) : TenantRegister :=
  { r with calls := r.calls ++ notes }

theorem noteAll_nil (r : TenantRegister) : r.noteAll [] = r := by
  rw [noteAll, List.append_nil]

theorem noteAll_noteAll (r : TenantRegister) (notes more : List String) :
    (r.noteAll notes).noteAll more = r.noteAll (notes ++ more) := by
  simp only [noteAll, List.append_assoc]

theorem Consistent.noteAll (h : r.Consistent) (notes : List String) :
    (r.noteAll notes).Consistent := ⟨h.names, h.numbered⟩

/-- A tenant that is created stands behind the others, as it was asked for. -/
theorem create_ok {name description : String} {t : TenantRecord} {r' : TenantRegister}
    (h : r.create name description = (.ok t, r')) :
    t.name = name ∧ t.description = description ∧ r'.tenants = r.tenants ++ [t] := by
  unfold TenantRegister.create at h
  split at h
  · cases h
  · cases h
    exact ⟨rfl, rfl, rfl⟩

theorem create_error {name description : String} {e : Failure} {r' : TenantRegister}
    (h : r.create name description = (.error e, r')) : r' = r := by
  unfold TenantRegister.create at h
  split at h <;> cases h
  rfl

/-- Only a name that is registered is refused. -/
theorem mem_of_create_error {name description : String} {e : Failure} {r' : TenantRegister}
    (h : r.create name description = (.error e, r')) : name ∈ r.tenants.map (·.name) := by
  unfold TenantRegister.create at h
  split at h
  · next hany =>
    obtain ⟨t, ht, hname⟩ := List.any_eq_true.1 hany
    exact List.mem_map.2 ⟨t, ht, beq_iff_eq.1 hname⟩
  · cases h

end Fleet.TenantRegister
