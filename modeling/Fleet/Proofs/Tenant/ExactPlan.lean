import Fleet.Proofs.Tenant.Plan
import Mathlib.Data.List.Flatten
import Mathlib.Data.List.Nodup

/-!
# The plan is exact

The plan of a consistent description deals every described tenant into one partition, and lists it
there once; no two of its partitions have one description. It has the consortiums in name order,
each with its central partition before its members, and the tenants outside behind them
(`exactPlan_of_check`).

The tenants of one consortium are listed by a stable sort, so they stand in the order of its two
partitions (`consortiumTenants_eq`).
-/

namespace Fleet

namespace Config

variable {c : Config}

/-! ## Every tenant in one partition -/

/-- The partitions of a plan are told apart by their descriptions, and so are live tenants. -/
theorem nodup_descriptions (c : Config) : (c.partitions.map Partition.description).Nodup := by
  refine List.Nodup.map_on (fun p hp q hq h => ?_) (nodup_partitions c)
  exact (possible_of_mem_partitions hp).eq_of_description (possible_of_mem_partitions hq) h

theorem nodup_configured (c : Config) (p : Partition) : (c.configured p).Nodup :=
  c.tenants.nodup_keys.sublist (List.filter_sublist.map _)

/-- Partition by partition, each described tenant is listed once, and nobody else is. -/
theorem perm_configured (h : c.check = .ok ()) :
    (c.partitions.flatMap c.configured).Perm c.tenants.keys := by
  have hnodup : (c.partitions.flatMap c.configured).Nodup := by
    refine List.nodup_flatMap.2 ⟨fun p _ => nodup_configured c p, ?_⟩
    exact (nodup_partitions c).imp fun hne name hp hq => hne (eq_of_mem_configured hp hq)
  refine (List.perm_ext_iff_of_nodup hnodup c.tenants.nodup_keys).2 fun name => ?_
  rw [Table.mem_keys_iff, Option.isSome_iff_exists, List.mem_flatMap]
  constructor
  · rintro ⟨p, _, hname⟩
    obtain ⟨t, ht, _⟩ := mem_configured.1 hname
    exact ⟨t, ht⟩
  · rintro ⟨t, ht⟩
    exact ⟨_, ofTenant_mem_partitions h (Table.mem_entries_iff.2 ht), mem_configured.2 ⟨t, ht, rfl⟩⟩

theorem existsUnique_partition (h : c.check = .ok ()) {name : String}
    (hname : name ∈ c.tenants.keys) : ∃! p, p ∈ c.partitions ∧ name ∈ c.configured p := by
  obtain ⟨p, hp, hlisted⟩ := List.mem_flatMap.1 ((perm_configured h).mem_iff.2 hname)
  exact ⟨p, ⟨hp, hlisted⟩, fun q ⟨_, hq⟩ => eq_of_mem_configured hq hlisted⟩

/-! ## Central tenants -/

theorem ofTenant_eq_iff {t : Tenant} {name : String} {central : Bool} :
    Partition.ofTenant t = ⟨some name, .ofCentral central⟩ ↔
      t.consortium = some name ∧ t.central = central := by
  unfold Partition.ofTenant
  cases t.consortium with
  | none => simp [Partition.unaffiliated]
  | some k => simp [TenantType.ofCentral_injective.eq_iff]

/-- Of the tenants that pass the check, one at most is central in a consortium, and none if its
central tenant was met before. -/
theorem length_centrals_le {consortiums : Table String Consortium} (name : String) :
    ∀ {l : List (String × Tenant)} {centrals : List String},
      checkTenants consortiums centrals l = .ok () →
      (l.filter fun e => Partition.ofTenant e.2 = ⟨some name, .ofCentral true⟩).length ≤
        if name ∈ centrals then 0 else 1
  | [], _, _ => Nat.zero_le _
  | (tenant, t) :: rest, centrals, h => by
    obtain ⟨_, ⟨hmember, hrest⟩ | ⟨k, hk, hfirst, hrest⟩⟩ := checkTenants_cons h
    · have hother : ¬ Partition.ofTenant t = ⟨some name, .ofCentral true⟩ := by
        rw [ofTenant_eq_iff, hmember]
        simp
      rw [List.filter_cons_of_neg (by simpa using hother)]
      exact length_centrals_le name hrest
    · have ih := length_centrals_le name hrest
      by_cases hname : k = name
      · subst hname
        rw [if_pos List.mem_cons_self] at ih
        rw [if_neg hfirst, List.filter_cons]
        split
        · exact Nat.succ_le_succ ih
        · exact Nat.le_succ_of_le ih
      · have hother : ¬ Partition.ofTenant t = ⟨some name, .ofCentral true⟩ := by
          rw [ofTenant_eq_iff, hk]
          simp [hname]
        rw [List.filter_cons_of_neg (by simpa using hother)]
        simpa [Ne.symm hname] using ih

theorem length_central_le (h : c.check = .ok ()) (name : String) :
    (c.configured ⟨some name, .central⟩).length ≤ 1 := by
  have hle := length_centrals_le name (checkTenants_of_check h)
  rw [configured, List.length_map]
  exact Nat.le_trans hle (by split <;> decide)

/-! ## The tenants of a consortium -/

/-- A stable sort keeps the order of elements that no two of them are told apart by. -/
theorem filter_mergeSort {α : Type} {le : α → α → Bool}
    (htrans : ∀ a b c, le a b = true → le b c = true → le a c = true)
    (htotal : ∀ a b, (le a b || le b a) = true) {q : α → Bool}
    (halike : ∀ a b, q a = true → q b = true → le a b = true) (l : List α) :
    (l.mergeSort le).filter q = l.filter q := by
  have hsorted : (l.filter q).Pairwise fun a b => le a b = true :=
    List.pairwise_of_forall_mem_list fun a ha b hb =>
      halike a b (List.mem_filter.1 ha).2 (List.mem_filter.1 hb).2
  have hsublist := (List.sublist_mergeSort htrans htotal hsorted List.filter_sublist).filter q
  rw [List.filter_filter] at hsublist
  simp only [Bool.and_self] at hsublist
  have hlength := ((List.mergeSort_perm l le).filter q).length_eq
  exact (hsublist.eq_of_length hlength.symm).symm

theorem sortWeight_le_iff {t u : ConsortiumTenant} :
    t.sortWeight ≤ u.sortWeight ↔ (u.central = true → t.central = true) := by
  unfold ConsortiumTenant.sortWeight
  cases t.central <;> cases u.central <;> decide

/-- In the order of weights, the central tenants come first. -/
theorem eq_centrals_append : ∀ {l : List ConsortiumTenant},
    (l.Pairwise fun t u => t.sortWeight ≤ u.sortWeight) →
      l = l.filter (·.central == true) ++ l.filter (·.central == false)
  | [], _ => rfl
  | t :: rest, h => by
    obtain ⟨hfirst, hrest⟩ := List.pairwise_cons.1 h
    have ih := eq_centrals_append hrest
    by_cases ht : t.central = true
    · simpa [ht] using ih
    · have hmembers : rest.filter (·.central == true) = [] := by
        refine List.filter_eq_nil_iff.2 fun u hu hcentral => ht ?_
        exact sortWeight_le_iff.1 (hfirst u hu) (by simpa using hcentral)
      rw [List.filter_cons_of_neg (by simpa using ht), List.filter_cons_of_pos (by simpa using ht),
        hmembers, List.nil_append]
      rw [hmembers, List.nil_append] at ih
      exact congrArg (t :: ·) ih

/-- The tenants of a consortium, in name order. -/
theorem filterMap_consortium (name : String) (es : List (String × Tenant)) :
    (es.filterMap fun (tenant, t) =>
      if t.consortium = some name then some (⟨tenant, t.central⟩ : ConsortiumTenant) else none) =
      (es.filter fun e => e.2.consortium = some name).map fun e => ⟨e.1, e.2.central⟩ := by
  induction es with
  | nil => rfl
  | cons e rest ih =>
    by_cases hname : e.2.consortium = some name
    · simp [hname, ih]
    · simp [hname, ih]

/-- Of the tenants of a consortium, those of one type are listed in their partition. -/
theorem filter_consortium (c : Config) (name : String) (central : Bool) :
    ((c.tenants.entries.filter fun e => e.2.consortium = some name).map fun e =>
      (⟨e.1, e.2.central⟩ : ConsortiumTenant)).filter (·.central == central) =
      (c.configured ⟨some name, .ofCentral central⟩).map (⟨·, central⟩) := by
  have hpartition : (c.tenants.entries.filter fun e => e.2.consortium = some name).filter
      (fun e => e.2.central == central) =
      c.tenants.entries.filter fun e =>
        Partition.ofTenant e.2 = ⟨some name, .ofCentral central⟩ := by
    rw [List.filter_filter]
    refine List.filter_congr fun e _ => ?_
    simp [ofTenant_eq_iff, Bool.and_comm, Bool.beq_eq_decide_eq]
  rw [List.filter_map, configured, List.map_map, ← hpartition]
  refine List.map_congr_left fun e he => ?_
  have hcentral : e.2.central = central := by simpa using (List.mem_filter.1 he).2
  rw [hcentral]
  rfl

/-- The tenants of a consortium are those of its central partition and then its members. -/
theorem consortiumTenants_eq (c : Config) (name : String) :
    c.consortiumTenants name =
      (c.configured ⟨some name, .central⟩).map (⟨·, true⟩) ++
        (c.configured ⟨some name, .member⟩).map (⟨·, false⟩) := by
  have htrans : ∀ t u v : ConsortiumTenant, decide (t.sortWeight ≤ u.sortWeight) = true →
      decide (u.sortWeight ≤ v.sortWeight) = true →
      decide (t.sortWeight ≤ v.sortWeight) = true := by
    intro t u v htu huv
    exact decide_eq_true (Nat.le_trans (of_decide_eq_true htu) (of_decide_eq_true huv))
  have htotal : ∀ t u : ConsortiumTenant,
      (decide (t.sortWeight ≤ u.sortWeight) || decide (u.sortWeight ≤ t.sortWeight)) = true := by
    intro t u
    simpa using Nat.le_total t.sortWeight u.sortWeight
  have hsorted : (c.consortiumTenants name).Pairwise fun t u => t.sortWeight ≤ u.sortWeight :=
    (List.pairwise_mergeSort htrans htotal _).imp of_decide_eq_true
  have hfilter : ∀ central : Bool, (c.consortiumTenants name).filter (·.central == central) =
      (c.configured ⟨some name, .ofCentral central⟩).map (⟨·, central⟩) := by
    intro central
    rw [← filter_consortium, ← filterMap_consortium]
    refine filter_mergeSort htrans htotal (fun t u ht hu => decide_eq_true ?_) _
    have halike : t.central = u.central := (beq_iff_eq.1 ht).trans (beq_iff_eq.1 hu).symm
    exact sortWeight_le_iff.2 halike.trans
  rw [eq_centrals_append hsorted, hfilter, hfilter]
  rfl

/-- The plan of a description is exact. -/
structure ExactPlan (c : Config) : Prop where
  /-- A described tenant is listed in one partition of the plan. -/
  unique : ∀ name ∈ c.tenants.keys, ∃! p, p ∈ c.partitions ∧ name ∈ c.configured p
  /-- Partition by partition, each described tenant is listed once, and nobody else is. -/
  once : (c.partitions.flatMap c.configured).Perm c.tenants.keys
  /-- No two partitions have one description. -/
  descriptions : (c.partitions.map Partition.description).Nodup
  /-- Consortiums come in name order, each with its central partition directly before its members;
  the tenants outside come last, if they come at all. -/
  order : c.consortiums.keys.Pairwise (fun a b => compare a b = .lt) ∧
    ∃ last, c.partitions = c.consortiums.keys.flatMap (fun name =>
      [⟨some name, .central⟩, ⟨some name, .member⟩]) ++ last ∧ (last = [] ∨ last = [.unaffiliated])
  /-- A central partition has one tenant at most. -/
  central : ∀ name, (c.configured ⟨some name, .central⟩).length ≤ 1
  /-- The tenants of a consortium are those of its two partitions, in their order. -/
  consortium : ∀ name, (c.consortiumTenants name).map (·.name) =
    c.configured ⟨some name, .central⟩ ++ c.configured ⟨some name, .member⟩

theorem partitions_eq (c : Config) : ∃ last, c.partitions = c.consortiums.keys.flatMap (fun name =>
    [⟨some name, .central⟩, ⟨some name, .member⟩]) ++ last ∧
      (last = [] ∨ last = [.unaffiliated]) := by
  unfold partitions
  split
  · next hempty =>
    have hkeys : c.consortiums.keys = [] := by
      rw [Table.keys, List.isEmpty_iff.1 hempty]
      rfl
    exact ⟨[.unaffiliated], by rw [hkeys]; rfl, .inr rfl⟩
  · refine ⟨_, rfl, ?_⟩
    split
    · exact .inr rfl
    · exact .inl rfl

theorem exactPlan_of_check (h : c.check = .ok ()) : ExactPlan c where
  unique _ hname := existsUnique_partition h hname
  once := perm_configured h
  descriptions := nodup_descriptions c
  order := ⟨List.pairwise_map.2 c.consortiums.ascending, partitions_eq c⟩
  central := length_central_le h
  consortium name := by
    rw [consortiumTenants_eq, List.map_append, List.map_map, List.map_map]
    exact congrArg₂ (· ++ ·) (List.map_id _) (List.map_id _)

/-- Consortiums may be called like the parts of a description. -/
def oddNames : Config where
  consortiums := .ofList [("none", {}), ("none-central", {})]
  tenants := .ofList [("a", ⟨some "none", false⟩), ("b", ⟨some "none-central", true⟩),
    ("c", ⟨some "none", true⟩), ("d", {})]

theorem exactPlan_oddNames : oddNames.check = .ok () ∧ ExactPlan oddNames :=
  have hcheck : oddNames.check = .ok () := by decide +kernel
  ⟨hcheck, exactPlan_of_check hcheck⟩

end Config

end Fleet
