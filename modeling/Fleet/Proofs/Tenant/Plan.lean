import Fleet.Config.Check
import Fleet.Proofs.Table
import Fleet.Tenant.Partition

/-!
# Laws of the plan

The plan of a consistent description has every described tenant in exactly one place: its partition
stands in the plan, and once (`ofTenant_mem_partitions`, `nodup_partitions`), and no other partition
lists the tenant (`eq_of_mem_configured`).

Live tenants are found again by the text of a description. Among partitions that a description can
have, no two have the same text, whatever consortiums are called (`Possible.eq_of_description`).
-/

namespace Fleet

/-! ## Descriptions of partitions -/

/-- The last letter of a type tells it from the others. -/
theorem TenantType.eq_of_getLast? {a b : TenantType}
    (h : a.text.toList.getLast? = b.text.toList.getLast?) : a = b := by
  revert h
  cases a <;> cases b <;> decide

theorem TenantType.ofCentral_injective : Function.Injective TenantType.ofCentral := by
  intro a b h
  revert h
  cases a <;> cases b <;> decide

theorem TenantType.ofCentral_ne_default (central : Bool) :
    TenantType.ofCentral central ≠ .default := by
  cases central <;> decide

namespace Partition

/-- A partition that tenants can belong to: the type tells whether there is a consortium. -/
def Possible (p : Partition) : Prop := p.consortium = none ↔ p.type = .default

theorem possible_unaffiliated : unaffiliated.Possible := Iff.intro (fun _ => rfl) fun _ => rfl

@[simp] theorem consortium_ofTenant (t : Tenant) : (ofTenant t).consortium = t.consortium := by
  unfold ofTenant
  split
  · next k hk => exact hk.symm
  · next hk => exact hk.symm

/-- Inside a consortium, the partition tells who is central. -/
theorem type_ofTenant {t : Tenant} (h : t.consortium ≠ none) :
    (ofTenant t).type = .ofCentral t.central := by
  unfold ofTenant
  split
  · rfl
  · next hk => exact absurd hk h

theorem getLast?_description (p : Partition) :
    p.description.toList.getLast? = p.type.text.toList.getLast? := by
  have hne : p.type.text.toList ≠ [] := by cases p.type <;> decide
  rw [description, String.toList_append, List.getLast?_append_of_ne_nil _ hne]

/-- No two partitions that tenants can belong to have the same description. The type is read off the
last letter, and then the rest of the text is the consortium. -/
theorem Possible.eq_of_description {p q : Partition} (hp : p.Possible) (hq : q.Possible)
    (h : p.description = q.description) : p = q := by
  obtain ⟨cp, tp⟩ := p
  obtain ⟨cq, tq⟩ := q
  have hlast := congrArg (fun s : String => s.toList.getLast?) h
  simp only [getLast?_description] at hlast
  obtain rfl : tp = tq := TenantType.eq_of_getLast? hlast
  have htext : cp.getD "none" = cq.getD "none" := by
    simpa [description, consortiumText, ← String.toList_inj] using h
  cases cp with
  | none =>
    have hdefault : tp = .default := hp.1 rfl
    have hnone : cq = none := hq.2 hdefault
    rw [hnone]
  | some k =>
    cases cq with
    | none =>
      have hsome : some k = none := hp.2 (hq.1 rfl)
      cases hsome
    | some k' =>
      have hk : k = k' := htext
      rw [hk]

theorem mem_ofConsortium {p : Partition} {name : String} :
    p ∈ ofConsortium name ↔ p.consortium = some name ∧ p.type ≠ .default := by
  obtain ⟨k, type⟩ := p
  cases type <;> simp [ofConsortium, TenantType.inConsortium, eq_comm]

end Partition

namespace Config

variable {c : Config}

/-! ## The partitions of the plan -/

theorem possible_of_mem_partitions {p : Partition} (hp : p ∈ c.partitions) : p.Possible := by
  have hlast : ∀ {b : Bool}, (p ∈ if b then [Partition.unaffiliated] else []) → p.Possible := by
    intro b hmem
    cases b with
    | false => cases hmem
    | true =>
      obtain rfl := List.mem_singleton.1 hmem
      exact Partition.possible_unaffiliated
  unfold partitions at hp
  split at hp
  · exact hlast (b := true) hp
  · rcases List.mem_append.1 hp with hmem | hmem
    · obtain ⟨name, _, hname⟩ := List.mem_flatMap.1 hmem
      obtain ⟨hconsortium, htype⟩ := Partition.mem_ofConsortium.1 hname
      exact ⟨fun h => absurd (hconsortium.symm.trans h) (by simp), fun h => absurd h htype⟩
    · exact hlast hmem

/-- The plan orders any two partitions of a consortium, the central one first; others are told apart
by their consortiums. -/
theorem pairwise_partitions {R : Partition → Partition → Prop} (c : Config)
    (hconsortium : ∀ name, R ⟨some name, .central⟩ ⟨some name, .member⟩)
    (hothers : ∀ p q, p.consortium ≠ q.consortium → R p q) : c.partitions.Pairwise R := by
  unfold partitions
  split
  · exact List.pairwise_singleton R _
  · have hconsortiums : (c.consortiums.keys.flatMap Partition.ofConsortium).Pairwise R := by
      refine List.pairwise_flatMap.2 ⟨?_, ?_⟩
      · intro name _
        exact List.pairwise_pair.2 (hconsortium name)
      · refine c.consortiums.nodup_keys.imp ?_
        intro a b hne p hp q hq
        apply hothers
        rw [(Partition.mem_ofConsortium.1 hp).1, (Partition.mem_ofConsortium.1 hq).1]
        exact fun heq => hne (Option.some.inj heq)
    refine List.pairwise_append.2 ⟨hconsortiums, ?_, ?_⟩
    · split
      · exact List.pairwise_singleton R _
      · exact .nil
    · intro p hp q hq
      obtain ⟨name, _, hname⟩ := List.mem_flatMap.1 hp
      split at hq
      · obtain rfl := List.mem_singleton.1 hq
        apply hothers
        rw [(Partition.mem_ofConsortium.1 hname).1]
        exact Option.some_ne_none name
      · cases hq

theorem nodup_partitions (c : Config) : c.partitions.Nodup := by
  apply pairwise_partitions
  · intro name heq
    cases heq
  · intro p q hne heq
    exact hne (congrArg Partition.consortium heq)

/-- A tenant belongs to a described consortium, or to none, and then it is not called central. -/
structure Placed (consortiums : Table String Consortium) (t : Tenant) : Prop where
  outside : t.consortium = none → t.central = false
  inside : ∀ name, t.consortium = some name → consortiums.contains name = true

/-- A tenant that passes the check is placed, and if it is central, it is the first of its
consortium. -/
theorem checkTenants_cons {consortiums : Table String Consortium} {centrals : List String}
    {name : String} {t : Tenant} {rest : List (String × Tenant)}
    (h : checkTenants consortiums centrals ((name, t) :: rest) = .ok ()) :
    Placed consortiums t ∧
      (t.central = false ∧ checkTenants consortiums centrals rest = .ok () ∨
        ∃ k, t.consortium = some k ∧ k ∉ centrals ∧
          checkTenants consortiums (k :: centrals) rest = .ok ()) := by
  unfold checkTenants at h
  split at h
  · next hnone =>
    split at h
    · cases h
    · next hcentral =>
      have hmember : t.central = false := by simpa using hcentral
      refine ⟨⟨fun _ => hmember, fun k hk => ?_⟩, .inl ⟨hmember, h⟩⟩
      rw [hnone] at hk
      cases hk
  · next k hsome =>
    split at h
    · cases h
    · next hknown =>
      have hplaced : Placed consortiums t := by
        refine ⟨fun hk => ?_, fun k' hk => ?_⟩
        · rw [hsome] at hk
          cases hk
        · rw [hsome] at hk
          cases hk
          simpa using hknown
      split at h
      · split at h
        · cases h
        · next hfirst =>
          exact ⟨hplaced, .inr ⟨k, hsome, by simpa using hfirst, h⟩⟩
      · next hcentral =>
        exact ⟨hplaced, .inl ⟨by simpa using hcentral, h⟩⟩

/-- Tenants that pass the check are placed. -/
theorem placed_of_checkTenants {consortiums : Table String Consortium} :
    ∀ {l : List (String × Tenant)} {centrals : List String},
      checkTenants consortiums centrals l = .ok () → ∀ e ∈ l, Placed consortiums e.2
  | [], _, _ => fun e he => absurd he List.not_mem_nil
  | (name, tenant) :: rest, centrals, h => by
    obtain ⟨hplaced, ⟨_, hrest⟩ | ⟨k, _, _, hrest⟩⟩ := checkTenants_cons h
    · exact List.forall_mem_cons.2 ⟨hplaced, placed_of_checkTenants hrest⟩
    · exact List.forall_mem_cons.2 ⟨hplaced, placed_of_checkTenants hrest⟩

theorem checkTenants_of_check (h : c.check = .ok ()) :
    checkTenants c.consortiums [] c.tenants.entries = .ok () := by
  unfold check at h
  split at h
  · cases h
  · split at h
    · cases h
    · split at h
      · cases h
      · exact h

/-- The partition of a described tenant stands in the plan of a consistent description. -/
theorem ofTenant_mem_partitions (h : c.check = .ok ()) {name : String} {t : Tenant}
    (ht : (name, t) ∈ c.tenants.entries) : Partition.ofTenant t ∈ c.partitions := by
  have hplaced := placed_of_checkTenants (checkTenants_of_check h) _ ht
  unfold partitions Partition.ofTenant
  cases hk : t.consortium with
  | none =>
    split
    · exact List.mem_singleton_self _
    · refine List.mem_append_right _ ?_
      have hany : (c.tenants.values.any fun t => t.consortium.isNone) = true := by
        refine List.any_eq_true.2 ⟨t, List.mem_map.2 ⟨_, ht, rfl⟩, ?_⟩
        rw [hk]
        rfl
      rw [if_pos hany]
      exact List.mem_singleton_self _
  | some k =>
    obtain ⟨consortium, hfind⟩ := Option.isSome_iff_exists.1 (hplaced.inside k hk)
    have hentry := Table.mem_entries_iff.2 hfind
    have hsome : c.consortiums.isEmpty = false := by
      unfold Table.isEmpty
      exact List.isEmpty_eq_false_iff.2 (List.ne_nil_of_mem hentry)
    rw [if_neg (by simp [hsome])]
    refine List.mem_append_left _ (List.mem_flatMap.2 ⟨k, List.mem_map.2 ⟨_, hentry, rfl⟩, ?_⟩)
    exact Partition.mem_ofConsortium.2 ⟨rfl, TenantType.ofCentral_ne_default _⟩

/-! ## The tenants of a partition -/

theorem mem_configured {p : Partition} {name : String} :
    name ∈ c.configured p ↔ ∃ t, c.tenants.find? name = some t ∧ Partition.ofTenant t = p := by
  constructor
  · intro h
    obtain ⟨e, he, rfl⟩ := List.mem_map.1 h
    obtain ⟨hentry, hp⟩ := List.mem_filter.1 he
    exact ⟨e.2, Table.mem_entries_iff.1 hentry, of_decide_eq_true hp⟩
  · rintro ⟨t, hfind, hp⟩
    refine List.mem_map.2 ⟨(name, t), List.mem_filter.2 ⟨Table.mem_entries_iff.2 hfind, ?_⟩, rfl⟩
    exact decide_eq_true hp

/-- A described tenant belongs to one partition. -/
theorem eq_of_mem_configured {p q : Partition} {name : String} (hp : name ∈ c.configured p)
    (hq : name ∈ c.configured q) : p = q := by
  obtain ⟨t, ht, rfl⟩ := mem_configured.1 hp
  obtain ⟨u, hu, rfl⟩ := mem_configured.1 hq
  rw [Option.some.inj (ht.symm.trans hu)]

end Config

end Fleet
