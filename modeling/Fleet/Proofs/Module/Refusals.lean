import Fleet.Proofs.Module.IssuedPorts

/-!
# What a failed resolution leaves behind

A resolution fails in one of its phases, and what it has taken until then stays taken. Where a
module cannot be settled, that is nothing. Where a pin cannot be reserved, it is the pins before it.
Where a port cannot be drawn, it is all pins and the whole range (`Refused`).

Which failure comes first follows the phases, and within a phase the names of the modules: a module
without a version is reported even if the first pin of all conflicts.
-/

namespace Fleet.Resolver

open PortAllocator

/-- A deployed module has no version: neither its own nor a listed one. -/
def LacksVersion (listing : List ListingEntry) (e : String × ModuleSpec) : Prop :=
  deploys e = true ∧ e.2.overrides.version = none ∧
    ∀ id ∈ ListingEntry.offered listing, id.name ≠ e.1

/-- The local path of a module is no directory, whether or not the module is deployed. -/
def LacksDirectory (r : Resolver) (e : String × ModuleSpec) : Prop :=
  ∃ path, e.2.overrides.localPath = some path ∧ r.isDirectory path = false

/-- A merged entry is the first one, in name order, that cannot be settled. -/
structure FirstUnsettled (r : Resolver) (entries : List (String × ModuleSpec))
    (listing : List ListingEntry) (e : String × ModuleSpec) : Prop where
  mem : e ∈ (mergeEntries entries).entries
  unsettled : LacksVersion listing e ∨ r.LacksDirectory e
  settled : ∀ e' ∈ (mergeEntries entries).entries, compare e'.1 e.1 = .lt →
    ¬ LacksVersion listing e' ∧ ¬ r.LacksDirectory e'

/-- How a resolution fails, and which allocator it leaves behind. -/
inductive Refused (r : Resolver) (entries : List (String × ModuleSpec))
    (listing : List ListingEntry) (a : PortAllocator) : Failure → PortAllocator → Prop
  /-- The first module that cannot be settled has no version. No port has been taken. -/
  | unversioned {e : String × ModuleSpec} (first : r.FirstUnsettled entries listing e)
      (lacks : LacksVersion listing e) : Refused r entries listing a (.versionUnresolved e.1) a
  /-- The first module that cannot be settled has a version, but its local path is no directory. No
  port has been taken. -/
  | unlocated {e : String × ModuleSpec} {path : String}
      (first : r.FirstUnsettled entries listing e) (versioned : ¬ LacksVersion listing e)
      (localPath : e.2.overrides.localPath = some path) (lacks : r.isDirectory path = false) :
      Refused r entries listing a (.notADirectory e.1 path) a
  /-- A pin is taken, by one of the pins before it or from the outset. These pins have been taken,
  each of them once and for the first time, and nothing else. -/
  | conflict {before after : List Port} {p : Port} {b : PortAllocator}
      (pinned_eq : pinned entries = before ++ p :: after) (nodup : before.Nodup)
      (fresh : ∀ q ∈ before, q ∉ a.issued) (taken : p ∈ before ∨ p ∈ a.issued)
      (mem_issued : ∀ q, q ∈ b.issued ↔ q ∈ before ∨ q ∈ a.issued) :
      Refused r entries listing a (.portTaken p) b
  /-- No port is left. All pins have been taken, and so has the whole range. -/
  | exhausted {b : PortAllocator} (pins : ∀ p ∈ pinned entries, p ∈ b.issued)
      (range : ∀ p, a.first ≤ p → p < a.stop → p ∈ b.issued) :
      Refused r entries listing a (.portsExhausted a.first a.stop) b

variable {r : Resolver} {entries : List (String × ModuleSpec)} {listing : List ListingEntry}
  {a b : PortAllocator} {f : Failure}

/-! ## Settling -/

/-- Exactly a module that lacks a version is left without one. -/
theorem versionOf_eq_error_iff {e : String × ModuleSpec} :
    versionOf e.1 e.2.overrides (ListingEntry.versions listing) = .error f ↔
      LacksVersion listing e ∧ f = .versionUnresolved e.1 := by
  have hlisted : (ListingEntry.versions listing).find? e.1 = none ↔
      ∀ id ∈ ListingEntry.offered listing, id.name ≠ e.1 := by
    rw [← Option.not_isSome_iff_eq_none, isSome_versions]
    simp only [not_exists, not_and, ne_eq]
  rw [LacksVersion, ← hlisted, versionOf, deploys]
  cases e.2.overrides.version with
  | some version => simp
  | none =>
    cases (ListingEntry.versions listing).find? e.1 with
    | some version => simp
    | none => cases (flagsOf e.1 e.2.overrides).deployModule <;> simp [eq_comm]

/-- A module that is settled lacks nothing. -/
theorem lacks_nothing_of_settled {e : String × ModuleSpec} {p : Pending}
    (h : r.settle (ListingEntry.versions listing) e.1 e.2 = .ok p) :
    ¬ LacksVersion listing e ∧ ¬ r.LacksDirectory e := by
  constructor
  · intro hlacks
    simp only [settle, versionOf_eq_error_iff.2 ⟨hlacks, rfl⟩] at h
    cases h
  · rintro ⟨path, hlocal, hno⟩
    rw [(settle_ok_iff.1 ⟨p, h⟩).2 path hlocal] at hno
    cases hno

/-- A module that cannot be settled lacks a version, or else its directory. -/
theorem settle_error {e : String × ModuleSpec}
    (h : r.settle (ListingEntry.versions listing) e.1 e.2 = .error f) :
    (LacksVersion listing e ∧ f = .versionUnresolved e.1) ∨
      (¬ LacksVersion listing e ∧ ∃ path, e.2.overrides.localPath = some path ∧
        r.isDirectory path = false ∧ f = .notADirectory e.1 path) := by
  simp only [settle] at h
  split at h
  · next hversion =>
    cases h
    exact .inl (versionOf_eq_error_iff.1 hversion)
  · next version hversion =>
    have hversioned : ¬ LacksVersion listing e := fun hlacks => by
      rw [versionOf_eq_error_iff.2 ⟨hlacks, rfl⟩] at hversion
      cases hversion
    split at h
    · next hpath =>
      cases h
      refine .inr ⟨hversioned, ?_⟩
      cases hlocal : e.2.overrides.localPath with
      | none => simp [hlocal, checkPath] at hpath
      | some path =>
        cases hdirectory : r.isDirectory path with
        | true => simp [hlocal, checkPath, hdirectory] at hpath
        | false =>
          simp only [hlocal, checkPath, hdirectory, Bool.false_eq_true, if_false,
            Except.error.injEq] at hpath
          exact ⟨path, rfl, hdirectory, hpath.symm⟩
    · cases h

/-- The first module that cannot be settled ends the settling. -/
theorem settleAll_error {versions : Table String String} {merged : List (String × ModuleSpec)}
    (h : r.settleAll versions merged = .error f) :
    ∃ before e after, merged = before ++ e :: after ∧ r.settle versions e.1 e.2 = .error f ∧
      ∀ e' ∈ before, ∃ p, r.settle versions e'.1 e'.2 = .ok p := by
  induction merged with
  | nil => cases h
  | cons e rest ih =>
    obtain ⟨name, spec⟩ := e
    simp only [settleAll] at h
    split at h
    · next herror =>
      cases h
      exact ⟨[], (name, spec), rest, rfl, herror, fun e' he' => absurd he' List.not_mem_nil⟩
    · next p hp =>
      split at h
      · next hrest =>
        cases h
        obtain ⟨before, e, after, rfl, herror, hbefore⟩ := ih hrest
        exact ⟨(name, spec) :: before, e, after, rfl, herror,
          List.forall_mem_cons.2 ⟨⟨p, hp⟩, hbefore⟩⟩
      · cases h

/-- Settling fails at the first module that cannot be settled, in name order. -/
theorem refused_of_unsettled
    (h : r.settleAll (ListingEntry.versions listing) (mergeEntries entries).entries = .error f) :
    r.Refused entries listing a f a := by
  obtain ⟨before, e, after, hmerged, herror, hbefore⟩ := settleAll_error h
  have hmem : e ∈ (mergeEntries entries).entries := by simp [hmerged]
  have hsettled : ∀ e' ∈ (mergeEntries entries).entries, compare e'.1 e.1 = .lt →
      ¬ LacksVersion listing e' ∧ ¬ r.LacksDirectory e' := by
    intro e' he' hlt
    obtain ⟨p, hp⟩ := hbefore e' (Table.mem_before_of_lt hmerged he' hlt)
    exact lacks_nothing_of_settled hp
  rcases settle_error herror with ⟨hlacks, rfl⟩ | ⟨hversioned, path, hlocal, hno, rfl⟩
  · exact .unversioned ⟨hmem, .inl hlacks, hsettled⟩ hlacks
  · exact .unlocated ⟨hmem, .inr ⟨path, hlocal, hno⟩, hsettled⟩ hversioned hlocal hno

/-! ## Assigning -/

theorem assign_exhausted {p : Pending} (h : assign p a = (.error f, b)) :
    f = .portsExhausted b.first b.stop ∧ b.left = [] := by
  simp only [assign] at h
  split at h
  · split at h
    · next hport =>
      cases h
      exact (pinnedOrNext_error hport).2.2
    · split at h
      · split at h
        · next hprivate =>
          cases h
          exact (pinnedOrNext_error hprivate).2.2
        · cases h
      · cases h
  · cases h

/-- Behind an assignment that fails no port is left. -/
theorem assignAll_exhausted {ps : List Pending} (h : assignAll ps a = (.error f, b)) :
    f = .portsExhausted b.first b.stop ∧ b.left = [] := by
  induction ps generalizing a with
  | nil => cases h
  | cons p rest ih =>
    unfold assignAll at h
    split at h
    · next hp =>
      cases h
      exact assign_exhausted hp
    · split at h
      · next hrest =>
        cases h
        exact ih hrest
      · cases h

/-! ## Resolving -/

/-- A resolution that fails leaves behind what its failure says. -/
theorem resolve_refused (ha : a.Reachable) (h : r.resolve entries listing a = (.error f, b)) :
    r.Refused entries listing a f b := by
  have hgrows : Grows a b := by
    have hall := resolve_grows r entries listing a
    rwa [h] at hall
  have hswept : b.Swept := by
    have hreachable := reachable_resolve r entries listing ha
    rw [h] at hreachable
    exact hreachable.swept
  cases ends_of_resolve h with
  | unsettled hps => exact refused_of_unsettled hps
  | unreserved hps hpins =>
    rw [pins_of_settled (settleAll_ok hps)] at hpins
    obtain ⟨before, p, after, hsplit, rfl, htakes, hp⟩ := reserveAll_error hpins
    simp only [← mem_issued] at hp
    have hissued : ∀ q, q ∈ b.issued ↔ q ∈ before ∨ q ∈ a.issued := fun q => by
      rw [mem_issued, mem_issued, htakes.mem_taken]
    exact .conflict hsplit htakes.nodup (fun q hq => mt mem_issued.1 (htakes.fresh q hq))
      ((hissued p).1 hp) hissued
  | @unassigned ps a' _ _ hps hpins hds =>
    obtain ⟨rfl, hleft⟩ := assignAll_exhausted hds
    have htaken : ∀ p ∈ pinned entries, p ∈ a'.taken := fun p hp =>
      ((reserveAll_takes hpins).mem_taken p).2
        (.inl ((pins_of_settled (settleAll_ok hps)).symm ▸ hp))
    have hkept : Grows a' b := by
      have hall := assignAll_grows ps a'
      rwa [hds] at hall
    rw [hgrows.first, hgrows.stop]
    refine .exhausted (fun p hp => mem_issued.2 (hkept.taken p (htaken p hp))) fun p hle hlt => ?_
    rw [← hgrows.first] at hle
    rw [← hgrows.stop] at hlt
    exact mem_issued.2 (hswept.mem_taken hleft hle hlt)

/-- The second module pins the port that the first one pins for its sidecar. -/
def clashingEntries : List (String × ModuleSpec) :=
  let version := { Overrides.none with version := some "1.0.0" }
  [("mod-a", .explicit { version with port := some 30002, privatePort := some 30003 }),
    ("mod-b", .explicit { version with port := some 30003 })]

/-- What the resolution of the two modules answers and leaves. -/
def clash : Outcome (Table String Descriptor) × PortAllocator :=
  Resolver.resolve ⟨"org", fun _ => true⟩ clashingEntries [] fourPorts

/-- The second claim is refused, and the pins before it stay taken. -/
theorem clash_refused :
    fourPorts.Reachable ∧ clash = (.error (.portTaken 30003), clash.2) ∧
    Refused ⟨"org", fun _ => true⟩ clashingEntries [] fourPorts (.portTaken 30003) clash.2 := by
  have hreachable : fourPorts.Reachable := .reserve (.between 30000 30004) 30001
  have hresolve : clash = (.error (.portTaken 30003), clash.2) :=
    Prod.ext (by decide +kernel) rfl
  exact ⟨hreachable, hresolve, resolve_refused hreachable hresolve⟩

/-- Port 30001 was reserved before. -/
example : clash.2.issued = [30001, 30002, 30003] := by decide +kernel

/-- A module without a version comes first, wherever it stands. -/
example :
    let failed := Resolver.resolve ⟨"org", fun _ => true⟩
      (clashingEntries ++ [("mod-c", .standard)]) [] fourPorts
    failed.1 = .error (.versionUnresolved "mod-c") ∧ failed.2.issued = fourPorts.issued := by
  decide +kernel

end Fleet.Resolver
