import Fleet.Proofs.Module.Resolvable

/-!
# Which ports a resolution takes

A resolution that succeeds takes the ports that it publishes and, besides, the pins of sidecars that
are not deployed (`idlePinned`): reserving looks at whether a module is deployed, and not at whether
its sidecar is. So what is issued afterwards is what was issued before and what is published exactly
if no deployed module pins a port for a sidecar that it does not have
(`issued_eq_published_iff`).

An idle pin is not harmless. The port is published by nothing, and yet a later claim on it is
refused (`idle_pin_conflicts`).
-/

namespace Fleet

namespace Resolver

/-- The port that a merged entry pins for a sidecar, if its module is deployed and its sidecar is
not. -/
def idlePinsIn (e : String × ModuleSpec) : List Port :=
  if deploys e && !pairs e then e.2.overrides.privatePort.toList else []

/-- The ports that entries pin for sidecars that are not deployed next to their modules. -/
def idlePinned (entries : List (String × ModuleSpec)) : List Port :=
  (mergeEntries entries).entries.flatMap idlePinsIn

/-- Settled modules have the idle pins of their entries. -/
theorem idlePins_of_settled {ps : List Pending} {entries : List (String × ModuleSpec)}
    (h : List.Forall₂ Pending.Settles ps entries) :
    ps.flatMap Pending.idlePins = entries.flatMap idlePinsIn := by
  induction h with
  | nil => rfl
  | @cons p e _ _ hp _ ih =>
    have hfirst : p.idlePins = idlePinsIn e := by
      rw [Pending.idlePins, idlePinsIn, pairs, deploys, hp.flags, hp.privatePort]
      cases (flagsOf e.1 e.2.overrides).deployModule <;> rfl
    rw [List.flatMap_cons, List.flatMap_cons, hfirst, ih]

variable {r : Resolver} {entries : List (String × ModuleSpec)} {listing : List ListingEntry}
  {a b : PortAllocator} {t : Table String Descriptor}

/-- What a resolution takes is what it publishes and the idle pins, each of them once. -/
theorem resolve_takes (h : r.resolve entries listing a = (.ok t, b)) :
    PortAllocator.Takes (t.values.flatMap Descriptor.published ++ idlePinned entries) a b := by
  obtain ⟨ps, a', hphases⟩ := resolve_phases h
  have htakes := (PortAllocator.reserveAll_takes hphases.reserved).append hphases.drawn.toTakes
  have hperm : (t.values.flatMap Descriptor.published ++ idlePinned entries).Perm
      (pins ps ++ t.values.flatMap (drawnOf entries)) := by
    have hidle : ps.flatMap Pending.idlePins = idlePinned entries :=
      idlePins_of_settled hphases.settled
    rw [← hidle, ← hphases.drawnFor_eq]
    exact published_perm hphases.assigned
  exact htakes.perm hperm.symm

/-- The ports issued after a resolution are those issued before, those that it publishes, and the
idle pins. So they are those issued before and those published exactly if no pin is idle. -/
theorem issued_eq_published_iff (h : r.resolve entries listing a = (.ok t, b)) :
    (∀ p, p ∈ b.issued ↔
      p ∈ a.issued ∨ p ∈ t.values.flatMap Descriptor.published ∨ p ∈ idlePinned entries) ∧
    ((∀ p, p ∈ b.issued ↔ p ∈ a.issued ∨ p ∈ t.values.flatMap Descriptor.published) ↔
      idlePinned entries = []) := by
  have htakes := resolve_takes h
  have hissued : ∀ p, p ∈ b.issued ↔
      p ∈ a.issued ∨ p ∈ t.values.flatMap Descriptor.published ∨ p ∈ idlePinned entries := by
    intro p
    rw [PortAllocator.mem_issued, PortAllocator.mem_issued, htakes.mem_taken, List.mem_append,
      or_comm]
  refine ⟨hissued, fun hexact => ?_, fun hnone p => ?_⟩
  · -- an idle pin is neither taken before nor published
    refine List.eq_nil_iff_forall_not_mem.2 fun p hp => ?_
    have hidle : p ∈ t.values.flatMap Descriptor.published ++ idlePinned entries :=
      List.mem_append_right _ hp
    rcases (hexact p).1 ((hissued p).2 (.inr (.inr hp))) with hbefore | hpublished
    · exact htakes.fresh p hidle (PortAllocator.mem_issued.1 hbefore)
    · exact (List.nodup_append.1 htakes.nodup).2.2 p hpublished p hp rfl
  · rw [hissued p, hnone]
    simp only [List.not_mem_nil, or_false]

/-- A module that pins a port for a sidecar, and is deployed without one. -/
def loneEntries : List (String × ModuleSpec) :=
  [("mod-a", .explicit { Overrides.none with
      version := some "1.0.0", deploySidecar := some false, privatePort := some 30005 })]

/-- What the resolution of that module answers and leaves. -/
def loneResolution : Outcome (Table String Descriptor) × PortAllocator :=
  Resolver.resolve ⟨"org", fun _ => true⟩ loneEntries [] .standard

/-- The resolution takes the idle pin besides what it publishes. -/
theorem issued_beside_published :
    let lone := loneResolution.1.toOption.getD .empty
    loneResolution = (.ok lone, loneResolution.2) ∧
    (∀ p, p ∈ loneResolution.2.issued ↔ p ∈ PortAllocator.standard.issued ∨
      p ∈ lone.values.flatMap Descriptor.published ∨ p ∈ idlePinned loneEntries) ∧
    ¬ ∀ p, p ∈ loneResolution.2.issued ↔ p ∈ PortAllocator.standard.issued ∨
      p ∈ lone.values.flatMap Descriptor.published := by
  have hresolve : loneResolution = (.ok (loneResolution.1.toOption.getD .empty),
      loneResolution.2) := Prod.ext (by decide +kernel) rfl
  obtain ⟨hissued, hexact⟩ := issued_eq_published_iff hresolve
  exact ⟨hresolve, hissued, fun h => absurd (hexact.1 h) (by decide +kernel)⟩

/-- The module publishes one port, and another module that pins the other port is refused. -/
theorem idle_pin_conflicts :
    loneResolution.1.toOption.map (fun t => t.values.flatMap Descriptor.published) =
        some [30000] ∧
    loneResolution.2.issued = [30000, 30005] ∧
    (Resolver.resolve ⟨"org", fun _ => true⟩
      [("mod-b", .explicit { Overrides.none with version := some "1.0.0", port := some 30005 })] []
      loneResolution.2).1 = .error (.portTaken 30005) := by
  decide +kernel

end Resolver

end Fleet
