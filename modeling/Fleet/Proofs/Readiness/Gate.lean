import Fleet.Proofs.Readiness.Ending
import Fleet.Proofs.Readiness.Timelines

/-!
# The readiness gate

A pass is ready exactly if each of its ports answers within its attempts, and its report then says
for every port which probe it answered first. Otherwise the modules are named that have a port which
used up its attempts. The pass takes as long as its slowest port, however many ports there are
(`Gate`).

All of this is decided by what the probes will find. So it holds of rounds of probes and of tasks
that take turns, in whatever order (`checkAll_gate`), as long as no two modules await the same port.
A delay is a pause, and no pause lasts longer than thirty years (`elapsed_capped`).
-/

namespace Fleet.Readiness

/-- The most probes that one of the ports takes. -/
def mostTries (f : Forecast) (attempts : Nat) (ws : List Watch) : Nat :=
  (ws.map fun w => tries (f.probes w.port) attempts).max?.getD 0

/-- The modules with a port that answers none of its probes, in name order. -/
def silentModules (f : Forecast) (attempts : Nat) (ports : Table String ModulePorts) :
    List String :=
  (ports.entries.filter fun e => e.2.toList.any fun port =>
    (firstAnswer? (f.probes port) attempts).isNone).map (·.1)

/-- How a pass ends, by what its probes find, and what has happened until then. -/
structure Gate (f : Forecast) (maxRetries delayMillis : Nat) (kind : ModuleKind)
    (ports : Table String ModulePorts) (o : Outcome ReadinessReport) (v : Vigil) : Prop where
  /-- Every port is probed until it answers or its attempts are used up, and no further. -/
  probed : ∀ w ∈ watches ports,
    v.probed.count w.port = tries (f.probes w.port) (max 1 maxRetries)
  others : ∀ port, port ∉ (watches ports).map (·.port) → port ∉ v.probed
  ok_iff : (∃ r, o = .ok r) ↔
    ∀ w ∈ watches ports, ∃ k < max 1 maxRetries, f.probes w.port k = .ok ()
  /-- The report has every port of every module, and nothing else. -/
  report : ∀ r, o = .ok r →
    r = ⟨kind, filedAs (fun port => .ready (tries (f.probes port) (max 1 maxRetries))) ports⟩
  refused : ∀ e, o = .error e → e = .notReady (silentModules f (max 1 maxRetries) ports)
  elapsed : v.clock =
    Duration.pause delayMillis * (mostTries f (max 1 maxRetries) (watches ports) - 1)

variable {f : Forecast} {ports : Table String ModulePorts} {v : Vigil}
  {outcomes : List (Watch × PortOutcome)}

/-- The time that has passed is what the slowest port needs. -/
theorem Seen.clock_eq {b : Budget} {ws : List Watch} (h : Seen f b 0 ws {} outcomes v) :
    v.clock = b.delayMillis * (mostTries f b.attempts ws - 1) := by
  have hlate : ∀ w ∈ ws, needed f b w ≤ v.clock := fun w hw => by simpa using h.late w hw
  have hearly : v.clock = 0 ∨ ∃ w ∈ ws, v.clock ≤ needed f b w := by simpa using h.early
  rw [mostTries]
  cases hmost : (ws.map fun w => tries (f.probes w.port) b.attempts).max? with
  | none =>
    have hnone : ws = [] := List.map_eq_nil_iff.1 (List.max?_eq_none_iff.1 hmost)
    subst hnone
    rcases hearly with hzero | ⟨w, hw, _⟩
    · exact hzero
    · exact absurd hw List.not_mem_nil
  | some most =>
    obtain ⟨hmem, hle⟩ := List.max?_eq_some_iff.1 hmost
    obtain ⟨w, hw, rfl⟩ := List.mem_map.1 hmem
    refine Nat.le_antisymm ?_ (hlate w hw)
    rcases hearly with hzero | ⟨w', hw', hless⟩
    · rw [hzero]
      exact Nat.zero_le _
    · have hmost' := hle _ (List.mem_map.2 ⟨w', hw', rfl⟩)
      exact Nat.le_trans hless (Nat.mul_le_mul_left _ (Nat.sub_le_sub_right hmost' 1))

/-- Only the outcomes of the ports that are watched are filed. -/
theorem filedAs_congr {outcome outcome' : Port → PortOutcome}
    (h : ∀ w ∈ watches ports, outcome w.port = outcome' w.port) :
    filedAs outcome ports = filedAs outcome' ports := by
  refine Table.ext_find? fun module => ?_
  rw [filedAs, filedAs, Table.find?_mapValues, Table.find?_mapValues]
  cases hports : ports.find? module with
  | none => rfl
  | some p =>
    have hsame : ∀ port ∈ p.toList, (port, outcome port) = (port, outcome' port) :=
      fun port hport =>
        congrArg (Prod.mk port) (h ⟨module, port⟩ (mem_watches.2 ⟨p, hports, hport⟩))
    rw [Option.map_some, Option.map_some, List.map_congr_left hsame]

theorem not_isReady_settle (answers : Nat → Outcome Unit) (attempts : Nat) :
    (!(settle answers attempts).isReady) = (firstAnswer? answers attempts).isNone := by
  rw [settle]
  cases firstAnswer? answers attempts <;> rfl

/-- No module is silent exactly if every port answers. -/
theorem silentModules_eq_nil_iff {attempts : Nat} : silentModules f attempts ports = [] ↔
    ∀ w ∈ watches ports, ∃ k < attempts, f.probes w.port k = .ok () := by
  have hport : ∀ port, ¬ (firstAnswer? (f.probes port) attempts).isNone = true ↔
      ∃ k < attempts, f.probes port k = .ok () := fun port => by
    rw [← not_isReady_settle, ← isReady_settle]
    simp
  rw [silentModules, List.map_eq_nil_iff, List.filter_eq_nil_iff]
  simp only [List.any_eq_true, not_exists, not_and, hport]
  constructor
  · intro h w hw
    obtain ⟨p, hp, hmem⟩ := mem_watches.1 hw
    exact h (w.module, p) (Table.mem_entries_iff.2 hp) w.port hmem
  · rintro h ⟨module, p⟩ he port hmem
    exact h ⟨module, port⟩ (mem_watches.2 ⟨p, Table.mem_entries_iff.1 he, hmem⟩)

/-- What has been seen of all ports of a pass makes its gate. -/
theorem Seen.gate {maxRetries delayMillis : Nat} (kind : ModuleKind)
    (h : Seen f (.atLeastOne maxRetries delayMillis) 0 (watches ports) {} outcomes v) :
    Gate f maxRetries delayMillis kind ports (verdict kind outcomes) v := by
  have hreport : report kind outcomes =
      ⟨kind, filedAs (fun port => settle (f.probes port) (max 1 maxRetries)) ports⟩ :=
    report_eq h.perm h.outcome kind
  have hunready : (report kind outcomes).unready =
      silentModules f (max 1 maxRetries) ports := by
    rw [hreport, unready_filedAs]
    simp only [not_isReady_settle]
    rfl
  have hverdict : verdict kind outcomes =
      if silentModules f (max 1 maxRetries) ports = [] then .ok (report kind outcomes)
      else .error (.notReady (silentModules f (max 1 maxRetries) ports)) := by
    rw [verdict, hunready]
    simp only [List.isEmpty_iff]
  refine ⟨h.probed, fun port hport => List.count_eq_zero.1 (h.others port hport), ?_, ?_, ?_,
    h.clock_eq⟩
  · rw [hverdict, ← silentModules_eq_nil_iff]
    split <;> simp_all
  · intro r hr
    rw [hverdict] at hr
    split at hr
    · next hnone =>
      cases hr
      have hready : ∀ w ∈ watches ports, settle (f.probes w.port) (max 1 maxRetries) =
          .ready (tries (f.probes w.port) (max 1 maxRetries)) :=
        fun w hw => settle_of_answered (silentModules_eq_nil_iff.1 hnone w hw)
      exact hreport.trans (congrArg (ReadinessReport.mk kind) (filedAs_congr hready))
    · cases hr
  · intro e he
    rw [hverdict] at he
    split at he
    · cases he
    · cases he
      rfl

/-- If the ports of a pass are pairwise distinct, what its probes find makes its gate, be it in
rounds of probes or by tasks that take turns. In whatever order the tasks take turns, the pass
ends. -/
theorem checkAll_gate (f : Forecast) (maxRetries delayMillis : Nat) (kind : ModuleKind)
    (ports : Table String ModulePorts) (hdistinct : ((watches ports).map (·.port)).Nodup) :
    let b := Budget.atLeastOne maxRetries delayMillis
    let run := Program.run f.handler (checkAll b kind ports).run {}
    Gate f maxRetries delayMillis kind ports run.1 run.2 ∧
    ∀ ts, let after := Probing.turns f.handler ts (.start b (watches ports)) {}
      (after.1.tasks = [] →
        Gate f maxRetries delayMillis kind ports (verdict kind after.1.sent) after.2) ∧
      (after.1.tasks ≠ [] → ∃ t, Probing.isOpen t after.1 = true) ∧
      Probing.taken f.handler ts (.start b (watches ports)) {} ≤
        (watches ports).length * (3 * b.attempts + 1) := by
  intro b run
  have hattempts : 0 < b.attempts := Nat.lt_of_lt_of_le Nat.one_pos (Nat.le_max_left 1 maxRetries)
  refine ⟨?_, fun ts => ⟨fun hended => ?_, Probing.exists_isOpen, ?_⟩⟩
  · obtain ⟨left, hleft⟩ := Nat.exists_eq_add_of_le' hattempts
    have hseen := seen_rounds (f := f) (b := b) (v := {})
      ((Nat.zero_add (left + 1)).trans hleft.symm) hdistinct (fun _ _ => rfl)
      fun w _ => silent_zero (f.probes w.port)
    have hrun : run = _ := run_checkAll f.handler b kind ports {}
    rw [hrun, hleft]
    exact hseen.gate kind
  · have hintime := (inTime_start f hattempts (watches ports)).turns hdistinct ts
    exact (hintime.seen hended).gate kind
  · exact Probing.taken_start_le f.handler b (watches ports) {} ts

/-- Two modules, one of them with a sidecar. -/
def threePorts : Table String ModulePorts :=
  .ofList [("mod-a", ⟨30000, some 30001⟩), ("mod-b", ⟨30002, none⟩)]

/-- The sidecar refuses two probes. -/
def slowSidecar : Forecast where
  probes port k := if port = 30001 ∧ k < 2 then .error (.runtime (.portNotReady port)) else .ok ()

/-- The tasks of the two modules' ports have ended when the sidecar is probed again. -/
def sidecarLast : List Turn :=
  [.task 2, .task 2, .task 1, .task 0, .task 0, .task 0, .pause, .task 0, .task 0, .pause, .task 0,
    .task 0]

/-- The pass is ready after two delays. -/
theorem threePorts_gate :
    let run := Program.run slowSidecar.handler
      (checkAll (.atLeastOne 5 100) .business threePorts).run {}
    let after := Probing.turns slowSidecar.handler sidecarLast
      (.start (.atLeastOne 5 100) (watches threePorts)) {}
    ((watches threePorts).map (·.port)).Nodup ∧ after.1.tasks.length = 0 ∧
    run.1.toBool = true ∧ run.2.clock = 200 ∧
    Gate slowSidecar 5 100 .business threePorts run.1 run.2 ∧
    Gate slowSidecar 5 100 .business threePorts (verdict .business after.1.sent) after.2 := by
  have hdistinct : ((watches threePorts).map (·.port)).Nodup := by decide +kernel
  have hended : (Probing.turns slowSidecar.handler sidecarLast
      (.start (.atLeastOne 5 100) (watches threePorts)) {}).1.tasks.length = 0 := by decide +kernel
  obtain ⟨hrun, hturns⟩ := checkAll_gate slowSidecar 5 100 .business threePorts hdistinct
  exact ⟨hdistinct, hended, by decide +kernel, by decide +kernel, hrun,
    (hturns sidecarLast).1 (List.length_eq_zero_iff.1 hended)⟩

/-- A port that refuses its first probe is to be probed again after a delay of more than thirty
years: the pass takes thirty years only. -/
theorem elapsed_capped :
    let ports : Table String ModulePorts := .ofList [("a", ⟨1, none⟩)]
    let late : Forecast :=
      { probes := fun port k => if k = 0 then .error (.runtime (.portNotReady port)) else .ok () }
    let run := Program.run late.handler
      (checkAll (.atLeastOne 2 1000000000000) .business ports).run {}
    ((watches ports).map (·.port)).Nodup ∧ mostTries late 2 (watches ports) = 2 ∧
      run.2.clock = 946080000000 ∧
      run.2.clock ≠ 1000000000000 * (mostTries late 2 (watches ports) - 1) := by
  decide +kernel

end Fleet.Readiness
