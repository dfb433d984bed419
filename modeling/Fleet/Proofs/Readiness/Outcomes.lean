import Fleet.Proofs.Readiness
import Fleet.Readiness.Turns

/-!
# Outcomes of ports, and what they make of a report

How the probing of a port ends is decided by what its probes will find and by the budget of attempts
(`settle`): a port is ready by the first probe that it answers, unless the attempts are used up
before. What a pass reports is decided by the outcomes of its ports, in whatever order they are
filed (`report_eq`), and a module is not ready exactly if one of its ports is not
(`unready_filedAs`).
-/

namespace Fleet.Readiness

/-! ## One port -/

/-- Which of so many probes is the first that a port answers. -/
def firstAnswer? (answers : Nat → Outcome Unit) (attempts : Nat) : Option Nat :=
  (List.range attempts).find? fun k => (answers k).toBool

/-- How many probes a port takes: up to the first that it answers, or all of them. -/
def tries (answers : Nat → Outcome Unit) (attempts : Nat) : Nat :=
  (firstAnswer? answers attempts).elim attempts (· + 1)

/-- Why a probe failed, in words. -/
def lastError : Outcome Unit → String
  | .ok () => ""
  | .error e => e.message

/-- How the probing of a port ends. -/
def settle (answers : Nat → Outcome Unit) (attempts : Nat) : PortOutcome :=
  match firstAnswer? answers attempts with
  | some k => .ready (k + 1)
  | none => .timedOut attempts (lastError (answers (attempts - 1)))

/-- The first probes of a port have failed. -/
def Silent (answers : Nat → Outcome Unit) (probes : Nat) : Prop :=
  ∀ k < probes, (answers k).toBool = false

variable {answers : Nat → Outcome Unit} {attempts k : Nat}

theorem silent_zero (answers : Nat → Outcome Unit) : Silent answers 0 :=
  fun k hk => absurd hk (Nat.not_lt_zero k)

theorem Silent.succ {e : Failure} (h : Silent answers k) (hk : answers k = .error e) :
    Silent answers (k + 1) := by
  refine Nat.forall_lt_succ_right.2 ⟨h, ?_⟩
  rw [hk]
  rfl

theorem firstAnswer?_of_ok (h : Silent answers k) (hk : answers k = .ok ()) (hlt : k < attempts) :
    firstAnswer? answers attempts = some k := by
  refine List.find?_range_eq_some.2 ⟨by rw [hk]; rfl, List.mem_range.2 hlt, fun i hi => ?_⟩
  rw [h i hi]
  rfl

theorem firstAnswer?_eq_none_iff : firstAnswer? answers attempts = none ↔
    Silent answers attempts := by
  simp [firstAnswer?, Silent]

/-- A port is settled as ready exactly if it answers within its attempts. -/
theorem isReady_settle : (settle answers attempts).isReady = true ↔
    ∃ k < attempts, answers k = .ok () := by
  have hsome : (firstAnswer? answers attempts).isSome ↔ ∃ k < attempts, answers k = .ok () := by
    rw [firstAnswer?, List.find?_isSome]
    refine exists_congr fun k => and_congr List.mem_range ?_
    cases answers k <;> simp [Except.toBool]
  rw [← hsome, settle]
  cases firstAnswer? answers attempts <;> simp [PortOutcome.isReady]

theorem settle_of_ok (h : Silent answers k) (hk : answers k = .ok ()) (hlt : k < attempts) :
    settle answers attempts = .ready (k + 1) := by
  rw [settle, firstAnswer?_of_ok h hk hlt]

/-- A port that answers is settled by its first answer. -/
theorem settle_of_answered (h : ∃ k < attempts, answers k = .ok ()) :
    settle answers attempts = .ready (tries answers attempts) := by
  have hready := isReady_settle.2 h
  rw [settle] at hready ⊢
  rw [tries]
  cases hfirst : firstAnswer? answers attempts with
  | none =>
    rw [hfirst] at hready
    cases hready
  | some k => rfl

theorem settle_of_error {e : Failure} (h : Silent answers k) (hk : answers k = .error e) :
    settle answers (k + 1) = .timedOut (k + 1) e.message := by
  rw [settle, firstAnswer?_eq_none_iff.2 (h.succ hk), Nat.add_sub_cancel, hk]
  rfl

theorem tries_of_ok (h : Silent answers k) (hk : answers k = .ok ()) (hlt : k < attempts) :
    tries answers attempts = k + 1 := by
  rw [tries, firstAnswer?_of_ok h hk hlt]
  rfl

theorem tries_of_silent (h : Silent answers attempts) : tries answers attempts = attempts := by
  rw [tries, firstAnswer?_eq_none_iff.2 h]
  rfl

/-- A port whose first probes fail takes one more, as long as there are attempts. -/
theorem lt_tries (h : Silent answers k) (hlt : k < attempts) : k < tries answers attempts := by
  rw [tries]
  cases hfirst : firstAnswer? answers attempts with
  | none => exact hlt
  | some i =>
    have hi : (answers i).toBool = true := (List.find?_range_eq_some.1 hfirst).1
    by_contra hle
    rw [h i (by simp at hle; omega)] at hi
    cases hi

/-! ## The ports of a pass -/

variable {outcomes : List (Watch × PortOutcome)} {ports : Table String ModulePorts}

theorem mem_watches {w : Watch} : w ∈ watches ports ↔
    ∃ p, ports.find? w.module = some p ∧ w.port ∈ p.toList := by
  rw [watches, List.mem_flatMap]
  constructor
  · rintro ⟨⟨module, p⟩, he, hw⟩
    obtain ⟨port, hport, rfl⟩ := List.mem_map.1 hw
    exact ⟨p, Table.mem_entries_iff.1 he, hport⟩
  · rintro ⟨p, hp, hport⟩
    exact ⟨(w.module, p), Table.mem_entries_iff.2 hp, List.mem_map.2 ⟨w.port, hport, rfl⟩⟩

/-- A report has the modules of which an outcome is filed. -/
theorem isSome_find?_foldl_record (records : Table String (Table Port PortOutcome))
    (module : String) : ((outcomes.foldl record records).find? module).isSome ↔
      (records.find? module).isSome ∨ ∃ e ∈ outcomes, e.1.module = module := by
  induction outcomes generalizing records with
  | nil => simp
  | cons e rest ih =>
    rw [List.foldl_cons, ih, List.exists_mem_cons_iff, ← or_assoc]
    refine or_congr ?_ Iff.rfl
    rw [record, Table.find?_insert]
    by_cases hmodule : module = e.1.module
    · simp [hmodule]
    · simp [hmodule, Ne.symm hmodule]

/-- The outcomes of the ports of each module. -/
def filedAs (outcome : Port → PortOutcome) (ports : Table String ModulePorts) :
    Table String (Table Port PortOutcome) :=
  ports.mapValues fun _ p => .ofList (p.toList.map fun port => (port, outcome port))

section Filing

variable {outcome : Port → PortOutcome} (hall : (outcomes.map (·.1)).Perm (watches ports))
  (houtcome : ∀ e ∈ outcomes, e.2 = outcome e.1.port)

include hall houtcome

/-- When every port has its outcome, this is what is filed for it, and nothing else is filed. -/
theorem filed?_eq (w : Watch) : filed? (outcomes.foldl record .empty) w =
    if w ∈ watches ports then some (outcome w.port) else none := by
  rcases @exists_filed outcomes w .empty with ⟨hnone, hout⟩ | ⟨o, ho, hin⟩
  · rw [hnone, if_neg (hall.mem_iff.not.1 hout)]
    rfl
  · rw [ho, if_pos (hall.mem_iff.1 (List.mem_map.2 ⟨_, hin, rfl⟩))]
    exact congrArg some (houtcome _ hin)

/-- When every port has its outcome, it does not matter in which order they are filed. -/
theorem report_eq (kind : ModuleKind) :
    report kind outcomes = ⟨kind, filedAs outcome ports⟩ := by
  suffices hrecords : outcomes.foldl record .empty = filedAs outcome ports by
    rw [report, hrecords]
  refine Table.ext_find? fun module => ?_
  rw [filedAs, Table.find?_mapValues]
  cases hports : ports.find? module with
  | none =>
    rw [Option.map_none, ← Option.not_isSome_iff_eq_none, isSome_find?_foldl_record]
    rintro (hempty | ⟨e, he, rfl⟩)
    · cases hempty
    · obtain ⟨p, hp, _⟩ := mem_watches.1 (hall.mem_iff.1 (List.mem_map.2 ⟨e, he, rfl⟩))
      rw [hports] at hp
      cases hp
  | some p =>
    have hwatch : ∀ port, (⟨module, port⟩ : Watch) ∈ watches ports ↔ port ∈ p.toList := by
      intro port
      rw [mem_watches, hports]
      simp
    have hsome : ((outcomes.foldl record .empty).find? module).isSome := by
      have hfirst := (hwatch p.module).2 List.mem_cons_self
      obtain ⟨e, he, heq⟩ := List.mem_map.1 (hall.mem_iff.2 hfirst)
      exact (isSome_find?_foldl_record _ _).2 (.inr ⟨e, he, congrArg Watch.module heq⟩)
    obtain ⟨t, ht⟩ := Option.isSome_iff_exists.1 hsome
    rw [ht, Option.map_some]
    refine congrArg some (Table.ext_find? fun port => ?_)
    have hport := filed?_eq hall houtcome ⟨module, port⟩
    rw [filed?, ht, Option.bind_some] at hport
    rw [hport, Table.find?_ofList_map]
    exact if_congr (hwatch port) rfl rfl

end Filing

/-- The modules that are not ready are those with a port that is not. -/
theorem unready_filedAs (outcome : Port → PortOutcome) (kind : ModuleKind)
    (ports : Table String ModulePorts) :
    ReadinessReport.unready ⟨kind, filedAs outcome ports⟩ =
      (ports.entries.filter fun e => e.2.toList.any fun port => !(outcome port).isReady).map
        (·.1) := by
  have hany : ∀ p : ModulePorts,
      (Table.ofList (p.toList.map fun port => (port, outcome port))).values.any
        (fun o => !o.isReady) = p.toList.any fun port => !(outcome port).isReady := fun p => by
    rw [Bool.eq_iff_iff, List.any_eq_true, List.any_eq_true]
    constructor
    · rintro ⟨o, ho, hunready⟩
      obtain ⟨port, hport, rfl⟩ := Table.mem_values_ofList_map.1 ho
      exact ⟨port, hport, hunready⟩
    · rintro ⟨port, hport, hunready⟩
      exact ⟨outcome port, Table.mem_values_ofList_map.2 ⟨port, hport, rfl⟩, hunready⟩
  rw [ReadinessReport.unready, filedAs, Table.mapValues, List.filter_map, List.map_map]
  simp only [Function.comp_def, hany]

end Fleet.Readiness
