import Fleet.Deployment

/-!
# A pass whose tasks take turns

A sidecar is started by a task of its own. The task may begin as soon as the container of its module
is up, while further modules are being started. `Underway` is a pass whose tasks take turns: at a
turn the modules go on by one call, or a sidecar goes on by one call, or the pass takes note of a
sidecar that is up or has failed. The pass ends with the first failure that it meets. The sidecars
that are still being started are then given up, each at a turn of its own, so that a task may make
further calls until it notices.

What an order of turns brings about is a matter of `turns`; a law for every order is a law for all
lists of turns. Main statement: `exists_turns_startAll`, by which starting everything in order is
one of these orders.
-/

namespace Fleet

/-- What is left of a task. -/
abbrev Task := Program Call.Answer (Outcome Unit)

namespace Deployment

/-- A module that is being started. -/
structure ModuleTask where
  task : Task
  /-- The task that is to start its sidecar, if it has one. -/
  sidecar? : Option Task

/-- A pass that is being deployed. -/
structure Underway where
  /-- The modules that are not up yet; the first one is being started. -/
  modules : List ModuleTask
  /-- The tasks of sidecars whose modules are up. -/
  sidecars : List Task := []
  /-- How sidecar tasks ended that the pass has not taken note of, the earliest first. -/
  ended : List (Outcome Unit) := []
  /-- How the pass ended. -/
  outcome? : Option (Outcome Unit) := none

/-- Whose turn it is. -/
inductive Turn
  | modules
  /-- The turn of one of the tasks of sidecars. -/
  | sidecar (index : Nat)
  /-- The pass takes note of a sidecar, or of the end. -/
  | join
  /-- A sidecar's task notices that the pass has failed. -/
  | giveUp (index : Nat)
  deriving DecidableEq, Repr

/-- The tasks of a module. -/
def moduleTask (b : Blueprint) (d : Descriptor) : ModuleTask :=
  ⟨(startModule b d).run, (b.sidecarSpec? d).map fun spec => (startSidecar b spec).run⟩

namespace Underway

variable {σ : Type}

/-- A pass that begins. -/
def start (b : Blueprint) (modules : List Descriptor) : Underway :=
  { modules := modules.map (moduleTask b) }

/-- The modules go on by one call. -/
def modulesTurn (handler : Handler Call.Answer σ) (u : Underway) (s : σ) : Underway × σ :=
  match u.outcome?, u.modules with
  | none, m :: rest =>
    match m.task.advance handler s with
    | (.done (.ok ()), s) =>
      ({ u with modules := rest, sidecars := u.sidecars ++ m.sidecar?.toList }, s)
    | (.done (.error e), s) => ({ u with modules := [], outcome? := some (.error e) }, s)
    | (task, s) => ({ u with modules := ⟨task, m.sidecar?⟩ :: rest }, s)
  | _, _ => (u, s)

/-- A sidecar goes on by one call. -/
def sidecarTurn (handler : Handler Call.Answer σ) (index : Nat) (u : Underway) (s : σ) :
    Underway × σ :=
  match u.sidecars[index]? with
  | none => (u, s)
  | some task =>
    match task.advance handler s with
    | (.done o, s) =>
      ({ u with sidecars := u.sidecars.eraseIdx index, ended := u.ended ++ [o] }, s)
    | (task, s) => ({ u with sidecars := u.sidecars.set index task }, s)

/-- When every module is up, the pass takes note of the sidecars, in the order in which they ended.
It ends with the first failure, or when there is nothing left to take note of. -/
def join (u : Underway) : Underway :=
  match u.outcome?, u.modules, u.ended, u.sidecars with
  | none, [], .error e :: rest, _ => { u with ended := rest, outcome? := some (.error e) }
  | none, [], .ok () :: rest, _ => { u with ended := rest }
  | none, [], [], [] => { u with outcome? := some (.ok ()) }
  | _, _, _, _ => u

/-- A sidecar of a pass that has failed is given up. -/
def giveUp (index : Nat) (u : Underway) : Underway :=
  match u.outcome? with
  | some (.error _) => { u with sidecars := u.sidecars.eraseIdx index }
  | _ => u

/-- A turn is taken. A turn that nobody can take changes nothing. -/
def turn (handler : Handler Call.Answer σ) : Turn → Underway → σ → Underway × σ
  | .modules, u, s => u.modulesTurn handler s
  | .sidecar index, u, s => u.sidecarTurn handler index s
  | .join, u, s => (u.join, s)
  | .giveUp index, u, s => (u.giveUp index, s)

/-- Turns are taken, one after another. -/
def turns (handler : Handler Call.Answer σ) : List Turn → Underway → σ → Underway × σ
  | [], u, s => (u, s)
  | t :: rest, u, s =>
    let (u, s) := turn handler t u s
    turns handler rest u s

variable {handler : Handler Call.Answer σ}

@[simp]
theorem turns_nil (u : Underway) (s : σ) : turns handler [] u s = (u, s) := rfl

@[simp]
theorem turns_cons (t : Turn) (rest : List Turn) (u : Underway) (s : σ) :
    turns handler (t :: rest) u s =
      turns handler rest (turn handler t u s).1 (turn handler t u s).2 := rfl

theorem turns_append (first second : List Turn) (u : Underway) (s : σ) :
    turns handler (first ++ second) u s =
      turns handler second (turns handler first u s).1 (turns handler first u s).2 := by
  induction first generalizing u s with
  | nil => rfl
  | cons t rest ih => simp [ih]

/-! ## Starting in order is one order of turns -/

variable (handler)

/-- What becomes of the first module when its task has ended. -/
def afterModule (u : Underway) (m : ModuleTask) (rest : List ModuleTask) : Outcome Unit → Underway
  | .ok () => { u with modules := rest, sidecars := u.sidecars ++ m.sidecar?.toList }
  | .error e => { u with modules := [], outcome? := some (.error e) }

/-- The modules can take turns until the first of them is up or has failed. -/
theorem exists_turns_module (task : Task) (sidecar? : Option Task) (rest : List ModuleTask)
    (u : Underway) (s : σ) (h : u.outcome? = none) :
    ∃ ts, turns handler ts { u with modules := ⟨task, sidecar?⟩ :: rest } s =
      (u.afterModule ⟨task, sidecar?⟩ rest (task.run handler s).1, (task.run handler s).2) := by
  induction task generalizing s with
  | done o =>
    refine ⟨[.modules], ?_⟩
    cases o <;> simp [turn, modulesTurn, h, Program.advance, Program.run, afterModule]
  | ask call next ih =>
    obtain ⟨ts, hts⟩ := ih (handler call s).1 (handler call s).2
    cases hn : next (handler call s).1 with
    | done o =>
      refine ⟨[.modules], ?_⟩
      cases o <;>
        simp [turn, modulesTurn, h, Program.advance, Program.run, afterModule, hn]
    | ask call' next' =>
      refine ⟨.modules :: ts, ?_⟩
      rw [hn] at hts
      simp [turn, modulesTurn, h, Program.advance, Program.run, afterModule, hn] at hts ⊢
      exact hts

/-- The first sidecar can take turns until it is up or has failed. -/
theorem exists_turns_sidecar (task : Task) (rest : List Task) (u : Underway) (s : σ) :
    ∃ ts, turns handler ts { u with sidecars := task :: rest } s =
      ({ u with sidecars := rest, ended := u.ended ++ [(task.run handler s).1] },
        (task.run handler s).2) := by
  induction task generalizing s with
  | done o =>
    exact ⟨[.sidecar 0], by simp [turn, sidecarTurn, Program.advance, Program.run]⟩
  | ask call next ih =>
    obtain ⟨ts, hts⟩ := ih (handler call s).1 (handler call s).2
    cases hn : next (handler call s).1 with
    | done o =>
      exact ⟨[.sidecar 0], by simp [turn, sidecarTurn, Program.advance, Program.run, hn]⟩
    | ask call' next' =>
      refine ⟨.sidecar 0 :: ts, ?_⟩
      rw [hn] at hts
      simp [turn, sidecarTurn, Program.advance, Program.run, hn] at hts ⊢
      exact hts

/-- The first failure among outcomes. -/
def firstFailure : List (Outcome Unit) → Outcome Unit
  | [] => .ok ()
  | .error e :: _ => .error e
  | .ok () :: rest => firstFailure rest

/-- Starting sidecars in order starts every one of them, and answers the first failure. -/
theorem run_startSidecars_cons (b : Blueprint) (spec : ContainerSpec) (rest : List ContainerSpec)
    (s : σ) :
    Program.run handler (startSidecars b (spec :: rest)).run s =
      let (first, s) := Program.run handler (startSidecar b spec).run s
      let (others, s) := Program.run handler (startSidecars b rest).run s
      (match first with
        | .error e => .error e
        | .ok () => others, s) := by
  rw [startSidecars, Program.run_bind_except, Action.run_outcome]
  simp only [Program.run_bind_except, Action.run_outcome]
  cases (Program.run handler (startSidecar b spec).run s).1 <;> rfl

/-- Sidecars can take turns one after another, each until it is up or has failed, and what the pass
is to take note of then is what starting them in order answers. -/
theorem exists_turns_sidecars (b : Blueprint) (specs : List ContainerSpec) (u : Underway) (s : σ) :
    ∃ ts os, turns handler ts
        { u with sidecars := specs.map fun spec => (startSidecar b spec).run } s =
      ({ u with sidecars := [], ended := u.ended ++ os },
        (Program.run handler (startSidecars b specs).run s).2) ∧
      (Program.run handler (startSidecars b specs).run s).1 = firstFailure os := by
  induction specs generalizing u s with
  | nil => exact ⟨[], [], by simp [startSidecars], rfl⟩
  | cons spec rest ih =>
    obtain ⟨ts, hts⟩ := exists_turns_sidecar handler (startSidecar b spec).run
      (rest.map fun spec => (startSidecar b spec).run) u s
    obtain ⟨ts', os, hts', hos⟩ := ih
      { u with ended := u.ended ++ [(Program.run handler (startSidecar b spec).run s).1] }
      (Program.run handler (startSidecar b spec).run s).2
    refine ⟨ts ++ ts', (Program.run handler (startSidecar b spec).run s).1 :: os, ?_, ?_⟩
    · rw [turns_append, List.map_cons, hts, hts', run_startSidecars_cons, List.append_assoc]
      rfl
    · rw [run_startSidecars_cons]
      cases h : (Program.run handler (startSidecar b spec).run s).1 with
      | error e => simp [h, firstFailure]
      | ok _ => simp [h, firstFailure, hos]

/-- When nothing is being started any more, the pass can take note of everything that has ended. -/
theorem exists_turns_join (ended : List (Outcome Unit)) (s : σ) :
    ∃ ts, (turns handler ts { modules := [], ended } s).2 = s ∧
      (turns handler ts { modules := [], ended } s).1.outcome? = some (firstFailure ended) := by
  induction ended with
  | nil => exact ⟨[.join], rfl, rfl⟩
  | cons o rest ih =>
    cases o with
    | error e => exact ⟨[.join], rfl, rfl⟩
    | ok _ =>
      obtain ⟨ts, hs, ho⟩ := ih
      exact ⟨.join :: ts, hs, ho⟩

/-- The tasks of sidecars. -/
def sidecarTasks (b : Blueprint) (specs : List ContainerSpec) : List Task :=
  specs.map fun spec => (startSidecar b spec).run

theorem sidecarTasks_append (b : Blueprint) (begun : List ContainerSpec) (d : Descriptor) :
    sidecarTasks b begun ++ (moduleTask b d).sidecar?.toList =
      sidecarTasks b (begun ++ (b.sidecarSpec? d).toList) := by
  cases h : b.sidecarSpec? d <;> simp [sidecarTasks, moduleTask, h]

/-- Starting modules in order goes on until one fails, and answers their sidecars. -/
theorem run_startModules_cons (b : Blueprint) (d : Descriptor) (rest : List Descriptor) (s : σ) :
    Program.run handler (startModules b (d :: rest)).run s =
      match Program.run handler (startModule b d).run s with
      | (.error e, s) => (.error e, s)
      | (.ok _, s) =>
        match Program.run handler (startModules b rest).run s with
        | (.error e, s) => (.error e, s)
        | (.ok specs, s) => (.ok ((b.sidecarSpec? d).toList ++ specs), s) := by
  rw [startModules, Program.run_bind_except]
  cases Program.run handler (startModule b d).run s with
  | mk r t =>
    cases r with
    | error e => rfl
    | ok _ =>
      dsimp only
      rw [Program.run_bind_except]
      cases Program.run handler (startModules b rest).run t with
      | mk r' t' => cases r' <;> rfl

/-- The modules can take turns until all of them are up, or one has failed. -/
theorem exists_turns_modules (b : Blueprint) (ds : List Descriptor) (begun : List ContainerSpec)
    (s : σ) :
    ∃ ts u, turns handler ts
        { modules := ds.map (moduleTask b), sidecars := sidecarTasks b begun } s =
      (u, (Program.run handler (startModules b ds).run s).2) ∧
      match (Program.run handler (startModules b ds).run s).1 with
      | .ok specs => u = { modules := [], sidecars := sidecarTasks b (begun ++ specs) }
      | .error e => u.outcome? = some (.error e) := by
  induction ds generalizing begun s with
  | nil => exact ⟨[], _, rfl, by simp [startModules]⟩
  | cons d rest ih =>
    let u₀ : Underway := { modules := [], sidecars := sidecarTasks b begun }
    have first : ∃ ts, turns handler ts
        { modules := (d :: rest).map (moduleTask b), sidecars := sidecarTasks b begun } s =
        (u₀.afterModule (moduleTask b d) (rest.map (moduleTask b))
          (Program.run handler (startModule b d).run s).1,
          (Program.run handler (startModule b d).run s).2) :=
      exists_turns_module handler (startModule b d).run (moduleTask b d).sidecar?
        (rest.map (moduleTask b)) u₀ s rfl
    obtain ⟨ts, hts⟩ := first
    rw [run_startModules_cons]
    cases h : Program.run handler (startModule b d).run s with
    | mk r t =>
      rw [h] at hts
      cases r with
      | error e => exact ⟨ts, _, hts, rfl⟩
      | ok _ =>
        obtain ⟨ts', u, hts', hu⟩ := ih (begun ++ (b.sidecarSpec? d).toList) t
        have later : turns handler (ts ++ ts')
            { modules := (d :: rest).map (moduleTask b), sidecars := sidecarTasks b begun } s =
            (u, (Program.run handler (startModules b rest).run t).2) := by
          rw [turns_append, hts, ← hts', ← sidecarTasks_append]
          rfl
        refine ⟨ts ++ ts', u, ?_⟩
        dsimp only
        rw [later]
        cases h' : Program.run handler (startModules b rest).run t with
        | mk r' t' =>
          rw [h'] at hu
          cases r' with
          | error e => exact ⟨rfl, hu⟩
          | ok specs => exact ⟨rfl, hu.trans (by rw [List.append_assoc])⟩

/-- Some order of turns brings about what starting everything in order does. -/
theorem exists_turns_startAll (b : Blueprint) (ds : List Descriptor) (s : σ) :
    ∃ ts, (turns handler ts (start b ds) s).2 = (Program.run handler (startAll b ds).run s).2 ∧
      (turns handler ts (start b ds) s).1.outcome? =
        some (Program.run handler (startAll b ds).run s).1 := by
  obtain ⟨ts, u, hts, hu⟩ := exists_turns_modules handler b ds [] s
  rw [startAll, Program.run_bind_except]
  cases h : Program.run handler (startModules b ds).run s with
  | mk r t =>
    rw [h] at hts hu
    cases r with
    | error e => exact ⟨ts, congrArg Prod.snd hts, (congrArg (fun p => p.1.outcome?) hts).trans hu⟩
    | ok specs =>
      subst hu
      obtain ⟨ts', os, hts', hos⟩ := exists_turns_sidecars handler b specs
        { modules := [] } t
      obtain ⟨ts'', hs, ho⟩ := exists_turns_join handler os
        (Program.run handler (startSidecars b specs).run t).2
      have all : turns handler (ts ++ (ts' ++ ts'')) (start b ds) s =
          turns handler ts'' { modules := [], ended := os }
            (Program.run handler (startSidecars b specs).run t).2 := by
        have modulesUp : turns handler ts (start b ds) s =
            ({ modules := [], sidecars := sidecarTasks b specs }, t) := hts
        have sidecarsEnded : turns handler ts'
            { modules := [], sidecars := sidecarTasks b specs } t =
            ({ modules := [], ended := os },
              (Program.run handler (startSidecars b specs).run t).2) := hts'
        rw [turns_append, turns_append, modulesUp, sidecarsEnded]
      refine ⟨ts ++ (ts' ++ ts''), ?_, ?_⟩
      · rw [all]
        exact hs
      · rw [all, ho, ← hos]

end Underway

end Deployment

end Fleet
