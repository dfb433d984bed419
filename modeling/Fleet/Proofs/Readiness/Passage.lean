import Fleet.Proofs.Readiness
import Fleet.Proofs.Readiness.Ending

/-!
# The events of a readiness pass

The ports of a pass are awaited in rounds of probes, or by tasks that take turns in any order
(`Passage`); the tasks can take turns until they have ended (`Passage.exists_inTurns`). Either way
nothing happens but probes of the ports and pauses (`Passage.calls`). If the pass ends well, each of
its ports has answered a probe (`Passage.answered`); and if every probe is answered, nothing happens
but one probe of each port (`Passage.events_perm`). In rounds these come in the order of the ports,
and in turns they come in the order in which the tasks go first.

For tasks this is read off where they stand by what has happened. `Standing` is kept by every turn,
whatever is answered; `Prompt` is kept as long as every probe is answered.
-/

namespace Fleet.Readiness

open Program

variable {σ : Type} {handler : Handler Call.Answer σ} {b : Budget} {ws : List Watch}
  {events : List Event}

/-- How the ports of a pass are awaited: in rounds of probes, or by tasks that take turns. -/
inductive Manner
  | inRounds
  | inTurns

/-- The ports of a pass are awaited, with these events and this verdict. -/
inductive Passage (handler : Handler Call.Answer σ) (b : Budget) (kind : ModuleKind)
    (ports : Table String ModulePorts) :
    Manner → σ → List Event → Outcome ReadinessReport → σ → Prop
  | inRounds {s s' : σ} {events : List Event} {r : Outcome ReadinessReport}
      (h : Course handler (checkAll b kind ports).run s events r s') :
      Passage handler b kind ports .inRounds s events r s'
  | inTurns {s s' : σ} {events : List Event} {ts : List Turn} {u : Probing}
      (hturns : Probing.turns (recording handler) ts (.start b (watches ports)) (s, []) =
        (u, (s', events))) (hended : u.tasks = []) :
      Passage handler b kind ports .inTurns s events (verdict kind u.sent) s'

/-! ## Where tasks stand -/

/-- Where a task stands, by what has happened. -/
inductive Waits (b : Budget) (events : List Event) (t : PortTask) : Prop
  /-- It probes next. -/
  | probing {left attempt : Nat}
      (htask : t.task = awaitPort b.delayMillis t.watch.port (left + 1) attempt)
  /-- It sleeps next. -/
  | pausing {left attempt : Nat} (htask : t.task = .ask (.sleep b.delayMillis) fun _ =>
      awaitPort b.delayMillis t.watch.port (left + 1) attempt)
  /-- It has ended. -/
  | ended {o : PortOutcome} (htask : t.task = .done o)
      (hready : o.isReady = true → ⟨.probe t.watch.port, .ok ()⟩ ∈ events)

namespace Waits

variable {w : Watch} {wakes : Nat}

theorem mono {t : PortTask} {events' : List Event} (h : Waits b events t)
    (hsub : events ⊆ events') : Waits b events' t := by
  cases h with
  | probing htask => exact .probing htask
  | pausing htask => exact .pausing htask
  | ended htask hready => exact .ended htask fun ho => hsub (hready ho)

/-- A task that has ended with a port that is ready has been answered. -/
theorem sends {o : PortOutcome} (h : Waits b events ⟨w, .done o, wakes⟩) (ho : o.isReady = true) :
    ⟨.probe w.port, .ok ()⟩ ∈ events := by
  cases h with
  | probing htask =>
    rw [awaitPort_succ] at htask
    cases htask
  | pausing htask => cases htask
  | ended htask hready =>
    cases htask
    exact hready ho

/-- A task that sleeps probes its port next. -/
theorem sleeps {millis wakes' : Nat} {next : Unit → Program Call.Answer PortOutcome}
    (h : Waits b events ⟨w, .ask (.sleep millis) next, wakes⟩) :
    Waits b events ⟨w, next (), wakes'⟩ := by
  cases h with
  | probing htask =>
    rw [awaitPort_succ] at htask
    cases htask
  | pausing htask =>
    dsimp only at htask
    cases htask
    exact .probing rfl
  | ended htask _ => cases htask

/-- A task that makes another call probes its port, and goes on by what the port answers. -/
theorem calls {call : Call} {next : call.Answer → Program Call.Answer PortOutcome}
    (h : Waits b events ⟨w, .ask call next, wakes⟩) (hcall : ∀ millis, call ≠ .sleep millis)
    (answer : call.Answer) : call = .probe w.port ∧
      Waits b (events ++ [⟨call, answer⟩]) ⟨w, next answer, wakes⟩ := by
  cases h with
  | pausing htask =>
    dsimp only at htask
    cases htask
    exact absurd rfl (hcall _)
  | ended htask _ => cases htask
  | @probing left attempt htask =>
    rw [awaitPort_succ] at htask
    dsimp only at htask
    cases htask
    refine ⟨rfl, ?_⟩
    cases answer with
    | ok _ => exact .ended rfl fun _ => List.mem_append_right _ (List.mem_singleton_self _)
    | error e =>
      cases left with
      | zero => exact .ended rfl fun hready => by cases hready
      | succ left => exact .pausing rfl

end Waits

/-- What holds of a pass whose tasks have taken turns, and of what has happened since a state. -/
structure Standing (handler : Handler Call.Answer σ) (b : Budget) (ws : List Watch) (before : σ)
    (u : Probing) (s : σ × List Event) : Prop where
  /-- Every port has its task, or its outcome has been sent. -/
  watched : (u.tasks.map (·.watch) ++ u.sent.map (·.1)).Perm ws
  waits : ∀ t ∈ u.tasks, Waits b s.2 t
  answered : ∀ e ∈ u.sent, e.2.isReady = true → ⟨.probe e.1.port, .ok ()⟩ ∈ s.2
  calls : ∀ e ∈ s.2, (∃ millis, e.1 = .sleep millis) ∨ ∃ w ∈ ws, e.1 = .probe w.port
  state : s.1 = stateAfter handler before s.2

theorem standing_start (handler : Handler Call.Answer σ) (hattempts : 0 < b.attempts)
    (ws : List Watch) (s : σ) : Standing handler b ws s (.start b ws) (s, []) where
  watched := by simp [Probing.start, Function.comp_def]
  waits := by
    intro t ht
    obtain ⟨w, _, rfl⟩ := List.mem_map.1 ht
    obtain ⟨left, hleft⟩ := Nat.exists_eq_add_of_le' hattempts
    exact .probing (by rw [hleft])
  answered _ he := absurd he List.not_mem_nil
  calls _ he := absurd he List.not_mem_nil
  state := rfl

/-- Every turn keeps where the tasks stand. -/
theorem Standing.turned {before : σ} {t : Turn} {u u' : Probing} {s s' : σ × List Event}
    (hturned : Probing.Turned (recording handler) u s t u' s')
    (h : Standing handler b ws before u s) : Standing handler b ws before u' s' := by
  have hwatched := hturned.watched.trans h.watched
  -- what a call adds to the events
  have hsub : ∀ e : Event, s.2 ⊆ s.2 ++ [e] := fun e => List.subset_append_left _ _
  have hstate : ∀ call, (handler call s.1).2 =
      stateAfter handler before (s.2 ++ [⟨call, (handler call s.1).1⟩]) := fun call => by
    rw [stateAfter_append, ← h.state]
    rfl
  cases hturned with
  | idle _ => exact h
  | sends ht _ =>
    obtain ⟨htask, hothers⟩ := forall_mem_middle.1 (ht ▸ h.waits)
    refine ⟨hwatched, hothers, ?_, h.calls, h.state⟩
    exact List.forall_mem_append.2 ⟨h.answered, List.forall_mem_singleton.2 htask.sends⟩
  | sleeps ht _ =>
    obtain ⟨htask, hothers⟩ := forall_mem_middle.1 (ht ▸ h.waits)
    exact ⟨hwatched, forall_mem_middle.2 ⟨htask.sleeps, hothers⟩, h.answered, h.calls, h.state⟩
  | @calls first later w call next wakes ht _ hcall =>
    obtain ⟨htask, hothers⟩ := forall_mem_middle.1 (ht ▸ h.waits)
    obtain ⟨hprobe, hnext⟩ := htask.calls hcall (handler call s.1).1
    have hw : w ∈ ws := h.watched.mem_iff.1 (List.mem_append_left _ (by simp [ht]))
    refine ⟨hwatched, forall_mem_middle.2 ⟨hnext, fun t hmem => (hothers t hmem).mono (hsub _)⟩,
      fun e he hready => hsub _ (h.answered e he hready), ?_, hstate call⟩
    exact List.forall_mem_append.2 ⟨h.calls, List.forall_mem_singleton.2 (.inr ⟨w, hw, hprobe⟩)⟩
  | passes _ _ =>
    refine ⟨hwatched, fun t hmem => (h.waits t hmem).mono (hsub _),
      fun e he hready => hsub _ (h.answered e he hready), ?_, hstate _⟩
    exact List.forall_mem_append.2 ⟨h.calls, List.forall_mem_singleton.2 (.inl ⟨_, rfl⟩)⟩

/-! ## Ports that all answer at once -/

/-- The probe of a port, answered. -/
def answeredProbe (w : Watch) : Event := ⟨.probe w.port, .ok ()⟩

/-- Whether a task has ended. -/
def PortTask.hasEnded (t : PortTask) : Bool :=
  match t.task with
  | .done _ => true
  | .ask _ _ => false

/-- The ports whose tasks have not ended. -/
def pending (tasks : List PortTask) : List Watch :=
  (tasks.filter fun t => !t.hasEnded).map (·.watch)

@[simp]
theorem pending_append (first later : List PortTask) :
    pending (first ++ later) = pending first ++ pending later := by
  rw [pending, List.filter_append, List.map_append]
  rfl

@[simp]
theorem pending_done (w : Watch) (o : PortOutcome) (wakes : Nat) (later : List PortTask) :
    pending (⟨w, .done o, wakes⟩ :: later) = pending later := rfl

@[simp]
theorem pending_ask (w : Watch) (call : Call)
    (next : call.Answer → Program Call.Answer PortOutcome) (wakes : Nat) (later : List PortTask) :
    pending (⟨w, .ask call next, wakes⟩ :: later) = w :: pending later := rfl

/-- What holds of a pass as long as every probe is answered: no task has slept, and the ports that
have not been probed are those whose tasks have not ended. -/
structure Prompt (b : Budget) (ws : List Watch) (u : Probing) (events : List Event) : Prop where
  awake : ∀ t ∈ u.tasks, t.wakes = 0
  fresh : ∀ t ∈ u.tasks, t.hasEnded = false →
    t.task = awaitPort b.delayMillis t.watch.port b.attempts 1
  probed : (events ++ (pending u.tasks).map answeredProbe).Perm (ws.map answeredProbe)

theorem prompt_start (hattempts : 0 < b.attempts) (ws : List Watch) :
    Prompt b ws (.start b ws) [] := by
  obtain ⟨left, hleft⟩ := Nat.exists_eq_add_of_le' hattempts
  refine ⟨?_, ?_, ?_⟩
  · intro t ht
    obtain ⟨w, _, rfl⟩ := List.mem_map.1 ht
    rfl
  · intro t ht _
    obtain ⟨w, _, rfl⟩ := List.mem_map.1 ht
    rfl
  · suffices hall : pending (Probing.start b ws).tasks = ws by
      rw [hall, List.nil_append]
    show pending (ws.map _) = ws
    rw [hleft]
    induction ws with
    | nil => rfl
    | cons w rest ih => rw [List.map_cons, awaitPort_succ, pending_ask, ih]

/-- Every probe that has been made was answered. -/
def AllAnswer (events : List Event) : Prop :=
  ∀ port answer, (⟨.probe port, answer⟩ : Event) ∈ events → answer = .ok ()

theorem Prompt.turned (hattempts : 0 < b.attempts) {t : Turn} {u u' : Probing}
    {s s' : σ × List Event} (hturned : Probing.Turned (recording handler) u s t u' s')
    (h : AllAnswer s.2 → Prompt b ws u s.2) (hall : AllAnswer s'.2) : Prompt b ws u' s'.2 := by
  obtain ⟨left, hleft⟩ := Nat.exists_eq_add_of_le' hattempts
  cases hturned with
  | idle _ => exact h hall
  | sends ht _ =>
    obtain ⟨hawake, hfresh, hprobed⟩ := h hall
    rw [ht] at hawake hfresh hprobed
    refine ⟨(forall_mem_middle.1 hawake).2, (forall_mem_middle.1 hfresh).2, ?_⟩
    simpa using hprobed
  | sleeps ht _ =>
    -- a port that has not been probed does not sleep
    have hfresh := (h hall).fresh
    rw [ht] at hfresh
    have htask := (forall_mem_middle.1 hfresh).1 rfl
    rw [hleft, awaitPort_succ] at htask
    cases htask
  | @calls first later w call next wakes ht _ hcall =>
    have hbefore : AllAnswer s.2 := fun port answer hmem =>
      hall port answer (List.mem_append_left _ hmem)
    obtain ⟨hawake, hfresh, hprobed⟩ := h hbefore
    rw [ht] at hawake hfresh hprobed
    obtain ⟨htask, hothers⟩ := forall_mem_middle.1 hfresh
    have hprobe := htask rfl
    rw [hleft, awaitPort_succ] at hprobe
    dsimp only at hprobe
    cases hprobe
    have hanswer : (handler (.probe w.port) s.1).1 = .ok () :=
      hall w.port _ (List.mem_append_right _ (List.mem_singleton_self _))
    have hevents : (recording handler (.probe w.port) s).2.2 = s.2 ++ [answeredProbe w] := by
      show s.2 ++ [⟨_, _⟩] = _
      rw [hanswer]
      rfl
    have hnext : (recording handler (.probe w.port) s).1 = .ok () := hanswer
    rw [hevents, hnext]
    refine ⟨forall_mem_middle.2 (forall_mem_middle.1 hawake),
      forall_mem_middle.2 ⟨fun hended => (by cases hended), hothers⟩, .trans ?_ hprobed⟩
    simp only [pending_append, pending_done, pending_ask, List.map_append, List.map_cons,
      List.append_assoc, List.singleton_append]
    exact List.perm_middle.symm.append_left _
  | passes hfirst hasleep =>
    -- nobody sleeps, so no time passes
    obtain ⟨⟨t, hmem, hwakes⟩, _⟩ := Probing.wakesFirst?_eq_some_iff.1 hfirst
    have hbefore : AllAnswer s.2 := fun port answer hmem =>
      hall port answer (List.mem_append_left _ hmem)
    rw [← hwakes, (h hbefore).awake t hmem] at hasleep
    exact absurd hasleep (Nat.not_lt_zero _)

theorem prompt_turns (handler : Handler Call.Answer σ) (hattempts : 0 < b.attempts)
    (ws : List Watch) (s : σ) (ts : List Turn) :
    let after := Probing.turns (recording handler) ts (.start b ws) (s, [])
    AllAnswer after.2.2 → Prompt b ws after.1 after.2.2 :=
  Probing.turns_keeps (I := fun u (t : σ × List Event) => AllAnswer t.2 → Prompt b ws u t.2)
    (fun _ _ _ _ _ => Prompt.turned hattempts) (fun _ => prompt_start hattempts ws) ts

/-! ## Passages -/

namespace Passage

variable {m : Manner} {kind : ModuleKind} {ports : Table String ModulePorts} {s s' : σ}
  {r : Outcome ReadinessReport}

/-- The ports of every pass can be awaited in turns. -/
theorem exists_inTurns (handler : Handler Call.Answer σ) (b : Budget) (kind : ModuleKind)
    (ports : Table String ModulePorts) (s : σ) :
    ∃ events r s', Passage handler b kind ports .inTurns s events r s' := by
  obtain ⟨ts, hended⟩ := Probing.exists_ended (recording handler)
    (Probing.allEndWithin_start b (watches ports)) (s, [])
  exact ⟨_, _, _, .inTurns rfl hended⟩

/-- When no task is left, every port of the pass has been awaited. -/
theorem awaited (hattempts : 0 < b.attempts)
    (h : Passage handler b kind ports .inTurns s events r s') :
    ∃ u : Probing, r = verdict kind u.sent ∧ Awaited (watches ports) events u.sent ∧
      Standing handler b (watches ports) s u (s', events) := by
  cases h with
  | @inTurns _ _ _ ts u hturns hended =>
    have hstanding := Probing.turns_keeps (fun _ _ _ _ _ => Standing.turned)
      (standing_start handler hattempts (watches ports) s) ts
    rw [hturns] at hstanding
    refine ⟨u, rfl, ⟨fun w hw => ?_, fun w o hmem => hstanding.answered (w, o) hmem⟩, hstanding⟩
    have hwatched := hstanding.watched
    rw [hended, List.map_nil, List.nil_append] at hwatched
    obtain ⟨⟨_, o⟩, he, rfl⟩ := List.mem_map.1 (hwatched.mem_iff.2 hw)
    exact ⟨o, he⟩

/-- In a passage nothing happens but probes of the ports and pauses. -/
theorem calls (hattempts : 0 < b.attempts) (h : Passage handler b kind ports m s events r s') :
    ∀ e ∈ events,
      (∃ millis, e.1 = .sleep millis) ∨ ∃ w ∈ watches ports, e.1 = .probe w.port := by
  cases m with
  | inRounds =>
    cases h with
    | inRounds h =>
      let awaiting : Contract Call.Answer := .ofCalls fun call =>
        (∃ millis, call = .sleep millis) ∨ ∃ w ∈ watches ports, call = .probe w.port
      have hsleep : ∀ millis, awaiting.allows (.sleep millis) := fun millis => .inl ⟨millis, rfl⟩
      have hprobe : ∀ w ∈ watches ports, awaiting.allows (.probe w.port) :=
        fun w hw => .inr ⟨w, hw, rfl⟩
      have hwithin : (checkAll b kind ports).Within awaiting := by
        refine Action.within_bind (Action.keeps_lift (keeps_rounds hsleep _ _ _ _ hprobe))
          fun outcomes => ?_
        dsimp only
        split
        · exact Action.keeps_pure trivial
        · exact Action.keeps_throw
      exact hwithin.run.calls h
  | inTurns =>
    obtain ⟨_, _, _, hstanding⟩ := h.awaited hattempts
    exact hstanding.calls

theorem exists_verdict (h : Passage handler b kind ports m s events r s') :
    ∃ outcomes, r = verdict kind outcomes := by
  cases h with
  | inRounds h =>
    have hrun := h.run
    rw [run_checkAll] at hrun
    exact ⟨_, (congrArg Prod.fst hrun).symm⟩
  | inTurns _ _ => exact ⟨_, rfl⟩

/-- A passage that fails has waited in vain. -/
theorem failure {e : Failure} (h : Passage handler b kind ports m s events (.error e) s') :
    e.kind = .readinessTimeout := by
  obtain ⟨outcomes, hverdict⟩ := h.exists_verdict
  simp only [verdict] at hverdict
  split at hverdict <;> cases hverdict
  rfl

/-- What a passage leaves is what its calls leave. -/
theorem state_eq (hattempts : 0 < b.attempts) (h : Passage handler b kind ports m s events r s') :
    s' = stateAfter handler s events := by
  cases m with
  | inRounds =>
    cases h with
    | inRounds h => exact h.state_eq
  | inTurns =>
    obtain ⟨_, _, _, hstanding⟩ := h.awaited hattempts
    exact hstanding.state

/-- When a pass has been found ready, every port of it has answered a probe. -/
theorem answered (hattempts : 0 < b.attempts) {report : ReadinessReport}
    (h : Passage handler b kind ports m s events (.ok report) s') :
    ∀ w ∈ watches ports, ⟨.probe w.port, .ok ()⟩ ∈ events := by
  cases m with
  | inRounds =>
    cases h with
    | inRounds h => exact answered_checkAll hattempts h
  | inTurns =>
    obtain ⟨u, hverdict, hawaited, _⟩ := h.awaited hattempts
    simp only [verdict] at hverdict
    split at hverdict
    · next hunready => exact hawaited.answered_of_unready (List.isEmpty_iff.1 hunready)
    · cases hverdict

/-- If every port answers at once, each of them is probed once, and nothing else happens. -/
theorem events_perm (hattempts : 0 < b.attempts)
    (h : Passage handler b kind ports m s events r s') (hall : AllAnswer events) :
    events.Perm ((watches ports).map answeredProbe) := by
  cases h with
  | inRounds h => exact .of_eq (course_checkAll_of_answered hattempts h hall)
  | @inTurns _ _ _ ts u hturns hended =>
    have hprompt := prompt_turns handler hattempts (watches ports) s ts
    rw [hturns] at hprompt
    have hprobed := (hprompt hall).probed
    rw [hended] at hprobed
    simpa [pending] using hprobed

end Passage

end Fleet.Readiness
