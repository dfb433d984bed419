import Fleet.Proofs.Readiness.OneTurn
import Fleet.Proofs.Readiness.Rounds

/-!
# Each task has a timeline of its own

If the ports of a pass are pairwise distinct, the task of a port knows nothing of the others: where
it stands is decided by how often its port has been probed (`Stands`), and its `k`-th probe falls on
the time of `k` delays, whatever the order of turns. Time passes only when all tasks sleep, so it is
never ahead of a task (`InTime`). So when no task is left, as much time has passed as the slowest
port needs (`InTime.seen`), just as in rounds of probes.
-/

namespace Fleet.Readiness

/-- Where a task stands whose port has been probed `k` times. -/
inductive Stands (f : Forecast) (b : Budget) (t : PortTask) : Nat → Prop
  /-- It probes next. -/
  | probing {k left : Nat} (silent : Silent (f.probes t.watch.port) k)
      (hleft : k + (left + 1) = b.attempts)
      (htask : t.task = awaitPort b.delayMillis t.watch.port (left + 1) (k + 1))
      (hwakes : t.wakes = b.delayMillis * k) : Stands f b t k
  /-- It sleeps next. -/
  | pausing {k left : Nat} (silent : Silent (f.probes t.watch.port) (k + 1))
      (hleft : k + 1 + (left + 1) = b.attempts)
      (htask : t.task = .ask (.sleep b.delayMillis) fun _ =>
        awaitPort b.delayMillis t.watch.port (left + 1) (k + 1 + 1))
      (hwakes : t.wakes = b.delayMillis * k) : Stands f b t (k + 1)
  /-- It has ended. -/
  | ended {k : Nat} (hk : tries (f.probes t.watch.port) b.attempts = k)
      (htask : t.task = .done (settle (f.probes t.watch.port) b.attempts))
      (hwakes : t.wakes = needed f b t.watch) : Stands f b t k

variable {f : Forecast} {b : Budget} {k : Nat}

/-- A task never wakes later than when it has had the time that its port needs. -/
theorem Stands.wakes_le {t : PortTask} (h : Stands f b t k) : t.wakes ≤ needed f b t.watch := by
  have hneeded : ∀ i, Silent (f.probes t.watch.port) i → i < b.attempts →
      b.delayMillis * i ≤ needed f b t.watch := fun i hsilent hlt => by
    have hmore := lt_tries hsilent hlt
    exact Nat.mul_le_mul_left _ (by omega)
  cases h with
  | probing hsilent hleft _ hwakes => exact hwakes ▸ hneeded _ hsilent (by omega)
  | @pausing i _ hsilent hleft _ hwakes =>
    exact hwakes ▸ hneeded i (fun j hj => hsilent j (Nat.lt_succ_of_lt hj)) (by omega)
  | ended _ _ hwakes => exact Nat.le_of_eq hwakes

section Acting

variable {w : Watch} {wakes : Nat}

/-- A task that has ended has the outcome of its port. -/
theorem Stands.sends {o : PortOutcome} (h : Stands f b ⟨w, .done o, wakes⟩ k) :
    o = settle (f.probes w.port) b.attempts ∧ tries (f.probes w.port) b.attempts = k ∧
      wakes = needed f b w := by
  cases h with
  | probing _ _ htask _ =>
    rw [awaitPort_succ] at htask
    cases htask
  | pausing _ _ htask _ => cases htask
  | ended hk htask hwakes => exact ⟨Program.done.inj htask, hk, hwakes⟩

/-- A task that sleeps probes its port next. -/
theorem Stands.sleeps {millis : Nat} {next : Unit → Program Call.Answer PortOutcome}
    (h : Stands f b ⟨w, .ask (.sleep millis) next, wakes⟩ k) :
    Stands f b ⟨w, next (), wakes + millis⟩ k := by
  cases h with
  | probing _ _ htask _ =>
    rw [awaitPort_succ] at htask
    cases htask
  | ended _ htask _ => cases htask
  | @pausing k left hsilent hleft htask hwakes =>
    dsimp only at htask
    cases htask
    exact .probing hsilent hleft rfl (congrArg (· + b.delayMillis) hwakes)

/-- A task that makes another call probes its port, and goes on by what the port answers. -/
theorem Stands.calls {call : Call} {next : call.Answer → Program Call.Answer PortOutcome}
    (h : Stands f b ⟨w, .ask call next, wakes⟩ k) (hcall : ∀ millis, call ≠ .sleep millis)
    {v : Vigil} (hk : v.probed.count w.port = k) :
    (f.handler call v).2 = { v with probed := w.port :: v.probed } ∧
      Stands f b ⟨w, next (f.handler call v).1, wakes⟩ (k + 1) := by
  cases h with
  | pausing _ _ htask _ =>
    dsimp only at htask
    cases htask
    exact absurd rfl (hcall _)
  | ended _ htask _ => cases htask
  | @probing k left silent hleft htask hwakes =>
    rw [awaitPort_succ] at htask
    dsimp only at htask silent hwakes
    cases htask
    refine ⟨rfl, ?_⟩
    simp only [Forecast.handler, hk]
    cases hanswer : f.probes w.port k with
    | ok _ =>
      have hlt : k < b.attempts := by omega
      have htries := tries_of_ok silent hanswer hlt
      refine .ended htries ?_ ?_
      · show Program.done _ = Program.done (settle _ b.attempts)
        rw [settle_of_ok silent hanswer hlt]
      · show wakes = needed f b w
        rw [needed, htries, hwakes, Nat.add_sub_cancel]
    | error e =>
      cases left with
      | zero =>
        have hattempts : b.attempts = k + 1 := hleft.symm
        have htries : tries (f.probes w.port) b.attempts = k + 1 := by
          rw [hattempts]
          exact tries_of_silent (silent.succ hanswer)
        refine .ended htries ?_ ?_
        · show Program.done _ = Program.done (settle _ b.attempts)
          rw [hattempts, settle_of_error silent hanswer]
        · show wakes = needed f b w
          rw [needed, htries, hwakes, Nat.add_sub_cancel]
      | succ left => exact .pausing (silent.succ hanswer) (by omega) rfl hwakes

end Acting

/-! ## All tasks of a pass -/

/-- What holds of a pass whose tasks have taken turns, and of what has happened. -/
structure InTime (f : Forecast) (b : Budget) (ws : List Watch) (u : Probing) (v : Vigil) :
    Prop where
  clock : v.clock = u.now
  /-- Every port has its task, or its outcome has been sent. -/
  watched : (u.tasks.map (·.watch) ++ u.sent.map (·.1)).Perm ws
  stands : ∀ t ∈ u.tasks, Stands f b t (v.probed.count t.watch.port)
  ahead : ∀ t ∈ u.tasks, u.now ≤ t.wakes
  outcome : ∀ e ∈ u.sent, e.2 = settle (f.probes e.1.port) b.attempts
  probed : ∀ e ∈ u.sent, v.probed.count e.1.port = tries (f.probes e.1.port) b.attempts
  late : ∀ e ∈ u.sent, needed f b e.1 ≤ u.now
  others : ∀ port, port ∉ ws.map (·.port) → v.probed.count port = 0
  early : u.now = 0 ∨ ∃ w ∈ ws, u.now ≤ needed f b w

variable {ws : List Watch} {u : Probing} {v : Vigil}

/-- When no task is left, the ports have been awaited as in rounds of probes. -/
theorem InTime.seen (h : InTime f b ws u v) (hended : u.tasks = []) :
    Seen f b 0 ws {} u.sent v := by
  have hwatched := h.watched
  rw [hended, List.map_nil, List.nil_append] at hwatched
  have hsent : ∀ w ∈ ws, ∃ e ∈ u.sent, e.1 = w := fun w hw =>
    List.mem_map.1 (hwatched.mem_iff.2 hw)
  refine ⟨hwatched, h.outcome, fun w hw => ?_, h.others, fun w hw => ?_, ?_⟩
  · obtain ⟨e, he, rfl⟩ := hsent w hw
    exact h.probed e he
  · obtain ⟨e, he, rfl⟩ := hsent w hw
    simpa [h.clock] using h.late e he
  · simpa [h.clock] using h.early

theorem inTime_start (f : Forecast) {b : Budget} (hattempts : 0 < b.attempts) (ws : List Watch) :
    InTime f b ws (.start b ws) {} where
  clock := rfl
  watched := by simp [Probing.start, Function.comp_def]
  stands := by
    intro t ht
    obtain ⟨w, _, rfl⟩ := List.mem_map.1 ht
    obtain ⟨left, hleft⟩ := Nat.exists_eq_add_of_le' hattempts
    have hstands : Stands f b ⟨w, awaitPort b.delayMillis w.port b.attempts 1, 0⟩ 0 :=
      .probing (silent_zero _) ((Nat.zero_add _).trans hleft.symm) (by rw [hleft]) rfl
    exact hstands
  ahead _ _ := Nat.zero_le _
  outcome _ he := absurd he List.not_mem_nil
  probed _ he := absurd he List.not_mem_nil
  late _ he := absurd he List.not_mem_nil
  others _ _ := rfl
  early := .inl rfl

/-- The ports of the other tasks, and those whose outcomes have been sent, are other ports. -/
theorem InTime.port_ne (h : InTime f b ws u v) (hdistinct : (ws.map (·.port)).Nodup)
    {first later : List PortTask} {t : PortTask} (ht : u.tasks = first ++ t :: later) :
    (∀ t' ∈ first ++ later, t'.watch.port ≠ t.watch.port) ∧
      ∀ e ∈ u.sent, e.1.port ≠ t.watch.port := by
  have hperm : (t.watch.port :: ((first ++ later).map (·.watch.port) ++
      u.sent.map (·.1.port))).Perm (ws.map (·.port)) := by
    have hmap := h.watched.map (·.port)
    rw [ht] at hmap
    refine List.Perm.trans ?_ hmap
    simp only [List.map_append, List.map_cons, List.map_map, Function.comp_def, List.append_assoc,
      List.cons_append]
    exact List.perm_middle.symm
  obtain ⟨hnew, _⟩ := List.nodup_cons.1 (hperm.nodup_iff.2 hdistinct)
  refine ⟨fun t' ht' heq => hnew ?_, fun e he heq => hnew ?_⟩
  · exact List.mem_append_left _ (List.mem_map.2 ⟨t', ht', heq⟩)
  · exact List.mem_append_right _ (List.mem_map.2 ⟨e, he, heq⟩)

/-- One task goes on, and the probes of the other ports are as many as before. -/
theorem InTime.goesOn (h : InTime f b ws u v) (hdistinct : (ws.map (·.port)).Nodup)
    {first later : List PortTask} {t t' : PortTask} {v' : Vigil}
    (ht : u.tasks = first ++ t :: later) (hwatch : t'.watch = t.watch)
    (hwatched : ((first ++ t' :: later).map (·.watch) ++ u.sent.map (·.1)).Perm ws)
    (hclock : v'.clock = v.clock)
    (hstands : Stands f b t' (v'.probed.count t.watch.port)) (hahead : u.now ≤ t'.wakes)
    (hsame : ∀ port, port ≠ t.watch.port → v'.probed.count port = v.probed.count port) :
    InTime f b ws { u with tasks := first ++ t' :: later } v' := by
  obtain ⟨hothers, hsent⟩ := h.port_ne hdistinct ht
  have hmem : ∀ x ∈ first ++ t' :: later, x = t' ∨ x ∈ first ++ later := by grind
  have hold : ∀ x ∈ first ++ later, x ∈ u.tasks := by
    rw [ht]
    grind
  have hw : t.watch ∈ ws := by
    refine h.watched.mem_iff.1 (List.mem_append_left _ (List.mem_map.2 ⟨t, ?_, rfl⟩))
    rw [ht]
    exact List.mem_append_right _ List.mem_cons_self
  refine ⟨hclock.trans h.clock, hwatched, fun x hx => ?_, fun x hx => ?_, h.outcome,
    fun e he => ?_, h.late, fun port hport => ?_, h.early⟩
  · rcases hmem x hx with rfl | hx
    · rwa [hwatch]
    · rw [hsame _ (hothers x hx)]
      exact h.stands x (hold x hx)
  · rcases hmem x hx with rfl | hx
    · exact hahead
    · exact h.ahead x (hold x hx)
  · rw [hsame _ (hsent e he)]
    exact h.probed e he
  · rw [hsame port fun heq => hport (heq ▸ List.mem_map.2 ⟨t.watch, hw, rfl⟩)]
    exact h.others port hport

/-- Every turn keeps the timelines. -/
theorem InTime.turned (h : InTime f b ws u v) (hdistinct : (ws.map (·.port)).Nodup) {turn : Turn}
    {u' : Probing} {v' : Vigil} (hturned : Probing.Turned f.handler u v turn u' v') :
    InTime f b ws u' v' := by
  have hwatched := hturned.watched.trans h.watched
  -- a task that takes its turn wakes now
  have hacts : ∀ {first later : List PortTask} {t : PortTask}, u.tasks = first ++ t :: later →
      t.wakes ≤ u.now → t.wakes = u.now ∧ Stands f b t (v.probed.count t.watch.port) := by
    intro first later t ht hawake
    have hmem : t ∈ u.tasks := ht ▸ List.mem_append_right _ List.mem_cons_self
    exact ⟨Nat.le_antisymm hawake (h.ahead t hmem), h.stands t hmem⟩
  cases hturned with
  | idle _ => exact h
  | @sends first later w o wakes ht hawake =>
    obtain ⟨hnow, hstands⟩ := hacts ht hawake
    obtain ⟨rfl, hprobed, hneeded⟩ := hstands.sends
    have hold : ∀ x ∈ first ++ later, x ∈ u.tasks := by
      rw [ht]
      grind
    refine ⟨h.clock, hwatched, fun x hx => h.stands x (hold x hx),
      fun x hx => h.ahead x (hold x hx), fun e he => ?_, fun e he => ?_, fun e he => ?_, h.others,
      h.early⟩
    · rcases List.mem_append.1 he with he | he
      · exact h.outcome e he
      · rw [List.mem_singleton.1 he]
    · rcases List.mem_append.1 he with he | he
      · exact h.probed e he
      · rw [List.mem_singleton.1 he]
        exact hprobed.symm
    · rcases List.mem_append.1 he with he | he
      · exact h.late e he
      · rw [List.mem_singleton.1 he]
        exact Nat.le_of_eq (hneeded.symm.trans hnow)
  | @sleeps first later w millis next wakes ht hawake =>
    obtain ⟨hnow, hstands⟩ := hacts ht hawake
    dsimp only at hnow
    exact h.goesOn hdistinct ht rfl hwatched rfl (hnow ▸ hstands.sleeps) (Nat.le_add_right _ _)
      fun _ _ => rfl
  | @calls first later w call next wakes ht hawake hcall =>
    obtain ⟨hnow, hstands⟩ := hacts ht hawake
    obtain ⟨hafter, hnext⟩ := hstands.calls hcall rfl
    refine h.goesOn hdistinct ht rfl hwatched ?_ ?_ (Nat.le_of_eq hnow.symm) fun port hport => ?_
    · rw [hafter]
    · rw [hafter]
      show Stands f b _ ((w.port :: v.probed).count w.port)
      rw [List.count_cons_self]
      exact hnext
    · rw [hafter]
      exact List.count_cons_of_ne hport.symm
  | @passes wakes hfirst hasleep =>
    obtain ⟨⟨t, ht, rfl⟩, hleast⟩ := Probing.wakesFirst?_eq_some_iff.1 hfirst
    have hw : t.watch ∈ ws :=
      h.watched.mem_iff.1 (List.mem_append_left _ (List.mem_map.2 ⟨t, ht, rfl⟩))
    refine ⟨?_, hwatched, h.stands, hleast, h.outcome, h.probed, fun e he => ?_, h.others,
      .inr ⟨t.watch, hw, (h.stands t ht).wakes_le⟩⟩
    · show v.clock + (t.wakes - u.now) = t.wakes
      rw [h.clock]
      omega
    · exact Nat.le_of_lt (Nat.lt_of_le_of_lt (h.late e he) hasleep)

theorem InTime.turns (h : InTime f b ws u v) (hdistinct : (ws.map (·.port)).Nodup)
    (ts : List Turn) :
    InTime f b ws (Probing.turns f.handler ts u v).1 (Probing.turns f.handler ts u v).2 :=
  Probing.turns_keeps (fun _ _ _ _ _ hturned h => h.turned hdistinct hturned) h ts

end Fleet.Readiness
