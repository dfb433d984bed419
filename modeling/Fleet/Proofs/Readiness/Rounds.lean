import Fleet.Proofs.Readiness.Outcomes
import Fleet.Proofs.Vigil

/-!
# Rounds of probes, against a forecast

If the ports of a pass are pairwise distinct, no probe of one port bears on another. So each port is
settled by its own probes, and the rounds take as long as the port with the most probes
(`seen_rounds`).
-/

namespace Fleet.Readiness

variable {f : Forecast}

/-- How long it takes to probe a port: the delays between its probes. -/
def needed (f : Forecast) (b : Budget) (w : Watch) : Nat :=
  b.delayMillis * (tries (f.probes w.port) b.attempts - 1)

/-- What has come about when ports have been awaited against a forecast: `k` is how often each of
them had been probed before, and `v` what had happened before. -/
structure Seen (f : Forecast) (b : Budget) (k : Nat) (ws : List Watch) (v : Vigil)
    (outcomes : List (Watch × PortOutcome)) (v' : Vigil) : Prop where
  perm : (outcomes.map (·.1)).Perm ws
  outcome : ∀ e ∈ outcomes, e.2 = settle (f.probes e.1.port) b.attempts
  probed : ∀ w ∈ ws, v'.probed.count w.port = tries (f.probes w.port) b.attempts
  others : ∀ port, port ∉ ws.map (·.port) → v'.probed.count port = v.probed.count port
  /-- Every port has had the time that it needs. -/
  late : ∀ w ∈ ws, v.clock + needed f b w ≤ v'.clock + b.delayMillis * k
  /-- No more time has passed than one of the ports needs. -/
  early : v'.clock = v.clock ∨
    ∃ w ∈ ws, v'.clock + b.delayMillis * k ≤ v.clock + needed f b w

/-- Whether a port answers its next probe. -/
def answersNext (f : Forecast) (k : Nat) (w : Watch) : Bool := (f.probes w.port k).toBool

theorem answersNext_eq_true {k : Nat} {w : Watch} :
    answersNext f k w = true ↔ f.probes w.port k = .ok () := by
  rw [answersNext]
  cases f.probes w.port k <;> simp [Except.toBool]

theorem answersNext_eq_false {k : Nat} {w : Watch} :
    answersNext f k w = false ↔ ∃ e, f.probes w.port k = .error e := by
  rw [answersNext]
  cases f.probes w.port k <;> simp [Except.toBool]

/-- A port that answers its next probe takes no more than this one. -/
theorem tries_of_answersNext {b : Budget} {k : Nat} {w : Watch}
    (hsilent : Silent (f.probes w.port) k) (hk : k < b.attempts) (h : answersNext f k w = true) :
    tries (f.probes w.port) b.attempts = k + 1 :=
  tries_of_ok hsilent (answersNext_eq_true.1 h) hk

/-- A port that does not answer its next probe needs one delay more, if it is probed again. -/
theorem le_needed_of_not_answersNext {b : Budget} {k : Nat} {w : Watch}
    (hsilent : Silent (f.probes w.port) k) (hk : k + 1 < b.attempts)
    (h : answersNext f k w = false) : b.delayMillis * (k + 1) ≤ needed f b w := by
  obtain ⟨e, herror⟩ := answersNext_eq_false.1 h
  have hmore : k + 1 < tries (f.probes w.port) b.attempts := lt_tries (hsilent.succ herror) hk
  exact Nat.mul_le_mul_left _ (Nat.le_sub_one_of_lt hmore)

/-- The ports that are still awaited when they have been probed once more. -/
def waiting (f : Forecast) (k : Nat) (ws : List Watch) : List Watch :=
  ws.filter fun w => !answersNext f k w

theorem mem_waiting {k : Nat} {ws : List Watch} {w : Watch} :
    w ∈ waiting f k ws ↔ w ∈ ws ∧ answersNext f k w = false := by
  rw [waiting, List.mem_filter, Bool.not_eq_true']

/-- A round probes every port once more. -/
theorem run_probeRound {k : Nat} {ws : List Watch} (hdistinct : (ws.map (·.port)).Nodup) {v : Vigil}
    (hcount : ∀ w ∈ ws, v.probed.count w.port = k) :
    (probeRound ws).run f.handler v =
      (ws.map fun w => (w, f.probes w.port k),
        { v with probed := (ws.map (·.port)).reverse ++ v.probed }) := by
  induction ws generalizing v with
  | nil => rfl
  | cons w rest ih =>
    obtain ⟨hnew, hrest⟩ := List.nodup_cons.1 hdistinct
    obtain ⟨hw, hothers⟩ := List.forall_mem_cons.1 hcount
    have hlater := ih hrest (v := { v with probed := w.port :: v.probed }) fun w' hw' => by
      have hne : w.port ≠ w'.port := fun heq =>
        hnew (List.mem_map.2 ⟨w', hw', heq.symm⟩)
      show List.count w'.port (w.port :: v.probed) = k
      rw [List.count_cons_of_ne hne, hothers w' hw']
    rw [probeRound, Program.run_bind_of (a := f.probes w.port (v.probed.count w.port))
      (t := { v with probed := w.port :: v.probed }) rfl, Program.run_bind_of hlater, hw]
    simp

/-- The ports that are settled by a round: those that answer, and all of them in the last one. -/
theorem settled_eq {b : Budget} {k : Nat} {last : Bool} (hk : k < b.attempts)
    (hlast : last = true → b.attempts = k + 1) {ws : List Watch}
    (hsilent : ∀ w ∈ ws, Silent (f.probes w.port) k) :
    settled (k + 1) last (ws.map fun w => (w, f.probes w.port k)) =
      (ws.filter fun w => last || answersNext f k w).map fun w =>
        (w, settle (f.probes w.port) b.attempts) := by
  induction ws with
  | nil => rfl
  | cons w rest ih =>
    obtain ⟨hw, hrest⟩ := List.forall_mem_cons.1 hsilent
    cases hanswer : f.probes w.port k with
    | ok _ =>
      have hnext : answersNext f k w = true := answersNext_eq_true.2 hanswer
      simp only [List.map_cons, hanswer, settled, ih hrest, List.filter_cons, hnext, Bool.or_true,
        if_true, settle_of_ok hw hanswer hk]
    | error e =>
      have hnext : answersNext f k w = false := answersNext_eq_false.2 ⟨e, hanswer⟩
      cases last with
      | true =>
        simp only [List.map_cons, hanswer, settled, ih hrest, List.filter_cons, Bool.true_or,
          if_true, hlast rfl, settle_of_error hw hanswer]
      | false =>
        simp only [List.map_cons, hanswer, settled, ih hrest, List.filter_cons, hnext,
          Bool.false_or, Bool.false_eq_true, if_false]

theorem silent_eq (k : Nat) (ws : List Watch) :
    silent (ws.map fun w => (w, f.probes w.port k)) = waiting f k ws := by
  induction ws with
  | nil => rfl
  | cons w rest ih =>
    rw [waiting] at ih ⊢
    rw [List.map_cons, List.filter_cons]
    cases hanswer : f.probes w.port k with
    | ok _ => simp [silent, ih, answersNext_eq_true.2 hanswer]
    | error e => simp [silent, ih, answersNext_eq_false.2 ⟨e, hanswer⟩]

/-- How often ports have been probed when a round has probed each of some ports. -/
theorem count_probed (ws : List Watch) (probed : List Port) (port : Port) :
    ((ws.map (·.port)).reverse ++ probed).count port =
      (ws.map (·.port)).count port + probed.count port := by
  rw [List.count_append, List.count_reverse]

theorem count_probed_of_mem {ws : List Watch} (hdistinct : (ws.map (·.port)).Nodup) {w : Watch}
    (hw : w ∈ ws) (probed : List Port) :
    ((ws.map (·.port)).reverse ++ probed).count w.port = probed.count w.port + 1 := by
  have hone : (ws.map (·.port)).count w.port = 1 :=
    List.count_eq_one_of_mem hdistinct (List.mem_map.2 ⟨w, hw, rfl⟩)
  rw [count_probed, hone, Nat.add_comm]

theorem count_probed_of_not_mem {ws : List Watch} {port : Port} (hport : port ∉ ws.map (·.port))
    (probed : List Port) :
    ((ws.map (·.port)).reverse ++ probed).count port = probed.count port := by
  rw [count_probed, List.count_eq_zero.2 hport, Nat.zero_add]

/-- A port that answers the next round is not probed again. -/
theorem count_of_answered {b : Budget} {k : Nat} {ws : List Watch}
    (hdistinct : (ws.map (·.port)).Nodup) {v v₁ v' : Vigil}
    (hcount : ∀ w ∈ ws, v.probed.count w.port = k)
    (hprobed : v₁.probed = (ws.map (·.port)).reverse ++ v.probed)
    {later : List (Watch × PortOutcome)} (h : Seen f b (k + 1) (waiting f k ws) v₁ later v')
    {w : Watch} (hw : w ∈ ws) (hanswer : answersNext f k w = true) :
    v'.probed.count w.port = k + 1 := by
  rw [h.others w.port, hprobed, count_probed_of_mem hdistinct hw, hcount w hw]
  intro hmem
  obtain ⟨w', hw', hport⟩ := List.mem_map.1 hmem
  obtain ⟨hin, hwaits⟩ := mem_waiting.1 hw'
  rw [List.inj_on_of_nodup_map hdistinct hin hw hport, hanswer] at hwaits
  cases hwaits

section Round

variable {b : Budget} {k : Nat} {ws : List Watch} (hdistinct : (ws.map (·.port)).Nodup) {v : Vigil}
  (hcount : ∀ w ∈ ws, v.probed.count w.port = k) (hsilent : ∀ w ∈ ws, Silent (f.probes w.port) k)

include hdistinct hcount hsilent

/-- Ports that are all settled by the next round. -/
theorem seen_of_settled (hk : k < b.attempts) {last : Bool}
    (hlast : last = true → b.attempts = k + 1)
    (hsettled : ∀ w ∈ ws, (last || answersNext f k w) = true) :
    Seen f b k ws v (settled (k + 1) last (ws.map fun w => (w, f.probes w.port k)))
      { v with probed := (ws.map (·.port)).reverse ++ v.probed } := by
  have htries : ∀ w ∈ ws, tries (f.probes w.port) b.attempts = k + 1 := by
    intro w hw
    cases hnext : answersNext f k w with
    | true => exact tries_of_answersNext (hsilent w hw) hk hnext
    | false =>
      obtain ⟨e, herror⟩ := answersNext_eq_false.1 hnext
      have hend : b.attempts = k + 1 := by
        have hall := hsettled w hw
        rw [hnext, Bool.or_false] at hall
        exact hlast hall
      rw [hend]
      exact tries_of_silent ((hsilent w hw).succ herror)
  rw [settled_eq hk hlast hsilent, List.filter_eq_self.2 hsettled]
  refine ⟨?_, ?_, fun w hw => ?_, fun port hport => ?_, fun w hw => ?_, .inl rfl⟩
  · rw [List.map_map]
    exact .of_eq (List.map_id ws)
  · intro e he
    obtain ⟨w, _, rfl⟩ := List.mem_map.1 he
    rfl
  · rw [htries w hw, count_probed_of_mem hdistinct hw, hcount w hw]
  · exact count_probed_of_not_mem hport v.probed
  · have hneeded : needed f b w = b.delayMillis * k := by
      rw [needed, htries w hw, Nat.add_sub_cancel]
    exact Nat.le_of_eq (congrArg (v.clock + ·) hneeded)

/-- The next round settles the ports that answer it, and the others are awaited after a delay. -/
theorem seen_of_waiting (hk : k + 1 < b.attempts) {later : List (Watch × PortOutcome)} {v' : Vigil}
    (hsome : waiting f k ws ≠ [])
    (h : Seen f b (k + 1) (waiting f k ws)
      { v with
        clock := v.clock + b.delayMillis
        probed := (ws.map (·.port)).reverse ++ v.probed } later v') :
    Seen f b k ws v (settled (k + 1) false (ws.map fun w => (w, f.probes w.port k)) ++ later)
      v' := by
  have htries : ∀ w ∈ ws, answersNext f k w = true →
      tries (f.probes w.port) b.attempts = k + 1 := fun w hw hanswer =>
    tries_of_answersNext (hsilent w hw) (Nat.lt_of_succ_lt hk) hanswer
  have hlate : ∀ w ∈ waiting f k ws, v.clock + needed f b w ≤ v'.clock + b.delayMillis * k := by
    intro w hw
    have hafter := h.late w hw
    dsimp only at hafter
    rw [Nat.mul_succ] at hafter
    omega
  -- somebody waits, so a delay has passed at least
  obtain ⟨w₀, hw₀⟩ := List.exists_mem_of_ne_nil _ hsome
  obtain ⟨hin₀, hnext₀⟩ := mem_waiting.1 hw₀
  have hlonger₀ := le_needed_of_not_answersNext (hsilent w₀ hin₀) hk hnext₀
  have hlate₀ := hlate w₀ hw₀
  rw [Nat.mul_succ] at hlonger₀
  rw [settled_eq (Nat.lt_of_succ_lt hk) (fun h => absurd h Bool.false_ne_true) hsilent]
  simp only [Bool.false_or]
  refine ⟨?_, ?_, fun w hw => ?_, fun port hport => ?_, fun w hw => ?_, ?_⟩
  · rw [List.map_append, List.map_map]
    exact ((List.Perm.of_eq (List.map_id _)).append h.perm).trans
      (List.filter_append_perm (answersNext f k) ws)
  · intro e he
    rcases List.mem_append.1 he with he | he
    · obtain ⟨w, _, rfl⟩ := List.mem_map.1 he
      rfl
    · exact h.outcome e he
  · cases hnext : answersNext f k w with
    | true => rw [htries w hw hnext, count_of_answered hdistinct hcount rfl h hw hnext]
    | false => exact h.probed w (mem_waiting.2 ⟨hw, hnext⟩)
  · have hout : port ∉ (waiting f k ws).map (·.port) := fun hmem =>
      hport (List.map_subset _ (List.filter_subset_self ws) hmem)
    rw [h.others port hout]
    exact count_probed_of_not_mem hport v.probed
  · cases hnext : answersNext f k w with
    | true =>
      rw [needed, htries w hw hnext, Nat.add_sub_cancel]
      omega
    | false => exact hlate w (mem_waiting.2 ⟨hw, hnext⟩)
  · rcases h.early with hsame | ⟨w, hw, hearly⟩
    · refine .inr ⟨w₀, hin₀, ?_⟩
      dsimp only at hsame
      omega
    · refine .inr ⟨w, (mem_waiting.1 hw).1, ?_⟩
      dsimp only at hearly
      rw [Nat.mul_succ] at hearly
      omega

end Round

/-- Rounds settle every port by its own probes. -/
theorem seen_rounds {b : Budget} {left k : Nat} (hleft : k + (left + 1) = b.attempts)
    {ws : List Watch} (hdistinct : (ws.map (·.port)).Nodup) {v : Vigil}
    (hcount : ∀ w ∈ ws, v.probed.count w.port = k)
    (hsilent : ∀ w ∈ ws, Silent (f.probes w.port) k) :
    Seen f b k ws v ((rounds b.delayMillis (left + 1) (k + 1) ws).run f.handler v).1
      ((rounds b.delayMillis (left + 1) (k + 1) ws).run f.handler v).2 := by
  induction left generalizing k ws v with
  | zero =>
    rw [rounds, Program.run_bind_of (run_probeRound hdistinct hcount)]
    dsimp only
    rw [beq_self_eq_true, Bool.or_true, if_pos rfl]
    exact seen_of_settled hdistinct hcount hsilent (by omega) (fun _ => hleft.symm) fun _ _ => rfl
  | succ left ih =>
    have hk : k < b.attempts := by omega
    rw [rounds, Program.run_bind_of (run_probeRound hdistinct hcount), silent_eq]
    have hlast : (left + 1 == 0) = false := rfl
    dsimp only
    rw [hlast, Bool.or_false]
    split
    · next hnone =>
      refine seen_of_settled hdistinct hcount hsilent hk (fun h => absurd h Bool.false_ne_true)
        fun w hw => ?_
      have hanswers := List.filter_eq_nil_iff.1 (List.isEmpty_iff.1 hnone) w hw
      simpa using hanswers
    · next hsome =>
      rw [Program.run_bind_of (a := ())
        (t := { v with
          clock := v.clock + b.delayMillis
          probed := (ws.map (·.port)).reverse ++ v.probed }) rfl, Program.run_bind_of rfl]
      refine seen_of_waiting hdistinct hcount hsilent (by omega)
        (fun hnone => hsome (by rw [hnone]; rfl)) (ih (by omega) ?_ ?_ ?_)
      · exact hdistinct.sublist (List.filter_sublist.map _)
      · intro w hw
        obtain ⟨hin, _⟩ := mem_waiting.1 hw
        rw [count_probed_of_mem hdistinct hin, hcount w hin]
      · intro w hw
        obtain ⟨hin, hnext⟩ := mem_waiting.1 hw
        obtain ⟨e, herror⟩ := answersNext_eq_false.1 hnext
        exact (hsilent w hin).succ herror

end Fleet.Readiness
