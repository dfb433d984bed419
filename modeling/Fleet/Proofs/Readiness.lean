import Fleet.Proofs.Course
import Fleet.Proofs.Table
import Fleet.Readiness

/-!
# What waiting has shown

Rounds of probes settle every port that is awaited, and settle a port as ready only by a probe that
it has answered (`course_rounds`). So when a pass has been found ready, every port of it has
answered a probe (`answered_checkAll`), also where two modules await the same port. A gateway that
has been found ready has said so.
-/

namespace Fleet.Readiness

open Program

variable {σ : Type} {handler : Handler Call.Answer σ} {s s' : σ} {events : List Event}

/-! ## Rounds -/

/-- A round probes every port once. -/
theorem course_probeRound {ws : List Watch} {answers : List (Watch × Outcome Unit)}
    (h : Course handler (probeRound ws) s events answers s') :
    answers.map (·.1) = ws ∧ events = answers.map fun e => ⟨.probe e.1.port, e.2⟩ := by
  induction ws generalizing s events answers with
  | nil =>
    obtain ⟨rfl, rfl, rfl⟩ := course_pure.1 h
    exact ⟨rfl, rfl⟩
  | cons w rest ih =>
    obtain ⟨answer, t, first, later, rfl, hprobe, hlater⟩ := course_bind.1 h
    obtain ⟨_, rfl⟩ := course_perform.1 hprobe
    obtain ⟨answers', u, middle, last, rfl, hrest, hdone⟩ := course_bind.1 hlater
    obtain ⟨rfl, rfl, rfl⟩ := course_pure.1 hdone
    obtain ⟨rfl, rfl⟩ := ih hrest
    rw [List.append_nil]
    exact ⟨rfl, rfl⟩

theorem mem_settled {attempt : Nat} {last : Bool} {answers : List (Watch × Outcome Unit)}
    {w : Watch} {o : PortOutcome} (h : (w, o) ∈ settled attempt last answers)
    (hready : o.isReady = true) : (w, .ok ()) ∈ answers := by
  induction answers with
  | nil => exact absurd h List.not_mem_nil
  | cons e rest ih =>
    obtain ⟨w', answer⟩ := e
    cases answer with
    | ok _ =>
      rcases List.mem_cons.1 h with heq | h
      · cases heq
        exact List.mem_cons_self
      · exact List.mem_cons_of_mem _ (ih h)
    | error e =>
      simp only [settled] at h
      split at h
      · rcases List.mem_cons.1 h with heq | h
        · cases heq
          cases hready
        · exact List.mem_cons_of_mem _ (ih h)
      · exact List.mem_cons_of_mem _ (ih h)

/-- After a round, a port is settled or still awaited; after the last round it is settled. -/
theorem settled_or_silent (attempt : Nat) (last : Bool) {answers : List (Watch × Outcome Unit)}
    {w : Watch} (h : w ∈ answers.map (·.1)) :
    (∃ o, (w, o) ∈ settled attempt last answers) ∨ (w ∈ silent answers ∧ last = false) := by
  induction answers with
  | nil => exact absurd h List.not_mem_nil
  | cons e rest ih =>
    obtain ⟨w', answer⟩ := e
    rw [List.map_cons] at h
    have hrest : w ∈ rest.map (·.1) →
        (∃ o, (w, o) ∈ settled attempt last ((w', answer) :: rest)) ∨
          (w ∈ silent ((w', answer) :: rest) ∧ last = false) := by
      intro hmem
      rcases ih hmem with ⟨o, ho⟩ | ⟨hsilent, hlast⟩
      · refine .inl ⟨o, ?_⟩
        cases answer with
        | ok _ => exact List.mem_cons_of_mem _ ho
        | error e =>
          rw [settled]
          split
          · exact List.mem_cons_of_mem _ ho
          · exact ho
      · refine .inr ⟨?_, hlast⟩
        cases answer with
        | ok _ => exact hsilent
        | error e => exact List.mem_cons_of_mem _ hsilent
    rcases List.mem_cons.1 h with rfl | h
    · cases answer with
      | ok _ => exact .inl ⟨_, List.mem_cons_self⟩
      | error e =>
        cases last with
        | true => exact .inl ⟨_, List.mem_cons_self⟩
        | false => exact .inr ⟨List.mem_cons_self, rfl⟩
    · exact hrest h

/-- Every port that is awaited is settled, and those that are ready have answered a probe. -/
structure Awaited (ws : List Watch) (events : List Event) (outcomes : List (Watch × PortOutcome)) :
    Prop where
  settled : ∀ w ∈ ws, ∃ o, (w, o) ∈ outcomes
  answered : ∀ w o, (w, o) ∈ outcomes → o.isReady = true → ⟨.probe w.port, .ok ()⟩ ∈ events

theorem course_rounds {delayMillis : Nat} :
    ∀ {left attempt : Nat} {ws : List Watch} {s : σ} {events : List Event}
      {outcomes : List (Watch × PortOutcome)},
      Course handler (rounds delayMillis (left + 1) attempt ws) s events outcomes s' →
      Awaited ws events outcomes
  | left, attempt, ws, s, events, outcomes, h => by
    unfold rounds at h
    obtain ⟨answers, t, first, later, rfl, hround, hlater⟩ := course_bind.1 h
    obtain ⟨rfl, rfl⟩ := course_probeRound hround
    have hready : ∀ w o, (w, o) ∈ Readiness.settled attempt (left == 0) answers →
        o.isReady = true →
        (⟨.probe w.port, .ok ()⟩ : Event) ∈ answers.map fun e => ⟨.probe e.1.port, e.2⟩ := by
      intro w o hmem hready
      exact List.mem_map.2 ⟨(w, .ok ()), mem_settled hmem hready, rfl⟩
    dsimp only at hlater
    split at hlater
    · next hdone =>
      obtain ⟨rfl, rfl, rfl⟩ := course_pure.1 hlater
      rw [List.append_nil]
      refine ⟨?_, hready⟩
      intro w hw
      -- the rounds have ended: it was the last one, or no port is silent
      rcases settled_or_silent attempt (left == 0) hw with hsettled | ⟨hsilent, hlast⟩
      · exact hsettled
      · rw [hlast, Bool.or_false, List.isEmpty_iff] at hdone
        rw [hdone] at hsilent
        exact absurd hsilent List.not_mem_nil
    · next hgoes =>
      obtain ⟨_, u, pause, more, rfl, hpause, hmore⟩ := course_bind.1 hlater
      obtain ⟨_, rfl⟩ := course_perform.1 hpause
      obtain ⟨outcomes', v, middle, last, rfl, hrounds, hdone⟩ := course_bind.1 hmore
      obtain ⟨rfl, rfl, rfl⟩ := course_pure.1 hdone
      rw [List.append_nil]
      cases left with
      | zero =>
        rw [beq_self_eq_true, Bool.or_true] at hgoes
        exact absurd rfl hgoes
      | succ left =>
        -- the ports that were silent are those that the next rounds await
        have hawaited := course_rounds hrounds
        refine ⟨?_, ?_⟩
        · intro w hw
          rcases settled_or_silent attempt (left + 1 == 0) hw with ⟨o, ho⟩ | ⟨hsilent, _⟩
          · exact ⟨o, List.mem_append_left _ ho⟩
          · obtain ⟨o, ho⟩ := hawaited.settled w hsilent
            exact ⟨o, List.mem_append_right _ ho⟩
        · intro w o hmem hok
          rcases List.mem_append.1 hmem with hmem | hmem
          · exact List.mem_append_left _ (hready w o hmem hok)
          · have hlater := hawaited.answered w o hmem hok
            exact List.mem_append_right _ (List.mem_cons_of_mem _ hlater)

/-! ## The calls of rounds -/

section Calls

variable {c : Contract Call.Answer}

theorem keeps_probeRound {ws : List Watch} (hprobe : ∀ w ∈ ws, c.allows (.probe w.port)) :
    (probeRound ws).Keeps c fun answers => answers.map (·.1) = ws := by
  induction ws with
  | nil => rfl
  | cons w rest ih =>
    obtain ⟨hw, hrest⟩ := List.forall_mem_cons.1 hprobe
    refine Program.keeps_bind.2 ⟨hw, fun _ _ => ?_⟩
    refine Program.keeps_bind.2 ((ih hrest).mono fun answers hanswers => ?_)
    exact congrArg (w :: ·) hanswers

theorem silent_subset (answers : List (Watch × Outcome Unit)) :
    ∀ w ∈ silent answers, w ∈ answers.map (·.1) := by
  induction answers with
  | nil => exact fun w hw => hw
  | cons e rest ih =>
    obtain ⟨w', answer⟩ := e
    intro w hw
    rw [List.map_cons]
    cases answer with
    | ok _ => exact List.mem_cons_of_mem _ (ih w hw)
    | error e =>
      rcases List.mem_cons.1 hw with rfl | hw
      · exact List.mem_cons_self
      · exact List.mem_cons_of_mem _ (ih w hw)

theorem keeps_rounds (hsleep : ∀ millis, c.allows (.sleep millis)) (delayMillis : Nat) :
    ∀ left attempt ws, (∀ w ∈ ws, c.allows (.probe w.port)) →
      (rounds delayMillis left attempt ws).Keeps c fun _ => True
  | 0, _, _, _ => trivial
  | left + 1, attempt, ws, hprobe => by
    refine Program.keeps_bind.2 ((keeps_probeRound hprobe).mono fun answers hanswers => ?_)
    dsimp only
    split
    · trivial
    · refine Program.keeps_bind.2 ⟨hsleep delayMillis, fun _ _ => ?_⟩
      have hsilent : ∀ w ∈ silent answers, c.allows (.probe w.port) := fun w hw =>
        hprobe w (hanswers ▸ silent_subset answers w hw)
      exact Program.keeps_bind.2
        ((keeps_rounds hsleep delayMillis left _ _ hsilent).mono fun _ _ => trivial)

end Calls

/-! ## Reports -/

/-- The outcome that is filed for a port. -/
def filed? (records : Table String (Table Port PortOutcome)) (w : Watch) : Option PortOutcome :=
  (records.find? w.module).bind (·.find? w.port)

theorem filed?_record (records : Table String (Table Port PortOutcome)) (w w' : Watch)
    (o : PortOutcome) :
    filed? (record records (w, o)) w' = if w' = w then some o else filed? records w' := by
  obtain ⟨module, port⟩ := w
  obtain ⟨module', port'⟩ := w'
  have hports : ((records.find? module).getD .empty).find? port' =
      (records.find? module).bind (·.find? port') := by
    cases records.find? module <;> rfl
  simp only [filed?, record, Table.find?_insert, Watch.mk.injEq]
  by_cases hmodule : module' = module
  · subst hmodule
    rw [if_pos rfl, Option.bind_some, Table.find?_insert, hports]
    by_cases hport : port' = port
    · rw [if_pos hport, if_pos ⟨rfl, hport⟩]
    · rw [if_neg hport, if_neg fun h => hport h.2]
  · rw [if_neg hmodule, if_neg fun h => hmodule h.1]

/-- What is filed for a port last is one of its outcomes, if it has one. -/
theorem exists_filed {outcomes : List (Watch × PortOutcome)} {w : Watch} :
    ∀ {records : Table String (Table Port PortOutcome)},
      (filed? (outcomes.foldl record records) w = filed? records w ∧ w ∉ outcomes.map (·.1)) ∨
      ∃ o, filed? (outcomes.foldl record records) w = some o ∧ (w, o) ∈ outcomes := by
  induction outcomes with
  | nil => exact .inl ⟨rfl, List.not_mem_nil⟩
  | cons e rest ih =>
    intro records
    obtain ⟨w', o⟩ := e
    rcases @ih (record records (w', o)) with ⟨hsame, hnone⟩ | ⟨o', ho', hmem⟩
    · rw [filed?_record] at hsame
      by_cases hw : w = w'
      · rw [if_pos hw] at hsame
        exact .inr ⟨o, hsame, hw ▸ List.mem_cons_self⟩
      · rw [if_neg hw] at hsame
        exact .inl ⟨hsame, List.not_mem_cons_of_ne_of_not_mem hw hnone⟩
    · exact .inr ⟨o', ho', List.mem_cons_of_mem _ hmem⟩

/-- If no module is reported as not ready, then every port that is filed is ready. -/
theorem isReady_of_filed {r : ReadinessReport} (h : r.unready = []) {w : Watch} {o : PortOutcome}
    (hfiled : filed? r.records w = some o) : o.isReady = true := by
  obtain ⟨ports, hports, ho⟩ := Option.bind_eq_some_iff.1 hfiled
  have hentry : (w.module, ports) ∈ r.records.entries := Table.mem_entries_iff.2 hports
  have hvalue : o ∈ ports.values := List.mem_map.2 ⟨(w.port, o), Table.mem_entries_iff.2 ho, rfl⟩
  have hall := List.filter_eq_nil_iff.1 (List.map_eq_nil_iff.1 h) _ hentry
  by_contra hunready
  refine hall (List.any_eq_true.2 ⟨o, hvalue, ?_⟩)
  rw [Bool.not_eq_true] at hunready
  rw [hunready]
  rfl

/-- If no module is reported as not ready, then every port has answered a probe. -/
theorem Awaited.answered_of_unready {ws : List Watch} {outcomes : List (Watch × PortOutcome)}
    (h : Awaited ws events outcomes) {kind : ModuleKind}
    (hunready : (report kind outcomes).unready = []) :
    ∀ w ∈ ws, ⟨.probe w.port, .ok ()⟩ ∈ events := by
  intro w hw
  obtain ⟨o, ho⟩ := h.settled w hw
  rcases @exists_filed outcomes w .empty with ⟨_, hnone⟩ | ⟨o', hfiled, hmem⟩
  · exact absurd (List.mem_map.2 ⟨_, ho, rfl⟩) hnone
  · exact h.answered w o' hmem (isReady_of_filed (r := report kind outcomes) hunready hfiled)

/-- When a pass has been found ready, every port of it has answered a probe. -/
theorem answered_checkAll {b : Budget} (hattempts : 0 < b.attempts) {kind : ModuleKind}
    {ports : Table String ModulePorts} {r : ReadinessReport}
    (h : Course handler (checkAll b kind ports).run s events (.ok r) s') :
    ∀ w ∈ watches ports, ⟨.probe w.port, .ok ()⟩ ∈ events := by
  unfold checkAll at h
  obtain ⟨outcomes, t, first, later, rfl, hrounds, hreport⟩ := Action.course_lift_bind.1 h
  obtain ⟨left, hleft⟩ := Nat.exists_eq_succ_of_ne_zero (Nat.pos_iff_ne_zero.1 hattempts)
  rw [hleft] at hrounds
  dsimp only at hreport
  split at hreport
  · next hunready =>
    obtain ⟨_, _, rfl⟩ := Action.course_pure.1 hreport
    rw [List.append_nil]
    exact (course_rounds hrounds).answered_of_unready (List.isEmpty_iff.1 hunready)
  · obtain ⟨hfailed, _⟩ := Action.course_throw.1 hreport
    cases hfailed

/-! ## Ports that all answer at once -/

section Answering

variable {c : Contract Call.Answer}

theorem silent_of_answered {answers : List (Watch × Outcome Unit)}
    (h : ∀ e ∈ answers, e.2 = .ok ()) : silent answers = [] := by
  induction answers with
  | nil => rfl
  | cons e rest ih =>
    obtain ⟨w, answer⟩ := e
    obtain ⟨hfirst, hrest⟩ := List.forall_mem_cons.1 h
    cases hfirst
    exact ih hrest

theorem isReady_of_answered {attempt : Nat} {last : Bool} {answers : List (Watch × Outcome Unit)}
    (h : ∀ e ∈ answers, e.2 = .ok ()) :
    ∀ e ∈ settled attempt last answers, e.2.isReady = true := by
  induction answers with
  | nil => exact fun e he => absurd he List.not_mem_nil
  | cons e rest ih =>
    obtain ⟨w, answer⟩ := e
    obtain ⟨hfirst, hrest⟩ := List.forall_mem_cons.1 h
    cases hfirst
    exact List.forall_mem_cons.2 ⟨rfl, ih hrest⟩

/-- If every port answers at once, each of them is probed once, in order. -/
theorem course_checkAll_of_answered {b : Budget} (hattempts : 0 < b.attempts) {kind : ModuleKind}
    {ports : Table String ModulePorts} {r : Outcome ReadinessReport}
    (h : Course handler (checkAll b kind ports).run s events r s')
    (hanswers : ∀ port answer, (⟨.probe port, answer⟩ : Event) ∈ events → answer = .ok ()) :
    events = (watches ports).map fun w => ⟨.probe w.port, .ok ()⟩ := by
  unfold checkAll at h
  obtain ⟨outcomes, t, first, later, rfl, hrounds, hreport⟩ := Action.course_lift_bind.1 h
  obtain ⟨left, hleft⟩ := Nat.exists_eq_succ_of_ne_zero (Nat.pos_iff_ne_zero.1 hattempts)
  rw [hleft, rounds] at hrounds
  obtain ⟨answers, u, round, more, rfl, hround, hmore⟩ := course_bind.1 hrounds
  obtain ⟨hwatched, rfl⟩ := course_probeRound hround
  have hall : ∀ e ∈ answers, e.2 = .ok () := by
    intro e he
    refine hanswers e.1.port e.2 ?_
    exact List.mem_append_left _ (List.mem_append_left _ (List.mem_map.2 ⟨e, he, rfl⟩))
  -- no port is silent, so the first round is the last
  dsimp only at hmore
  rw [silent_of_answered hall, List.isEmpty_nil, Bool.true_or, if_pos rfl] at hmore
  obtain ⟨_, _, rfl⟩ := course_pure.1 hmore
  have hlater : later = [] := by
    dsimp only at hreport
    split at hreport
    · exact (Action.course_pure.1 hreport).2.2
    · exact (Action.course_throw.1 hreport).2.2
  rw [hlater, List.append_nil, List.append_nil, ← hwatched, List.map_map]
  refine List.map_congr_left fun e he => ?_
  rw [hall e he]
  rfl

/-- Ports that are all ready make no module unready. -/
theorem unready_of_isReady {kind : ModuleKind} {outcomes : List (Watch × PortOutcome)}
    (h : ∀ e ∈ outcomes, e.2.isReady = true) : (report kind outcomes).unready = [] := by
  refine List.map_eq_nil_iff.2 (List.filter_eq_nil_iff.2 fun e he hany => ?_)
  obtain ⟨o, ho, hunready⟩ := List.any_eq_true.1 hany
  obtain ⟨⟨port, _⟩, hport, rfl⟩ := List.mem_map.1 ho
  have hfiled : filed? (report kind outcomes).records ⟨e.1, port⟩ = some _ :=
    Option.bind_eq_some_iff.2 ⟨e.2, Table.mem_entries_iff.1 he, Table.mem_entries_iff.1 hport⟩
  rcases @exists_filed outcomes ⟨e.1, port⟩ .empty with ⟨hnone, _⟩ | ⟨o', ho', hmem⟩
  · have hcontra := hnone.symm.trans hfiled
    cases hcontra
  · cases ho'.symm.trans hfiled
    rw [h _ hmem] at hunready
    cases hunready

theorem answered_probeRound (hprobe : ∀ port, c.allows (.probe port))
    (hanswer : ∀ port answer, c.expects (.probe port) answer → answer = .ok ()) (ws : List Watch) :
    (probeRound ws).Keeps c fun answers => ∀ e ∈ answers, e.2 = .ok () := by
  induction ws with
  | nil => exact keeps_pure.2 fun e he => absurd he List.not_mem_nil
  | cons w rest ih =>
    refine ⟨hprobe w.port, fun answer hok => ?_⟩
    show Keeps c (probeRound rest >>= fun answers => pure ((w, answer) :: answers)) _
    refine keeps_bind.2 (ih.mono fun answers hall => ?_)
    exact keeps_pure.2 (List.forall_mem_cons.2 ⟨hanswer w.port answer hok, hall⟩)

/-- If every port answers, the pass is ready. -/
theorem succeeds_checkAll (hprobe : ∀ port, c.allows (.probe port))
    (hanswer : ∀ port answer, c.expects (.probe port) answer → answer = .ok ()) {b : Budget}
    (hattempts : 0 < b.attempts) (kind : ModuleKind) (ports : Table String ModulePorts) :
    (checkAll b kind ports).Succeeds c fun _ => True := by
  obtain ⟨left, hleft⟩ := Nat.exists_eq_succ_of_ne_zero (Nat.pos_iff_ne_zero.1 hattempts)
  have hrounds : (rounds b.delayMillis b.attempts 1 (watches ports)).Keeps c
      fun outcomes => ∀ e ∈ outcomes, e.2.isReady = true := by
    rw [hleft, rounds]
    refine keeps_bind.2 ((answered_probeRound hprobe hanswer _).mono fun answers hall => ?_)
    dsimp only
    rw [silent_of_answered hall, List.isEmpty_nil, Bool.true_or, if_pos rfl]
    exact keeps_pure.2 (isReady_of_answered hall)
  refine Action.succeeds_bind (Action.succeeds_lift hrounds) fun outcomes hready => ?_
  dsimp only
  rw [unready_of_isReady hready, List.isEmpty_nil, if_pos rfl]
  exact Action.succeeds_pure trivial

end Answering

/-! ## The gateway -/

/-- When the gateway has been found ready, it has said so. -/
theorem ready_gatewayRounds {delayMillis : Nat} :
    ∀ {left : Nat} {s : σ} {events : List Event},
      Course handler (gatewayRounds delayMillis left).run s events (.ok ()) s' →
      ⟨.gatewayStatus, .ok true⟩ ∈ events
  | 0, s, events, h => by
    obtain ⟨hfailed, _⟩ := Action.course_throw.1 h
    cases hfailed
  | left + 1, s, events, h => by
    unfold gatewayRounds at h
    obtain ⟨status, t, first, later, rfl, hstatus, hlater⟩ := Action.course_lift_bind.1 h
    obtain ⟨_, rfl⟩ := course_perform.1 hstatus
    split at hlater
    · exact List.mem_append_left _ (List.mem_singleton_self _)
    · split at hlater
      · obtain ⟨hfailed, _⟩ := Action.course_throw.1 hlater
        cases hfailed
      · obtain ⟨_, u, pause, more, rfl, _, hmore⟩ := Action.course_lift_bind.1 hlater
        exact List.mem_append_right _ (List.mem_append_right _ (ready_gatewayRounds hmore))

end Fleet.Readiness
