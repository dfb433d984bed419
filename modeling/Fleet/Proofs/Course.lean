import Fleet.Proofs.Contract

/-!
# Courses

The course of a program under a handler is what its run shows: the calls with their answers, in
order, then the value, and the state that is left. Every program has exactly one course from a state
(`course_self`), and the course of one program behind another is the course of the first followed by
that of the second (`course_bind`); an action goes on only behind a success (`Action.course_bind`).

So a law of courses is a law about the order of calls, for every run. Contracts give the other half:
which calls there may be at all (`Keeps.course`).
-/

namespace Fleet

/-- A call of a platform with its answer. -/
abbrev Event := (call : Call) × Call.Answer call

/-- The contract that allows some calls and counts on no answers. -/
def Contract.ofCalls {Call : Type} {Answer : Call → Type} (allows : Call → Prop) :
    Contract Answer :=
  ⟨allows, fun _ _ => True⟩

namespace Program

variable {Call σ α β : Type} {Answer : Call → Type} {handler : Handler Answer σ} {s s' : σ}
  {events : List ((call : Call) × Answer call)}

/-- From a state, a program has these events, ends with this value and leaves this state. -/
structure Course (handler : Handler Answer σ) (p : Program Answer α) (s : σ)
    (events : List ((call : Call) × Answer call)) (value : α) (s' : σ) : Prop where
  run : p.run handler s = (value, s')
  trace : p.trace handler s = events

theorem course_self (handler : Handler Answer σ) (p : Program Answer α) (s : σ) :
    p.Course handler s (p.trace handler s) (p.run handler s).1 (p.run handler s).2 := ⟨rfl, rfl⟩

theorem course_pure {v value : α} :
    Course handler (pure v : Program Answer α) s events value s' ↔
      value = v ∧ s' = s ∧ events = [] := by
  constructor
  · rintro ⟨hrun, rfl⟩
    cases hrun
    exact ⟨rfl, rfl, rfl⟩
  · rintro ⟨rfl, rfl, rfl⟩
    exact ⟨rfl, rfl⟩

theorem course_perform {call : Call} {answer : Answer call} :
    (perform call : Program Answer _).Course handler s events answer s' ↔
      handler call s = (answer, s') ∧ events = [⟨call, answer⟩] := by
  constructor
  · rintro ⟨hrun, rfl⟩
    have hcall : handler call s = (answer, s') := hrun
    refine ⟨hcall, ?_⟩
    show [(⟨call, (handler call s).1⟩ : (call : Call) × Answer call)] = _
    rw [hcall]
  · rintro ⟨hcall, rfl⟩
    refine ⟨hcall, ?_⟩
    show [(⟨call, (handler call s).1⟩ : (call : Call) × Answer call)] = _
    rw [hcall]

theorem course_bind {p : Program Answer α} {f : α → Program Answer β} {value : β} :
    (p >>= f).Course handler s events value s' ↔
      ∃ a t first second, events = first ++ second ∧ p.Course handler s first a t ∧
        (f a).Course handler t second value s' := by
  constructor
  · rintro ⟨hrun, rfl⟩
    refine ⟨_, _, _, _, trace_bind handler p f s, course_self handler p s, ?_, rfl⟩
    rw [← run_bind]
    exact hrun
  · rintro ⟨a, t, first, second, rfl, ⟨hrun, rfl⟩, ⟨hrun', rfl⟩⟩
    refine ⟨(run_bind_of hrun).trans hrun', (trace_bind handler p f s).trans ?_⟩
    rw [hrun]

/-- A handler that keeps a record of the calls and their answers. -/
def recording (handler : Handler Answer σ) :
    Handler Answer (σ × List ((call : Call) × Answer call)) := fun call s =>
  let (answer, t) := handler call s.1
  (answer, (t, s.2 ++ [⟨call, answer⟩]))

theorem recording_eq {t t' : σ × List ((call : Call) × Answer call)} {call : Call}
    {answer : Answer call} (h : recording handler call t = (answer, t')) :
    t'.2 = t.2 ++ [⟨call, answer⟩] := by
  cases h
  rfl

/-- What is recorded in a run is its trace. -/
theorem run_recording (handler : Handler Answer σ) (p : Program Answer α)
    (s : σ × List ((call : Call) × Answer call)) :
    p.run (recording handler) s =
      ((p.run handler s.1).1, ((p.run handler s.1).2, s.2 ++ p.trace handler s.1)) := by
  induction p generalizing s with
  | done v => rw [run, trace, List.append_nil]; rfl
  | ask call next ih =>
    rw [run, trace]
    show (next (handler call s.1).1).run (recording handler) _ = _
    rw [ih, List.append_assoc]
    rfl

/-- The state that calls leave that are made one after another. -/
def stateAfter (handler : Handler Answer σ) (s : σ)
    (events : List ((call : Call) × Answer call)) : σ :=
  events.foldl (fun s e => (handler e.1 s).2) s

theorem stateAfter_append (s : σ) (first second : List ((call : Call) × Answer call)) :
    stateAfter handler s (first ++ second) =
      stateAfter handler (stateAfter handler s first) second :=
  List.foldl_append

/-- What a course leaves is what its calls leave. -/
theorem Course.state_eq {p : Program Answer α} {value : α}
    (h : p.Course handler s events value s') : s' = stateAfter handler s events := by
  obtain ⟨hrun, rfl⟩ := h
  induction p generalizing s with
  | done v =>
    cases hrun
    rfl
  | ask call next ih => exact ih _ hrun

/-- What every single call keeps is kept by all of them. -/
theorem stateAfter_keeps {Inv : σ → Prop}
    (hkeeps : ∀ e ∈ events, ∀ t, Inv t → Inv (handler e.1 t).2) (hs : Inv s) :
    Inv (stateAfter handler s events) := by
  induction events generalizing s with
  | nil => exact hs
  | cons e rest ih =>
    obtain ⟨hfirst, hrest⟩ := List.forall_mem_cons.1 hkeeps
    exact ih hrest (hfirst s hs)

/-- The answers of a course are ones that the handler gives. -/
theorem Course.answered {p : Program Answer α} {value : α}
    (h : p.Course handler s events value s') : ∀ e ∈ events, ∃ t, e.2 = (handler e.1 t).1 := by
  obtain ⟨hrun, rfl⟩ := h
  induction p generalizing s with
  | done v => exact fun e he => absurd he List.not_mem_nil
  | ask call next ih => exact List.forall_mem_cons.2 ⟨⟨s, rfl⟩, ih _ hrun⟩

variable {c : Contract Answer}

/-- As long as the answers are ones to count on, a program that keeps a contract has made allowed
calls, and its value satisfies the claim. -/
theorem Keeps.course {p : Program Answer α} {Q : α → Prop} {value : α} (h : p.Keeps c Q)
    (hcourse : p.Course handler s events value s') (hexpects : ∀ e ∈ events, c.expects e.1 e.2) :
    (∀ e ∈ events, c.allows e.1) ∧ Q value := by
  obtain ⟨hrun, rfl⟩ := hcourse
  induction p generalizing s with
  | done v =>
    cases hrun
    exact ⟨fun e he => absurd he List.not_mem_nil, h⟩
  | ask call next ih =>
    obtain ⟨hcall, hnext⟩ := h
    obtain ⟨hanswer, hrest⟩ := List.forall_mem_cons.1 hexpects
    obtain ⟨hallows, hvalue⟩ := ih _ (hnext _ hanswer) hrun hrest
    exact ⟨List.forall_mem_cons.2 ⟨hcall, hallows⟩, hvalue⟩

/-- The calls of a course are among those that the program makes for any answers. -/
theorem Keeps.calls {p : Program Answer α} {Q : α → Prop} {value : α} {allows : Call → Prop}
    (h : p.Keeps (.ofCalls allows) Q) (hcourse : p.Course handler s events value s') :
    ∀ e ∈ events, allows e.1 :=
  (h.course hcourse fun _ _ => trivial).1

end Program

namespace Action

open Program

variable {σ α β : Type} {handler : Handler Call.Answer σ} {s s' : σ} {events : List Event}

theorem course_pure {v : α} {o : Outcome α} :
    Course handler (pure v : Action α).run s events o s' ↔ o = .ok v ∧ s' = s ∧ events = [] :=
  Program.course_pure

theorem course_throw {e : Failure} {o : Outcome α} :
    Course handler (throw e : Action α).run s events o s' ↔
      o = .error e ∧ s' = s ∧ events = [] :=
  Program.course_pure

/-- An action behind another goes on only with a value. -/
theorem course_bind {a : Action α} {f : α → Action β} {o : Outcome β} :
    Course handler (a >>= f).run s events o s' ↔
      (∃ e, o = .error e ∧ Course handler a.run s events (.error e) s') ∨
      ∃ v t first second, events = first ++ second ∧ Course handler a.run s first (.ok v) t ∧
        Course handler (f v).run t second o s' := by
  have hbind : Course handler (a >>= f).run s events o s' ↔ _ :=
    Program.course_bind (p := a.run) (f := ExceptT.bindCont f)
  rw [hbind]
  constructor
  · rintro ⟨r, t, first, second, rfl, hfirst, hsecond⟩
    cases r with
    | ok v => exact .inr ⟨v, t, first, second, rfl, hfirst, hsecond⟩
    | error e =>
      obtain ⟨rfl, rfl, rfl⟩ := Program.course_pure.1 hsecond
      rw [List.append_nil]
      exact .inl ⟨e, rfl, hfirst⟩
  · rintro (⟨e, rfl, hfirst⟩ | ⟨v, t, first, second, rfl, hfirst, hsecond⟩)
    · refine ⟨.error e, s', events, [], (List.append_nil _).symm, hfirst, ?_⟩
      exact Program.course_pure.2 ⟨rfl, rfl, rfl⟩
    · exact ⟨.ok v, t, first, second, rfl, hfirst, hsecond⟩

/-- An action behind another ends well only if both do. -/
theorem course_bind_ok {a : Action α} {f : α → Action β} {value : β}
    (h : Course handler (a >>= f).run s events (.ok value) s') :
    ∃ v t first second, events = first ++ second ∧ Course handler a.run s first (.ok v) t ∧
      Course handler (f v).run t second (.ok value) s' := by
  rcases course_bind.1 h with ⟨e, hok, _⟩ | hboth
  · cases hok
  · exact hboth

/-- A program as an action. -/
theorem course_lift {p : Program Call.Answer α} {o : Outcome α} :
    Course handler (ExceptT.lift p : Action α).run s events o s' ↔
      ∃ v, o = .ok v ∧ p.Course handler s events v s' := by
  have hmap : Course handler (ExceptT.lift p : Action α).run s events o s' ↔ _ :=
    Program.course_bind (p := p) (f := fun v => pure (Except.ok v))
  rw [hmap]
  constructor
  · rintro ⟨v, t, first, second, rfl, hp, hdone⟩
    obtain ⟨rfl, rfl, rfl⟩ := Program.course_pure.1 hdone
    rw [List.append_nil]
    exact ⟨v, rfl, hp⟩
  · rintro ⟨v, rfl, hp⟩
    refine ⟨v, s', events, [], (List.append_nil _).symm, hp, ?_⟩
    exact Program.course_pure.2 ⟨rfl, rfl, rfl⟩

/-- An action behind a program. -/
theorem course_lift_bind {p : Program Call.Answer α} {f : α → Action β} {o : Outcome β} :
    Course handler (ExceptT.lift p >>= f : Action β).run s events o s' ↔
      ∃ v t first second, events = first ++ second ∧ p.Course handler s first v t ∧
        Course handler (f v).run t second o s' := by
  rw [course_bind]
  constructor
  · rintro (⟨e, _, hfirst⟩ | ⟨v, t, first, second, rfl, hfirst, hsecond⟩)
    · obtain ⟨_, hok, _⟩ := course_lift.1 hfirst
      cases hok
    · obtain ⟨_, hok, hfirst⟩ := course_lift.1 hfirst
      cases hok
      exact ⟨v, t, first, second, rfl, hfirst, hsecond⟩
  · rintro ⟨v, t, first, second, rfl, hfirst, hsecond⟩
    exact .inr ⟨v, t, first, second, rfl, course_lift.2 ⟨v, rfl, hfirst⟩, hsecond⟩

end Action

end Fleet
