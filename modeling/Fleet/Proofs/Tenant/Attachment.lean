import Fleet.Platform
import Fleet.Proofs.Tenant.Steps

/-!
# Attaching at quiescence

An attempt to attach capability sets looks at the consumer group until a look finds it idle; then
the attachment is the very next call (`Attempt`). The attempt also ends when the time is up or the
clock does not reach far enough, and then nothing is attached.

`attachCapabilitySets_quiescent` carries this over to all tenants of a traversal, for all answers:
every attachment follows on a look that found the group idle, taken after the tenant's own token was
obtained, and a wait or an attachment that fails is the last thing that happens.
-/

namespace Fleet

namespace Quiescence

open Program

variable {σ : Type} {handler : Handler Call.Answer σ} {q : Quiescence} {roles : Roles}
  {token : Token} {tenant : String} {o : Outcome Unit} {s s' : σ} {events first later : List Event}

/-! ## What follows on what -/

/-- A pause, a reading of the clock, or a look that does not find the group idle. -/
inductive Waits (q : Quiescence) : Event → Prop
  | pause (millis : Nat) : Waits q ⟨.sleep millis, ()⟩
  | reading (time : Nat) : Waits q ⟨.now, time⟩
  | busy {state : Outcome GroupState} (h : isIdle state = false) :
    Waits q ⟨.describeGroup q.group, state⟩

/-- Why nothing follows on a reading of the clock: the time is up, or the clock cannot show the
deadline or the end of the next interval. -/
inductive EndsAt (q : Quiescence) (time : Nat) : Outcome Unit → Prop
  | timeUp {started : Nat} (h : started + q.timeoutMillis ≤ time) :
    EndsAt q time (.error (.notQuiescent q.group (time - started)))
  | unshown (h : Duration.horizon ≤ time + max q.timeoutMillis q.intervalMillis) :
    EndsAt q time (.error .clockExceeded)

/-- What may follow on an event of attempts that end with an outcome: on an idle look, the
attachment; on a busy one, a reading of the clock and then a pause or, when that is the end,
nothing; on any reading of the clock, a pause, a look or nothing; on a pause, a reading of the
clock, a look or, when the looks cannot be counted any more, nothing; and nothing on a failed
attachment. -/
def Next (q : Quiescence) (roles : Roles) (o : Outcome Unit) : Event → List Event → Prop
  | ⟨.describeGroup _, state⟩, after =>
    if isIdle state then
      ∃ token tenant answer rest, after = ⟨.identity (.attach token tenant roles), answer⟩ :: rest
    else
      ∃ time rest, after = ⟨.now, time⟩ :: rest ∧
        ((rest = [] ∧ q.EndsAt time o) ∨ ∃ millis rest', rest = ⟨.sleep millis, ()⟩ :: rest')
  | ⟨.now, time⟩, after =>
    (after = [] ∧ q.EndsAt time o) ∨ (∃ millis rest, after = ⟨.sleep millis, ()⟩ :: rest) ∨
      ∃ state rest, after = ⟨.describeGroup q.group, state⟩ :: rest
  | ⟨.sleep _, _⟩, after =>
    (after = [] ∧ o = .error (.internal "poll counter exhausted")) ∨
      (∃ time rest, after = ⟨.now, time⟩ :: rest) ∨
      ∃ state rest, after = ⟨.describeGroup q.group, state⟩ :: rest
  | ⟨.identity (.attach _ _ _), .error e⟩, after => after = [] ∧ o = .error e
  | _, _ => True

theorem next_idle {group : String} {state : Outcome GroupState} {after : List Event}
    (h : isIdle state = true) : q.Next roles o ⟨.describeGroup group, state⟩ after ↔
      ∃ token tenant answer rest,
        after = ⟨.identity (.attach token tenant roles), answer⟩ :: rest :=
  iff_of_eq (if_pos h)

theorem next_busy {group : String} {state : Outcome GroupState} {after : List Event}
    (h : isIdle state = false) : q.Next roles o ⟨.describeGroup group, state⟩ after ↔
      ∃ time rest, after = ⟨.now, time⟩ :: rest ∧
        ((rest = [] ∧ q.EndsAt time o) ∨ ∃ millis rest', rest = ⟨.sleep millis, ()⟩ :: rest') :=
  iff_of_eq (if_neg (Bool.eq_false_iff.1 h))

/-- Every event is followed by what may follow on it. -/
def Paced (q : Quiescence) (roles : Roles) (o : Outcome Unit) (events : List Event) : Prop :=
  ∀ before e after, events = before ++ e :: after → q.Next roles o e after

theorem paced_nil : Paced q roles o [] := by
  intro before e after heq
  cases before <;> cases heq

theorem paced_cons {e : Event} :
    Paced q roles o (e :: later) ↔ q.Next roles o e later ∧ Paced q roles o later := by
  constructor
  · intro h
    exact ⟨h [] e later rfl, fun before e' after heq => h (e :: before) e' after (by rw [heq]; rfl)⟩
  · rintro ⟨he, hlater⟩ before e' after heq
    cases before with
    | nil =>
      cases heq
      exact he
    | cons _ before =>
      cases heq
      exact hlater before e' after rfl

/-- What may follow before a success may follow before more. -/
theorem Next.append {e : Event} (h : q.Next roles (.ok ()) e first) :
    q.Next roles o e (first ++ later) := by
  obtain ⟨call, answer⟩ := e
  cases call with
  | describeGroup group =>
    cases hidle : isIdle answer with
    | true =>
      obtain ⟨token, tenant, attached, rest, rfl⟩ := (next_idle hidle).1 h
      exact (next_idle hidle).2 ⟨token, tenant, attached, rest ++ later, rfl⟩
    | false =>
      obtain ⟨time, _, rfl, ⟨_, hends⟩ | ⟨millis, rest, rfl⟩⟩ := (next_busy hidle).1 h
      · cases hends
      · exact (next_busy hidle).2 ⟨time, _, rfl, .inr ⟨millis, rest ++ later, rfl⟩⟩
  | now =>
    obtain ⟨_, hends⟩ | ⟨millis, rest, rfl⟩ | ⟨state, rest, rfl⟩ := h
    · cases hends
    · exact .inr (.inl ⟨millis, rest ++ later, rfl⟩)
    · exact .inr (.inr ⟨state, rest ++ later, rfl⟩)
  | sleep millis =>
    obtain ⟨_, hfailed⟩ | ⟨time, rest, rfl⟩ | ⟨state, rest, rfl⟩ := h
    · cases hfailed
    · exact .inr (.inl ⟨time, rest ++ later, rfl⟩)
    · exact .inr (.inr ⟨state, rest ++ later, rfl⟩)
  | identity call =>
    cases call with
    | attach token tenant r =>
      cases answer with
      | error e => cases h.2
      | ok _ => trivial
    | _ => trivial
  | _ => trivial

theorem Paced.append (h : Paced q roles (.ok ()) first) (h' : Paced q roles o later) :
    Paced q roles o (first ++ later) := by
  induction first with
  | nil => exact h'
  | cons e rest ih =>
    obtain ⟨he, hrest⟩ := paced_cons.1 h
    exact paced_cons.2 ⟨he.append, ih hrest⟩

/-- Every attachment is of the roles, and directly behind a look that found the group idle; between
that look and the token of the tenant's own realm there are only pauses and busy looks. -/
def Guarded (q : Quiescence) (roles : Roles) (events : List Event) : Prop :=
  ∀ before token tenant r answer after,
    events = before ++ ⟨.identity (.attach token tenant r), answer⟩ :: after →
    r = roles ∧ ∃ earlier waits, (∀ e ∈ waits, q.Waits e) ∧
      before = earlier ++ ⟨.identity (.accessToken tenant .password), .ok token⟩ ::
        (waits ++ [⟨.describeGroup q.group, .ok ⟨0, false⟩⟩])

/-- An attachment. -/
def Attaches : Event → Prop
  | ⟨.identity (.attach _ _ _), _⟩ => True
  | _ => False

theorem guarded_of_none (h : ∀ e ∈ events, ¬ Attaches e) : Guarded q roles events := by
  rintro before token tenant r answer after rfl
  exact absurd trivial (h _ (List.mem_append_right before List.mem_cons_self))

theorem Waits.not_attaches {e : Event} (h : q.Waits e) : ¬ Attaches e := by
  cases h <;> exact id

/-- The one attachment of an attempt is guarded by what comes before it. -/
theorem guarded_attempt {waits : List Event} {answer : Outcome Unit}
    (hwaits : ∀ e ∈ waits, q.Waits e) :
    Guarded q roles (⟨.identity (.accessToken tenant .password), .ok token⟩ ::
      (waits ++ [⟨.describeGroup q.group, .ok ⟨0, false⟩⟩]) ++
      [⟨.identity (.attach token tenant roles), answer⟩]) := by
  intro before token' tenant' r answer' after heq
  have hnone : ∀ e ∈ (⟨.identity (.accessToken tenant .password), .ok token⟩ ::
      (waits ++ [⟨.describeGroup q.group, .ok ⟨0, false⟩⟩]) : List Event), ¬ Attaches e := by
    refine List.forall_mem_cons.2 ⟨id, List.forall_mem_append.2 ⟨?_, ?_⟩⟩
    · intro e he
      exact (hwaits e he).not_attaches
    · exact List.forall_mem_singleton.2 id
  rcases List.append_eq_append_iff.1 heq with ⟨skipped, rfl, hlast⟩ | ⟨rest, hfirst, hrest⟩
  · cases skipped with
    | nil =>
      cases hlast
      exact ⟨rfl, [], waits, hwaits, List.append_nil _⟩
    | cons _ skipped => cases skipped <;> cases hlast
  · cases rest with
    | nil =>
      cases hrest
      rw [List.append_nil] at hfirst
      exact ⟨rfl, [], waits, hwaits, hfirst.symm⟩
    | cons _ rest =>
      cases hrest
      rw [hfirst] at hnone
      exact absurd trivial (hnone _ (List.mem_append_right before List.mem_cons_self))

theorem Guarded.append (h : Guarded q roles first) (h' : Guarded q roles later) :
    Guarded q roles (first ++ later) := by
  intro before token tenant r answer after heq
  rcases List.append_eq_append_iff.1 heq with ⟨skipped, rfl, hlater⟩ | ⟨rest, rfl, hrest⟩
  · obtain ⟨hroles, earlier, waits, hwaits, rfl⟩ := h' _ _ _ _ _ _ hlater
    exact ⟨hroles, first ++ earlier, waits, hwaits, (List.append_assoc _ _ _).symm⟩
  · cases rest with
    | nil =>
      obtain ⟨hroles, earlier, waits, hwaits, hnil⟩ := h' [] _ _ _ _ _ hrest.symm
      cases earlier <;> cases hnil
    | cons _ rest =>
      cases hrest
      exact h _ _ _ _ _ _ rfl

/-! ## Attempts -/

/-- The events of an attempt that has begun to look: looks, readings of the clock and pauses in turn,
up to a look that finds the group idle and the attachment, or to the end of the wait. -/
inductive Attempt (q : Quiescence) (roles : Roles) (token : Token) (tenant : String) :
    Outcome Unit → List Event → Prop
  | attached {o : Outcome Unit} : Attempt q roles token tenant o
      [⟨.describeGroup q.group, .ok ⟨0, false⟩⟩, ⟨.identity (.attach token tenant roles), o⟩]
  | brokenOff {state : Outcome GroupState} {time : Nat} {o : Outcome Unit}
      (hbusy : isIdle state = false) (hends : q.EndsAt time o) :
      Attempt q roles token tenant o [⟨.describeGroup q.group, state⟩, ⟨.now, time⟩]
  | exhausted {state : Outcome GroupState} {time millis : Nat} (hbusy : isIdle state = false) :
      Attempt q roles token tenant (.error (.internal "poll counter exhausted"))
        [⟨.describeGroup q.group, state⟩, ⟨.now, time⟩, ⟨.sleep millis, ()⟩]
  | again {state : Outcome GroupState} {time millis : Nat} {o : Outcome Unit} {later : List Event}
      (hbusy : isIdle state = false) (h : Attempt q roles token tenant o later) :
      Attempt q roles token tenant o
        (⟨.describeGroup q.group, state⟩ :: ⟨.now, time⟩ :: ⟨.sleep millis, ()⟩ :: later)

theorem Attempt.look (h : Attempt q roles token tenant o events) :
    ∃ state rest, events = ⟨.describeGroup q.group, state⟩ :: rest := by
  cases h with
  | attached | brokenOff | exhausted | again => exact ⟨_, _, rfl⟩

/-- A busy look and what passes until the next one. -/
theorem waits_between {state : Outcome GroupState} (hbusy : isIdle state = false)
    (time millis : Nat) :
    ∀ e ∈ ([⟨.describeGroup q.group, state⟩, ⟨.now, time⟩, ⟨.sleep millis, ()⟩] : List Event),
      q.Waits e :=
  List.forall_mem_cons.2 ⟨.busy hbusy, List.forall_mem_cons.2 ⟨.reading time,
    List.forall_mem_singleton.2 (.pause millis)⟩⟩

/-- The end of an attempt is the attachment behind an idle look, or there is no attachment. -/
theorem Attempt.waits (h : Attempt q roles token tenant o events) :
    (∃ waits, (∀ e ∈ waits, q.Waits e) ∧ events = waits ++
      [⟨.describeGroup q.group, .ok ⟨0, false⟩⟩, ⟨.identity (.attach token tenant roles), o⟩]) ∨
      ∀ e ∈ events, q.Waits e := by
  induction h with
  | attached => exact .inl ⟨[], fun _ he => absurd he List.not_mem_nil, rfl⟩
  | @brokenOff _ time _ hbusy hends =>
    exact .inr (List.forall_mem_cons.2 ⟨.busy hbusy, List.forall_mem_singleton.2 (.reading time)⟩)
  | @exhausted _ time millis hbusy => exact .inr (waits_between hbusy time millis)
  | @again _ time millis _ _ hbusy h ih =>
    have hbetween := waits_between (q := q) hbusy time millis
    obtain ⟨waits, hwaits, rfl⟩ | hwaits := ih
    · exact .inl ⟨_ ++ waits, List.forall_mem_append.2 ⟨hbetween, hwaits⟩, rfl⟩
    · exact .inr (List.forall_mem_append.2 ⟨hbetween, hwaits⟩)

/-- An attempt that ends well has attached. -/
theorem Attempt.attached_of_ok (h : Attempt q roles token tenant (.ok ()) events) :
    ⟨.identity (.attach token tenant roles), .ok ()⟩ ∈ events := by
  generalize ho : (.ok () : Outcome Unit) = o at h
  induction h with
  | attached => exact ho ▸ List.mem_cons_of_mem _ (List.mem_singleton_self _)
  | brokenOff hbusy hends =>
    subst ho
    cases hends
  | exhausted => cases ho
  | again _ _ ih => exact List.mem_append_right [_, _, _] (ih ho)

theorem Attempt.paced (h : Attempt q roles token tenant o events) : Paced q roles o events := by
  induction h with
  | @attached o =>
    refine paced_cons.2 ⟨⟨token, tenant, o, [], rfl⟩, paced_cons.2 ⟨?_, paced_nil⟩⟩
    cases o with
    | error e => exact ⟨rfl, rfl⟩
    | ok _ => trivial
  | @brokenOff state time o hbusy hends =>
    refine paced_cons.2 ⟨(next_busy hbusy).2 ⟨time, [], rfl, .inl ⟨rfl, hends⟩⟩, ?_⟩
    exact paced_cons.2 ⟨.inl ⟨rfl, hends⟩, paced_nil⟩
  | @exhausted state time millis hbusy =>
    refine paced_cons.2 ⟨(next_busy hbusy).2 ⟨time, _, rfl, .inr ⟨millis, [], rfl⟩⟩, ?_⟩
    refine paced_cons.2 ⟨.inr (.inl ⟨millis, [], rfl⟩), ?_⟩
    exact paced_cons.2 ⟨.inl ⟨rfl, rfl⟩, paced_nil⟩
  | @again state time millis o later hbusy h ih =>
    refine paced_cons.2 ⟨(next_busy hbusy).2 ⟨time, _, rfl, .inr ⟨millis, later, rfl⟩⟩, ?_⟩
    refine paced_cons.2 ⟨.inr (.inl ⟨millis, later, rfl⟩), ?_⟩
    exact paced_cons.2 ⟨.inr (.inr h.look), ih⟩

/-- A time that the clock can show is worked out, and everything else breaks off. -/
theorem later_bind {α : Type} (time millis : Nat) (f : Nat → Action α) :
    Action.later time millis >>= f =
      if time + millis < Duration.horizon then f (time + millis) else throw .clockExceeded := by
  unfold Action.later
  split
  · exact LawfulMonad.pure_bind _ _
  · rfl

/-- Looking goes on until the group is idle, and then with what is to be done. -/
theorem look_bind {α : Type} (q : Quiescence) (started deadline left polls : Nat)
    (f : Nat → Action α) :
    q.look started deadline (left + 1) polls >>= f =
      (Action.describeGroup q.group).outcome >>= fun state =>
        if isIdle state then f (polls + 1)
        else Action.now >>= fun now =>
          if deadline ≤ now then throw (.notQuiescent q.group (now - started))
          else if now + q.intervalMillis < Duration.horizon then
            Action.sleep (min (now + q.intervalMillis) deadline - now) >>= fun _ =>
              q.look started deadline left (polls + 1) >>= f
          else throw .clockExceeded := by
  rw [look, LawfulMonad.bind_assoc]
  congr 1
  funext state
  split
  · exact LawfulMonad.pure_bind _ _
  rw [LawfulMonad.bind_assoc]
  congr 1
  funext now
  split
  · rfl
  rw [later_bind]
  split
  · exact LawfulMonad.bind_assoc _ _ _
  · rfl

/-- Looking and then attaching is an attempt. -/
theorem attempt_look {started : Nat} :
    ∀ {left polls : Nat} {s : σ} {events : List Event},
      Course handler (q.look started (started + q.timeoutMillis) (left + 1) polls >>= fun _ =>
        Action.attach token tenant roles).run s events o s' →
      Attempt q roles token tenant o events
  | left, polls, s, events, h => by
    rw [look_bind] at h
    obtain ⟨state, t, first, rest, rfl, hdescribe, hnext⟩ := Action.course_lift_bind.1 h
    obtain ⟨_, rfl⟩ := course_perform.1 hdescribe
    by_cases hidle : isIdle state = true
    · rw [if_pos hidle] at hnext
      obtain rfl := isIdle_iff.1 hidle
      obtain ⟨_, rfl⟩ := course_perform.1 hnext
      exact .attached
    have hbusy : isIdle state = false := Bool.eq_false_iff.2 hidle
    rw [if_neg hidle] at hnext
    obtain ⟨time, t', reading, rest, rfl, hnow, hrest⟩ := Action.course_lift_bind.1 hnext
    obtain ⟨_, rfl⟩ := course_perform.1 hnow
    by_cases htime : started + q.timeoutMillis ≤ time
    · rw [if_pos htime] at hrest
      obtain ⟨rfl, _, rfl⟩ := Action.course_throw.1 hrest
      exact .brokenOff hbusy (.timeUp htime)
    rw [if_neg htime] at hrest
    by_cases hclock : time + q.intervalMillis < Duration.horizon
    · rw [if_pos hclock] at hrest
      obtain ⟨_, u, pause, later, rfl, hpause, hlater⟩ := Action.course_lift_bind.1 hrest
      obtain ⟨_, rfl⟩ := course_perform.1 hpause
      cases left with
      | zero =>
        obtain ⟨e, rfl, hnone⟩ | ⟨_, _, _, _, _, hnone, _⟩ := Action.course_bind.1 hlater
        · obtain ⟨herror, _, rfl⟩ := Action.course_throw.1 hnone
          cases herror
          exact .exhausted hbusy
        · obtain ⟨herror, _⟩ := Action.course_throw.1 hnone
          cases herror
      | succ left => exact .again hbusy (attempt_look hlater)
    · rw [if_neg hclock] at hrest
      obtain ⟨rfl, _, rfl⟩ := Action.course_throw.1 hrest
      exact .brokenOff hbusy (.unshown (by omega))

/-- Awaiting and then attaching reads the clock, and then it is an attempt unless that was the
end. -/
theorem attempt_await
    (h : Course handler (q.await >>= fun _ => Action.attach token tenant roles).run s events o s') :
    ∃ time later, events = ⟨.now, time⟩ :: later ∧
      ((later = [] ∧ q.EndsAt time o) ∨ Attempt q roles token tenant o later) := by
  rw [await, LawfulMonad.bind_assoc] at h
  obtain ⟨time, t, reading, later, rfl, hnow, hnext⟩ := Action.course_lift_bind.1 h
  obtain ⟨_, rfl⟩ := course_perform.1 hnow
  rw [LawfulMonad.bind_assoc, later_bind] at hnext
  refine ⟨time, later, rfl, ?_⟩
  by_cases hclock : time + q.timeoutMillis < Duration.horizon
  · rw [if_pos hclock] at hnext
    exact .inr (attempt_look hnext)
  · rw [if_neg hclock] at hnext
    obtain ⟨rfl, _, rfl⟩ := Action.course_throw.1 hnext
    exact .inl ⟨rfl, .unshown (by omega)⟩

/-- An attempt may begin with a pause. -/
theorem attempt_attach (h : Course handler (q.attach token tenant roles).run s events o s') :
    ∃ pauses time later, events = pauses ++ ⟨.now, time⟩ :: later ∧
      (pauses = [] ∨ ∃ millis, pauses = [⟨.sleep millis, ()⟩]) ∧
      ((later = [] ∧ q.EndsAt time o) ∨ Attempt q roles token tenant o later) := by
  unfold attach at h
  split at h
  · obtain ⟨_, t, pause, rest, rfl, hpause, hrest⟩ := Action.course_lift_bind.1 h
    obtain ⟨_, rfl⟩ := course_perform.1 hpause
    obtain ⟨time, later, rfl, hlater⟩ := attempt_await hrest
    exact ⟨_, time, later, rfl, .inr ⟨_, rfl⟩, hlater⟩
  · obtain ⟨time, later, rfl, hlater⟩ := attempt_await h
    exact ⟨[], time, later, rfl, .inl rfl, hlater⟩

/-- Attaching behind the token of the tenant's own realm is guarded and paced. -/
theorem attach_lawful
    (h : Course handler (q.attach token tenant roles).run s events o s') :
    Guarded q roles (⟨.identity (.accessToken tenant .password), .ok token⟩ :: events) ∧
      Paced q roles o (⟨.identity (.accessToken tenant .password), .ok token⟩ :: events) := by
  obtain ⟨pauses, time, later, rfl, hpauses, hlater⟩ := attempt_attach h
  have hreading : Paced q roles o (⟨.now, time⟩ :: later) := by
    rcases hlater with ⟨rfl, hends⟩ | hattempt
    · exact paced_cons.2 ⟨.inl ⟨rfl, hends⟩, paced_nil⟩
    · exact paced_cons.2 ⟨.inr (.inr hattempt.look), hattempt.paced⟩
  have hpaced : Paced q roles o (pauses ++ ⟨.now, time⟩ :: later) := by
    rcases hpauses with rfl | ⟨millis, rfl⟩
    · exact hreading
    · exact paced_cons.2 ⟨.inr (.inl ⟨time, later, rfl⟩), hreading⟩
  have hfirst : ∀ e ∈ pauses ++ [⟨.now, time⟩], q.Waits e := by
    refine List.forall_mem_append.2 ⟨?_, List.forall_mem_singleton.2 (.reading time)⟩
    rcases hpauses with rfl | ⟨millis, rfl⟩
    · exact fun _ he => absurd he List.not_mem_nil
    · exact List.forall_mem_singleton.2 (.pause millis)
  have hwaits : (∃ waits, (∀ e ∈ waits, q.Waits e) ∧ later = waits ++
      [⟨.describeGroup q.group, .ok ⟨0, false⟩⟩, ⟨.identity (.attach token tenant roles), o⟩]) ∨
      ∀ e ∈ later, q.Waits e := by
    rcases hlater with ⟨rfl, _⟩ | hattempt
    · exact .inr fun _ he => absurd he List.not_mem_nil
    · exact hattempt.waits
  refine ⟨?_, paced_cons.2 ⟨trivial, hpaced⟩⟩
  obtain ⟨waits, hmore, rfl⟩ | hmore := hwaits
  · have hguarded : Guarded q roles (⟨.identity (.accessToken tenant .password), .ok token⟩ ::
        ((pauses ++ [⟨.now, time⟩] ++ waits) ++ [⟨.describeGroup q.group, .ok ⟨0, false⟩⟩]) ++
        [⟨.identity (.attach token tenant roles), o⟩]) :=
      guarded_attempt (List.forall_mem_append.2 ⟨hfirst, hmore⟩)
    simpa only [List.append_assoc, List.cons_append, List.nil_append] using hguarded
  · rw [List.append_cons]
    refine guarded_of_none (List.forall_mem_cons.2 ⟨id, fun e he => ?_⟩)
    exact (List.forall_mem_append.2 ⟨hfirst, hmore⟩ e he).not_attaches

end Quiescence

namespace Traversal

variable {σ : Type} {handler : Handler Call.Answer σ} {c : Config} {act : Visit → Action Unit}

/-- A visit by a token of the tenant's own realm is begun only with the token. -/
theorem CutOff.of_visitSteps {v : Visit} {taken : List Step} {o : Outcome Unit}
    (h : CutOff (visitSteps .tenant v) taken o) :
    (∃ e, o = .error e ∧ taken = [.token v.tenant (.error e)]) ∨
      taken = [.token v.tenant (.ok v.token), .visit v o] := by
  have hparts : CutOff ([.token v.tenant (.ok v.token)] ++ [.visit v (.ok ())]) taken o := h
  obtain ⟨e, rfl, htoken⟩ | ⟨rest, rfl, hvisit⟩ := hparts.of_append
  · obtain ⟨hok, _⟩ | ⟨e', heq, rfl⟩ := htoken.of_singleton
    · cases hok
    · cases heq
      exact .inl ⟨e, rfl, rfl⟩
  · obtain ⟨rfl, rfl⟩ | ⟨e, rfl, rfl⟩ := hvisit.of_singleton
    · exact .inr rfl
    · exact .inr rfl

end Traversal

namespace Platform

open Program Quiescence

variable {σ : Type}

/-- Opening a stay attaches nothing. -/
theorem opening_lawful {handler : Handler Call.Answer σ} {c : Config} {act : Visit → Action Unit}
    {q : Quiescence} {roles : Roles} {step : Traversal.Step} (hstep : step.tenant? = none) :
    Traversal.Lawful handler c act
      (fun events o => Guarded q roles events ∧ Paced q roles o events) [step] := by
  have hlawful : ∀ {step : Traversal.Step} {s s' : σ} {events : List Event} {o : Outcome Unit},
      step.tenant? = none → step.Taken handler c act s events s' →
      Guarded q roles events ∧ Paced q roles o events := by
    intro step s s' events o hstep htaken
    cases step with
    | master answer =>
      obtain ⟨_, rfl⟩ := course_perform.1 htaken
      exact ⟨guarded_of_none (List.forall_mem_singleton.2 id), paced_cons.2 ⟨trivial, paced_nil⟩⟩
    | listing granted answer =>
      obtain ⟨_, rfl⟩ := course_perform.1 htaken
      exact ⟨guarded_of_none (List.forall_mem_singleton.2 id), paced_cons.2 ⟨trivial, paced_nil⟩⟩
    | token t answer => cases hstep
    | visit v answer => cases hstep
  intro taken s events o s' hcut htaken
  obtain ⟨rfl, rfl⟩ | ⟨e, rfl, rfl⟩ := hcut.of_singleton
  · exact hlawful hstep (Traversal.taken_singleton.1 htaken)
  · refine hlawful ?_ (Traversal.taken_singleton.1 htaken)
    rw [Traversal.Step.tenant?_failing]
    exact hstep

/-- Whatever the services answer: every attachment is of the described roles and directly behind a
look that found the consumer group idle, taken after the token of the same tenant; a look that finds
the group busy, a reading of the clock, a pause and an attachment are followed as `Next` says, so a
wait that ends without quiescence or an attachment that fails gives the outcome, and nothing happens
behind it. -/
theorem attachCapabilitySets_quiescent (p : Platform) (handler : Handler Call.Answer σ) (s : σ) :
    ∃ events o s', Course handler p.attachCapabilitySets.run s events o s' ∧
      Guarded (.ofConfig p.config.saga) p.config.roles events ∧
      Paced (.ofConfig p.config.saga) p.config.roles o events := by
  have hcourse := course_self handler p.attachCapabilitySets.run s
  refine ⟨_, _, _, hcourse, ?_⟩
  refine Traversal.visitTenants_lawful (P := fun events o =>
    Guarded (.ofConfig p.config.saga) p.config.roles events ∧
      Paced (.ofConfig p.config.saga) p.config.roles o events) ?_ ?_ ?_ ?_ hcourse
  · rintro first later o ⟨hguarded, hpaced⟩ ⟨hguarded', hpaced'⟩
    exact ⟨hguarded.append hguarded', hpaced.append hpaced'⟩
  · exact ⟨guarded_of_none fun _ he => absurd he List.not_mem_nil, paced_nil⟩
  · intro step hstep
    exact opening_lawful hstep
  · intro v taken t events o t' hcut htaken
    obtain ⟨e, rfl, rfl⟩ | rfl := hcut.of_visitSteps
    · obtain ⟨_, rfl⟩ := course_perform.1 (Traversal.taken_singleton.1 htaken)
      exact ⟨guarded_of_none (List.forall_mem_singleton.2 id), paced_cons.2 ⟨trivial, paced_nil⟩⟩
    · obtain ⟨u, first, later, rfl, htoken, hvisit⟩ := htaken
      obtain ⟨_, rfl⟩ := course_perform.1 htoken
      exact attach_lawful (Traversal.taken_singleton.1 hvisit)

end Platform

end Fleet
