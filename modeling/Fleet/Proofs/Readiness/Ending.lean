import Fleet.Proofs.Readiness.OneTurn

/-!
# Every readiness pass comes to an end

The tasks of a pass take boundedly many turns, in whatever order and whatever is answered
(`taken_start_le`): a task ends within three turns for each of its attempts and one more
(`endsWithin_awaitPort`), and every turn that somebody can take is one of those. Since some turn is
open as long as a task is left, turns can be taken until none is left (`exists_ended`).
-/

namespace Fleet.Readiness.Probing

/-- A task ends within so many turns, whatever its calls are answered. A sleep takes two of them, one
to go to sleep and one in which time passes until the task wakes. -/
def EndsWithin : Program Call.Answer PortOutcome → Nat → Prop
  | .done _, n => 1 ≤ n
  | .ask (.sleep _) next, n => 2 ≤ n ∧ EndsWithin (next ()) (n - 2)
  | .ask _ next, n => 1 ≤ n ∧ ∀ answer, EndsWithin (next answer) (n - 1)

theorem endsWithin_awaitPort (delayMillis : Nat) (port : Port) :
    ∀ left attempt, EndsWithin (awaitPort delayMillis port left attempt) (3 * left + 1)
  | 0, _ => Nat.le_refl 1
  | left + 1, attempt => by
    rw [awaitPort_succ]
    refine ⟨Nat.le_add_left _ _, fun answer => ?_⟩
    cases answer with
    | ok _ => exact Nat.le_add_left 1 _
    | error e =>
      dsimp only
      split
      · exact Nat.le_add_left 1 _
      · exact ⟨Nat.le_add_left 2 _, endsWithin_awaitPort delayMillis port left (attempt + 1)⟩

/-- Whether a task sleeps. -/
def asleep (now : Nat) (t : PortTask) : Nat := if now < t.wakes then 1 else 0

/-- Tasks end within so many turns, those included in which time passes until one of them wakes. -/
def AllEndWithin (now : Nat) : List PortTask → Nat → Prop
  | [], _ => True
  | t :: rest, n => ∃ k l, EndsWithin t.task k ∧ AllEndWithin now rest l ∧ k + asleep now t + l ≤ n

variable {now : Nat} {first later : List PortTask} {t : PortTask} {n : Nat}

/-- The turns of one task add to those of the others, wherever it stands. -/
theorem allEndWithin_middle : AllEndWithin now (first ++ t :: later) n ↔
    ∃ k l, EndsWithin t.task k ∧ AllEndWithin now (first ++ later) l ∧ k + asleep now t + l ≤ n := by
  induction first generalizing n with
  | nil => exact Iff.rfl
  | cons x rest ih =>
    constructor
    · rintro ⟨i, j, hx, hrest, hsum⟩
      obtain ⟨k, l, ht, hothers, hless⟩ := ih.1 hrest
      exact ⟨k, i + asleep now x + l, ht, ⟨i, l, hx, hothers, Nat.le_refl _⟩, by omega⟩
    · rintro ⟨k, l, ht, ⟨i, j, hx, hothers, hless⟩, hsum⟩
      exact ⟨i, k + asleep now t + j, hx, ih.2 ⟨k, j, ht, hothers, Nat.le_refl _⟩, by omega⟩

/-- No task has more turns left when time has passed. -/
theorem AllEndWithin.of_le {now' : Nat} (hle : now ≤ now') {tasks : List PortTask}
    (h : AllEndWithin now tasks n) : AllEndWithin now' tasks n := by
  induction tasks generalizing n with
  | nil => trivial
  | cons t rest ih =>
    obtain ⟨k, l, hk, hl, hsum⟩ := h
    have hasleep : asleep now' t ≤ asleep now t := by
      unfold asleep
      split <;> split <;> omega
    exact ⟨k, l, hk, ih hl, by omega⟩

variable {σ : Type} {handler : Handler Call.Answer σ} {b : Budget} {ws : List Watch}
  {u u' : Probing} {s s' : σ}

/-- A turn changes nothing if nobody can take it, and else it is one of those that were left. -/
theorem Turned.endsWithin {t : Turn} (hturned : Turned handler u s t u' s')
    (h : AllEndWithin u.now u.tasks n) : (isOpen t u = false ∧ u' = u ∧ s' = s) ∨
      ∃ n' < n, AllEndWithin u'.now u'.tasks n' := by
  cases hturned with
  | idle hidle => exact .inl ⟨hidle, rfl, rfl⟩
  | sends ht _ =>
    rw [ht, allEndWithin_middle] at h
    obtain ⟨k, l, hk, hl, hsum⟩ := h
    have hpos : 1 ≤ k := hk
    exact .inr ⟨l, by omega, hl⟩
  | @sleeps first later w millis next wakes ht _ =>
    rw [ht, allEndWithin_middle] at h
    obtain ⟨k, l, ⟨hpos, hnext⟩, hl, hsum⟩ := h
    have hasleep : asleep u.now ⟨w, next (), u.now + millis⟩ ≤ 1 := by
      unfold asleep
      split <;> omega
    refine .inr ⟨k - 2 + 1 + l, by omega, allEndWithin_middle.2 ⟨k - 2, l, hnext, hl, ?_⟩⟩
    show k - 2 + asleep u.now _ + l ≤ k - 2 + 1 + l
    omega
  | @calls first later w call next wakes ht _ hcall =>
    rw [ht, allEndWithin_middle] at h
    obtain ⟨k, l, hk, hl, hsum⟩ := h
    have hafter : 1 ≤ k ∧ ∀ answer, EndsWithin (next answer) (k - 1) := by
      cases call with
      | sleep millis => exact absurd rfl (hcall millis)
      | _ => exact hk
    have hsame : ∀ task, asleep u.now ⟨w, task, wakes⟩ = asleep u.now ⟨w, .ask call next, wakes⟩ :=
      fun _ => rfl
    refine .inr ⟨n - 1, by omega, allEndWithin_middle.2 ⟨k - 1, l, hafter.2 _, hl, ?_⟩⟩
    show k - 1 + asleep u.now _ + l ≤ n - 1
    rw [hsame]
    omega
  | @passes wakes hfirst hasleep =>
    obtain ⟨⟨t, hmem, rfl⟩, _⟩ := wakesFirst?_eq_some_iff.1 hfirst
    obtain ⟨first, later, ht⟩ := List.append_of_mem hmem
    rw [ht, allEndWithin_middle] at h
    obtain ⟨k, l, hk, hl, hsum⟩ := h
    have hbefore : asleep u.now t = 1 := if_pos hasleep
    have hafter : asleep t.wakes t = 0 := if_neg (Nat.lt_irrefl _)
    refine .inr ⟨k + l, by omega, ?_⟩
    rw [ht, allEndWithin_middle]
    refine ⟨k, l, hk, hl.of_le (Nat.le_of_lt hasleep), ?_⟩
    show k + asleep t.wakes t + l ≤ k + l
    omega

theorem allEndWithin_start (b : Budget) (ws : List Watch) :
    AllEndWithin (start b ws).now (start b ws).tasks (ws.length * (3 * b.attempts + 1)) := by
  show AllEndWithin 0 (ws.map _) _
  induction ws with
  | nil => trivial
  | cons w rest ih =>
    refine ⟨_, _, endsWithin_awaitPort b.delayMillis w.port b.attempts 1, ih, ?_⟩
    rw [List.length_cons, Nat.add_one_mul rest.length, asleep, if_neg (Nat.lt_irrefl 0)]
    omega

/-- How many of some turns somebody takes. -/
def taken {σ : Type} (handler : Handler Call.Answer σ) : List Turn → Probing → σ → Nat
  | [], _, _ => 0
  | t :: rest, u, s =>
    let (u', s') := turn handler t u s
    (isOpen t u).toNat + taken handler rest u' s'

@[simp]
theorem taken_cons {σ : Type} (handler : Handler Call.Answer σ) (t : Turn) (rest : List Turn)
    (u : Probing) (s : σ) : taken handler (t :: rest) u s = (isOpen t u).toNat +
      taken handler rest (turn handler t u s).1 (turn handler t u s).2 := rfl

theorem taken_le (handler : Handler Call.Answer σ) (h : AllEndWithin u.now u.tasks n) (s : σ)
    (ts : List Turn) : taken handler ts u s ≤ n := by
  induction ts generalizing u s n with
  | nil => exact Nat.zero_le n
  | cons t rest ih =>
    rw [taken_cons]
    rcases (turned_turn handler t u s).endsWithin h with ⟨hidle, hu, hs⟩ | ⟨n', hless, hafter⟩
    · rw [hidle, hu, hs, Bool.toNat_false, Nat.zero_add]
      exact ih h s
    · have hone := Bool.toNat_le (isOpen t u)
      have hrest := ih hafter (turn handler t u s).2
      omega

/-- Three turns for every attempt of a port, and one more, are all that is ever taken. -/
theorem taken_start_le (handler : Handler Call.Answer σ) (b : Budget) (ws : List Watch) (s : σ)
    (ts : List Turn) : taken handler ts (start b ws) s ≤ ws.length * (3 * b.attempts + 1) :=
  taken_le handler (allEndWithin_start b ws) s ts

/-- Turns can be taken until no task is left. -/
theorem exists_ended (handler : Handler Call.Answer σ) (h : AllEndWithin u.now u.tasks n) (s : σ) :
    ∃ ts, (turns handler ts u s).1.tasks = [] := by
  induction n using Nat.strongRecOn generalizing u s with
  | ind n ih =>
    by_cases hended : u.tasks = []
    · exact ⟨[], hended⟩
    · obtain ⟨t, hopen⟩ := exists_isOpen hended
      rcases (turned_turn handler t u s).endsWithin h with ⟨hidle, _⟩ | ⟨n', hless, hafter⟩
      · rw [hopen] at hidle
        cases hidle
      · obtain ⟨ts, hts⟩ := ih n' hless hafter (turn handler t u s).2
        exact ⟨t :: ts, hts⟩

end Fleet.Readiness.Probing
