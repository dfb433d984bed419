import Fleet.Proofs.Splitting
import Fleet.Readiness.Turns

/-!
# What a turn of awaited ports can do

A turn is open if somebody can take it: a task that does not sleep, or time, if all tasks sleep. A
turn that is not open changes nothing. `Turned` lists what an open turn can come to, one constructor
for each way, and `turned_turn` says that these are all. So what each of them keeps is kept by any
series of turns (`turns_keeps`). As long as a task is left, some turn is open (`exists_isOpen`).
-/

namespace Fleet.Readiness.Probing

/-- When the first of the tasks wakes. -/
def wakesFirst? (u : Probing) : Option Nat := (u.tasks.map (·.wakes)).min?

/-- Whether somebody can take a turn. -/
def isOpen : Turn → Probing → Bool
  | .task index, u =>
    match u.tasks[index]? with
    | none => false
    | some t => decide (t.wakes ≤ u.now)
  | .pause, u =>
    match u.wakesFirst? with
    | none => false
    | some wakes => decide (u.now < wakes)

theorem wakesFirst?_eq_some_iff {u : Probing} {wakes : Nat} : u.wakesFirst? = some wakes ↔
    (∃ t ∈ u.tasks, t.wakes = wakes) ∧ ∀ t ∈ u.tasks, wakes ≤ t.wakes := by
  rw [wakesFirst?, List.min?_eq_some_iff, List.mem_map]
  simp

variable {σ : Type}

/-- What a turn makes of a pass and of the state. -/
inductive Turned (handler : Handler Call.Answer σ) (u : Probing) (s : σ) :
    Turn → Probing → σ → Prop
  /-- Nobody can take the turn. -/
  | idle {t : Turn} (h : isOpen t u = false) : Turned handler u s t u s
  /-- A task that has ended sends its outcome. -/
  | sends {first later : List PortTask} {w : Watch} {o : PortOutcome} {wakes : Nat}
      (ht : u.tasks = first ++ ⟨w, .done o, wakes⟩ :: later) (hawake : wakes ≤ u.now) :
      Turned handler u s (.task first.length)
        { u with tasks := first ++ later, sent := u.sent ++ [(w, o)] } s
  /-- A task goes to sleep. -/
  | sleeps {first later : List PortTask} {w : Watch} {millis : Nat}
      {next : Unit → Program Call.Answer PortOutcome} {wakes : Nat}
      (ht : u.tasks = first ++ ⟨w, .ask (.sleep millis) next, wakes⟩ :: later)
      (hawake : wakes ≤ u.now) :
      Turned handler u s (.task first.length)
        { u with tasks := first ++ ⟨w, next (), u.now + millis⟩ :: later } s
  | calls {first later : List PortTask} {w : Watch} {call : Call}
      {next : call.Answer → Program Call.Answer PortOutcome} {wakes : Nat}
      (ht : u.tasks = first ++ ⟨w, .ask call next, wakes⟩ :: later) (hawake : wakes ≤ u.now)
      (hcall : ∀ millis, call ≠ .sleep millis) :
      Turned handler u s (.task first.length)
        { u with tasks := first ++ ⟨w, next (handler call s).1, wakes⟩ :: later }
        (handler call s).2
  /-- Time passes until the first task wakes. -/
  | passes {wakes : Nat} (hfirst : u.wakesFirst? = some wakes) (hasleep : u.now < wakes) :
      Turned handler u s .pause { u with now := wakes }
        (handler (.sleep (wakes - u.now)) s).2

variable (handler : Handler Call.Answer σ)

theorem turned_taskTurn (index : Nat) (u : Probing) (s : σ) :
    Turned handler u s (.task index) (u.taskTurn handler index s).1
      (u.taskTurn handler index s).2 := by
  unfold taskTurn
  split
  · next hnone => exact .idle (by simp [isOpen, hnone])
  · next t ht =>
    split
    · next hasleep => exact .idle (by simpa [isOpen, ht] using hasleep)
    · next hnot =>
      have hawake : t.wakes ≤ u.now := Nat.le_of_not_lt hnot
      obtain ⟨first, later, hsplit, rfl, herase, hset⟩ := exists_split ht
      obtain ⟨w, task, wakes⟩ := t
      dsimp only
      split
      · rw [herase]
        exact .sends hsplit hawake
      · rw [hset]
        exact .sleeps hsplit hawake
      · next call next hcall =>
        rw [hset]
        refine .calls hsplit hawake fun millis heq => ?_
        subst heq
        exact hcall millis next rfl HEq.rfl

theorem turned_pauseTurn (u : Probing) (s : σ) :
    Turned handler u s .pause (u.pauseTurn handler s).1 (u.pauseTurn handler s).2 := by
  unfold pauseTurn
  split
  · next hnone => exact .idle (by simp [isOpen, wakesFirst?, hnone])
  · next wakes hfirst =>
    split
    · next hasleep => exact .passes hfirst hasleep
    · next hawake => exact .idle (by simpa [isOpen, wakesFirst?, hfirst] using hawake)

/-- A turn that is open comes to one of these, and a turn that is not changes nothing. -/
theorem turned_turn (t : Turn) (u : Probing) (s : σ) :
    Turned handler u s t (turn handler t u s).1 (turn handler t u s).2 := by
  cases t with
  | task index => exact turned_taskTurn handler index u s
  | pause => exact turned_pauseTurn handler u s

/-- What every turn keeps is kept by turns in any order. -/
theorem turns_keeps {handler : Handler Call.Answer σ} {I : Probing → σ → Prop}
    (hkeeps : ∀ t u s u' s', Turned handler u s t u' s' → I u s → I u' s') {u : Probing} {s : σ}
    (h : I u s) (ts : List Turn) : I (turns handler ts u s).1 (turns handler ts u s).2 := by
  induction ts generalizing u s with
  | nil => exact h
  | cons t rest ih => exact ih (hkeeps t _ _ _ _ (turned_turn handler t u s) h)

/-- After a turn, the same ports have a task or an outcome that has been sent. -/
theorem Turned.watched {handler : Handler Call.Answer σ} {t : Turn} {u u' : Probing} {s s' : σ}
    (h : Turned handler u s t u' s') : (u'.tasks.map (·.watch) ++ u'.sent.map (·.1)).Perm
      (u.tasks.map (·.watch) ++ u.sent.map (·.1)) := by
  cases h with
  | idle _ => exact .refl _
  | @sends first later w o wakes ht _ =>
    rw [ht]
    simp only [List.map_append, List.map_cons, List.map_nil, List.append_assoc, List.cons_append]
    rw [← List.append_assoc (later.map _)]
    exact (List.perm_append_singleton w _).append_left _
  | sleeps ht _ => simp [ht]
  | calls ht _ _ => simp [ht]
  | passes _ _ => exact .refl _

/-- As long as a task is left, somebody can take a turn. -/
theorem exists_isOpen {u : Probing} (h : u.tasks ≠ []) : ∃ t, isOpen t u = true := by
  cases hfirst : u.wakesFirst? with
  | none => exact absurd (List.map_eq_nil_iff.1 (List.min?_eq_none_iff.1 hfirst)) h
  | some wakes =>
    by_cases hasleep : u.now < wakes
    · exact ⟨.pause, by simp [isOpen, hfirst, hasleep]⟩
    · obtain ⟨⟨t, ht, rfl⟩, _⟩ := wakesFirst?_eq_some_iff.1 hfirst
      obtain ⟨index, hindex⟩ := List.getElem?_of_mem ht
      exact ⟨.task index, by simpa [isOpen, hindex] using hasleep⟩

end Fleet.Readiness.Probing
