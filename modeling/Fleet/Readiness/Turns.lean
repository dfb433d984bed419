import Fleet.Readiness

/-!
# Tasks that await ports, and take turns

Every port of a pass is awaited by a task of its own, which probes it until it answers or the budget
is used up and sleeps in between. The tasks take turns: at a turn a task goes on by one call, unless
it sleeps. When all tasks sleep, time passes until the first of them wakes. So nothing takes time
but sleeping, and the tasks sleep side by side.

A task that has ended sends the outcome of its port. There is room for the outcomes of all tasks, so
no task waits for that. When no task is left, the pass comes to a `verdict` on the outcomes, in the
order in which they were sent.

What an order of turns brings about is a matter of `turns`; a law for every order is a law for all
lists of turns.
-/

namespace Fleet.Readiness

/-- Awaits a port for the attempts that are left; `attempt` is the number of the next one. -/
def awaitPort (delayMillis : Nat) (port : Port) : Nat → Nat → Program Call.Answer PortOutcome
  | 0, attempt => pure (.timedOut (attempt - 1) "")
  | left + 1, attempt => do
    match ← Program.perform (Call.probe port) with
    | .ok () => pure (.ready attempt)
    | .error e =>
      if left == 0 then pure (.timedOut attempt e.message)
      else
        let _ ← Program.perform (Call.sleep delayMillis)
        awaitPort delayMillis port left (attempt + 1)

/-- As long as there are attempts, the port is probed next. -/
theorem awaitPort_succ (delayMillis : Nat) (port : Port) (left attempt : Nat) :
    awaitPort delayMillis port (left + 1) attempt = .ask (.probe port) fun answer =>
      match answer with
      | .ok () => .done (.ready attempt)
      | .error e =>
        if left == 0 then .done (.timedOut attempt e.message)
        else .ask (.sleep delayMillis) fun _ => awaitPort delayMillis port left (attempt + 1) := by
  rw [awaitPort]
  refine congrArg (Program.ask (Call.probe port)) (funext fun answer => ?_)
  cases answer with
  | ok _ => rfl
  | error e => cases left <;> rfl

/-- A task that awaits a port. -/
structure PortTask where
  watch : Watch
  /-- What is left of the task. -/
  task : Program Call.Answer PortOutcome
  /-- When the task wakes, if it sleeps, and else when it woke. -/
  wakes : Nat

/-- A pass whose ports are being awaited. -/
structure Probing where
  /-- The tasks that have not sent the outcome of their port yet. -/
  tasks : List PortTask
  /-- How long the pass has been under way. -/
  now : Nat := 0
  /-- The outcomes that have been sent, the earliest first. -/
  sent : List (Watch × PortOutcome) := []

/-- Whose turn it is. -/
inductive Turn
  /-- The turn of one of the tasks. -/
  | task (index : Nat)
  /-- Time passes. -/
  | pause
  deriving DecidableEq, Repr

/-- What a pass comes to by the outcomes of its ports. -/
def verdict (kind : ModuleKind) (outcomes : List (Watch × PortOutcome)) : Outcome ReadinessReport :=
  let r := report kind outcomes
  if r.unready.isEmpty then .ok r else .error (.notReady r.unready)

namespace Probing

variable {σ : Type}

/-- A pass that begins. -/
def start (b : Budget) (ws : List Watch) : Probing where
  tasks := ws.map fun w => ⟨w, awaitPort b.delayMillis w.port b.attempts 1, 0⟩

/-- A task goes on by one call, unless it sleeps. A task that has ended sends its outcome. -/
def taskTurn (handler : Handler Call.Answer σ) (index : Nat) (u : Probing) (s : σ) : Probing × σ :=
  match u.tasks[index]? with
  | none => (u, s)
  | some t =>
    if u.now < t.wakes then (u, s)
    else
      match t.task with
      | .done o => ({ u with tasks := u.tasks.eraseIdx index, sent := u.sent ++ [(t.watch, o)] }, s)
      | .ask (.sleep millis) next =>
        ({ u with tasks := u.tasks.set index ⟨t.watch, next (), u.now + millis⟩ }, s)
      | .ask call next =>
        let (answer, s) := handler call s
        ({ u with tasks := u.tasks.set index ⟨t.watch, next answer, t.wakes⟩ }, s)

/-- When all tasks sleep, time passes until the first of them wakes. -/
def pauseTurn (handler : Handler Call.Answer σ) (u : Probing) (s : σ) : Probing × σ :=
  match (u.tasks.map (·.wakes)).min? with
  | none => (u, s)
  | some wakes =>
    if u.now < wakes then ({ u with now := wakes }, (handler (.sleep (wakes - u.now)) s).2)
    else (u, s)

/-- A turn is taken. A turn that nobody can take changes nothing. -/
def turn (handler : Handler Call.Answer σ) : Turn → Probing → σ → Probing × σ
  | .task index, u, s => u.taskTurn handler index s
  | .pause, u, s => u.pauseTurn handler s

/-- Turns are taken, one after another. -/
def turns (handler : Handler Call.Answer σ) : List Turn → Probing → σ → Probing × σ
  | [], u, s => (u, s)
  | t :: rest, u, s =>
    let (u, s) := turn handler t u s
    turns handler rest u s

variable {handler : Handler Call.Answer σ}

@[simp]
theorem turns_nil (u : Probing) (s : σ) : turns handler [] u s = (u, s) := rfl

@[simp]
theorem turns_cons (t : Turn) (rest : List Turn) (u : Probing) (s : σ) :
    turns handler (t :: rest) u s =
      turns handler rest (turn handler t u s).1 (turn handler t u s).2 := rfl

end Probing

/-- Awaiting every port in rounds comes to the verdict on the outcomes of the rounds. -/
theorem run_checkAll {σ : Type} (handler : Handler Call.Answer σ) (b : Budget) (kind : ModuleKind)
    (ports : Table String ModulePorts) (s : σ) :
    Program.run handler (checkAll b kind ports).run s =
      (verdict kind ((rounds b.delayMillis b.attempts 1 (watches ports)).run handler s).1,
        ((rounds b.delayMillis b.attempts 1 (watches ports)).run handler s).2) := by
  have hlift : Program.run handler
      (ExceptT.lift (rounds b.delayMillis b.attempts 1 (watches ports)) : Action _).run s =
      (.ok ((rounds b.delayMillis b.attempts 1 (watches ports)).run handler s).1,
        ((rounds b.delayMillis b.attempts 1 (watches ports)).run handler s).2) := by
    show Program.run handler (Program.bind _ fun o => .done (Except.ok o)) s = _
    rw [Program.run_bind]
    rfl
  rw [checkAll, Program.run_bind_of_ok hlift, verdict]
  dsimp only
  split <;> rfl

end Fleet.Readiness
