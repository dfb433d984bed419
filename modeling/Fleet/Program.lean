/-!
# Programs

A `Program` is what a command does, as a tree: it either ends with a value or makes a call and goes
on with the answer. Nothing happens when a program is built. A `Handler` gives the calls a meaning
as steps of a state, `Program.run` follows a program under a handler, and `Program.trace` lists the
calls made on the way with their answers, so statements about the order of effects are statements
about lists.

Main statements: `run_bind` and `trace_bind` say how runs and traces follow the structure of programs.
-/

namespace Fleet

/-- A program whose calls are answered as `Answer` says. -/
inductive Program {Call : Type} (Answer : Call → Type) (α : Type) : Type
  /-- The end, with a value. -/
  | done (value : α)
  /-- A call, and what happens with its answer. -/
  | ask (call : Call) (next : Answer call → Program Answer α)

/-- The meaning of calls as steps of a state. -/
abbrev Handler {Call : Type} (Answer : Call → Type) (σ : Type) :=
  (call : Call) → σ → Answer call × σ

/-- A step of a part of a state as a step of the whole. -/
def onPart {σ τ α : Type} (part : σ → τ) (replace : σ → τ → σ) (step : τ → α × τ) (s : σ) : α × σ :=
  let (answer, t) := step (part s)
  (answer, replace s t)

namespace Program

variable {Call : Type} {Answer : Call → Type} {α β γ σ : Type}

/-- One program behind another. -/
def bind : Program Answer α → (α → Program Answer β) → Program Answer β
  | .done value, f => f value
  | .ask call next, f => .ask call fun answer => (next answer).bind f

instance : Monad (Program Answer) where
  pure := .done
  bind := bind

/-- The program that makes one call. -/
def perform (call : Call) : Program Answer (Answer call) := .ask call .done

/-- Follows a program under a handler. -/
def run (handler : Handler Answer σ) : Program Answer α → σ → α × σ
  | .done value, s => (value, s)
  | .ask call next, s =>
    let (answer, s) := handler call s
    (next answer).run handler s

/-- Makes the next call of a program, if there is one, and answers what is left of it. -/
def advance (handler : Handler Answer σ) : Program Answer α → σ → Program Answer α × σ
  | .done value, s => (.done value, s)
  | .ask call next, s =>
    let (answer, s) := handler call s
    (next answer, s)

/-- The calls that a program makes under a handler, with their answers. -/
def trace (handler : Handler Answer σ) : Program Answer α → σ → List ((call : Call) × Answer call)
  | .done _, _ => []
  | .ask call next, s =>
    let (answer, s) := handler call s
    ⟨call, answer⟩ :: (next answer).trace handler s

/-! ## Runs follow the structure of programs -/

@[simp]
theorem bind_done (p : Program Answer α) : p.bind .done = p := by
  induction p with
  | done value => rfl
  | ask call next ih => simp [bind, ih]

theorem bind_assoc (p : Program Answer α) (f : α → Program Answer β) (g : β → Program Answer γ) :
    (p.bind f).bind g = p.bind fun a => (f a).bind g := by
  induction p with
  | done value => rfl
  | ask call next ih => simp [bind, ih]

instance : LawfulMonad (Program Answer) :=
  LawfulMonad.mk' _ (fun p => bind_done p) (fun _ _ => rfl) (fun p f g => bind_assoc p f g)

@[simp]
theorem run_pure (handler : Handler Answer σ) (value : α) (s : σ) :
    Program.run handler (pure value) s = (value, s) := rfl

theorem run_bind (handler : Handler Answer σ) (p : Program Answer α) (f : α → Program Answer β)
    (s : σ) :
    (p.bind f).run handler s = (f (p.run handler s).1).run handler (p.run handler s).2 := by
  induction p generalizing s with
  | done value => rfl
  | ask call next ih => simp [bind, run, ih]

/-- A program behind another goes on with the value that the first one ends with. -/
theorem run_bind_of {handler : Handler Answer σ} {p : Program Answer α}
    {f : α → Program Answer β} {s t : σ} {a : α} (h : p.run handler s = (a, t)) :
    Program.run handler (p >>= f) s = (f a).run handler t := by
  show Program.run handler (p.bind f) s = _
  rw [run_bind, h]

theorem trace_bind (handler : Handler Answer σ) (p : Program Answer α) (f : α → Program Answer β)
    (s : σ) :
    (p.bind f).trace handler s =
      p.trace handler s ++ (f (p.run handler s).1).trace handler (p.run handler s).2 := by
  induction p generalizing s with
  | done value => rfl
  | ask call next ih => simp [bind, run, trace, ih]

/-- A program that may fail goes on only with a value. -/
theorem run_bind_except {ε : Type} (handler : Handler Answer σ) (p : ExceptT ε (Program Answer) α)
    (f : α → ExceptT ε (Program Answer) β) (s : σ) :
    Program.run handler (p >>= f).run s =
      match Program.run handler p.run s with
      | (.ok a, s) => Program.run handler (f a).run s
      | (.error e, s) => (.error e, s) := by
  show Program.run handler (Program.bind p.run (ExceptT.bindCont f)) s = _
  rw [run_bind]
  cases h : Program.run handler p.run s with
  | mk r t => cases r <;> rfl

theorem run_bind_of_ok {ε : Type} {handler : Handler Answer σ} {p : ExceptT ε (Program Answer) α}
    {f : α → ExceptT ε (Program Answer) β} {s t : σ} {a : α}
    (h : Program.run handler p.run s = (.ok a, t)) :
    Program.run handler (p >>= f).run s = Program.run handler (f a).run t := by
  rw [run_bind_except, h]

end Program

end Fleet
