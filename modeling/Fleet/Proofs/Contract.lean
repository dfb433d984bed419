import Fleet.Call

/-!
# Contracts

A contract names the calls that a program may make and the answers that it may count on. A program
keeps a contract with a claim on its value if, as long as every answer is one to count on, it makes
allowed calls only and ends with a value for which the claim holds (`Program.Keeps`).

Contracts are read off the tree of a program, without a state; they follow its structure
(`keeps_bind`). What they are good for is `Keeps.run`: an invariant that a handler keeps at the
allowed calls is kept by every run, and the claim holds of what the run answers. They do not say
that a call is made, and nothing about the order of calls.
-/

namespace Fleet

/-- The calls that a program may make, and the answers that it may count on. -/
structure Contract {Call : Type} (Answer : Call → Type) where
  allows : Call → Prop
  expects : (call : Call) → Answer call → Prop

namespace Contract

variable {Call σ : Type} {Answer : Call → Type}

/-- A handler does its part at the states of an invariant: its steps for allowed calls keep the
invariant and answer as expected. -/
def Served (c : Contract Answer) (handler : Handler Answer σ) (Inv : σ → Prop) : Prop :=
  ∀ call s, c.allows call → Inv s →
    c.expects call (handler call s).1 ∧ Inv (handler call s).2

end Contract

namespace Program

variable {Call σ α β : Type} {Answer : Call → Type} {c : Contract Answer}

/-- A program makes allowed calls only, and its value satisfies `Q`. -/
def Keeps (c : Contract Answer) : Program Answer α → (α → Prop) → Prop
  | .done value, Q => Q value
  | .ask call next, Q =>
    c.allows call ∧ ∀ answer, c.expects call answer → (next answer).Keeps c Q

theorem Keeps.mono {p : Program Answer α} {P Q : α → Prop} (h : p.Keeps c P)
    (hPQ : ∀ value, P value → Q value) : p.Keeps c Q := by
  induction p with
  | done value => exact hPQ value h
  | ask call next ih => exact ⟨h.1, fun answer ha => ih answer (h.2 answer ha)⟩

/-- A program behind another keeps the contract for the values that the first one ends with. -/
theorem keeps_bind {p : Program Answer α} {f : α → Program Answer β} {Q : β → Prop} :
    (p >>= f).Keeps c Q ↔ p.Keeps c fun value => (f value).Keeps c Q := by
  induction p with
  | done value => exact Iff.rfl
  | ask call next ih =>
    exact and_congr_right fun _ => forall_congr' fun answer => imp_congr_right fun _ => ih answer

theorem keeps_pure {value : α} {Q : α → Prop} :
    (pure value : Program Answer α).Keeps c Q ↔ Q value := Iff.rfl

theorem keeps_map {p : Program Answer α} {f : α → β} {Q : β → Prop} :
    (f <$> p).Keeps c Q ↔ p.Keeps c fun value => Q (f value) := by
  rw [map_eq_pure_bind, keeps_bind]
  exact Iff.rfl

variable {handler : Handler Answer σ} {Inv : σ → Prop}

/-- A run keeps what the handler keeps at allowed calls, and answers as the program claims. -/
theorem Keeps.run {p : Program Answer α} {Q : α → Prop} (h : p.Keeps c Q)
    (hserved : c.Served handler Inv) {s : σ} (hs : Inv s) :
    Q (p.run handler s).1 ∧ Inv (p.run handler s).2 := by
  induction p generalizing s with
  | done value => exact ⟨h, hs⟩
  | ask call next ih =>
    obtain ⟨hanswer, hs'⟩ := hserved call s h.1 hs
    exact ih _ (h.2 _ hanswer) hs'

/-- What is left of a program after its next call keeps the contract as the program did. -/
theorem Keeps.advance {p : Program Answer α} {Q : α → Prop} (h : p.Keeps c Q)
    (hserved : c.Served handler Inv) {s : σ} (hs : Inv s) :
    (p.advance handler s).1.Keeps c Q ∧ Inv (p.advance handler s).2 := by
  cases p with
  | done value => exact ⟨h, hs⟩
  | ask call next =>
    obtain ⟨hanswer, hs'⟩ := hserved call s h.1 hs
    exact ⟨h.2 _ hanswer, hs'⟩

end Program

namespace Action

variable {α β : Type} {c : Contract Call.Answer}

/-- An action makes allowed calls only, and if it has an answer, the answer satisfies `Q`. -/
def Keeps (c : Contract Call.Answer) (a : Action α) (Q : α → Prop) : Prop :=
  Program.Keeps c a.run fun o => ∀ value, o = .ok value → Q value

/-- An action makes allowed calls only. -/
abbrev Within (c : Contract Call.Answer) (a : Action α) : Prop := a.Keeps c fun _ => True

theorem Keeps.mono {a : Action α} {P Q : α → Prop} (h : a.Keeps c P)
    (hPQ : ∀ value, P value → Q value) : a.Keeps c Q :=
  Program.Keeps.mono h fun _ ho value hvalue => hPQ value (ho value hvalue)

theorem Keeps.within {a : Action α} {P : α → Prop} (h : a.Keeps c P) : a.Within c :=
  h.mono fun _ _ => trivial

/-- The program of an action makes the calls of the action. -/
theorem Within.run {a : Action α} (h : a.Within c) : Program.Keeps c a.run fun _ => True :=
  Program.Keeps.mono h fun _ _ => trivial

theorem keeps_pure {value : α} {Q : α → Prop} (h : Q value) : (pure value : Action α).Keeps c Q :=
  fun _ heq => Except.ok.inj heq ▸ h

theorem keeps_throw {e : Failure} {Q : α → Prop} : (throw e : Action α).Keeps c Q :=
  fun _ heq => nomatch heq

/-- An outcome that is known already. -/
theorem keeps_mk_pure {o : Outcome α} {Q : α → Prop} (h : ∀ value, o = .ok value → Q value) :
    Action.Keeps c (ExceptT.mk (pure o)) Q := h

theorem keeps_bind {a : Action α} {f : α → Action β} {P : α → Prop} {Q : β → Prop}
    (ha : a.Keeps c P) (hf : ∀ value, P value → (f value).Keeps c Q) : (a >>= f).Keeps c Q := by
  show Program.Keeps c (a.run >>= ExceptT.bindCont f) _
  refine Program.keeps_bind.2 (Program.Keeps.mono ha fun o ho => ?_)
  cases o with
  | ok value => exact hf value (ho value rfl)
  | error e => exact fun _ heq => nomatch heq

theorem within_bind {a : Action α} {f : α → Action β} (ha : a.Within c)
    (hf : ∀ value, (f value).Within c) : (a >>= f).Within c :=
  keeps_bind ha fun value _ => hf value

theorem keeps_lift {p : Program Call.Answer α} {Q : α → Prop} (h : p.Keeps c Q) :
    Action.Keeps c (ExceptT.lift p) Q := by
  show Program.Keeps c (Except.ok <$> p) _
  exact Program.keeps_map.2 (h.mono fun value hv _ heq => Except.ok.inj heq ▸ hv)

theorem keeps_outcome {a : Action α} {P : α → Prop} (h : a.Keeps c P) :
    a.outcome.Keeps c fun o => ∀ value, o = .ok value → P value :=
  keeps_lift h

theorem within_outcome {a : Action α} (h : a.Within c) : a.outcome.Within c :=
  (keeps_outcome h).within

/-- A program makes the calls of an action whose outcome it goes on with. -/
theorem keeps_run_bind {a : Action α} {f : Outcome α → Program Call.Answer β} {Q : β → Prop}
    (ha : a.Within c) (hf : ∀ o, (f o).Keeps c Q) : (a.run >>= f).Keeps c Q :=
  Program.keeps_bind.2 (Program.Keeps.mono ha fun o _ => hf o)

/-! ## Actions that can only end well -/

/-- As long as every answer is one to count on, the action ends well, and with such a value. -/
def Succeeds (c : Contract Call.Answer) (a : Action α) (Q : α → Prop) : Prop :=
  Program.Keeps c a.run fun o => ∃ value, o = .ok value ∧ Q value

theorem succeeds_pure {value : α} {Q : α → Prop} (h : Q value) :
    (pure value : Action α).Succeeds c Q := ⟨value, rfl, h⟩

theorem succeeds_bind {a : Action α} {f : α → Action β} {P : α → Prop} {Q : β → Prop}
    (ha : a.Succeeds c P) (hf : ∀ value, P value → (f value).Succeeds c Q) :
    (a >>= f).Succeeds c Q := by
  show Program.Keeps c (a.run >>= ExceptT.bindCont f) _
  refine Program.keeps_bind.2 (Program.Keeps.mono ha fun o ho => ?_)
  obtain ⟨value, rfl, hvalue⟩ := ho
  exact hf value hvalue

theorem succeeds_lift {p : Program Call.Answer α} {Q : α → Prop} (h : p.Keeps c Q) :
    Action.Succeeds c (ExceptT.lift p) Q := by
  show Program.Keeps c (Except.ok <$> p) _
  exact Program.keeps_map.2 (h.mono fun value hvalue => ⟨value, rfl, hvalue⟩)

theorem succeeds_outcome {a : Action α} {Q : α → Prop} (h : a.Succeeds c Q) :
    a.outcome.Succeeds c fun o => ∃ value, o = .ok value ∧ Q value :=
  succeeds_lift h

end Action

end Fleet
