import Fleet.Http.Client
import Mathlib.Order.Bounds.Basic

/-!
# How often a request is sent

Against a script of answers, a request is sent until an answer is final or the attempts are used up,
whichever comes first (`Client.makes_attempt`). What comes of the request is then decided by that
last answer alone, and the answers behind it are left in the script (`Client.sends_exactly`).
-/

namespace Fleet.Http

/-- What the exchanges with a service will be answered, one after another. -/
abbrev Answers := Nat → Except TransportFault Reply

namespace Answers

/-- The answers behind the first `n` ones. -/
def drop (n : Nat) (answers : Answers) : Answers := fun k => answers (n + k)

theorem drop_drop (answers : Answers) (m n : Nat) :
    (answers.drop m).drop n = answers.drop (m + n) :=
  funext fun k => congrArg answers (Nat.add_assoc m n k).symm

/-- Every exchange takes the next answer. -/
def handler : Handler MachineCall.Answer Answers
  | .exchange _ _, answers => (answers 0, answers.drop 1)
  | .execute _ _, answers => (.timedOut, answers)
  | .connect _ _ _, answers => (.timedOut, answers)
  | .sleep _, answers => ((), answers)

end Answers

/-- An answer that no further attempt would follow: neither a failure of the service itself, nor a
failed connection, nor a timeout. -/
def Final : Except TransportFault Reply → Prop
  | .ok reply => ¬(500 ≤ reply.status ∧ reply.status < 600)
  | .error fault => fault ≠ .connect ∧ fault ≠ .timeout

/-- The numbers of attempts after which no other one is made: the limit, and the places of the
final answers. -/
def endings (limit : Nat) (answers : Answers) : Set Nat :=
  insert limit {n | ∃ k, n = k + 1 ∧ Final (answers k)}

theorem succ_mem_endings {limit n : Nat} {answers : Answers} :
    n + 1 ∈ endings limit answers ↔ n + 1 = limit ∨ Final (answers n) := by
  refine or_congr_right ⟨?_, fun h => ⟨n, rfl, h⟩⟩
  rintro ⟨k, hk, h⟩
  cases hk
  exact h

/-- The first attempt is the last one if its answer is final or the limit is reached. -/
theorem isLeast_endings_one {limit : Nat} {answers : Answers}
    (h : 1 = limit + 1 ∨ Final (answers 0)) : IsLeast (endings (limit + 1) answers) 1 := by
  refine ⟨succ_mem_endings.2 h, fun n hn => ?_⟩
  obtain rfl | ⟨_, rfl, _⟩ := hn <;> exact Nat.succ_le_succ (Nat.zero_le _)

/-- An answer that is not final makes every ending come one attempt later than it would without
it. -/
theorem isLeast_endings_succ {limit n : Nat} {answers : Answers} (hfirst : ¬Final (answers 0))
    (h : IsLeast (endings (limit + 1) (answers.drop 1)) (n + 1)) :
    IsLeast (endings (limit + 2) answers) (n + 2) := by
  have hshift : ∀ {k}, k + 2 ∈ endings (limit + 2) answers ↔
      k + 1 ∈ endings (limit + 1) (answers.drop 1) := fun {k} => by
    rw [succ_mem_endings, succ_mem_endings, Answers.drop, Nat.add_comm 1 k,
      Nat.add_right_cancel_iff, Nat.add_right_cancel_iff]
  refine ⟨hshift.2 h.1, fun j hj => ?_⟩
  match j with
  | 0 =>
    obtain hlimit | ⟨_, hzero, _⟩ := hj
    · cases hlimit
    · cases hzero
  | 1 =>
    obtain hlimit | hfinal := succ_mem_endings.1 hj
    · cases hlimit
    · exact absurd hfinal hfirst
  | k + 2 => exact Nat.succ_le_succ (h.2 (hshift.1 hj))

/-- Calls of a machine, with their answers. -/
abbrev Calls := List ((call : MachineCall) × call.Answer)

namespace Client

theorem isTransient_eq_false_iff {answer : Except TransportFault Reply} :
    isTransient answer = false ↔ Final answer := by
  cases answer with
  | ok reply => simp [isTransient, Final, Reply.isServerError]
  | error fault => cases fault <;> simp [isTransient, Final]

/-- The calls of `n` attempts: the exchanges with their answers, and a pause between each two. -/
def attempts (c : Client) (m : Message) (n : Nat) (answers : Answers) : Calls :=
  ((List.range n).map fun k => ⟨.exchange m c.patience, answers k⟩).intersperse
    ⟨.sleep c.budget.delayMillis, ()⟩

theorem attempts_succ (c : Client) (m : Message) (n : Nat) (answers : Answers) :
    c.attempts m (n + 2) answers =
      ⟨.exchange m c.patience, answers 0⟩ :: ⟨.sleep c.budget.delayMillis, ()⟩ ::
        c.attempts m (n + 1) (answers.drop 1) := by
  have hrest : ((List.range (n + 2)).map fun k =>
      (⟨.exchange m c.patience, answers k⟩ : (call : MachineCall) × call.Answer)) =
      ⟨.exchange m c.patience, answers 0⟩ ::
        (List.range (n + 1)).map fun k => ⟨.exchange m c.patience, answers.drop 1 k⟩ := by
    rw [List.range_succ_eq_map, List.map_cons, List.map_map]
    simp only [Function.comp_def, Answers.drop, Nat.add_comm 1]
  rw [attempts, hrest, attempts, List.range_succ_eq_map]
  rfl

/-- What a client does for a message against a script of answers: it makes `n` attempts and ends
with a result, and the answers behind the first `n` ones are left. -/
structure Makes {α : Type} (c : Client) (m : Message) (answers : Answers) (n : Nat)
    (p : Program MachineCall.Answer α) (result : α) : Prop where
  calls : p.trace Answers.handler answers = c.attempts m n answers
  ends : p.run Answers.handler answers = (result, answers.drop n)

/-- What is made of the last answer costs no further call. -/
theorem Makes.bind {α β : Type} {c : Client} {m : Message} {answers : Answers} {n : Nat}
    {p : Program MachineCall.Answer α} {result : α} {f : α → Program MachineCall.Answer β}
    {value : β} (h : c.Makes m answers n p result) (hf : f result = pure value) :
    c.Makes m answers n (p >>= f) value := by
  constructor
  · show (p.bind f).trace _ _ = _
    rw [Program.trace_bind, h.calls, h.ends, hf]
    exact List.append_nil _
  · rw [Program.run_bind_of h.ends, hf]
    rfl

/-! ## Attempts -/

section Attempt

variable {σ : Type} (handler : Handler MachineCall.Answer σ) (c : Client) (m : Message)
  (more : Nat) (t : σ)

/-- A final answer is kept, and behind any other one the message is sent again after a pause. -/
theorem run_attempt_succ : (c.attempt m (more + 1)).run handler t =
    if isTransient (handler (.exchange m c.patience) t).1 = true then
      (c.attempt m more).run handler
        (handler (.sleep c.budget.delayMillis) (handler (.exchange m c.patience) t).2).2
    else handler (.exchange m c.patience) t := by
  show Program.run handler (if _ then _ else _) _ = _
  split <;> rfl

theorem trace_attempt_succ : (c.attempt m (more + 1)).trace handler t =
    ⟨.exchange m c.patience, (handler (.exchange m c.patience) t).1⟩ ::
      if isTransient (handler (.exchange m c.patience) t).1 = true then
        ⟨.sleep c.budget.delayMillis, ()⟩ :: (c.attempt m more).trace handler
          (handler (.sleep c.budget.delayMillis) (handler (.exchange m c.patience) t).2).2
      else [] := by
  show _ :: Program.trace handler (if _ then _ else _) _ = _
  split <;> rfl

end Attempt

/-- The next answer is kept. -/
theorem makes_of_final {c : Client} {m : Message} {answers : Answers} (more : Nat)
    (h : isTransient (answers 0) = false) :
    c.Makes m answers 1 (c.attempt m (more + 1)) (answers 0) := by
  have hkept : ¬isTransient (answers 0) = true := Bool.eq_false_iff.1 h
  exact ⟨(trace_attempt_succ ..).trans (congrArg _ (if_neg hkept)),
    (run_attempt_succ ..).trans (if_neg hkept)⟩

/-- The message is sent again, as if it were sent for the first time. -/
theorem makes_of_transient {c : Client} {m : Message} {answers : Answers} {more n : Nat}
    {result : Except TransportFault Reply} (h : isTransient (answers 0) = true)
    (hrest : c.Makes m (answers.drop 1) (n + 1) (c.attempt m more) result) :
    c.Makes m answers (n + 2) (c.attempt m (more + 1)) result := by
  constructor
  · rw [attempts_succ, ← hrest.calls]
    exact (trace_attempt_succ ..).trans (congrArg _ (if_pos h))
  · rw [← Nat.add_comm 1 (n + 1), ← Answers.drop_drop, ← hrest.ends]
    exact (run_attempt_succ ..).trans (if_pos h)

/-- A message is sent until an answer is final or no attempt is left, and the last answer counts. -/
theorem makes_attempt (c : Client) (m : Message) (more : Nat) (answers : Answers) :
    ∃ n, IsLeast (endings (more + 1) answers) (n + 1) ∧
      c.Makes m answers (n + 1) (c.attempt m more) (answers n) := by
  induction more generalizing answers with
  | zero => exact ⟨0, isLeast_endings_one (.inl rfl), rfl, rfl⟩
  | succ more ih =>
    cases hfirst : isTransient (answers 0) with
    | false =>
      exact ⟨0, isLeast_endings_one (.inr (isTransient_eq_false_iff.1 hfirst)),
        makes_of_final more hfirst⟩
    | true =>
      have hnot : ¬Final (answers 0) := fun hfinal => by
        rw [isTransient_eq_false_iff.2 hfinal] at hfirst
        cases hfirst
      obtain ⟨n, hleast, hrest⟩ := ih (answers.drop 1)
      rw [Answers.drop, Nat.add_comm 1 n] at hrest
      exact ⟨n + 1, isLeast_endings_succ hnot hleast, makes_of_transient hfirst hrest⟩

/-! ## Requests -/

/-- What a request comes to by its last answer: the reply, whatever its status. -/
def ofAnswer : Except TransportFault Reply → Outcome Reply
  | .ok reply => .ok reply
  | .error fault => .error (.transport fault)

/-- What a request that must succeed comes to by its last answer. -/
def ofSuccess (service : String) : Except TransportFault Reply → Outcome Reply
  | .ok reply =>
    if 200 ≤ reply.status ∧ reply.status < 300 then .ok reply
    else .error (.answered service reply.status (Text.takeBytes bodyLimit reply.body))
  | .error fault => .error (.transport fault)

section Requests

variable (c : Client) (service : String) {r : Request}

/-- The last answer to the message is all that counts. -/
theorem run_raw_of_message {m : Message} (hm : r.message? = some m) :
    (c.raw r).run =
      c.attempt m (c.budget.attempts - 1) >>= fun answer => pure (ofAnswer answer) := by
  rw [raw, hm]
  simp only [ExceptT.run_bind, ExceptT.run_lift, bind_map_left]
  refine bind_congr fun answer => ?_
  cases answer <;> rfl

theorem run_raw_of_no_message (hm : r.message? = none) :
    (c.raw r).run = pure (.error (.transport .broken)) := by
  rw [raw, hm]
  rfl

theorem run_send (r : Request) :
    (c.send service r).run =
      (c.raw r).run >>= fun outcome => pure (outcome.bind (success service)) := by
  rw [send, ExceptT.run_bind]
  refine bind_congr fun outcome => ?_
  cases outcome <;> rfl

theorem ofAnswer_bind_success (answer : Except TransportFault Reply) :
    (ofAnswer answer).bind (success service) = ofSuccess service answer := by
  cases answer with
  | error fault => rfl
  | ok reply =>
    show success service reply = _
    simp only [success, ofSuccess, Reply.isSuccess, Bool.and_eq_true, decide_eq_true_eq]

theorem run_send_of_message {m : Message} (hm : r.message? = some m) :
    (c.send service r).run =
      c.attempt m (c.budget.attempts - 1) >>= fun answer => pure (ofSuccess service answer) := by
  rw [run_send, run_raw_of_message c hm, bind_assoc]
  refine bind_congr fun answer => ?_
  rw [pure_bind, ofAnswer_bind_success]

theorem run_send_of_no_message (hm : r.message? = none) :
    (c.send service r).run = pure (.error (.transport .broken)) := by
  rw [run_send, run_raw_of_no_message c hm]
  rfl

end Requests

/-- A request is sent as often as its budget and the answers say: until an answer is neither a
failure of the service nor a failed connection nor a timeout, and no more often than the budget
allows, but once in any case. Between two attempts lies one pause of the budget. The last answer
decides what comes of the request. -/
theorem sends_exactly (c : Client) (service : String) (r : Request) (answers : Answers) :
    match r.message? with
    | none =>
      (c.raw r).run = pure (.error (.transport .broken)) ∧
        (c.send service r).run = pure (.error (.transport .broken))
    | some m =>
      ∃ n, IsLeast (endings (max c.budget.attempts 1) answers) n ∧
        c.Makes m answers n (c.raw r).run (ofAnswer (answers (n - 1))) ∧
        c.Makes m answers n (c.send service r).run (ofSuccess service (answers (n - 1))) := by
  cases hm : r.message? with
  | none => exact ⟨c.run_raw_of_no_message hm, c.run_send_of_no_message service hm⟩
  | some m =>
    obtain ⟨n, hleast, hattempt⟩ := c.makes_attempt m (c.budget.attempts - 1) answers
    have hlimit : c.budget.attempts - 1 + 1 = max c.budget.attempts 1 := by omega
    refine ⟨n + 1, hlimit ▸ hleast, ?_, ?_⟩
    · rw [run_raw_of_message c hm]
      exact hattempt.bind rfl
    · rw [run_send_of_message c service hm]
      exact hattempt.bind rfl

/-- A client that makes three attempts. -/
def patientClient : Client := ⟨⟨3, 100⟩, 30000⟩

/-- A request that can be sent. -/
def routesRequest : Request := { method := .get, address := "http://localhost:8001/routes" }

/-- A service that answers from the second exchange on. -/
def awakening : Answers
  | 0 => .error .timeout
  | _ => .ok ⟨200, "[]"⟩

/-- The first attempt comes to nothing, the second is answered, and there is no third. -/
theorem sends_until_answered :
    ∃ m, routesRequest.message? = some m ∧
      (patientClient.send "gateway" routesRequest).run.trace Answers.handler awakening =
        [⟨.exchange m 30000, .error .timeout⟩, ⟨.sleep 100, ()⟩,
          ⟨.exchange m 30000, .ok ⟨200, "[]"⟩⟩] ∧
      (patientClient.send "gateway" routesRequest).run.run Answers.handler awakening =
        (.ok ⟨200, "[]"⟩, awakening.drop 2) := by
  have hsome : routesRequest.message?.isSome = true := by decide +kernel
  obtain ⟨m, hm⟩ := Option.isSome_iff_exists.1 hsome
  have hsends := sends_exactly patientClient "gateway" routesRequest awakening
  rw [hm] at hsends
  obtain ⟨n, hleast, _, hsend⟩ := hsends
  -- the first answer is not final, and the second one is
  have htwo : IsLeast (endings 3 awakening) 2 := by
    have hsilent : ¬ Final (awakening 0) := fun h => h.2 rfl
    have hanswered : Final (awakening.drop 1 0) := by
      rintro ⟨hserver, _⟩
      exact absurd hserver (by decide)
    exact isLeast_endings_succ hsilent (isLeast_endings_one (.inr hanswered))
  obtain rfl : n = 2 := hleast.unique htwo
  exact ⟨m, hm, hsend.calls, hsend.ends⟩

end Client

end Fleet.Http
