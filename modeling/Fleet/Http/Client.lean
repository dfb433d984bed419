import Fleet.Budget
import Fleet.Json.Decode
import Fleet.Json.Parser
import Fleet.Machine

/-!
# Exchanges with web services

A client sends a request until an answer is worth keeping: failures of the service itself, failed
connections and timeouts are tried again, a fixed delay apart, while the budget lasts. Every other
answer is kept, and so is the last one.

A request that cannot be sent is never sent.
-/

namespace Fleet.Http

/-- How requests are sent. -/
structure Client where
  budget : Budget
  /-- After how many milliseconds a request is given up. -/
  patience : Nat
  deriving Repr

namespace Client

/-- The budget of a description. -/
def budgetOf (h : Config.Http) : Budget := .atLeastOne h.attempts h.retryDelayMillis

/-- The client of a description. -/
def ofConfig (h : Config.Http) : Client := ⟨budgetOf h, 1000 * h.timeoutSecs⟩

/-- Whether another attempt may bring a better answer. -/
def isTransient : Except TransportFault Reply → Bool
  | .ok reply => reply.isServerError
  | .error .connect | .error .timeout => true
  | .error _ => false

/-- Sends a message, and again while the answer is transient; `more` is how many attempts are left
after this one. -/
def attempt (c : Client) (m : Message) : (more : Nat) →
    Program MachineCall.Answer (Except TransportFault Reply)
  | 0 => Program.perform (MachineCall.exchange m c.patience)
  | more + 1 => do
    let answer ← Program.perform (MachineCall.exchange m c.patience)
    if isTransient answer then
      let _ ← Program.perform (MachineCall.sleep c.budget.delayMillis)
      attempt c m more
    else pure answer

/-- Sends a request, and answers the reply whatever its status. -/
def raw (c : Client) (r : Request) : Errand Reply := do
  match r.message? with
  | none => throw (.transport .broken)
  | some m =>
    match ← ExceptT.lift (c.attempt m (c.budget.attempts - 1)) with
    | .ok reply => pure reply
    | .error fault => throw (.transport fault)

/-- How many bytes of a reply's body a failure keeps. -/
def bodyLimit : Nat := 512

/-- Refuses a reply that reports no success. -/
def success (service : String) (r : Reply) : Outcome Reply :=
  if r.isSuccess then .ok r
  else .error (.answered service r.status (Text.takeBytes bodyLimit r.body))

/-- What a reply's body stands for. -/
def decode {α : Type} (read : Reader α) (r : Reply) : Outcome α :=
  match (Json.parse? r.body).bind read with
  | some a => .ok a
  | none => .error (.transport .undecodable)

/-- Sends a request that must succeed. -/
def send (c : Client) (service : String) (r : Request) : Errand Reply := do
  let reply ← c.raw r
  ExceptT.mk (pure (success service reply))

/-- Sends a request that must succeed, and reads the reply's body. -/
def json {α : Type} (c : Client) (service : String) (read : Reader α) (r : Request) : Errand α := do
  let reply ← c.send service r
  ExceptT.mk (pure (decode read reply))

/-- Sends a request for which one status besides success is fine. Whether the reply has that status
is the answer. -/
def sendUnless (c : Client) (service : String) (status : Nat) (r : Request) : Errand Bool := do
  let reply ← c.raw r
  if reply.status = status then pure true
  else
    let _ ← ExceptT.mk (pure (success service reply))
    pure false

end Client

end Fleet.Http
