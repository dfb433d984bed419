import Fleet.Budget
import Fleet.Call
import Fleet.Module.Descriptor

/-!
# Readiness

All published ports of a pass are probed side by side, in rounds. A round probes every port that has
not answered yet; between two rounds passes a fixed delay. A port is given up after the budget of
attempts, and a module with such a port is not ready. So a pass takes as long as its slowest port.

The gateway is awaited with the same budget.
-/

namespace Fleet

/-- The budget of a description. -/
def Budget.ofReadiness (r : Config.Readiness) : Budget :=
  .atLeastOne r.maxRetries r.retryDelayMillis

/-- How the probing of one port ended. -/
inductive PortOutcome
  | ready (attempts : Nat)
  | timedOut (attempts : Nat) (lastError : String)
  deriving DecidableEq, Repr

/-- Whether the port answered. -/
def PortOutcome.isReady : PortOutcome → Bool
  | .ready _ => true
  | .timedOut _ _ => false

/-- The outcomes of a pass, by module and port. -/
structure ReadinessReport where
  kind : ModuleKind
  records : Table String (Table Port PortOutcome)

namespace ReadinessReport

/-- The modules with a port that never answered, in name order. -/
def unready (r : ReadinessReport) : List String :=
  (r.records.entries.filter fun e => e.2.values.any fun o => !o.isReady).map (·.1)

/-- How many ports were probed. -/
def portCount (r : ReadinessReport) : Nat :=
  r.records.values.foldl (fun n ports => n + ports.size) 0

/-- The report in one line. -/
def text (r : ReadinessReport) : String :=
  s!"{r.kind.text} pass: {r.records.size} modules, {r.portCount} ports, {r.unready.length} unready"

end ReadinessReport

namespace Readiness

/-- A port that is awaited, with its module. -/
structure Watch where
  module : String
  port : Port
  deriving DecidableEq, Repr

/-- The ports of a pass, in the order in which they are probed. -/
def watches (ports : Table String ModulePorts) : List Watch :=
  ports.entries.flatMap fun (module, p) => p.toList.map fun port => ⟨module, port⟩

/-- Probes ports, one after another. -/
def probeRound : List Watch → Program Call.Answer (List (Watch × Outcome Unit))
  | [] => pure []
  | w :: rest => do
    let answer ← Program.perform (Call.probe w.port)
    let answers ← probeRound rest
    pure ((w, answer) :: answers)

/-- What is settled after an attempt; the last attempt settles everything. -/
def settled (attempt : Nat) (last : Bool) : List (Watch × Outcome Unit) → List (Watch × PortOutcome)
  | [] => []
  | (w, .ok ()) :: rest => (w, .ready attempt) :: settled attempt last rest
  | (w, .error e) :: rest =>
    if last then (w, .timedOut attempt e.message) :: settled attempt last rest
    else settled attempt last rest

/-- The ports that did not answer. -/
def silent : List (Watch × Outcome Unit) → List Watch
  | [] => []
  | (_, .ok ()) :: rest => silent rest
  | (w, .error _) :: rest => w :: silent rest

/-- Probes ports for the rounds that are left; `attempt` is the number of the next one. The outcomes
are in the order in which they are settled. -/
def rounds (delayMillis : Nat) :
    Nat → Nat → List Watch → Program Call.Answer (List (Watch × PortOutcome))
  | 0, _, _ => pure []
  | left + 1, attempt, ws => do
    let answers ← probeRound ws
    let now := settled attempt (left == 0) answers
    let waiting := silent answers
    if waiting.isEmpty || left == 0 then pure now
    else
      let _ ← Program.perform (Call.sleep delayMillis)
      let later ← rounds delayMillis left (attempt + 1) waiting
      pure (now ++ later)

/-- Files the outcome of a port. -/
def record (records : Table String (Table Port PortOutcome)) (entry : Watch × PortOutcome) :
    Table String (Table Port PortOutcome) :=
  let (w, o) := entry
  records.insert w.module (((records.find? w.module).getD .empty).insert w.port o)

/-- The report of settled ports. -/
def report (kind : ModuleKind) (outcomes : List (Watch × PortOutcome)) : ReadinessReport :=
  ⟨kind, outcomes.foldl record .empty⟩

/-- Awaits every port of a pass. -/
def checkAll (b : Budget) (kind : ModuleKind) (ports : Table String ModulePorts) :
    Action ReadinessReport := do
  let outcomes ← ExceptT.lift (rounds b.delayMillis b.attempts 1 (watches ports))
  let r := report kind outcomes
  if r.unready.isEmpty then pure r else throw (.notReady r.unready)

/-- The name under which the gateway is reported. -/
def gatewayName : String := "api-gateway"

/-- Asks the gateway for the attempts that are left. -/
def gatewayRounds (delayMillis : Nat) : Nat → Action Unit
  | 0 => throw (.notReady [gatewayName])
  | left + 1 => do
    let status ← ExceptT.lift (Program.perform Call.gatewayStatus)
    match status with
    | .ok true => pure ()
    | _ =>
      if left == 0 then throw (.notReady [gatewayName])
      else
        Action.sleep delayMillis
        gatewayRounds delayMillis left

/-- Awaits the gateway. -/
def awaitGateway (b : Budget) : Action Unit := gatewayRounds b.delayMillis b.attempts

end Readiness

end Fleet
