import Fleet.Json.Parser
import Fleet.Json.Decode
import Fleet.Module.Descriptor
import Fleet.Readiness
import Fleet.Rehearsal

/-!
# Reading rehearsals

What is laid down for a rehearsal, as JSON: refusals of ports, answers of the gateway, the script of
the consumer group, and tenants that live already. A text in place of an answer is a failure with
that wording.
-/

namespace Fleet

open Json

/-- Reads a table whose names write ports. -/
def readPorts? {α : Type} (value : Reader α) : Reader (Table Port α)
  | .object members =>
    (members.mapM fun (m : String × Json) => do
      let port ← (Json.parse? m.1).bind word16?
      let v ← value m.2
      pure (port, v)).map Table.ofList
  | _ => none

/-- Reads how a port's probing ended. -/
def PortOutcome.read? (j : Json) : Option PortOutcome := do
  let ms ← j.object?
  match lastMember "ready" ms with
  | some n => (nat32? n).map .ready
  | none =>
    let attempts ← required "timed_out" nat32? ms
    let lastError ← required "last_error" text? ms
    pure (.timedOut attempts lastError)

/-- Reads an answer of the gateway. -/
def readGatewayAnswer? : Reader (Outcome Bool)
  | .bool ready => some (.ok ready)
  | .string text => some (.error (.runtime (.described text)))
  | _ => none

/-- Reads the answers of a gateway. -/
def GatewayScript.read? (j : Json) : Option GatewayScript := do
  let answers ← list? readGatewayAnswer? j
  pure { answers }

/-- Reads a state of a consumer group: its members, and whether it is being rebalanced. -/
def GroupState.read? : Reader GroupState
  | .array [members, .bool rebalancing] => (nat32? members).map fun n => ⟨n, rebalancing⟩
  | _ => none

/-- Reads the script of a consumer group: states, and failures behind them. -/
def GroupScript.read? (j : Json) : Option GroupScript := do
  let ms ← j.object?
  let states ← withDefault "states" [] (list? GroupState.read?) ms
  let errors ← withDefault "errors" [] (list? text?) ms
  pure ⟨states.map .ok ++ errors.map fun text => .error (.broker (.described text)), none⟩

/-- Reads what a command in a container answers. -/
def readExecOutput? (j : Json) : Option (Outcome String) := do
  let ms ← j.object?
  match lastMember "ok" ms with
  | some text => (text? text).map .ok
  | none => (required "err" text? ms).map fun text => .error (.runtime (.described text))

/-- Reads a tenant that lives already: its name and its description. -/
def readLiveTenant? (j : Json) : Option (String × String) := do
  let ms ← j.object?
  let name ← required "name" text? ms
  let description ← required "description" text? ms
  pure (name, description)

/-- Creates tenants one after another, up to the first that is refused. -/
def TenantRegister.createAll (r : TenantRegister) : List (String × String) → Outcome TenantRegister
  | [] => .ok r
  | (name, description) :: rest =>
    match r.create name description with
    | (.ok _, r) => r.createAll rest
    | (.error e, _) => .error e

end Fleet
