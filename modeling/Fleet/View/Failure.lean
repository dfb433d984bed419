import Fleet.Failure
import Fleet.Json.Encode

/-!
# Views of failures

A machine reader is shown the name of a failure, the kind it belongs to, and its message. A broken
exchange is shown by how it broke, and malformed data without a message, since the wording of either
is that of the network or of the data. What breaks the program off has a name only.
-/

namespace Fleet

/-- How an exchange broke. -/
def TransportFault.name : TransportFault → String
  | .connect => "connect"
  | .timeout => "timeout"
  | .undecodable => "decode"
  | .broken => "other"

/-- The name of a failure. -/
def Failure.name : Failure → String
  | .config _ => "Config"
  | .versionUnresolved _ => "ModuleVersionUnresolved"
  | .invalidModuleId _ => "InvalidModuleId"
  | .portsExhausted _ _ => "PortRangeExhausted"
  | .portTaken _ => "PortConflict"
  | .notADirectory _ _ => "InvalidLocalPath"
  | .runtime _ => "Runtime"
  | .transport _ => "Http"
  | .answered _ _ _ => "Api"
  | .broker _ => "Broker"
  | .notReady _ => "ReadinessTimeout"
  | .notQuiescent _ _ => "SagaTimeout"
  | .system _ => "Io"
  | .malformed _ => "Serialisation"
  | .internal _ => "Internal"
  | .clockExceeded => "Panic"

/-- The name and the kind of a failure. -/
def Failure.labels (e : Failure) : List (String × Json) :=
  [("error", .string e.name), ("class", .string e.kind.text)]

/-- A failure. -/
def Failure.view (e : Failure) : Json :=
  .object (match e with
    | .transport fault => e.labels ++ [("http", .string fault.name)]
    | .malformed _ => e.labels
    | .clockExceeded => [("error", .string e.name)]
    | e => e.labels ++ [("message", .string e.message)])

/-- An outcome: the answer under `ok`, or the failure. -/
def viewOutcome {α : Type} (f : α → Json) : Outcome α → Json
  | .ok a => .object [("ok", f a)]
  | .error e => e.view

end Fleet
