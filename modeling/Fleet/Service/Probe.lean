import Fleet.Http.Client

/-!
# Probes of published ports

A port is probed by a request to a health page, which must report success, or by a bare connection.
A probe is one attempt, given up after five seconds.
-/

namespace Fleet.Probe

/-- The name under which a health page fails. -/
def name : String := "health"

/-- After how many milliseconds a probe is given up. -/
def patience : Nat := 5000

/-- The client of probes: it tries once. -/
def client : Http.Client := ⟨⟨1, 0⟩, patience⟩

/-- The address of a health page. -/
def address (host : String) (port : Port) (path : String) : String := s!"http://{host}:{port}{path}"

/-- Asks for a health page. -/
def page (host path : String) (port : Port) : Errand Unit := do
  let reply ← client.raw { method := .get, address := address host port path }
  if reply.isSuccess then pure () else throw (.answered name reply.status "")

/-- Connects to a port. -/
def connection (host : String) (port : Port) : Errand Unit := do
  match ← ExceptT.lift (Program.perform (MachineCall.connect host port patience)) with
  | .made => pure ()
  | .failed fault => throw (.system fault)
  | .timedOut => throw (.runtime (.connectTimedOut host port))

/-- The probe of a description. -/
def ofConfig (r : Config.Readiness) (port : Port) : Errand Unit :=
  match r.probe with
  | .http => page r.host r.healthPath port
  | .tcp => connection r.host port

end Fleet.Probe
