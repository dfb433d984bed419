import Fleet.Call

/-!
# Signals that are laid down beforehand

What a platform waits for in a rehearsal: ports that refuse a number of probes before they answer, a
gateway that gives answers one after another, and a consumer group whose states follow a script.
-/

namespace Fleet

/-- Ports that answer after a number of refusals. -/
structure PortScript where
  /-- How often each port still refuses; a port without an entry answers. -/
  refusals : Table Port Nat := .empty
  /-- The ports probed, the latest first. -/
  probed : List Port := []

namespace PortScript

instance : Inhabited PortScript := ⟨{}⟩

/-- The failure of a port that refuses. -/
def refused (port : Port) : Failure := .runtime (.described s!"port {port} refused connection")

/-- Probes a port. -/
def probe (port : Port) (s : PortScript) : Outcome Unit × PortScript :=
  let s := { s with probed := port :: s.probed }
  match s.refusals.find? port with
  | some (left + 1) => (.error (refused port), { s with refusals := s.refusals.insert port left })
  | _ => (.ok (), s)

/-- A probe that always answers the same. -/
def fixed (ready : Bool) (port : Port) : Outcome Unit :=
  if ready then .ok () else .error (.runtime (.portNotReady port))

end PortScript

/-- A gateway that gives answers one after another; the last one repeats. -/
structure GatewayScript where
  /-- The answers to come. A gateway without answers is ready. -/
  answers : List (Outcome Bool) := []
  /-- How often the gateway was asked. -/
  asked : Nat := 0

namespace GatewayScript

instance : Inhabited GatewayScript := ⟨{}⟩

/-- Asks the gateway. -/
def ask (g : GatewayScript) : Outcome Bool × GatewayScript :=
  let asked := g.asked + 1
  match g.answers with
  | [] => (.ok true, { g with asked := asked })
  | [answer] => (answer, { g with asked := asked })
  | answer :: rest => (answer, ⟨rest, asked⟩)

end GatewayScript

/-- A consumer group whose states follow a script. -/
structure GroupScript where
  /-- What the next looks find. -/
  script : List (Outcome GroupState) := []
  /-- The state found last; it is found again when the script has ended. -/
  last : Option GroupState := none

namespace GroupScript

instance : Inhabited GroupScript := ⟨{}⟩

/-- A group that is always idle. -/
def idle : GroupScript := ⟨[.ok ⟨0, false⟩], none⟩

/-- Describes the group. -/
def describe (group : String) (g : GroupScript) : Outcome GroupState × GroupScript :=
  match g.script with
  | .ok state :: rest => (.ok state, ⟨rest, some state⟩)
  | .error e :: rest => (.error e, ⟨rest, g.last⟩)
  | [] =>
    match g.last with
    | some state => (.ok state, g)
    | none => (.error (.broker (.unscripted group)), g)

end GroupScript

end Fleet
