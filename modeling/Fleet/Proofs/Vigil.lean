import Fleet.Call

/-!
# Waiting, and nothing else

What is awaited answers as it will answer, whatever is done meanwhile: a `Forecast` lays down what
every probe of a port and every look at the consumer group will find. A `Vigil` is what has happened
while it was awaited. Its clock is advanced by sleeping only.
-/

namespace Fleet

/-- The answer to a call that is not expected. -/
def Call.unexpected : (call : Call) → Call.Answer call
  | .rootToken | .listing | .ensureImage _ _ | .createContainer _ | .stopContainer _
  | .removeContainer _ | .listContainers _ | .probe _ | .gatewayStatus | .describeGroup _ =>
    .error (.internal "unexpected call")
  | .identity (.accessToken _ _) | .identity (.createRoles _ _ _) | .identity (.removeRoles _ _ _)
  | .identity (.createUsers _ _ _) | .identity (.attach _ _ _) | .identity (.detach _ _ _)
  | .identity (.setLifespan _ _ _) => .error (.internal "unexpected call")
  | .management (.tenants _) | .management (.createTenant _ _ _) | .management (.removeTenant _ _)
  | .management (.entitle _ _ _) | .management (.revoke _ _ _)
  | .management (.createApplication _ _) | .management (.registerDiscovery _ _) =>
    .error (.internal "unexpected call")
  | .now => 0
  | .sleep _ => ()

/-- What will be found. -/
structure Forecast where
  /-- What the probes of a port will find, one after another. -/
  probes : Port → Nat → Outcome Unit := fun _ _ => .ok ()
  /-- What the looks at the consumer group will find, one after another. -/
  looks : Nat → Outcome GroupState := fun _ => .ok ⟨0, false⟩
  /-- What all other calls will be answered. -/
  others : (call : Call) → Call.Answer call := Call.unexpected

/-- What has happened while something was awaited. -/
structure Vigil where
  /-- The time, in milliseconds. -/
  clock : Nat := 0
  /-- The ports probed, the latest first. -/
  probed : List Port := []
  /-- When the consumer group was looked at, the latest time first. -/
  looked : List Nat := []
  deriving DecidableEq, Repr

namespace Forecast

/-- Finds what will be found. Only sleeping takes time, and the clock shows it. -/
def handler (f : Forecast) : Handler Call.Answer Vigil
  | .probe port, v =>
    (f.probes port (v.probed.count port), { v with probed := port :: v.probed })
  | .describeGroup _, v => (f.looks v.looked.length, { v with looked := v.clock :: v.looked })
  | .now, v => (v.clock, v)
  | .sleep millis, v => ((), { v with clock := v.clock + millis })
  | call, v => (f.others call, v)

end Forecast

end Fleet
