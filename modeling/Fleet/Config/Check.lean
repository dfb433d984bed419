import Fleet.Config.Basic
import Fleet.Text.Blank

/-!
# Consistent descriptions

Some contradictions show only across fields: an empty port range, a profile without a name, a poll
interval of zero, and tenants whose consortium is unknown, or has two central tenants.
`Config.check` reports the first of them; tenants are looked at in name order.
-/

namespace Fleet.Config

/-- Looks at tenants in their order; `centrals` are the consortiums whose central tenant has been
met. -/
def checkTenants (consortiums : Table String Consortium) (centrals : List String) :
    List (String × Tenant) → Outcome Unit
  | [] => .ok ()
  | (name, tenant) :: rest =>
    match tenant.consortium with
    | none =>
      if tenant.central then .error (.config (.centralWithoutConsortium name))
      else checkTenants consortiums centrals rest
    | some consortium =>
      if !consortiums.contains consortium then
        .error (.config (.unknownConsortium name consortium))
      else if tenant.central then
        if centrals.contains consortium then .error (.config (.secondCentral consortium))
        else checkTenants consortiums (consortium :: centrals) rest
      else checkTenants consortiums centrals rest

/-- Refuses contradictory descriptions. -/
def check (c : Config) : Outcome Unit :=
  if c.ports.stop ≤ c.ports.first then .error (.config (.emptyPortRange c.ports.first c.ports.stop))
  else if (Text.trim c.profile.name).isEmpty then .error (.config .namelessProfile)
  else if c.saga.pollIntervalMillis = 0 then .error (.config .noPollInterval)
  else checkTenants c.consortiums [] c.tenants.entries

end Fleet.Config
