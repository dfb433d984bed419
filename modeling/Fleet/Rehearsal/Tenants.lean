import Fleet.Call

/-!
# Tenants that are only registered

A `TenantRegister` answers the calls of a management service. Tenants stand in the order in which
they were created, each under a number that is given out once. A name is registered at most once at
a time. Calls that change something are noted; a call that fails changes nothing and is not noted.
-/

namespace Fleet

/-- A management service that keeps its tenants in a list. -/
structure TenantRegister where
  /-- The tenants, in the order of their creation. -/
  tenants : List TenantRecord := []
  /-- How many tenants have been created. -/
  created : Nat := 0
  /-- The calls that changed something, in order. -/
  calls : List String := []
  /-- The applications registered, in order. -/
  applications : List ApplicationDescriptor := []
  /-- Where modules are reached, in the order of registration. -/
  discovery : List Discovery := []
  deriving DecidableEq, Repr

namespace TenantRegister

instance : Inhabited TenantRegister := ⟨{}⟩

/-- The name under which the service fails. -/
def service : String := "management"

/-- The id of the tenant with a number: four digits at least. -/
def idOf (number : Nat) : String :=
  let ds := (toString number).toList
  "tenant-" ++ String.ofList (List.replicate (4 - ds.length) '0' ++ ds)

/-- Notes a call. -/
def note (r : TenantRegister) (call : String) : TenantRegister :=
  { r with calls := r.calls ++ [call] }

/-- The tenant with an id. -/
def find? (r : TenantRegister) (id : String) : Option TenantRecord :=
  r.tenants.find? fun t => t.id == id

/-- The failure that answers a call about an unknown tenant. -/
def notFound (id : String) : Failure := .answered service 404 s!"tenant {id} not found"

/-- Creates a tenant. -/
def create (r : TenantRegister) (name description : String) :
    Outcome TenantRecord × TenantRegister :=
  if r.tenants.any fun t => t.name == name then
    (.error (.answered service 409 s!"tenant {name} already exists"), r)
  else
    let t : TenantRecord := ⟨idOf (r.created + 1), name, description⟩
    (.ok t,
      { r with
        created := r.created + 1
        tenants := r.tenants ++ [t] }.note s!"create-tenant:{name}")

/-- Removes a tenant. -/
def remove (r : TenantRegister) (id : String) : Outcome Unit × TenantRegister :=
  match r.find? id with
  | none => (.error (notFound id), r)
  | some t =>
    (.ok (),
      { r with tenants := r.tenants.filter fun u => u.id != id }.note s!"remove-tenant:{t.name}")

/-- Notes a call about a tenant and applications. -/
def noteFor (r : TenantRegister) (verb id : String) (applications : List String) :
    Outcome Unit × TenantRegister :=
  match r.find? id with
  | none => (.error (notFound id), r)
  | some t =>
    let named := ",".intercalate applications
    (.ok (), r.note s!"{verb}:{t.name}:{named}")

/-- Answers the calls of a management service. -/
def handler : Handler ManagementCall.Answer TenantRegister
  | .tenants _, r => (.ok r.tenants, r)
  | .createTenant _ name description, r => r.create name description
  | .removeTenant _ id, r => r.remove id
  | .entitle _ id applications, r => r.noteFor "entitle" id applications
  | .revoke _ id applications, r => r.noteFor "revoke" id applications
  | .createApplication _ a, r =>
    (.ok (), { r with applications := r.applications ++ [a] }.note s!"create-application:{a.id}")
  | .registerDiscovery _ modules, r =>
    (.ok (), { r with discovery := r.discovery ++ modules }.note s!"discovery:{modules.length}")

end TenantRegister

end Fleet
