import Fleet.Http.Client

/-!
# The management service over the web

The service lists, creates and removes tenants, entitles them to applications, and registers
applications and the places where modules are reached. What is there already, or gone already,
counts as done.
-/

namespace Fleet

open Json

/-- Reads a tenant. -/
def TenantRecord.read? (j : Json) : Option TenantRecord := do
  let ms ← fields? ["id", "name", "description"] j
  pure {
    id := ← required "id" text? ms
    name := ← required "name" text? ms
    description := ← withDefault "description" "" text? ms }

/-- Reads a module as an application names it. -/
def ModuleRef.read? (j : Json) : Option ModuleRef := do
  let ms ← fields? ["id", "name", "version"] j
  pure {
    id := ← required "id" text? ms
    name := ← required "name" text? ms
    version := ← required "version" text? ms }

/-- A module as an application names it. -/
def ModuleRef.view (m : ModuleRef) : Json :=
  .object [("id", .string m.id), ("name", .string m.name), ("version", .string m.version)]

/-- Reads an application. -/
def ApplicationDescriptor.read? (j : Json) : Option ApplicationDescriptor := do
  let ms ← fields? ["id", "name", "version", "platform", "modules"] j
  pure {
    id := ← required "id" text? ms
    name := ← required "name" text? ms
    version := ← required "version" text? ms
    platform := ← required "platform" text? ms
    modules := ← required "modules" (list? ModuleRef.read?) ms }

/-- An application. -/
def ApplicationDescriptor.view (a : ApplicationDescriptor) : Json :=
  .object [("id", .string a.id), ("name", .string a.name), ("version", .string a.version),
    ("platform", .string a.platform), ("modules", .array (a.modules.map ModuleRef.view))]

/-- Reads where a module is reached. -/
def Discovery.read? (j : Json) : Option Discovery := do
  let ms ← fields? ["id", "name", "version", "location"] j
  pure {
    id := ← required "id" text? ms
    name := ← required "name" text? ms
    version := ← required "version" text? ms
    location := ← required "location" text? ms }

/-- Where a module is reached. -/
def Discovery.view (d : Discovery) : Json :=
  .object [("id", .string d.id), ("name", .string d.name), ("version", .string d.version),
    ("location", .string d.location)]

/-- A client of the management service. -/
structure ManagementService where
  client : Http.Client
  /-- The service's address, without slashes at its end. -/
  address : String

namespace ManagementService

/-- The name under which the service fails. -/
def name : String := "management"

/-- How many tenants are listed at most. -/
def listLimit : Nat := 10000

/-- A client of the service at an address. -/
def ofAddress (client : Http.Client) (address : String) : ManagementService :=
  ⟨client, Text.dropTrailing '/' address⟩

/-- A request to the service. -/
def request (s : ManagementService) (method : Http.Method) (token : Token) (path : String)
    (body : Http.Body) : Http.Request where
  method := method
  address := s.address ++ path
  headers := [Http.bearer token]
  body := body

/-- Reads a list of tenants. -/
def readTenants? (j : Json) : Option (List TenantRecord) := do
  let ms ← fields? ["tenants"] j
  withDefault "tenants" [] (list? TenantRecord.read?) ms

/-- A tenant and applications in the body of a request. -/
def entitlement (id : String) (applications : List String) : Http.Body :=
  .json (.object [("tenantId", .string id), ("applications", ofTexts applications)])

/-- Every tenant, in the order of the service. -/
def tenants (s : ManagementService) (token : Token) : Errand (List TenantRecord) :=
  s.client.json name readTenants?
    (s.request .get token s!"/tenants?limit={listLimit}" .empty)

/-- Creates a tenant. -/
def createTenant (s : ManagementService) (token : Token) (tenant description : String) :
    Errand TenantRecord :=
  s.client.json name TenantRecord.read?
    (s.request .post token "/tenants"
      (.json (.object [("name", .string tenant), ("description", .string description)])))

/-- Removes a tenant; one that is gone already is fine. -/
def removeTenant (s : ManagementService) (token : Token) (id : String) : Errand Unit := do
  let _ ← s.client.sendUnless name 404
    (s.request .delete token s!"/tenants/{id}?purgeKafkaTopics=true" .empty)

/-- Entitles a tenant to applications. -/
def entitle (s : ManagementService) (token : Token) (id : String) (applications : List String) :
    Errand Unit := do
  let _ ← s.client.send name (s.request .post token "/entitlements" (entitlement id applications))

/-- Revokes a tenant's entitlements. -/
def revoke (s : ManagementService) (token : Token) (id : String) (applications : List String) :
    Errand Unit := do
  let _ ← s.client.send name
    (s.request .delete token "/entitlements?purge=true" (entitlement id applications))

/-- Registers an application; one that is registered already is fine. -/
def createApplication (s : ManagementService) (token : Token) (a : ApplicationDescriptor) :
    Errand Unit := do
  let _ ← s.client.sendUnless name 409
    (s.request .post token "/applications?check=false" (.json a.view))

/-- Registers where modules are reached, unless there are none; what is registered already is fine.
-/
def registerDiscovery (s : ManagementService) (token : Token) (modules : List Discovery) :
    Errand Unit := do
  unless modules.isEmpty do
    let body := Json.object [("discovery", .array (modules.map Discovery.view))]
    let _ ← s.client.sendUnless name 409 (s.request .post token "/modules/discovery" (.json body))

/-- What the service does with a call. -/
def serve (s : ManagementService) : (call : ManagementCall) → Program MachineCall.Answer call.Answer
  | .tenants token => (s.tenants token).run
  | .createTenant token tenant description => (s.createTenant token tenant description).run
  | .removeTenant token id => (s.removeTenant token id).run
  | .entitle token id applications => (s.entitle token id applications).run
  | .revoke token id applications => (s.revoke token id applications).run
  | .createApplication token a => (s.createApplication token a).run
  | .registerDiscovery token modules => (s.registerDiscovery token modules).run

end ManagementService

end Fleet
