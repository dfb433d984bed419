import Fleet.Http.Client

/-!
# The identity provider over the web

Tokens and the settings of realms come from the identity provider itself. Roles, users and
capability sets are reached through the gateway, and every request for them names its tenant. What a
name stands for is asked for first: `namedIds` lists the ids of roles or sets, of which the last one
of a name counts.

What is there already is passed over, and so is what is gone already.
-/

namespace Fleet

open Json

/-- A client of the identity provider. -/
structure IdentityService where
  client : Http.Client
  /-- The provider's address, without slashes at its end. -/
  address : String
  /-- The gateway's address, without slashes at its end. -/
  gateway : String
  /-- Client ids, user names and secrets. -/
  settings : Config.Identity

namespace IdentityService

/-- A client for a description's provider behind a gateway. -/
def ofConfig (client : Http.Client) (settings : Config.Identity) (gateway : String) :
    IdentityService :=
  ⟨client, Text.dropTrailing '/' settings.url, Text.dropTrailing '/' gateway, settings⟩

/-- The name under which requests for tokens and realms fail. -/
def identity : String := "identity"

/-- The name under which requests for roles fail. -/
def roles : String := "roles"

/-- The name under which requests for users fail. -/
def users : String := "users"

/-- The name under which requests for capability sets fail. -/
def capabilitySets : String := "capability-sets"

/-- How many roles or sets are listed at most. -/
def listLimit : Nat := 10000

/-- A request through the gateway about a tenant. -/
def request (s : IdentityService) (method : Http.Method) (token : Token) (tenant path : String)
    (body : Http.Body) : Http.Request where
  method := method
  address := s.gateway ++ path
  headers := [Http.bearer token, ("x-okapi-tenant", tenant), ("x-okapi-token", token.secret)]
  body := body

/-! ## Tokens and realms -/

/-- The fields of the form that asks for a token. -/
def tokenForm (s : IdentityService) (realm : String) : Grant → List (String × String)
  | .clientCredentials =>
    [("grant_type", "client_credentials"), ("client_id", s.settings.adminClientId),
      ("client_secret", s.settings.adminClientSecret)]
  | .password =>
    [("grant_type", "password"), ("client_id", realm ++ s.settings.loginClientSuffix),
      ("username", s.settings.tenantAdminUsername), ("password", s.settings.tenantAdminPassword)]

/-- Reads a token. -/
def readToken? (j : Json) : Option Token := do
  let ms ← fields? ["access_token"] j
  let secret ← required "access_token" text? ms
  pure ⟨secret⟩

/-- An access token of a realm. -/
def accessToken (s : IdentityService) (realm : String) (grant : Grant) : Errand Token :=
  s.client.json identity readToken? {
    method := .post
    address := s.address ++ "/realms/" ++ realm ++ "/protocol/openid-connect/token"
    body := .form (s.tokenForm realm grant) }

/-- Sets the lifespan of a realm's access tokens. -/
def setLifespan (s : IdentityService) (token : Token) (realm : String) (seconds : Nat) :
    Errand Unit := do
  let _ ← s.client.send identity {
    method := .put
    address := s.address ++ "/admin/realms/" ++ realm
    headers := [Http.bearer token]
    body := .json (.object [("accessTokenLifespan", ofNat seconds)]) }

/-! ## Ids by name -/

/-- Reads an id with its name. -/
def readNamed? (j : Json) : Option (String × String) := do
  let ms ← fields? ["id", "name"] j
  let id ← required "id" text? ms
  let name ← required "name" text? ms
  pure (name, id)

/-- Reads what is listed: ids with their names. -/
def readListed? (member : String) (j : Json) : Option (List (String × String)) := do
  let ms ← fields? [member] j
  withDefault member [] (list? readNamed?) ms

/-- Reads a list of ids by their names. -/
def readNamedList? (member : String) (j : Json) : Option Texts :=
  (readListed? member j).map Table.ofList

/-- The ids by name that a listing under a path gives. -/
def namedIds (s : IdentityService) (service member path : String) (token : Token)
    (tenant : String) :
    Errand Texts :=
  s.client.json service (readNamedList? member)
    (s.request .get token tenant (path ++ s!"?limit={listLimit}") .empty)

/-- The ids of roles by name. -/
def roleIds (s : IdentityService) (token : Token) (tenant : String) : Errand Texts :=
  s.namedIds roles "roles" "/roles" token tenant

/-- The ids of capability sets by name. -/
def setIds (s : IdentityService) (token : Token) (tenant : String) : Errand Texts :=
  s.namedIds capabilitySets "capabilitySets" "/capability-sets" token tenant

/-! ## Roles -/

/-- Creates roles in their order; one that is there already is fine. -/
def createRoles (s : IdentityService) (token : Token) (tenant : String) :
    List (String × Role) → Errand Unit
  | [] => pure ()
  | (name, role) :: rest => do
    let body := Json.object [("name", .string name), ("description", .string role.description)]
    let _ ← s.client.sendUnless roles 409 (s.request .post token tenant "/roles" (.json body))
    createRoles s token tenant rest

/-- Removes roles in their order, those that are listed. -/
def removeListed (s : IdentityService) (token : Token) (tenant : String) (ids : Texts) :
    List String → Errand Unit
  | [] => pure ()
  | name :: rest => do
    match ids.find? name with
    | none => pure ()
    | some id =>
      let _ ← s.client.send roles (s.request .delete token tenant s!"/roles/{id}" .empty)
    removeListed s token tenant ids rest

/-- Removes roles. -/
def removeRoles (s : IdentityService) (token : Token) (tenant : String) (named : Roles) :
    Errand Unit := do
  let ids ← s.roleIds token tenant
  s.removeListed token tenant ids named.keys

/-! ## Users -/

/-- A user as it is created. -/
def userBody (name : String) : Json :=
  .object [("username", .string name), ("active", .bool true), ("type", .string "staff"),
    ("personal", .object [("lastName", .string name), ("preferredContactTypeId", .string "002")])]

/-- A user's password as it is stored. -/
def credentialsBody (name id password : String) : Json :=
  .object [("username", .string name), ("userId", .string id), ("password", .string password)]

/-- A user's roles as they are assigned. -/
def assignmentBody (id : String) (roleIds : List String) : Json :=
  .object [("userId", .string id), ("roleIds", ofTexts roleIds)]

/-- The ids of a user's roles, in their order; each role must be listed. -/
def userRoleIds (ids : Texts) (user : String) : List String → Outcome (List String)
  | [] => .ok []
  | role :: rest =>
    match ids.find? role with
    | none => .error (.config (.unknownRole user role))
    | some id =>
      match userRoleIds ids user rest with
      | .ok found => .ok (id :: found)
      | .error e => .error e

/-- Reads the id of what was created. -/
def readCreated? (j : Json) : Option String := do
  let ms ← fields? ["id"] j
  required "id" text? ms

/-- Creates a user, stores the password and assigns the roles. A user that is there already is
passed over as a whole. -/
def createUser (s : IdentityService) (token : Token) (tenant : String) (ids : Texts) (name : String)
    (user : User) : Errand Unit := do
  let reply ← s.client.raw
    (s.request .post token tenant "/users-keycloak/users" (.json (userBody name)))
  if reply.status = 409 then pure ()
  else
    let reply ← ExceptT.mk (pure (Http.Client.success users reply))
    let id ← ExceptT.mk (pure (Http.Client.decode readCreated? reply))
    let _ ← s.client.send users
      (s.request .post token tenant "/authn/credentials"
        (.json (credentialsBody name id user.password)))
    let assigned ← ExceptT.mk (pure (userRoleIds ids name user.roles))
    unless assigned.isEmpty do
      let _ ← s.client.send roles
        (s.request .post token tenant "/roles/users" (.json (assignmentBody id assigned)))

/-- Creates users in their order. -/
def createEach (s : IdentityService) (token : Token) (tenant : String) (ids : Texts) :
    List (String × User) → Errand Unit
  | [] => pure ()
  | (name, user) :: rest => do
    s.createUser token tenant ids name user
    createEach s token tenant ids rest

/-- Creates users. -/
def createUsers (s : IdentityService) (token : Token) (tenant : String) (named : Users) :
    Errand Unit := do
  let ids ← s.roleIds token tenant
  s.createEach token tenant ids named.entries

/-! ## Capability sets -/

/-- The ids of the sets that a role is given, ascending: those it names and the service lists, or
all listed ones if it names none. -/
def chosenSets (sets : Texts) (role : Role) : List String :=
  let chosen :=
    if role.capabilitySets.isEmpty then sets.values else role.capabilitySets.filterMap sets.find?
  chosen.mergeSort fun a b => a ≤ b

/-- Attaches sets to roles in their order; each role must be listed. A role without sets is passed
over. -/
def attachEach (s : IdentityService) (token : Token) (tenant : String) (ids sets : Texts) :
    List (String × Role) → Errand Unit
  | [] => pure ()
  | (name, role) :: rest => do
    match ids.find? name with
    | none => throw (.config (.absentRole name tenant))
    | some id =>
      let chosen := chosenSets sets role
      unless chosen.isEmpty do
        let body := Json.object [("roleId", .string id), ("capabilitySetIds", ofTexts chosen)]
        let _ ← s.client.send capabilitySets
          (s.request .post token tenant "/roles/capability-sets" (.json body))
      attachEach s token tenant ids sets rest

/-- Attaches capability sets to roles. -/
def attach (s : IdentityService) (token : Token) (tenant : String) (named : Roles) :
    Errand Unit := do
  let ids ← s.roleIds token tenant
  let sets ← s.setIds token tenant
  s.attachEach token tenant ids sets named.entries

/-- Detaches the sets of roles in their order, those that are listed; a role without sets is fine.
-/
def detachEach (s : IdentityService) (token : Token) (tenant : String) (ids : Texts) :
    List String → Errand Unit
  | [] => pure ()
  | name :: rest => do
    match ids.find? name with
    | none => pure ()
    | some id =>
      let _ ← s.client.sendUnless capabilitySets 404
        (s.request .delete token tenant s!"/roles/{id}/capability-sets" .empty)
    detachEach s token tenant ids rest

/-- Detaches the capability sets of roles. -/
def detach (s : IdentityService) (token : Token) (tenant : String) (named : Roles) :
    Errand Unit := do
  let ids ← s.roleIds token tenant
  s.detachEach token tenant ids named.keys

/-- What the service does with a call. -/
def serve (s : IdentityService) : (call : IdentityCall) → Program MachineCall.Answer call.Answer
  | .accessToken realm grant => (s.accessToken realm grant).run
  | .createRoles token tenant named => (s.createRoles token tenant named.entries).run
  | .removeRoles token tenant named => (s.removeRoles token tenant named).run
  | .createUsers token tenant named => (s.createUsers token tenant named).run
  | .attach token tenant named => (s.attach token tenant named).run
  | .detach token tenant named => (s.detach token tenant named).run
  | .setLifespan token realm seconds => (s.setLifespan token realm seconds).run

end IdentityService

end Fleet
