import Fleet.Json.Printer
import Fleet.Service.Identity

/-!
# A service that keeps users

A `UserDirectory` is the far end of the requests by which users are created. It lists roles, keeps a
user under a name that nobody else has, and stores the passwords and the roles that it is sent. What
befalls the requests to come can be laid down: a request that fails stores nothing.

`UserDirectory.Keeps` says that a user is there with everything that was described.
-/

namespace Fleet

open Json

/-- How a request fails. -/
inductive Mishap
  | status (code : Nat)
  | transport (fault : TransportFault)
  deriving DecidableEq, Repr

/-- A service that keeps users. -/
structure UserDirectory where
  /-- The ids of the roles that are listed, by name. -/
  roleIds : Texts
  /-- The ids of the users, by name. -/
  users : Texts := .empty
  /-- The passwords, by the id of the user. -/
  passwords : Texts := .empty
  /-- The ids of the roles assigned, by the id of the user. -/
  assigned : Table String (List String) := .empty
  /-- What befalls the requests to come; the requests behind them are served. -/
  mishaps : List (Option Mishap) := []

namespace UserDirectory

/-- The id of the user with a number. -/
def idOf (number : Nat) : String := "user-" ++ toString number

/-- Lists the roles. -/
def listRoles (d : UserDirectory) : Http.Reply :=
  let role (entry : String × String) : Json :=
    .object [("id", .string entry.2), ("name", .string entry.1)]
  ⟨200, (Json.object [("roles", .array (d.roleIds.entries.map role))]).render⟩

/-- What is answered to a request that nobody understands. -/
def misunderstood : Http.Reply := ⟨400, ""⟩

/-- Creates a user, unless there is one of the name. -/
def create (d : UserDirectory) (name : String) : Http.Reply × UserDirectory :=
  if d.users.contains name then (⟨409, ""⟩, d)
  else
    let id := idOf (d.users.size + 1)
    (⟨201, (Json.object [("id", .string id)]).render⟩, { d with users := d.users.insert name id })

/-- Stores a password. -/
def setPassword (d : UserDirectory) (id password : String) : Http.Reply × UserDirectory :=
  (⟨201, ""⟩, { d with passwords := d.passwords.insert id password })

/-- Stores the roles of a user. -/
def assign (d : UserDirectory) (id : String) (roles : List String) : Http.Reply × UserDirectory :=
  (⟨201, ""⟩, { d with assigned := d.assigned.insert id roles })

/-- What a request asks for. -/
inductive Wish
  | roles
  | user (name : String)
  | password (id password : String)
  | assignment (id : String) (roles : List String)

/-- Reads what a request asks for, from its method, the end of its path, and its body. -/
def wish? (m : Http.Message) : Option Wish :=
  let path := m.url.target.toList.takeWhile (· != '?')
  let leadsTo (ending : String) : Bool := ending.toList.isSuffixOf path
  match m.method, m.body with
  | .get, .empty => if leadsTo "/roles" then some .roles else none
  | .post, .json body => do
    let ms ← body.object?
    if leadsTo "/users-keycloak/users" then
      pure (.user (← required "username" text? ms))
    else if leadsTo "/authn/credentials" then
      pure (.password (← required "userId" text? ms) (← required "password" text? ms))
    else if leadsTo "/roles/users" then
      pure (.assignment (← required "userId" text? ms) (← required "roleIds" (list? text?) ms))
    else none
  | _, _ => none

/-- Serves a request. -/
def serve (d : UserDirectory) (m : Http.Message) : Http.Reply × UserDirectory :=
  match wish? m with
  | none => (misunderstood, d)
  | some .roles => (d.listRoles, d)
  | some (.user name) => d.create name
  | some (.password id password) => d.setPassword id password
  | some (.assignment id roles) => d.assign id roles

/-- Answers a message, or lets it fail. -/
def exchange (d : UserDirectory) (m : Http.Message) :
    Except TransportFault Http.Reply × UserDirectory :=
  let next := { d with mishaps := d.mishaps.tail }
  match d.mishaps with
  | some (.status code) :: _ => (.ok ⟨code, ""⟩, next)
  | some (.transport fault) :: _ => (.error fault, next)
  | _ =>
    let (reply, next) := next.serve m
    (.ok reply, next)

/-- Answers the calls of a machine from which only this service is reached. -/
def handler : Handler MachineCall.Answer UserDirectory
  | .exchange message _, d => d.exchange message
  | .execute _ _, d => (.notStarted .noSuchFile, d)
  | .connect _ _ _, d => (.made, d)
  | .sleep _, d => ((), d)

/-- A user is kept under a name with the password and the roles that were described. -/
def Keeps (d : UserDirectory) (name : String) (user : User) : Prop :=
  ∃ id, d.users.find? name = some id ∧ d.passwords.find? id = some user.password ∧
    (user.roles ≠ [] → d.assigned.find? id = some (user.roles.filterMap d.roleIds.find?))

end UserDirectory

end Fleet
