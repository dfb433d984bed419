import Fleet.Call

/-!
# Identity calls that are only noted

An `IdentityLog` answers the calls of an identity provider by noting them. A token is made up from
the realm and the grant. Calls about chosen tenants can be made to fail, and a call that fails is
not noted.
-/

namespace Fleet

/-- An identity provider that notes its calls. -/
structure IdentityLog where
  /-- The calls, in order. -/
  calls : List String := []
  /-- The tenants about which calls fail. -/
  failing : List String := []
  deriving DecidableEq, Repr

namespace IdentityLog

instance : Inhabited IdentityLog := ⟨{}⟩

/-- Makes every call about a tenant fail. -/
def failTenant (l : IdentityLog) (tenant : String) : IdentityLog :=
  { l with failing := tenant :: l.failing }

/-- Notes a call about a tenant, and answers it. -/
def note {α : Type} (l : IdentityLog) (tenant call : String) (answer : α) :
    Outcome α × IdentityLog :=
  if l.failing.contains tenant then
    (.error (.answered "identity" 500 s!"injected failure for {tenant}"), l)
  else (.ok answer, { l with calls := l.calls ++ [call] })

/-- A grant in words. -/
def grantText : Grant → String
  | .clientCredentials => "client"
  | .password => "password"

/-- Names in one text. -/
def joined (names : List String) : String := ",".intercalate names

/-- Answers the calls of an identity provider. -/
def handler : Handler IdentityCall.Answer IdentityLog
  | .accessToken realm grant, l =>
    l.note realm s!"token:{realm}:{grantText grant}" ⟨s!"{realm}-{grantText grant}-token"⟩
  | .createRoles _ tenant roles, l => l.note tenant s!"create-roles:{tenant}:{joined roles.keys}" ()
  | .removeRoles _ tenant roles, l => l.note tenant s!"remove-roles:{tenant}:{joined roles.keys}" ()
  | .createUsers _ tenant users, l => l.note tenant s!"create-users:{tenant}:{joined users.keys}" ()
  | .attach _ tenant roles, l => l.note tenant s!"attach:{tenant}:{joined roles.keys}" ()
  | .detach _ tenant roles, l => l.note tenant s!"detach:{tenant}:{joined roles.keys}" ()
  | .setLifespan _ realm seconds, l => l.note realm s!"lifespan:{realm}:{seconds}" ()

end IdentityLog

end Fleet
