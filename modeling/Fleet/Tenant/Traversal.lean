import Fleet.Call
import Fleet.Tenant.Partition

/-!
# Visiting tenants

A traversal walks the plan of a description, forwards or backwards. In each partition it obtains a
token of the master realm, lists the live tenants, and visits those that are described in the
partition and carry its description, in the order of the service. The first failure ends the
traversal. A `Journey` tells which partitions were entered and which visits were begun.
-/

namespace Fleet

/-- The direction of a traversal. -/
inductive Direction
  /-- Central tenants before members. -/
  | forward
  /-- Members before central tenants. -/
  | reverse
  deriving DecidableEq, Repr

/-- Reads a direction. -/
def Direction.read? : Reader Direction :=
  Json.oneOf? [("forward", .forward), ("reverse", .reverse)]

/-- Whose token a visit is given. -/
inductive Authority
  /-- The master realm's. -/
  | master
  /-- The tenant's own realm's. -/
  | tenant
  deriving DecidableEq, Repr

/-- Reads an authority. -/
def Authority.read? : Reader Authority := Json.oneOf? [("master", .master), ("tenant", .tenant)]

/-- A live tenant that is visited. -/
structure Visit where
  tenant : TenantRecord
  partition : Partition
  token : Token
  deriving DecidableEq, Repr

/-- What a traversal did. -/
structure Journey where
  /-- The partitions that were entered, in order. -/
  entered : List Partition
  /-- The visits that were begun, in order. -/
  visits : List Visit
  /-- The first failure, if there was one. -/
  outcome : Outcome Unit

namespace Traversal

/-- The plan in a direction. -/
def plan (c : Config) : Direction → List Partition
  | .forward => c.partitions
  | .reverse => c.partitions.reverse

/-- Whether a live tenant is visited in a partition. -/
def selects (c : Config) (p : Partition) (t : TenantRecord) : Bool :=
  t.description == p.description && (c.configured p).contains t.name

/-- A token of the master realm. -/
def masterToken (c : Config) : Action Token :=
  Action.accessToken c.identity.masterRealm .clientCredentials

/-- The token of a visit. -/
def visitToken (authority : Authority) (master : Token) (t : TenantRecord) : Action Token :=
  match authority with
  | .master => pure master
  | .tenant => Action.accessToken t.name .password

/-- Visits tenants in their order, up to the first whose token or visit fails. -/
def visitAll (p : Partition) (authority : Authority) (master : Token) (act : Visit → Action Unit) :
    List TenantRecord → Program Call.Answer (List Visit × Outcome Unit)
  | [] => pure ([], .ok ())
  | t :: rest => do
    match ← (visitToken authority master t).run with
    | .error e => pure ([], .error e)
    | .ok token =>
      let v : Visit := ⟨t, p, token⟩
      match ← (act v).run with
      | .error e => pure ([v], .error e)
      | .ok () =>
        let (visits, outcome) ← visitAll p authority master act rest
        pure (v :: visits, outcome)

/-- Visits the live tenants of a partition. -/
def visitPartition (c : Config) (authority : Authority) (act : Visit → Action Unit)
    (p : Partition) : Program Call.Answer (List Visit × Outcome Unit) := do
  match ← (masterToken c).run with
  | .error e => pure ([], .error e)
  | .ok master =>
    match ← (Action.tenants master).run with
    | .error e => pure ([], .error e)
    | .ok live => visitAll p authority master act (live.filter (selects c p))

/-- Visits the live tenants of partitions in their order. -/
def journey (c : Config) (authority : Authority) (act : Visit → Action Unit) :
    List Partition → Program Call.Answer Journey
  | [] => pure ⟨[], [], .ok ()⟩
  | p :: rest => do
    match ← visitPartition c authority act p with
    | (visits, .error e) => pure ⟨[p], visits, .error e⟩
    | (visits, .ok ()) =>
      let later ← journey c authority act rest
      pure ⟨p :: later.entered, visits ++ later.visits, later.outcome⟩

/-- Visits the live tenants of a description. -/
def visitTenants (c : Config) (direction : Direction) (authority : Authority)
    (act : Visit → Action Unit) : Action Unit :=
  ExceptT.mk (Journey.outcome <$> journey c authority act (plan c direction))

end Traversal

end Fleet
