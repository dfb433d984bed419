import Fleet.Config.Basic

/-!
# Partitions of tenants

Tenants are dealt with partition by partition. A partition is the central tenant of a consortium,
its other members, or all tenants outside consortiums. A tenant's description in the management
service names its partition, and that is how live tenants are found again.

The plan of a description lists its partitions: those of each consortium in name order, the central
one first, and behind them the tenants outside.
-/

namespace Fleet

/-- The part that a tenant plays. -/
inductive TenantType
  /-- Outside consortiums. -/
  | default
  | central
  | member
  deriving DecidableEq, Repr

namespace TenantType

/-- The type in words. -/
def text : TenantType → String
  | .default => "default"
  | .central => "central"
  | .member => "member"

/-- The order of types inside a consortium; lower ones come first. -/
def sortWeight : TenantType → Nat
  | .central => 0
  | .member => 1
  | .default => 2

/-- The types inside a consortium, in their order. -/
def inConsortium : List TenantType := [.central, .member]

/-- The type of a tenant inside a consortium. -/
def ofCentral (central : Bool) : TenantType := if central then .central else .member

end TenantType

/-- A unit of tenants that are dealt with together. -/
structure Partition where
  /-- The consortium, if the tenants belong to one. -/
  consortium : Option String
  type : TenantType
  deriving DecidableEq, Repr

namespace Partition

/-- The tenants outside consortiums. -/
def unaffiliated : Partition := ⟨none, .default⟩

/-- The partition of a described tenant. -/
def ofTenant (t : Tenant) : Partition :=
  match t.consortium with
  | some c => ⟨some c, .ofCentral t.central⟩
  | none => unaffiliated

/-- The consortium in words. -/
def consortiumText (p : Partition) : String := p.consortium.getD "none"

/-- The description that tenants of the partition have. -/
def description (p : Partition) : String := p.consortiumText ++ "-" ++ p.type.text

/-- The partitions of a consortium. -/
def ofConsortium (name : String) : List Partition :=
  TenantType.inConsortium.map fun type => ⟨some name, type⟩

end Partition

/-- A tenant of a consortium. -/
structure ConsortiumTenant where
  name : String
  central : Bool
  deriving DecidableEq, Repr

/-- The order of tenants inside a consortium; lower ones come first. -/
def ConsortiumTenant.sortWeight (t : ConsortiumTenant) : Nat :=
  (TenantType.ofCentral t.central).sortWeight

namespace Config

/-- The partitions of a description, in the order in which they are dealt with. -/
def partitions (c : Config) : List Partition :=
  if c.consortiums.isEmpty then [.unaffiliated]
  else
    c.consortiums.keys.flatMap Partition.ofConsortium ++
      if c.tenants.values.any fun t => t.consortium.isNone then [.unaffiliated] else []

/-- The described tenants of a partition, in name order. -/
def configured (c : Config) (p : Partition) : List String :=
  (c.tenants.entries.filter fun e => Partition.ofTenant e.2 = p).map (·.1)

/-- The described tenants of a consortium, the central one first. -/
def consortiumTenants (c : Config) (name : String) : List ConsortiumTenant :=
  let tenants := c.tenants.entries.filterMap fun (tenant, t) =>
    if t.consortium = some name then some ⟨tenant, t.central⟩ else none
  tenants.mergeSort fun a b => a.sortWeight ≤ b.sortWeight

end Config

end Fleet
