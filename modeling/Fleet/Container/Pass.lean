import Fleet.Module.Descriptor

/-!
# Passes

A deployment runs in two passes, management modules first. A `Pass` holds the resolved modules of
one kind, of which those whose flags say so are deployed.
-/

namespace Fleet

/-- The modules of one deployment pass. -/
structure Pass where
  kind : ModuleKind
  /-- Every module of the pass, deployed or not. -/
  modules : Table String Descriptor

namespace Pass

/-- The modules of a kind. -/
def ofKind (kind : ModuleKind) (resolved : Table String Descriptor) : Pass where
  kind := kind
  modules := resolved.filter fun _ d => d.kind = kind

/-- The modules that are deployed, in name order. -/
def deployable (p : Pass) : List Descriptor :=
  p.modules.values.filter fun d => d.flags.deployModule

/-- Whether nothing is deployed. -/
def isEmpty (p : Pass) : Bool := p.deployable.isEmpty

/-- The host ports of a deployed module. -/
def portsOf (d : Descriptor) : ModulePorts := ⟨d.port, d.sidecarPort?⟩

/-- The host ports of every deployed module. -/
def ports (p : Pass) : Table String ModulePorts :=
  Table.ofList (p.deployable.map fun d => (d.name, portsOf d))

end Pass

end Fleet
