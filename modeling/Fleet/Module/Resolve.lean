import Fleet.Module.Descriptor
import Fleet.Module.Listing
import Fleet.Ports

/-!
# Resolution

Resolution turns the specs of a description and a registry listing into descriptors. Specs of one
name merge first. Then every module is settled but for its ports, in name order; the first one
without a version, or with a local path that is no directory, ends the resolution before a port is
touched. Then the ports pinned by deployed modules are reserved, and last the open ports are drawn,
in name order and a module's port before its sidecar's.

The allocator that comes out holds what was taken on the way, also when the resolution failed.
-/

namespace Fleet

/-- What resolution depends on besides specs, listing and allocator. -/
structure Resolver where
  /-- Where images that are not built locally come from. -/
  imageNamespace : String
  /-- Which paths are directories. -/
  isDirectory : String → Bool

/-- A module that is settled but for its ports. -/
structure Pending where
  descriptor : Descriptor
  /-- The pinned host port of the module. -/
  port : Option Port
  /-- The pinned host port of the sidecar. -/
  privatePort : Option Port

namespace Resolver

/-- The spec of each name: all its entries merged, in their order. -/
def mergeEntries (entries : List (String × ModuleSpec)) : Table String ModuleSpec :=
  entries.foldl (fun t e => t.insert e.1 (((t.find? e.1).getD .standard).merge e.2)) .empty

/-- The switches of a module. -/
def flagsOf (name : String) (o : Overrides) : Flags :=
  let standard := Flags.ofName name
  { deployModule := o.deployModule.getD standard.deployModule
    deploySidecar := o.deploySidecar.getD standard.deploySidecar
    useVault := o.useVault.getD standard.useVault
    useGatewayUrl := o.useGatewayUrl.getD standard.useGatewayUrl
    disableSystemUser := o.disableSystemUser.getD standard.disableSystemUser }

/-- The version of a module: the one it sets, else the one listed, else none if it is not deployed.
-/
def versionOf (name : String) (o : Overrides) (versions : Table String String) : Outcome String :=
  match o.version.or (versions.find? name) with
  | some version => .ok version
  | none =>
    if (flagsOf name o).deployModule then .error (.versionUnresolved name) else .ok ""

/-- A local path must be a directory. -/
def checkPath (r : Resolver) (name : String) (path : Option String) : Outcome Unit :=
  match path with
  | none => .ok ()
  | some p => if r.isDirectory p then .ok () else .error (.notADirectory name p)

/-- The image of a module. An image that is built locally has no namespace. -/
def imageOf (r : Resolver) (name version : String) (path : Option String) : String :=
  if path.isSome then name ++ ":" ++ version
  else r.imageNamespace ++ "/" ++ name ++ ":" ++ version

/-- Settles a module but for its ports. -/
def settle (r : Resolver) (versions : Table String String) (name : String) (spec : ModuleSpec) :
    Outcome Pending :=
  let o := spec.overrides
  match versionOf name o versions with
  | .error e => .error e
  | .ok version =>
    match r.checkPath name o.localPath with
    | .error e => .error e
    | .ok () =>
      .ok {
        descriptor := {
          id := ⟨name, version⟩
          flags := flagsOf name o
          memoryMb := o.memoryMb.getD standardMemoryMb
          cpus := o.cpus
          port := 0
          privatePort := none
          image := r.imageOf name version o.localPath
          localImage := o.localPath.isSome
          localPath := o.localPath
          environment := o.environment.getD .empty
          sidecarEnvironment := o.sidecarEnvironment.getD .empty }
        port := o.port
        privatePort := o.privatePort }

/-- Settles modules in their order, up to the first that fails. -/
def settleAll (r : Resolver) (versions : Table String String) :
    List (String × ModuleSpec) → Outcome (List Pending)
  | [] => .ok []
  | (name, spec) :: rest =>
    match r.settle versions name spec with
    | .error e => .error e
    | .ok p =>
      match r.settleAll versions rest with
      | .error e => .error e
      | .ok ps => .ok (p :: ps)

/-- The ports that a module pins, if it is deployed. -/
def pinsOf (p : Pending) : List Port :=
  if p.descriptor.flags.deployModule then p.port.toList ++ p.privatePort.toList else []

/-- The ports that deployed modules pin. -/
def pins (ps : List Pending) : List Port := ps.flatMap pinsOf

/-- A pinned port, or the next free one. -/
def pinnedOrNext (pin : Option Port) (a : PortAllocator) : Outcome Port × PortAllocator :=
  match pin with
  | some p => (.ok p, a)
  | none => a.allocate

/-- Gives a module its ports. A module that is not deployed has none. -/
def assign (p : Pending) (a : PortAllocator) : Outcome Descriptor × PortAllocator :=
  let d := p.descriptor
  if d.flags.deployModule then
    match pinnedOrNext p.port a with
    | (.error e, a) => (.error e, a)
    | (.ok port, a) =>
      if d.flags.deploySidecar then
        match pinnedOrNext p.privatePort a with
        | (.error e, a) => (.error e, a)
        | (.ok privatePort, a) =>
          (.ok { d with port := port, privatePort := some privatePort }, a)
      else (.ok { d with port := port }, a)
  else (.ok d, a)

/-- Gives modules their ports in their order, up to the first for which none is left. -/
def assignAll : List Pending → PortAllocator → Outcome (List Descriptor) × PortAllocator
  | [], a => (.ok [], a)
  | p :: rest, a =>
    match assign p a with
    | (.error e, a) => (.error e, a)
    | (.ok d, a) =>
      match assignAll rest a with
      | (.error e, a) => (.error e, a)
      | (.ok ds, a) => (.ok (d :: ds), a)

/-- The descriptors of merged specs, in name order. -/
def resolveMerged (r : Resolver) (specs : Table String ModuleSpec) (listing : List ListingEntry)
    (a : PortAllocator) : Outcome (List Descriptor) × PortAllocator :=
  match r.settleAll (ListingEntry.versions listing) specs.entries with
  | .error e => (.error e, a)
  | .ok pending =>
    match a.reserveAll (pins pending) with
    | (.error e, a) => (.error e, a)
    | (.ok (), a) => assignAll pending a

/-- Descriptors by name. -/
def byName (ds : List Descriptor) : Table String Descriptor :=
  Table.ofList (ds.map fun d => (d.name, d))

/-- Resolves the entries of a description against a listing. -/
def resolve (r : Resolver) (entries : List (String × ModuleSpec)) (listing : List ListingEntry)
    (a : PortAllocator) : Outcome (Table String Descriptor) × PortAllocator :=
  match r.resolveMerged (mergeEntries entries) listing a with
  | (.error e, a) => (.error e, a)
  | (.ok ds, a) => (.ok (byName ds), a)

end Resolver

end Fleet
