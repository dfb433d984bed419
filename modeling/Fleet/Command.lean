import Fleet.Platform

/-!
# Commands and their transcripts

A command prints lines and may end with a complaint, behind whatever it has printed until then. What
is printed is made for human readers, in padded columns.
-/

namespace Fleet

/-- What a platform can be told to do. -/
inductive Command
  | deployApplication
  | undeployApplication
  | deployManagement
  | undeployManagement
  | deployModules
  | undeployModules
  | createTenants
  | removeTenants
  | createTenantEntitlements
  | removeTenantEntitlements
  | createRoles
  | removeRoles
  | createUsers
  | attachCapabilitySets
  | detachCapabilitySets
  | listModules (kind : Option ModuleKind)
  | vaultRootToken
  deriving DecidableEq, Repr

/-- A failure with what was being done. -/
structure Complaint where
  context : Option String
  failure : Failure
  deriving DecidableEq, Repr

/-- A failure with what caused it. A fault of the system is named by the failure and again as its
cause. -/
def Failure.chain (e : Failure) : List String :=
  match e with
  | .system fault => [e.message, fault.message]
  | e => [e.message]

/-- The complaint in one line. What breaks the program off stands alone. -/
def Complaint.text (c : Complaint) : String :=
  match c.failure with
  | .clockExceeded => c.failure.message
  | e => "Error: " ++ ": ".intercalate (c.context.toList ++ e.chain)

/-- What a command printed, and how it ended. -/
structure Transcript where
  lines : List String
  complaint : Option Complaint
  deriving DecidableEq, Repr

namespace Transcript

variable {α : Type}

/-- The transcript of an action: what is shown of its answer. -/
def ofAction (context : Option String) (lines : α → List String) (a : Action α) :
    Program Call.Answer Transcript := do
  match ← a.run with
  | .ok answer => pure ⟨lines answer, none⟩
  | .error e => pure ⟨[], some ⟨context, e⟩⟩

/-- One command and then another, unless there was a complaint. -/
def followedBy (first second : Program Call.Answer Transcript) :
    Program Call.Answer Transcript := do
  let t ← first
  match t.complaint with
  | some _ => pure t
  | none =>
    let u ← second
    pure ⟨t.lines ++ u.lines, u.complaint⟩

/-- Nothing is shown. -/
def silent (_ : α) : List String := []

end Transcript

namespace Command

open Transcript

/-- The host ports of a module in one line. -/
def portLine (module : String) (p : ModulePorts) : String :=
  let start := "  " ++ Text.padTo 40 module ++ " " ++ toString p.module
  match p.sidecar with
  | some sidecar => start ++ " (sidecar " ++ toString sidecar ++ ")"
  | none => start

/-- The host ports of a pass under a title; an empty pass is not shown. -/
def portLines (title : String) (ports : Table String ModulePorts) : List String :=
  if ports.isEmpty then []
  else (title ++ ":") :: ports.entries.map fun e => portLine e.1 e.2

/-- The title of the management pass. -/
def managementTitle : String := "Management modules"

/-- The title of the business pass. -/
def businessTitle : String := "Business modules"

/-- A row of the listing of containers. -/
def row (name kind module state : String) : String :=
  Text.padTo 48 name ++ " " ++ Text.padTo 12 kind ++ " " ++ Text.padTo 32 module ++ " " ++ state

/-- The label of a container, or a dash. -/
def labelOrDash (c : ContainerSummary) (label : String) : String := (c.labels.find? label).getD "-"

/-- A container in the listing. -/
def containerRow (c : ContainerSummary) : String :=
  row c.name (labelOrDash c Label.kind) (labelOrDash c Label.module) c.state

/-- The listing of containers. -/
def containerLines (cs : List ContainerSummary) : List String :=
  if cs.isEmpty then ["No containers deployed"]
  else row "NAME" "KIND" "MODULE" "STATE" :: cs.map containerRow

/-- A created tenant in one line. -/
def tenantLine (t : TenantRecord) : String := s!"Created tenant {t.name} ({t.description})"

/-- The created tenants. -/
def tenantLines (ts : List TenantRecord) : List String :=
  if ts.isEmpty then ["All tenants already exist"] else ts.map tenantLine

/-- Removes the management containers. -/
def undeployManagementTranscript (p : Platform) : Program Call.Answer Transcript :=
  ofAction none (fun names => [s!"Removed {names.length} management containers"])
    p.undeployManagement

/-- Removes the business containers. -/
def undeployModulesTranscript (p : Platform) : Program Call.Answer Transcript :=
  ofAction none (fun names => [s!"Removed {names.length} module containers"]) p.undeployModules

/-- Carries out a command on a platform. -/
def transcript (p : Platform) : Command → Program Call.Answer Transcript
  | .deployApplication =>
    ofAction (some "application deployment failed")
      (fun ports =>
        portLines managementTitle ports.management ++ portLines businessTitle ports.business)
      p.deployApplication
  | .undeployApplication =>
    followedBy (ofAction (some "failed to remove entitlements") silent p.removeTenantEntitlements)
      (followedBy (ofAction (some "failed to remove tenants") silent p.removeTenants)
        (followedBy (undeployModulesTranscript p) (undeployManagementTranscript p)))
  | .deployManagement =>
    ofAction (some "management deployment failed") (portLines managementTitle) p.deployManagement
  | .undeployManagement => undeployManagementTranscript p
  | .deployModules =>
    ofAction (some "module deployment failed") (portLines businessTitle) p.deployModules
  | .undeployModules => undeployModulesTranscript p
  | .createTenants => ofAction (some "failed to create tenants") tenantLines p.createTenants
  | .removeTenants => ofAction (some "failed to remove tenants") silent p.removeTenants
  | .createTenantEntitlements =>
    ofAction (some "failed to create entitlements") silent p.createTenantEntitlements
  | .removeTenantEntitlements =>
    ofAction (some "failed to remove entitlements") silent p.removeTenantEntitlements
  | .createRoles => ofAction (some "failed to create roles") silent p.createRoles
  | .removeRoles => ofAction (some "failed to remove roles") silent p.removeRoles
  | .createUsers => ofAction (some "failed to create users") silent p.createUsers
  | .attachCapabilitySets =>
    ofAction (some "failed to attach capability sets") silent p.attachCapabilitySets
  | .detachCapabilitySets =>
    ofAction (some "failed to detach capability sets") silent p.detachCapabilitySets
  | .listModules kind => ofAction none containerLines (p.listModules kind)
  | .vaultRootToken => ofAction none (fun t => [t.secret]) Action.rootToken

end Command

end Fleet
