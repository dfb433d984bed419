import Fleet.Command
import Fleet.Config.Overlay
import Fleet.Site

/-!
# The command line

Arguments name one command. The options `-c FILE` and `-v` may stand before it and behind it, at
most once on each side; of two files the one behind the command counts. Listing modules takes the
option `-k KIND` besides. Options of one letter may be written together, and the value of an option
may follow its letter directly or behind an equals sign.

`CommandLine.run` carries out an invocation at a site and says what is printed and with which code
the program ends: 0, 1 after a complaint, 2 where the arguments cannot be read, and 101 where the
program breaks off.
-/

namespace Fleet

/-- What the arguments ask for. -/
structure Invocation where
  /-- The file that holds the description. -/
  file : String
  verbose : Bool
  command : Command
  deriving DecidableEq, Repr

/-- How the program ends. -/
structure Exit where
  code : Nat
  output : List String
  errors : List String
  deriving DecidableEq, Repr

namespace CommandLine

/-- The file that is read when none is named. -/
def standardFile : String := "flotilla.toml"

/-- The options on one side of the command. -/
structure Options where
  file : Option String := none
  verbose : Bool := false
  kind : Option ModuleKind := none

/-- The options of one letter and their long names. -/
inductive Switch
  | file
  | verbose
  | kind
  deriving DecidableEq

/-- The option of a letter. Only where modules are listed there is one for kinds. -/
def ofLetter? (listing : Bool) : Char → Option Switch
  | 'c' => some .file
  | 'v' => some .verbose
  | 'k' => if listing then some .kind else none
  | _ => none

/-- The option of a long name. -/
def ofName? (listing : Bool) : String → Option Switch
  | "config" => some .file
  | "verbose" => some .verbose
  | "kind" => if listing then some .kind else none
  | _ => none

/-- Sets an option that takes a value; none may be set twice. -/
def setValue (o : Options) (switch : Switch) (value : String) : Option Options :=
  match switch with
  | .file => if o.file.isNone && !value.isEmpty then some { o with file := some value } else none
  | .kind =>
    if o.kind.isNone then
      (ModuleKind.read? (.string value)).map fun kind => { o with kind := some kind }
    else none
  | .verbose => none

/-- Sets the option that takes no value. -/
def setVerbose (o : Options) : Option Options :=
  if o.verbose then none else some { o with verbose := true }

/-- Whether an argument can be the value of an option: options cannot, a single dash can. -/
def isValue (argument : String) : Bool :=
  match argument.toList with
  | '-' :: _ :: _ => false
  | _ => true

/-- Takes the argument behind an option as its value. -/
def takeValue (o : Options) (switch : Switch) : List String → Option (Options × List String)
  | [] => none
  | value :: rest => if isValue value then (setValue o switch value).map (·, rest) else none

/-- The value that follows an option's letter directly. -/
def attached : List Char → String
  | '=' :: value => String.ofList value
  | value => String.ofList value

/-- Reads letters that are written together. -/
def readLetters (listing : Bool) (rest : List String) (o : Options) :
    List Char → Option (Options × List String)
  | [] => some (o, rest)
  | c :: cs =>
    match ofLetter? listing c with
    | none => none
    | some .verbose => (setVerbose o).bind fun o => readLetters listing rest o cs
    | some switch =>
      if cs.isEmpty then takeValue o switch rest
      else (setValue o switch (attached cs)).map (·, rest)

/-- Reads an option with a long name. -/
def readLong (listing : Bool) (rest : List String) (o : Options) (text : String) :
    Option (Options × List String) :=
  match Text.cut? "=" text with
  | some (name, value) =>
    (ofName? listing name).bind fun switch => (setValue o switch value).map (·, rest)
  | none =>
    match ofName? listing text with
    | none => none
    | some .verbose => (setVerbose o).map (·, rest)
    | some switch => takeValue o switch rest

/-- The options up to the first argument that is none, with the arguments from there on. `budget`
bounds the options: each takes an argument at least. -/
def readOptions (listing : Bool) : (budget : Nat) → Options → List String →
    Option (Options × List String)
  | 0, _, _ => none
  | _, o, [] => some (o, [])
  | budget + 1, o, argument :: rest =>
    match argument.toList with
    | ['-', '-'] => some (o, argument :: rest)
    | '-' :: '-' :: name =>
      (readLong listing rest o (String.ofList name)).bind fun (o, rest) =>
        readOptions listing budget o rest
    | '-' :: c :: cs =>
      (readLetters listing rest o (c :: cs)).bind fun (o, rest) =>
        readOptions listing budget o rest
    | _ => some (o, argument :: rest)

/-- The commands by name; what a listing is restricted to comes from the options. -/
def commands : List (String × Command) :=
  [("deploy-application", .deployApplication), ("undeploy-application", .undeployApplication),
    ("deploy-management", .deployManagement), ("undeploy-management", .undeployManagement),
    ("deploy-modules", .deployModules), ("undeploy-modules", .undeployModules),
    ("create-tenants", .createTenants), ("remove-tenants", .removeTenants),
    ("create-tenant-entitlements", .createTenantEntitlements),
    ("remove-tenant-entitlements", .removeTenantEntitlements), ("create-roles", .createRoles),
    ("remove-roles", .removeRoles), ("create-users", .createUsers),
    ("attach-capability-sets", .attachCapabilitySets),
    ("detach-capability-sets", .detachCapabilitySets), ("list-modules", .listModules none),
    ("vault-root-token", .vaultRootToken)]

/-- Whether a command lists modules. -/
def isListing : Command → Bool
  | .listModules _ => true
  | _ => false

/-- The command with what the options add to it. -/
def withKind (kind : Option ModuleKind) : Command → Command
  | .listModules _ => .listModules kind
  | c => c

/-- Whether nothing is left but the mark of the end of options. -/
def isFinished : List String → Bool
  | [] => true
  | [mark] => mark == "--"
  | _ => false

/-- Reads arguments. `fallback` is the file that is read when none is named. -/
def parse? (fallback : String) (arguments : List String) : Option Invocation := do
  let budget := arguments.length + 1
  let (before, rest) ← readOptions false budget {} arguments
  match rest with
  | [] => none
  | name :: rest =>
    let (_, command) ← commands.find? fun c => c.1 == name
    let (behind, rest) ← readOptions (isListing command) budget {} rest
    guard (isFinished rest)
    pure {
      file := (behind.file.or before.file).getD fallback
      verbose := before.verbose || behind.verbose
      command := withKind behind.kind command }

/-- The code with which the program ends after a failure. -/
def exitCode : Failure → Nat
  | .clockExceeded => 101
  | _ => 1

/-- How a transcript ends the program. -/
def exitOf (t : Transcript) : Exit where
  code := (t.complaint.map fun c => exitCode c.failure).getD 0
  output := t.lines
  errors := (t.complaint.map Complaint.text).toList

/-- The complaint about a description that cannot be loaded. -/
def loadComplaint (file : String) (e : Failure) : Complaint :=
  ⟨some s!"failed to load configuration from {file}", e⟩

/-- The end of a program whose arguments cannot be read. -/
def refusal : Exit := ⟨2, [], ["Error: the arguments name no command"]⟩

/-- Carries out an invocation at a site, with the description that was loaded for it. -/
def run (i : Invocation) (loaded : Outcome Config) (isDirectory : String → Bool) (s : Site) :
    Exit × Site :=
  match loaded with
  | .error e => (exitOf ⟨[], some (loadComplaint i.file e)⟩, s)
  | .ok c =>
    let (t, state) :=
      (i.command.transcript ⟨c, isDirectory⟩).run (Site.collaborators c).handler (.fresh s)
    (exitOf t, state.services)

end CommandLine

end Fleet
