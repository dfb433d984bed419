import Fleet.Docker.Command
import Fleet.Docker.Listing

/-!
# A container runtime behind docker's command line

Every call is one command, or a few: an image is pulled after logging in, if there are credentials,
and a container is created after clearing its name, whether that succeeds or not. A command that
reports failure fails with what it wrote to its error output.
-/

namespace Fleet.Docker.Client

/-- Runs a command. An argument with a null character cannot be handed over. -/
def execute (command : ShellCommand) (patience : Option Nat) :
    Program MachineCall.Answer Execution :=
  if (command.program :: command.arguments).any fun s => s.toList.contains '\x00' then
    pure (.notStarted .nulInArgument)
  else Program.perform (MachineCall.execute command patience)

/-- The name of a command: its first argument. -/
def nameOf (arguments : List String) : String := arguments.headD ""

/-- What a command writes, or how it failed. -/
def outputOf (c : Client) (arguments : List String) : Execution → Outcome String
  | .exited 0 output _ => .ok (Text.repair output)
  | .exited status _ errors =>
    .error (.runtime (.commandFailed (nameOf arguments) status (Text.trim (Text.repair errors))))
  | .timedOut => .error (.runtime (.commandTimedOut (nameOf arguments) c.patience))
  | .notStarted fault => .error (.runtime (.cannotStart c.program fault))

/-- Runs a docker command that may read an input, and answers what it writes. -/
def runWith (c : Client) (arguments : List String) (input : Option String) : Errand String := do
  let execution ← ExceptT.lift (execute ⟨c.program, arguments, input⟩ (some c.patience))
  ExceptT.mk (pure (c.outputOf arguments execution))

/-- Runs a docker command, and answers what it writes. -/
def runCommand (c : Client) (arguments : List String) : Errand String := c.runWith arguments none

/-- Pulls an image, after logging in if there are credentials. -/
def pull (c : Client) (image : String) (auth : Option Config.RegistryAuth) : Errand Unit := do
  match auth with
  | none => pure ()
  | some a =>
    let _ ← c.runWith (loginArguments a) (some a.password)
  let _ ← c.runCommand (pullArguments image)

/-- Creates and starts a container in place of one of the same name, and answers its id. -/
def create (c : Client) (spec : ContainerSpec) : Errand String := do
  let _ ← ExceptT.lift (c.runCommand (clearArguments spec.name)).run
  let output ← c.runCommand (runArguments spec)
  pure (Text.trim output)

/-- Stops a container. -/
def stop (c : Client) (id : String) : Errand Unit := do
  let _ ← c.runCommand (stopArguments id)

/-- Removes a container. -/
def remove (c : Client) (id : String) : Errand Unit := do
  let _ ← c.runCommand (removeArguments id)

/-- Lists containers. -/
def list (c : Client) (pattern : String) : Errand (List ContainerSummary) := do
  let output ← c.runCommand (listArguments pattern)
  ExceptT.mk (pure (readListing output))

/-- The log that a command shows: its output, and behind it its error output. -/
def logOf (c : Client) (container : String) : Execution → Outcome String
  | .exited 0 output errors => .ok (Text.repair output ++ Text.repair errors)
  | .exited _ _ errors => .error (.runtime (.logsFailed container (Text.trim (Text.repair errors))))
  | .timedOut => .error (.runtime (.commandTimedOut (nameOf (logsArguments container)) c.patience))
  | .notStarted fault => .error (.system fault)

/-- The log of a container, from both of its outputs. The command is not given up. -/
def logs (c : Client) (container : String) : Errand String := do
  let execution ← ExceptT.lift (execute ⟨c.program, logsArguments container, none⟩ none)
  ExceptT.mk (pure (c.logOf container execution))

/-- Runs a command in a container, and answers what it writes. -/
def exec (c : Client) (container : String) (command : List String) : Errand String :=
  c.runCommand (execArguments container command)

/-- What docker does with a call. -/
def serve (c : Client) : (call : RuntimeCall) → Program MachineCall.Answer call.Answer
  | .pull image auth => (c.pull image auth).run
  | .create spec => (c.create spec).run
  | .stop id => (c.stop id).run
  | .remove id => (c.remove id).run
  | .list pattern => (c.list pattern).run
  | .logs container => (c.logs container).run
  | .exec container command => (c.exec container command).run

end Fleet.Docker.Client
