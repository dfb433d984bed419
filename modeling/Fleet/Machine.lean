import Fleet.Call
import Fleet.Http.Message

/-!
# What a machine can do

The calls by which live services are reached: an exchange with a web service, the run of a command,
a connection to a port, and letting time pass. Clients of services are programs of these calls, so
they can be followed on any machine that answers them.
-/

namespace Fleet

/-- A command to be run. -/
structure ShellCommand where
  program : String
  arguments : List String
  /-- What the command is given to read. -/
  input : Option String := none
  deriving DecidableEq, Repr

/-- How the run of a command ended. -/
inductive Execution
  | exited (status : Nat) (output errors : List UInt8)
  /-- The command was given up. -/
  | timedOut
  | notStarted (fault : SystemFault)
  deriving DecidableEq, Repr

/-- How a connection attempt ended. -/
inductive Connection
  | made
  | failed (fault : SystemFault)
  /-- The attempt was given up. -/
  | timedOut
  deriving DecidableEq, Repr

/-- What a machine is asked to do. Exchanges, commands and connections are given up after a number
of milliseconds, if one is given. -/
inductive MachineCall
  | exchange (message : Http.Message) (patience : Nat)
  | execute (command : ShellCommand) (patience : Option Nat)
  | connect (host : String) (port : Port) (patience : Nat)
  | sleep (millis : Nat)

/-- What a machine answers. -/
abbrev MachineCall.Answer : MachineCall → Type
  | .exchange _ _ => Except TransportFault Http.Reply
  | .execute _ _ => Execution
  | .connect _ _ _ => Connection
  | .sleep _ => Unit

/-- What is done on a machine, and may fail. -/
abbrev Errand (α : Type) := Attempt MachineCall.Answer α

end Fleet
