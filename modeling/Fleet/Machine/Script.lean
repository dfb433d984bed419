import Fleet.Machine

/-!
# Machines that follow a script

A scripted machine answers exchanges and commands from two lists, each call taking the next answer,
and keeps what it was asked. When the answers have run out, services fail and commands write
nothing. A connection is made where the script says that something listens; an exchange takes an
answer only then. Time passes when it is slept or waited in vain.
-/

namespace Fleet

/-- What a service does with a request. -/
inductive ReplyScript
  | reply (r : Http.Reply)
  /-- The connection is closed without an answer. -/
  | drop
  /-- No answer comes. -/
  | hang
  deriving Repr

/-- What a command does. -/
inductive CommandScript
  | exit (status : Nat) (output errors : List UInt8)
  /-- The command does not end. -/
  | hang
  deriving Repr

/-- Whether something listens on a port. -/
inductive Reach
  | listening
  | refusing
  /-- No way leads to the host. -/
  | unreachable
  deriving DecidableEq, Repr

/-- A machine that follows a script. -/
structure ScriptedMachine where
  replies : List ReplyScript := []
  commands : List CommandScript := []
  /-- What listens where. -/
  reach : String → Port → Reach := fun _ _ => .listening
  /-- Which programs are there. -/
  hasProgram : String → Bool := fun _ => true
  /-- The requests answered or dropped, in order. -/
  requests : List Http.Message := []
  /-- The commands that ended, in order. -/
  runs : List ShellCommand := []
  /-- What the clock shows, in milliseconds. -/
  clock : Nat := 0

namespace ScriptedMachine

/-- What a service answers when the script has ended. -/
def exhausted : Http.Reply := ⟨500, "script exhausted"⟩

/-- Lets time pass. -/
def wait (m : ScriptedMachine) (millis : Nat) : ScriptedMachine :=
  { m with clock := m.clock + millis }

/-- A service is sent a message. -/
def exchange (m : ScriptedMachine) (message : Http.Message) (patience : Nat) :
    Except TransportFault Http.Reply × ScriptedMachine :=
  match m.reach message.url.host message.url.port with
  | .refusing | .unreachable => (.error .connect, m)
  | .listening =>
    let heard := { m with requests := m.requests ++ [message], replies := m.replies.tail }
    match m.replies with
    | [] => (.ok exhausted, heard)
    | .reply r :: _ => (.ok r, heard)
    | .drop :: _ => (.error .broken, heard)
    | .hang :: _ => (.error .timeout, heard.wait patience)

/-- A command is run. -/
def execute (m : ScriptedMachine) (command : ShellCommand) (patience : Option Nat) :
    Execution × ScriptedMachine :=
  if m.hasProgram command.program then
    let run := { m with runs := m.runs ++ [command], commands := m.commands.tail }
    match m.commands with
    | [] => (.exited 0 [] [], run)
    | .exit status output errors :: _ => (.exited status output errors, run)
    | .hang :: rest => (.timedOut, { m with commands := rest }.wait (patience.getD 0))
  else (.notStarted .noSuchFile, m)

/-- A connection is attempted. -/
def connect (m : ScriptedMachine) (host : String) (port : Port) : Connection :=
  match m.reach host port with
  | .listening => .made
  | .refusing => .failed .connectionRefused
  | .unreachable => .failed .networkUnreachable

/-- Answers the calls of a machine. -/
def handler : Handler MachineCall.Answer ScriptedMachine
  | .exchange message patience, m => m.exchange message patience
  | .execute command patience, m => m.execute command patience
  | .connect host port _, m => (m.connect host port, m)
  | .sleep millis, m => ((), m.wait millis)

/-- Carries out an errand. -/
def carryOut {α : Type} (e : Errand α) (m : ScriptedMachine) : Outcome α × ScriptedMachine :=
  Program.run handler e.run m

end ScriptedMachine

end Fleet
