import Fleet.Duration

/-!
# Failures

What can go wrong, as causes: every constructor names a situation and carries what a reader needs to
find it. `Failure.message` is the one place where failures are put into words, and `Failure.kind`
says whether a failure was found before anything was touched, came from outside, or ended a wait.
-/

namespace Fleet

/-- A host port. -/
abbrev Port := UInt16

/-- Why a description of a platform is refused. -/
inductive ConfigFault
  | unreadable
  | emptyPortRange (first stop : Port)
  | namelessProfile
  | noPollInterval
  | unknownConsortium (tenant consortium : String)
  | secondCentral (consortium : String)
  | centralWithoutConsortium (tenant : String)
  | unknownRole (user role : String)
  | absentRole (role tenant : String)
  | described (text : String)
  deriving DecidableEq, Repr

/-- The fault in words. -/
def ConfigFault.message : ConfigFault → String
  | .unreadable => "the description cannot be read"
  | .emptyPortRange first stop => s!"port range [{first}, {stop}) is empty"
  | .namelessProfile => "profile name must not be empty"
  | .noPollInterval => "saga poll interval must be positive"
  | .unknownConsortium tenant consortium =>
    s!"tenant {tenant} references unknown consortium {consortium}"
  | .secondCentral consortium => s!"consortium {consortium} has more than one central tenant"
  | .centralWithoutConsortium tenant => s!"tenant {tenant} is central but belongs to no consortium"
  | .unknownRole user role => s!"user {user} references unknown role {role}"
  | .absentRole role tenant => s!"role {role} does not exist in tenant {tenant}"
  | .described text => text

/-- What the operating system reports. -/
inductive SystemFault
  | noSuchFile
  | networkUnreachable
  | connectionRefused
  | nulInArgument
  | described (text : String)
  deriving DecidableEq, Repr

/-- The fault in words. -/
def SystemFault.message : SystemFault → String
  | .noSuchFile => "No such file or directory (os error 2)"
  | .networkUnreachable => "Network is unreachable (os error 101)"
  | .connectionRefused => "Connection refused (os error 111)"
  | .nulInArgument => "nul byte found in provided data"
  | .described text => text

/-- What goes wrong with containers. -/
inductive RuntimeFault
  | creationFailed (container : String)
  | noSuchContainer (container : String)
  | noExecOutput (container : String)
  | noRootToken (container : String)
  | portNotReady (port : Port)
  | connectTimedOut (host : String) (port : Port)
  | cannotStart (program : String) (fault : SystemFault)
  | commandTimedOut (command : String) (millis : Nat)
  | commandFailed (command : String) (status : Nat) (text : String)
  | logsFailed (container text : String)
  | described (text : String)
  deriving DecidableEq, Repr

/-- The fault in words. -/
def RuntimeFault.message : RuntimeFault → String
  | .creationFailed container => s!"failed to create container {container}"
  | .noSuchContainer container => s!"no such container: {container}"
  | .noExecOutput container => s!"no exec output for {container}"
  | .noRootToken container => s!"no root token found in the log of {container}"
  | .portNotReady port => s!"port {port} is not ready"
  | .connectTimedOut host port => s!"connect to {host}:{port} timed out"
  | .cannotStart program fault => s!"failed to spawn {program}: {fault.message}"
  | .commandTimedOut command millis => s!"docker {command} timed out after {Duration.text millis}"
  | .commandFailed command status text =>
    s!"docker {command} failed (exit status: {status}): {text}"
  | .logsFailed container text => s!"docker logs {container} failed: {text}"
  | .described text => text

/-- What goes wrong with the message broker. -/
inductive BrokerFault
  | groupDoesNotExist (group : String)
  | noRow (group : String)
  | unreadableCount (row : String)
  | missingState (row : String)
  | unscripted (group : String)
  | described (text : String)
  deriving DecidableEq, Repr

/-- The fault in words. -/
def BrokerFault.message : BrokerFault → String
  | .groupDoesNotExist group => s!"consumer group {group} does not exist"
  | .noRow group => s!"no state row for consumer group {group}"
  | .unreadableCount row => s!"unreadable member count in: {row}"
  | .missingState row => s!"missing state in: {row}"
  | .unscripted group => s!"no scripted state for consumer group {group}"
  | .described text => text

/-- How an exchange with a service breaks down. -/
inductive TransportFault
  | connect
  | timeout
  | undecodable
  | broken
  deriving DecidableEq, Repr

/-- The fault in words. -/
def TransportFault.message : TransportFault → String
  | .connect => "no connection could be made"
  | .timeout => "no answer came in time"
  | .undecodable => "the answer could not be decoded"
  | .broken => "the request could not be completed"

/-- What ends a command. -/
inductive Failure
  | config (fault : ConfigFault)
  | versionUnresolved (module : String)
  | invalidModuleId (id : String)
  | portsExhausted (first stop : Port)
  | portTaken (port : Port)
  | notADirectory (module path : String)
  | runtime (fault : RuntimeFault)
  | transport (fault : TransportFault)
  | answered (service : String) (status : Nat) (body : String)
  | broker (fault : BrokerFault)
  | notReady (modules : List String)
  | notQuiescent (group : String) (millis : Nat)
  | system (fault : SystemFault)
  | malformed (text : String)
  | internal (text : String)
  /-- A time beyond what the clock can show. It is not handed on: it breaks the program off. -/
  | clockExceeded
  deriving DecidableEq, Repr

/-- The outcome of an operation that may fail. -/
abbrev Outcome (α : Type) := Except Failure α

/-- Where a failure comes from. -/
inductive FailureKind
  | configuration
  | externalCall
  | readinessTimeout
  | sagaTimeout
  | internal
  deriving DecidableEq, Repr

/-- The kind in words. -/
def FailureKind.text : FailureKind → String
  | .configuration => "configuration"
  | .externalCall => "external call"
  | .readinessTimeout => "readiness timeout"
  | .sagaTimeout => "saga timeout"
  | .internal => "internal"

namespace Failure

/-- Where the failure comes from. -/
def kind : Failure → FailureKind
  | .config _ | .versionUnresolved _ | .invalidModuleId _ | .portsExhausted _ _ | .portTaken _
  | .notADirectory _ _ => .configuration
  | .runtime _ | .transport _ | .answered _ _ _ | .broker _ | .system _ | .malformed _ =>
    .externalCall
  | .notReady _ => .readinessTimeout
  | .notQuiescent _ _ => .sagaTimeout
  | .internal _ | .clockExceeded => .internal

/-- The failure in words. -/
def message : Failure → String
  | .config fault => s!"configuration error: {fault.message}"
  | .versionUnresolved module => s!"no version could be resolved for module {module}"
  | .invalidModuleId id => s!"invalid module id: {id}"
  | .portsExhausted first stop => s!"port range [{first}, {stop}) exhausted"
  | .portTaken port => s!"port {port} is already reserved"
  | .notADirectory module path => s!"module {module} has an invalid local path: {path}"
  | .runtime fault => s!"container runtime error: {fault.message}"
  | .transport fault => s!"HTTP error: {fault.message}"
  | .answered service status body => s!"{service} returned {status}: {body}"
  | .broker fault => s!"broker error: {fault.message}"
  | .notReady modules => s!"modules not ready: " ++ ", ".intercalate modules
  | .notQuiescent group millis =>
    s!"consumer group {group} not quiescent after {Duration.text millis}"
  | .system fault => s!"I/O error: {fault.message}"
  | .malformed text => s!"serialisation error: {text}"
  | .internal text => s!"internal error: {text}"
  | .clockExceeded => "overflow when adding duration to instant"

end Failure

end Fleet
