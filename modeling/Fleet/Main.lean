import Fleet.CommandLine
import Fleet.Json.Parser

/-!
# The program

Reads the arguments, the description and the environment, and prints what the command says. The
description is a JSON object. The program itself opens no connection and starts no other program, so
it carries out rehearsals; at a live site everything fails as it would on a machine without a
network.
-/

open Fleet

/-- The environment's variables. -/
def readVariables : IO (List (String × String)) := do
  try
    let bytes ← IO.FS.readBinFile "/proc/self/environ"
    let entries := Text.splitAt '\x00' (Text.repair bytes.toList)
    pure (entries.filterMap (Text.cut? "="))
  catch _ => pure []

/-- The description in a file; a file that is not there describes nothing. -/
def readDocument (file : String) : IO (Option Json) := do
  try
    pure (Json.parse? (← IO.FS.readFile file))
  catch _ => pure (some (.object []))

/-- Whether a path is a directory: it can be opened and not read. -/
def isReadAsDirectory (path : String) : IO Bool := do
  try
    let _ ← IO.FS.readBinFile path
    pure false
  catch
    | .inappropriateType .. => pure true
    | _ => pure false

/-- The paths among those of a description's modules that are directories. -/
def readDirectories (c : Config) : IO (List String) :=
  (c.modules.values.filterMap fun spec => spec.overrides.localPath).filterM isReadAsDirectory

/-- A machine that is cut off. -/
def cutOff : ScriptedMachine := { reach := fun _ _ => .unreachable, hasProgram := fun _ => false }

/-- Carries out the arguments' command. -/
def carryOut (i : Invocation) (assigned : List (String × String)) : IO Exit := do
  let loaded := match ← readDocument i.file with
    | none => .error (.config .unreadable)
    | some document => Config.load document assigned
  let directories ← match loaded with
    | .ok c => readDirectories c
    | .error _ => pure []
  let now ← IO.monoMsNow
  let site : Site := ⟨{ cutOff with clock := now }, { clock := now }⟩
  pure (CommandLine.run i loaded (fun path => directories.contains path) site).1

/-- The program. -/
def main (arguments : List String) : IO UInt32 := do
  let assigned ← readVariables
  let fallback := ((assigned.find? fun v => v.1 == "FLOTILLA_CONFIG").map (·.2)).getD
    CommandLine.standardFile
  let exit ← match CommandLine.parse? fallback arguments with
    | none => pure CommandLine.refusal
    | some i => carryOut i assigned
  exit.output.forM IO.println
  exit.errors.forM IO.eprintln
  pure exit.code.toUInt32
