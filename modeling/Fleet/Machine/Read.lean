import Fleet.Json.Decode
import Fleet.Json.Printer
import Fleet.Machine.Script

/-!
# Reading scripts of machines

A reply is a status with a JSON body or a text, or one of the words `drop` and `hang`. A command is
what it writes and the status it ends with, or the remark that it hangs.
-/

namespace Fleet

open Json

/-- Reads what a service does with a request. -/
def ReplyScript.read? : Reader ReplyScript
  | .string "drop" => some .drop
  | .string "hang" => some .hang
  | j => do
    let ms ← j.object?
    let status ← required "status" nat32? ms
    match lastMember "json" ms with
    | some body => pure (.reply ⟨status, body.render⟩)
    | none =>
      let text ← required "text" text? ms
      pure (.reply ⟨status, text⟩)

/-- Reads a byte. -/
def readByte? : Reader UInt8 := fun j => (natBelow? 256 j).map UInt8.ofNat

/-- Reads what a command writes, as bytes or as a text. -/
def readOutput? (ms : List (String × Json)) : Option (List UInt8) :=
  match lastMember "stdout_bytes" ms with
  | some bytes => list? readByte? bytes
  | none => (withDefault "stdout" "" text? ms).map Text.bytes

/-- Reads what a command does. -/
def CommandScript.read? (j : Json) : Option CommandScript := do
  let ms ← j.object?
  if ← withDefault "hang" false bool? ms then pure .hang
  else
    let output ← readOutput? ms
    let errors ← withDefault "stderr" "" text? ms
    let status ← withDefault "code" 0 nat32? ms
    pure (.exit status output (Text.bytes errors))

end Fleet
