import Fleet.Container.Spec
import Fleet.Json.Decode
import Fleet.Json.Selection

/-!
# Docker's listing of containers

Every line that is not blank is a JSON object. Its labels are one text, pairs separated by commas
with an equals sign in the middle, and nothing in it is escaped. So a value is cut at its first
comma, and what has no equals sign is no label.
-/

namespace Fleet.Docker

open Json

/-- The labels of a label column: of each pair the text before the first equals sign, without blanks
at its ends, and the text behind it. The last pair of a name counts. -/
def readLabels (column : String) : Texts :=
  Table.ofList ((Text.splitAt ',' column).filterMap fun pair =>
    (Text.cut? "=" pair).map fun (key, value) => (Text.trim key, value))

/-- The members of a line that are read. -/
def columns : List String := ["ID", "Names", "Image", "State", "Labels"]

/-- Reads the members of a line. -/
def readMembers? (ms : List (String × Json)) : Option ContainerSummary := do
  let id ← required "ID" text? ms
  let name ← required "Names" text? ms
  let image ← required "Image" text? ms
  let state ← withDefault "State" "" text? ms
  let labels ← withDefault "Labels" "" text? ms
  pure ⟨id, name, image, state, readLabels labels⟩

/-- Reads a line: an object, of which other members are passed over, or an array of the columns in
their order. -/
def readLine? (line : String) : Option ContainerSummary :=
  match parseMembers? columns line, parse? line with
  | some members, _ => (fields? columns (.object members)).bind readMembers?
  | none, some (.array items) => (fields? columns (.array items)).bind readMembers?
  | none, _ => none

/-- Reads lines in their order, up to the first that is no container. -/
def readLines : List String → Outcome (List ContainerSummary)
  | [] => .ok []
  | line :: rest =>
    match readLine? line with
    | none => .error (.malformed line)
    | some c =>
      match readLines rest with
      | .ok cs => .ok (c :: cs)
      | .error e => .error e

/-- The containers of a listing. -/
def readListing (output : String) : Outcome (List ContainerSummary) :=
  readLines (((Text.lines output).map Text.trim).filter fun line => !line.isEmpty)

end Fleet.Docker
