import Fleet.Call
import Fleet.Text.Blank

/-!
# The table of a consumer group

The broker's command line describes a consumer group as a table for human readers, among banners and
blank lines. The row of a group begins with its name and ends with its state and the number of its
members. Between them stand columns that may themselves hold blanks, so state and number are counted
from the end.
-/

namespace Fleet.GroupTable

/-- What the output says of a group that does not exist. -/
def absence : String := "does not exist"

/-- What the state of a group says while members are being reassigned. -/
def rebalanceMark : String := "Rebalance"

/-- A number of members: digits, perhaps behind a plus sign, below `2 ^ 32`. -/
def members? (word : String) : Option Nat :=
  let digits := match word.toList with
    | '+' :: rest => rest
    | cs => cs
  if digits.isEmpty || !digits.all Char.isDigit then none
  else
    let n := digits.foldl (fun n c => n * 10 + (c.toNat - 48)) 0
    if n < UInt32.size then some n else none

/-- The first line of an output whose first word is the group's name, without blanks at its ends. -/
def row? (group output : String) : Option String :=
  ((Text.lines output).map Text.trim).find? fun line => (Text.words line).head? == some group

/-- The state that a row shows. -/
def ofRow (row : String) : Outcome GroupState :=
  match (Text.words row).reverse with
  | [] => .error (.broker (.unreadableCount row))
  | last :: before =>
    match members? last with
    | none => .error (.broker (.unreadableCount row))
    | some members =>
      match before with
      | [] => .error (.broker (.missingState row))
      | state :: _ => .ok ⟨members, Text.contains state rebalanceMark⟩

/-- The state of a group that an output shows. -/
def parse (group output : String) : Outcome GroupState :=
  if Text.contains output absence then .error (.broker (.groupDoesNotExist group))
  else match row? group output with
    | none => .error (.broker (.noRow group))
    | some row => ofRow row

/-- The command that describes a group, as it is run inside the broker's container. -/
def command (b : Config.Broker) (group : String) : List String :=
  [b.script, "--bootstrap-server", b.bootstrapServer, "--describe", "--group", group, "--state"]

/-- Describes a group by running the broker's command line. -/
def describe (b : Config.Broker) (group : String) : Attempt RuntimeCall.Answer GroupState := do
  let output ← ExceptT.mk (Program.perform (RuntimeCall.exec b.container (command b group)))
  ExceptT.mk (pure (parse group output))

end Fleet.GroupTable
