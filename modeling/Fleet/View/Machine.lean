import Fleet.Json.Encode
import Fleet.Machine.Script

/-!
# Views of what a machine was asked

Requests with the headers that matter, and the commands with what they were given to read. A header
that was not sent is absent, and so are an empty body and an empty input.
-/

namespace Fleet

/-- The header of a message under a label, if it was sent. -/
def Http.Message.viewHeader (m : Http.Message) (label name : String) : List (String × Json) :=
  match m.headers.find? fun h => h.1 == name with
  | some (_, value) => [(label, .string value)]
  | none => []

/-- What a message carries. A form is shown as the text that is sent. -/
def Http.Body.view : Http.Body → List (String × Json)
  | .empty => []
  | .json value => [("body", value)]
  | .form fields => [("body", .string (Text.formEncode fields))]

/-- A message. -/
def Http.Message.view (m : Http.Message) : Json :=
  .object ([("method", .string m.method.text), ("path", .string m.url.target)] ++
    m.viewHeader "authorization" "authorization" ++ m.viewHeader "tenant" "x-okapi-tenant" ++
    m.viewHeader "okapi_token" "x-okapi-token" ++ m.viewHeader "type" "content-type" ++ m.body.view)

/-- A command. -/
def ShellCommand.view (c : ShellCommand) : Json :=
  let input := c.input.getD ""
  .object ([("args", Json.ofTexts c.arguments)] ++
    if input.isEmpty then [] else [("stdin", .string input)])

namespace ScriptedMachine

/-- The requests that a machine was sent after it had been in an earlier state. -/
def requestsSince (earlier m : ScriptedMachine) : Json :=
  Json.ofList Http.Message.view (m.requests.drop earlier.requests.length)

/-- The commands that a machine ran after it had been in an earlier state. -/
def runsSince (earlier m : ScriptedMachine) : Json :=
  Json.ofList ShellCommand.view (m.runs.drop earlier.runs.length)

end ScriptedMachine

end Fleet
