import Fleet.Http.Client

/-!
# The gateway's administration over the web

The gateway routes requests when its status can be read and, if the status tells of a database, the
database is reachable. A status that reports no success means that it does not route yet.
-/

namespace Fleet.Gateway

open Json

/-- The name under which the gateway fails. -/
def name : String := "gateway"

/-- Reads whether a database is reachable. -/
def readDatabase? (j : Json) : Option Bool := do
  let ms ← fields? ["reachable"] j
  required "reachable" bool? ms

/-- Reads a status. -/
def readStatus? (j : Json) : Option Bool := do
  let ms ← fields? ["database"] j
  let reachable ← optional "database" readDatabase? ms
  pure (reachable.getD true)

/-- Whether the gateway at an address routes requests. -/
def isReady (client : Http.Client) (address : String) : Errand Bool := do
  let reply ← client.raw { method := .get, address := Text.dropTrailing '/' address ++ "/status" }
  if reply.isSuccess then ExceptT.mk (pure (Http.Client.decode readStatus? reply))
  else pure false

end Fleet.Gateway
