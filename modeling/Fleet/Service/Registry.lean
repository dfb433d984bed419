import Fleet.Http.Client
import Fleet.Module.Listing

/-!
# Registries over the web

A registry is a number of addresses, each of which answers a listing. The listings are put behind
one another in the order of the addresses, so a later one counts where both list a module.
-/

namespace Fleet.Registry

/-- The name under which a registry fails. -/
def name : String := "registry"

/-- Fetches the listings of addresses, one after another. -/
def fetch (client : Http.Client) : List String → Errand (List ListingEntry)
  | [] => pure []
  | address :: rest => do
    let entries ← client.json name (Json.list? ListingEntry.read?)
      { method := .get, address := address }
    let later ← fetch client rest
    pure (entries ++ later)

end Fleet.Registry
