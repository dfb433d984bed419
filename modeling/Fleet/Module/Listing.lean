import Fleet.Module.Id
import Fleet.Text.Blank

/-!
# Registry listings

A registry lists modules as ids with an install action. A listing supplies versions: for each name
that of the last entry which is not to be removed and whose id is a module id. Other entries are
passed over.
-/

namespace Fleet

/-- An entry of a registry listing. -/
structure ListingEntry where
  id : String
  /-- The install action. -/
  action : String
  deriving DecidableEq, Repr, Inhabited

namespace ListingEntry

/-- The action of an entry that names none. -/
def standardAction : String := "enable"

/-- The entry that installs a module. -/
def enable (id : String) : ListingEntry := ⟨id, standardAction⟩

/-- Whether the entry asks for the module to be removed, in letters of either case. -/
def isDisabled (e : ListingEntry) : Bool := Text.sameIgnoringCase e.action "disable"

/-- Reads an entry. -/
def read? (j : Json) : Option ListingEntry := do
  let members ← Json.fields? ["id", "action"] j
  let id ← Json.required "id" Json.text? members
  let action ← Json.withDefault "action" standardAction Json.text? members
  pure { id, action }

/-- The ids that a listing offers, in its order. -/
def offered (listing : List ListingEntry) : List ModuleId :=
  (listing.filter fun e => !e.isDisabled).filterMap fun e => ModuleId.parse? e.id

/-- The version that a listing offers for each name, the last one counting. -/
def versions (listing : List ListingEntry) : Table String String :=
  Table.ofList ((offered listing).map fun id => (id.name, id.version))

end ListingEntry

end Fleet
