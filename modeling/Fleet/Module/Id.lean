import Fleet.Failure
import Fleet.Json.Decode

/-!
# Module ids and kinds

A module has a name and a version, written together as `name-version`. Names may hold hyphens and
digits, so the reading of an id takes the shortest name that leaves a version behind it: a version
begins with a digit. `ModuleId.parse?` inverts `ModuleId.text` on ids of that form.

The kind of a module, and with it the pass that deploys it, is decided by its name.
-/

namespace Fleet

/-- The pass that deploys a module. -/
inductive ModuleKind
  /-- Internal to the platform. -/
  | management
  /-- Facing tenants. -/
  | business
  deriving DecidableEq, Repr, Inhabited

namespace ModuleKind

/-- What the names of management modules begin with. -/
def managementStem : String := "mgr-"

/-- What the names of edge modules begin with. -/
def edgeStem : String := "edge-"

/-- Whether a name begins with a stem. -/
def hasStem (stem name : String) : Bool := stem.toList.isPrefixOf name.toList

/-- The kind of the module with a name. -/
def ofName (name : String) : ModuleKind :=
  if hasStem managementStem name then .management else .business

/-- The kind in words. -/
def text : ModuleKind → String
  | .management => "management"
  | .business => "business"

/-- Reads a kind. -/
def read? : Reader ModuleKind :=
  Json.oneOf? [("management", .management), ("business", .business)]

end ModuleKind

/-- A module in one version. -/
structure ModuleId where
  name : String
  version : String
  deriving DecidableEq, Repr, Inhabited

namespace ModuleId

/-- The written form. -/
def text (id : ModuleId) : String := id.name ++ "-" ++ id.version

/-- A letter of ASCII. -/
def isLetter (c : Char) : Bool := ('a' ≤ c && c ≤ 'z') || ('A' ≤ c && c ≤ 'Z')

/-- A digit of ASCII. -/
def isDigit (c : Char) : Bool := '0' ≤ c && c ≤ '9'

/-- What may stand in a name behind its first letter. -/
def isNameChar (c : Char) : Bool := isLetter c || isDigit c || c == '_' || c == '-'

/-- What may stand in a version behind its first digit. -/
def isVersionChar (c : Char) : Bool :=
  isDigit c || isLetter c || c == '.' || c == '+' || c == '_' || c == '-'

/-- A letter, then name characters. -/
def isName : List Char → Bool
  | [] => false
  | c :: rest => isLetter c && rest.all isNameChar

/-- A digit, then version characters. -/
def isVersion : List Char → Bool
  | [] => false
  | c :: rest => isDigit c && rest.all isVersionChar

/-- What stands before and after each hyphen of a text, from the first to the last. -/
def hyphenSplits : List Char → List (List Char × List Char)
  | [] => []
  | c :: rest =>
    let later := (hyphenSplits rest).map fun (before, after) => (c :: before, after)
    if c = '-' then ([], rest) :: later else later

/-- The split with the shortest name. -/
def split? (cs : List Char) : Option (List Char × List Char) :=
  (hyphenSplits cs).find? fun (before, after) => isName before && isVersion after

/-- The id that a text writes. -/
def parse? (s : String) : Option ModuleId :=
  (split? s.toList).map fun (before, after) => ⟨String.ofList before, String.ofList after⟩

/-- The id that a text writes, or the failure that names the text. -/
def parse (s : String) : Outcome ModuleId :=
  match parse? s with
  | some id => .ok id
  | none => .error (.invalidModuleId s)

/-- Reads an id. -/
def read? (j : Json) : Option ModuleId := do
  let members ← j.object?
  let name ← Json.required "name" Json.text? members
  let version ← Json.required "version" Json.text? members
  pure { name, version }

end ModuleId

end Fleet
