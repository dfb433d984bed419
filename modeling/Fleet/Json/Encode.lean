import Fleet.Json.Basic
import Fleet.Table

/-!
# Building JSON values

The counterparts of the readers: options, lists and tables of values of one kind.
-/

namespace Fleet.Json

/-- A number of 16 bits. -/
def ofWord16 (n : UInt16) : Json := ofNat n.toNat

/-- A value, or null where there is none. -/
def ofOption {α : Type} (f : α → Json) : Option α → Json
  | none => .null
  | some a => f a

/-- An array of values. -/
def ofList {α : Type} (f : α → Json) (l : List α) : Json := .array (l.map f)

/-- An object with a member for every entry. -/
def ofTable {κ α : Type} [Ord κ] (name : κ → String) (f : α → Json) (t : Table κ α) : Json :=
  .object (t.entries.map fun e => (name e.1, f e.2))

/-- An object with a member for every name. -/
def ofNamed {α : Type} (f : α → Json) (t : Table String α) : Json := ofTable id f t

end Fleet.Json
