import Fleet.Decimal.Binary
import Fleet.Json.Basic
import Fleet.Table

/-!
# Typed reading of JSON values

A `Reader α` accepts the values that stand for an `α`. Reading is strict: no conversion between
texts, numbers and truth values, integers only as integers within their range. Members of an object
come in three kinds: required ones, ones with a default, and optional ones, for which null is the
same as absence. Null is refused everywhere else.

What a service answers is read as a record (`fields?`): an object that names no field twice, or an
array of the fields in their order.
-/

namespace Fleet

/-- What a JSON value stands for, if it is accepted. -/
abbrev Reader (α : Type) := Json → Option α

namespace Json

/-- A text. -/
def text? : Reader String
  | .string s => some s
  | _ => none

/-- A truth value. -/
def bool? : Reader Bool
  | .bool b => some b
  | _ => none

/-- An integer from zero to below `limit`. -/
def natBelow? (limit : Nat) : Reader Nat
  | .number n => if n.integral && !n.negative && n.digits < limit then some n.digits else none
  | _ => none

/-- An integer of 16 bits. -/
def word16? : Reader UInt16 := fun j => (natBelow? UInt16.size j).map UInt16.ofNat

/-- An integer of 32 bits. -/
def nat32? : Reader Nat := natBelow? UInt32.size

/-- An integer of 64 bits. -/
def nat64? : Reader Nat := natBelow? UInt64.size

/-- Any number, as the nearest binary fraction. -/
def fraction? : Reader Binary64
  | .number n => Binary64.ofDecimal? n.negative n.digits n.exponent
  | _ => none

/-- An array of values of one kind. -/
def list? {α : Type} (item : Reader α) : Reader (List α)
  | .array items => items.mapM item
  | _ => none

/-- The members of an object. -/
def object? : Reader (List (String × Json))
  | .object members => some members
  | _ => none

/-- An object whose members are values of one kind; the last member of a name counts. -/
def table? {α : Type} (value : Reader α) : Reader (Table String α)
  | .object members =>
    (members.mapM fun (m : String × Json) => (value m.2).map fun v => (m.1, v)).map Table.ofList
  | _ => none

/-- One of a list of names. -/
def oneOf? {α : Type} (names : List (String × α)) : Reader α
  | .string s => (names.find? fun n => n.1 == s).map (·.2)
  | _ => none

/-! ## Members -/

/-- A member that must be there. -/
def required {α : Type} (name : String) (value : Reader α) (members : List (String × Json)) :
    Option α :=
  (lastMember name members).bind value

/-- A member that has a default. -/
def withDefault {α : Type} (name : String) (fallback : α) (value : Reader α)
    (members : List (String × Json)) : Option α :=
  match lastMember name members with
  | none => some fallback
  | some j => value j

/-- A member that may be absent or null. -/
def optional {α : Type} (name : String) (value : Reader α) (members : List (String × Json)) :
    Option (Option α) :=
  match lastMember name members with
  | none => some none
  | some .null => some none
  | some j => (value j).map some

/-- Whether the object names one of `names` more than once. -/
def repeatsAny (names : List String) (members : List (String × Json)) : Bool :=
  names.any fun name => 1 < (members.filter fun m => m.1 == name).length

/-- The fields of a record by name. An object may have other members, and in an array the last fields
may be missing. -/
def fields? (names : List String) : Reader (List (String × Json))
  | .object members => if repeatsAny names members then none else some members
  | .array items => if items.length ≤ names.length then some (names.zip items) else none
  | _ => none

/-- The fields of an object are its members. -/
theorem fields?_object_eq_some_iff {names : List String} {members fields : List (String × Json)} :
    fields? names (.object members) = some fields ↔
      repeatsAny names members = false ∧ members = fields := by
  rw [fields?]
  split
  · next h => exact iff_of_false nofun fun hnone => Bool.false_ne_true (hnone.1.symm.trans h)
  · next h => simp [h]

example : fields? ["id"] (.object [("id", .null), ("id", .null)]) = none := rfl
example : (fields? ["id", "name"] (.array [.null])).bind (required "name" text?) = none := rfl

end Json

end Fleet
