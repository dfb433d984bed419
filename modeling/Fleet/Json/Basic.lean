/-!
# JSON values

Descriptions, service answers and container listings are JSON texts. A number keeps the way it was
written as far as it matters: `2` is an integer, `2.0` and `2e0` are not. An object keeps its
members in the order of the text, repeated names included; `member?` takes the last one of a name.
-/

namespace Fleet

/-- A number as it was written: `± digits · 10 ^ exponent`. -/
structure Numeral where
  negative : Bool
  digits : Nat
  exponent : Int
  /-- Written without a point and without an exponent. -/
  integral : Bool
  deriving DecidableEq, Repr, Inhabited

/-- A JSON value. -/
inductive Json
  | null
  | bool (value : Bool)
  | number (value : Numeral)
  | string (value : String)
  | array (items : List Json)
  | object (members : List (String × Json))
  deriving Repr, Inhabited

/-- An integer as a numeral. -/
def Numeral.ofInt (i : Int) : Numeral := ⟨i < 0, i.natAbs, 0, true⟩

namespace Json

/-- A natural number. -/
def ofNat (n : Nat) : Json := .number (Numeral.ofInt n)

/-- A text, or null where there is none. -/
def ofText? : Option String → Json
  | none => .null
  | some s => .string s

/-- A list of texts. -/
def ofTexts (texts : List String) : Json := .array (texts.map .string)

/-- The last value under a name. -/
def lastMember (name : String) (members : List (String × Json)) : Option Json :=
  (members.reverse.find? fun m => m.1 == name).map (·.2)

/-- The member of an object under a name. -/
def member? (name : String) : Json → Option Json
  | .object members => lastMember name members
  | _ => none

end Json

end Fleet
